import ChatCommands.Proofs.Depth

/-!
# ChatCommands.Proofs.Precedence

The environment comes before a file and a file before the defaults.  For every
setting by itself the first of them that has a value is chosen
(`Settings.chosen`), the settings of the log among them; what is loaded is what
the check makes of the chosen values (`Settings.load_eq_chosen`).

The settings of the log in a file may be no record.  Then they are a fault, or
dropped as a whole if the environment sets the level or the file of the log.
-/

namespace ChatCommands

/-! ## what is chosen -/

/-- The value of the environment, else that of the file, else the default. -/
def preferred (env file : Option Datum) (default : Datum) : Datum := (env.or file).getD default

theorem some_preferred (env file : Option Datum) (default : Datum) :
    some (preferred env file default) = env.or (file.or (some default)) := by
  cases env <;> cases file <;> rfl

namespace Environment

/-- Whether the environment sets one of the settings of the log. -/
def setsLogging (env : Environment) : Bool :=
  (env.nonEmpty? levelName).isSome || (env.nonEmpty? fileName).isSome

/-- The integer that a variable holds, if it holds one. -/
def readable? (env : Environment) (name : String) : Option Int :=
  (env name).bind Numeral.readInteger?

theorem setsLogging_eq_false_iff {env : Environment} :
    env.setsLogging = false ↔ env.loggingMembers = [] := by
  rw [setsLogging, loggingMembers]
  cases env.nonEmpty? levelName <;> cases env.nonEmpty? fileName <;> simp [member?]

theorem integer?_eq_readable? {env : Environment} {name : String}
    (h : ∀ s, env name = some s → (Numeral.readInteger? s).isSome) (default : Nat) :
    env.integer? name default = env.readable? name := by
  rw [integer?, readable?]
  cases hvalue : env name with
  | none => rfl
  | some s =>
    obtain ⟨i, hi⟩ := Option.isSome_iff_exists.mp (h s hvalue)
    simp [hi]

end Environment

namespace Settings

open Environment

/-- The settings of the log, each chosen by itself. -/
def chosenLogging (file : Members) (env : Environment) : Members :=
  [(SettingKey.level, preferred ((env.nonEmpty? levelName).map fun s => .text (levelText s))
     (Pairs.get? file SettingKey.level) (.text Level.info.name)),
   (SettingKey.file, preferred ((env.nonEmpty? fileName).map .text)
     (Pairs.get? file SettingKey.file) .null)]

/-- The settings of the log in place of those of the file, which may be no record. -/
def chosenLog (file : Option Datum) (env : Environment) : Datum :=
  match file with
  | none => .record (chosenLogging [] env)
  | some (.record members) => .record (chosenLogging members env)
  | some other => if env.setsLogging then .record (chosenLogging [] env) else other

/-- All settings, each chosen by itself. -/
def chosen (file : Members) (env : Environment) : Members :=
  [(SettingKey.marker, preferred ((env markerName).map .text)
     (Pairs.get? file SettingKey.marker) (.text Settings.default.marker)),
   (SettingKey.maxMacroDepth, preferred ((env.readable? maxMacroDepthName).map .integer)
     (Pairs.get? file SettingKey.maxMacroDepth) (.integer Settings.default.maxMacroDepth)),
   (SettingKey.workers, preferred ((env.readable? workersName).map .integer)
     (Pairs.get? file SettingKey.workers) (.integer Settings.default.workers)),
   (SettingKey.deniedMessage, preferred none
     (Pairs.get? file SettingKey.deniedMessage) (.text Settings.default.deniedMessage)),
   (SettingKey.parseErrorLead, preferred none
     (Pairs.get? file SettingKey.parseErrorLead) (.text Settings.default.parseErrorLead)),
   (SettingKey.logging, chosenLog (Pairs.get? file SettingKey.logging) env)]

/-! ## it is what is checked -/

variable {file members : Members} {env : Environment}

/-- The settings that are no record. -/
theorem get?_layered_eq_chosen (hfile : (Pairs.keys file).Nodup)
    (hmacros : ∀ s, env maxMacroDepthName = some s → (Numeral.readInteger? s).isSome)
    (hworkers : ∀ s, env workersName = some s → (Numeral.readInteger? s).isSome) :
    ∀ key ∈ plainKeys, Pairs.get? (layered file env) key = Pairs.get? (chosen file env) key := by
  intro key hkey
  have hne : key ≠ SettingKey.logging := by
    rintro rfl
    exact absurd hkey (by decide)
  rw [get?_layered hfile env hne, env.get?_members, values, integer?_eq_readable? hmacros,
    integer?_eq_readable? hworkers]
  simp only [plainKeys, List.mem_cons, List.not_mem_nil, or_false] at hkey
  rcases hkey with rfl | rfl | rfl | rfl | rfl <;> exact (some_preferred _ _ _).symm

/-- The settings of the log, where those of the file are a record. -/
theorem read_mergedLogging (hmembers : (Pairs.keys members).Nodup) (env : Environment) :
    LogSettings.read
        (.record (Datum.merge (Datum.merge defaultLogging members) env.loggingMembers)) =
      LogSettings.read (.record (chosenLogging members env)) := by
  have hget : ∀ key ∈ [SettingKey.level, SettingKey.file],
      Pairs.get? (Datum.merge (Datum.merge defaultLogging members) env.loggingMembers) key =
        Pairs.get? (chosenLogging members env) key := by
    intro key hkey
    rw [get?_mergedLogging hmembers, get?_loggingMembers]
    simp only [List.mem_cons, List.not_mem_nil, or_false] at hkey
    rcases hkey with rfl | rfl <;> exact (some_preferred _ _ _).symm
  rw [LogSettings.read, LogSettings.read,
    Datum.readFieldOr_congr (hget SettingKey.level (by decide)),
    Datum.readFieldOr_congr (hget SettingKey.file (by decide))]

/-- The settings of the log, where the file has none that count. -/
theorem read_loggingMembers (env : Environment) :
    LogSettings.read (.record env.loggingMembers) =
      LogSettings.read (.record (chosenLogging [] env)) := by
  have hlevel : Datum.readFieldOr env.loggingMembers SettingKey.level Level.info
        (Datum.readChoice Level.byName) =
      Datum.readFieldOr (chosenLogging [] env) SettingKey.level Level.info
        (Datum.readChoice Level.byName) := by
    refine Eq.symm (Datum.readFieldOr_of_neutral (d := .text Level.info.name) ?_ rfl)
    rw [env.get?_loggingMembers]
    exact some_preferred _ _ _
  have hfile : Datum.readFieldOr env.loggingMembers SettingKey.file none LogSettings.readFile =
      Datum.readFieldOr (chosenLogging [] env) SettingKey.file none LogSettings.readFile := by
    refine Eq.symm (Datum.readFieldOr_of_neutral (d := .null) ?_ rfl)
    rw [env.get?_loggingMembers]
    exact some_preferred _ _ _
  rw [LogSettings.read, LogSettings.read, hlevel, hfile]

theorem chosenLog_of_not_record {d : Datum} (h : ∀ members, d ≠ .record members)
    (env : Environment) :
    chosenLog (some d) env = if env.setsLogging then .record (chosenLogging [] env) else d := by
  cases d with
  | record members => exact absurd rfl (h members)
  | _ => rfl

/-- The settings of the log are checked like the chosen ones. -/
theorem exists_layered_logging (hfile : file.Distinct) (env : Environment) :
    ∃ d, Pairs.get? (layered file env) SettingKey.logging = some d ∧
      LogSettings.read d =
        LogSettings.read (chosenLog (Pairs.get? file SettingKey.logging) env) := by
  cases hget : Pairs.get? file SettingKey.logging with
  | none =>
    have hnone : (Pairs.get? file SettingKey.logging).getD (.record []) = .record [] := by
      rw [hget, Option.getD_none]
    exact ⟨_, get?_layered_logging hfile.keys env hnone,
      read_mergedLogging Members.distinct_nil.keys env⟩
  | some d =>
    by_cases hrecord : ∃ members, d = .record members
    · obtain ⟨members, rfl⟩ := hrecord
      have hmembers : Members.Distinct members :=
        Datum.distinct_record_iff.mp (hfile.values _ (Pairs.mem_of_get? hget))
      have hsome : (Pairs.get? file SettingKey.logging).getD (.record []) = .record members := by
        rw [hget, Option.getD_some]
      exact ⟨_, get?_layered_logging hfile.keys env hsome, read_mergedLogging hmembers.keys env⟩
    -- Here the two records differ: the chosen one has the defaults that the other leaves out.
    · have hd := not_exists.mp hrecord
      refine ⟨_, get?_layered_logging_of_not_record hfile.keys env hget hd, ?_⟩
      rw [chosenLog_of_not_record hd]
      cases hsets : env.setsLogging with
      | false => rw [if_pos (setsLogging_eq_false_iff.mp hsets), if_neg Bool.false_ne_true]
      | true =>
        have hne : env.loggingMembers ≠ [] := fun h =>
          Bool.false_ne_true ((setsLogging_eq_false_iff.mpr h).symm.trans hsets)
        rw [if_neg hne, if_pos rfl]
        exact read_loggingMembers env

/-- What all sources together set is checked like what is chosen. -/
theorem readMembers_layered (hfile : file.Distinct)
    (hmacros : ∀ s, env maxMacroDepthName = some s → (Numeral.readInteger? s).isSome)
    (hworkers : ∀ s, env workersName = some s → (Numeral.readInteger? s).isSome) :
    readMembers (layered file env) = readMembers (chosen file env) := by
  refine readMembers_congr (get?_layered_eq_chosen hfile.keys hmacros hworkers) ?_
  have hchosen : Pairs.get? (chosen file env) SettingKey.logging =
      some (chosenLog (Pairs.get? file SettingKey.logging) env) := rfl
  obtain ⟨d, hget, hread⟩ := exists_layered_logging hfile env
  rw [Datum.readFieldOr_of_get? hget, Datum.readFieldOr_of_get? hchosen, hread]

/-- Settings of the log that are no record are a fault. -/
theorem mem_faults_of_not_record {d : Datum}
    (hget : Pairs.get? members SettingKey.logging = some d) (hd : ∀ inner, d ≠ .record inner) :
    ⟨[.field SettingKey.logging], .notRecord LogSettings.sort⟩ ∈ (readMembers members).faults := by
  have hread : LogSettings.read d = Checked.fault (.notRecord LogSettings.sort) := by
    cases d with
    | record inner => exact absurd rfl (hd inner)
    | _ => rfl
  rw [readMembers, Checked.faults_app, Datum.readFieldOr_of_get? hget, hread]
  exact List.mem_append_right _ List.mem_cons_self

/-! ## loading -/

/-- A file that holds a record sets its members. -/
theorem load_of_record {reader : Document.Reader} {file : SettingsFile} {content : String}
    {members : Members} (hsupported : SettingsFile.isSupported file.path = true)
    (hcontent : file.content = some content)
    (hread : reader.read content = .ok (.record members)) (env : Environment) :
    loadWith reader.read (some file) env = combine members env := by
  rw [load_of_read reader hsupported hcontent hread, documentMembers?_record]

/-- **Precedence**, however documents are read: let a file hold a record, of any members, and let
the variables for integers hold integers if they are there.  What is loaded is what the check makes
of the record in which every setting is chosen by itself, or the faults that it finds there.
Settings of the log in the file that are no record are one of these faults unless the environment
sets any of its own.  What is nested more deeply than the settings of the log makes no difference,
so a record that is mentioned within itself counts like any other. -/
theorem load_eq_chosen (reader : Document.Reader) (file : SettingsFile) (content : String)
    (members : Members) (env : Environment)
    (hsupported : SettingsFile.isSupported file.path = true)
    (hcontent : file.content = some content)
    (hread : reader.read content = .ok (.record members))
    (hmacros : ∀ s, env maxMacroDepthName = some s → (Numeral.readInteger? s).isSome)
    (hworkers : ∀ s, env workersName = some s → (Numeral.readInteger? s).isSome) :
    (loadWith reader.read (some file) env).result =
      (readMembers (chosen members env)).mapError .invalid ∧
    (∀ d, Pairs.get? members SettingKey.logging = some d → (∀ inner, d ≠ .record inner) →
      env.setsLogging = false →
      ∃ es, (loadWith reader.read (some file) env).result = .error (.invalid es) ∧
        ⟨[.field SettingKey.logging], .notRecord LogSettings.sort⟩ ∈ es) ∧
    ∀ other : String → Except Document.Fault Datum,
      (other content).map (Datum.upTo 2) = .ok (Datum.upTo 2 (.record members)) →
      loadWith other (some file) env = loadWith reader.read (some file) env := by
  have hmembers : members.Distinct := Datum.distinct_record_iff.mp (reader.distinct hread)
  have hresult : (loadWith reader.read (some file) env).result =
      (readMembers (chosen members env)).mapError .invalid := by
    rw [load_of_record hsupported hcontent hread, result_combine,
      readMembers_layered hmembers hmacros hworkers]
  refine ⟨hresult, fun d hget hd hsets => ?_, fun other hother => ?_⟩
  · have hchosen : Pairs.get? (chosen members env) SettingKey.logging = some d := by
      have hlog : chosenLog (Pairs.get? members SettingKey.logging) env = d := by
        rw [hget, chosenLog_of_not_record hd, hsets, if_neg Bool.false_ne_true]
      exact congrArg some hlog
    have hfault := mem_faults_of_not_record hchosen hd
    rw [hresult, Checked.eq_error_of_mem_faults hfault]
    exact ⟨_, rfl, hfault⟩
  -- The file holds no other text, so the two ways have to agree on this one only.
  · refine loadWith_congr env fun text htext => ?_
    obtain rfl := Option.some.inj (hcontent.symm.trans htext)
    rw [hother, hread]
    rfl

/-- Values of a file that do not fit their settings. -/
def clashingContent : String :=
  "logging:\n  level: 7\n  log_file: a.log\nmax_macro_depth: [1]\nlevel: 3\n"

/-- Variables that are set in place of them. -/
def clashingEnvironment : Environment :=
  .ofPairs [("BOTCMD_LOG_LEVEL", " debug\n"), ("BOTCMD_MAX_MACRO_DEPTH", " +1_0 ")]

/-- A number for the settings of the log. -/
def numberContent : String := "logging: 7\nworker_threads: 2\n"

/-- A variable that is set in place of the number. -/
def fileEnvironment : Environment := .ofPairs [("BOTCMD_LOG_FILE", "b.log")]

/-- A record that is a member of itself. -/
def loopContent : String := "&a \x7blevel: DEBUG, logging: *a\x7d\n"

/-- A document that holds a record which passes a test. -/
theorem exists_members (content : String) (test : Members → Bool)
    (h : (match Document.read content with
      | .ok (.record members) => test members
      | _ => false) = true) :
    ∃ members, Document.read content = .ok (.record members) ∧ test members = true := by
  split at h
  · next members hread => exact ⟨members, hread, h⟩
  · contradiction

/-- The document of a file from which settings come, by what is chosen. -/
theorem exists_chosen (content : String) (env : Environment) (s : Settings)
    (h : (match Document.read content with
      | .ok (.record members) => decide ((readMembers (chosen members env)).toOption = some s)
      | _ => false) = true) :
    ∃ members, Document.read content = .ok (.record members) ∧
      readMembers (chosen members env) = .ok s := by
  obtain ⟨members, hread, htest⟩ := exists_members content
    (fun members => decide ((readMembers (chosen members env)).toOption = some s)) h
  exact ⟨members, hread, eq_ok_of_toOption (of_decide_eq_true htest)⟩

/-- Whether the settings of the log are a number. -/
def hasNumber (members : Members) : Bool :=
  match Pairs.get? members SettingKey.logging with
  | some (.integer _) => true
  | _ => false

/-- The environment takes the place of what does not fit, the level of the log apart from its
file; a number for the settings of the log is dropped if there is a file for it, and a fault
otherwise.  A record that holds itself as the settings of the log has them. -/
theorem precedence_of_clashing :
    (load (some ⟨"etc/bot.YML", some clashingContent⟩) clashingEnvironment).result =
      .ok { maxMacroDepth := 10, logging := { level := .debug, file := some "a.log" } } ∧
    (load (some ⟨"bot.yaml", some numberContent⟩) fileEnvironment).result =
      .ok { workers := 2, logging := { file := some "b.log" } } ∧
    (∃ es, (load (some ⟨"bot.yaml", some numberContent⟩) .empty).result = .error (.invalid es) ∧
      ⟨[.field SettingKey.logging], .notRecord LogSettings.sort⟩ ∈ es) ∧
    (load (some ⟨"bot.yaml", some loopContent⟩) .empty).result =
      .ok { logging := { level := .debug } } := by
  have habsent {env : Environment} {name : String} (h : env name = none) (s : String)
      (hs : env name = some s) : (Numeral.readInteger? s).isSome :=
    absurd (h.symm.trans hs) nofun
  refine ⟨?_, ?_, ?_, ?_⟩
  · obtain ⟨members, hread, hchosen⟩ := exists_chosen clashingContent clashingEnvironment
      { maxMacroDepth := 10, logging := { level := .debug, file := some "a.log" } }
      (by decide +kernel)
    have hmacros (s : String) (hs : clashingEnvironment maxMacroDepthName = some s) :
        (Numeral.readInteger? s).isSome := by
      have hvalue : clashingEnvironment maxMacroDepthName = some " +1_0 " := by decide +kernel
      obtain rfl := Option.some.inj (hvalue.symm.trans hs)
      decide +kernel
    obtain ⟨hresult, -⟩ := load_eq_chosen Document.reader ⟨"etc/bot.YML", some clashingContent⟩
      clashingContent members clashingEnvironment (by decide +kernel) rfl hread hmacros
      (habsent (by decide +kernel))
    exact hresult.trans (congrArg _ hchosen)
  · obtain ⟨members, hread, hchosen⟩ := exists_chosen numberContent fileEnvironment
      { workers := 2, logging := { file := some "b.log" } } (by decide +kernel)
    obtain ⟨hresult, -⟩ := load_eq_chosen Document.reader ⟨"bot.yaml", some numberContent⟩
      numberContent members fileEnvironment (by decide +kernel) rfl hread
      (habsent (by decide +kernel)) (habsent (by decide +kernel))
    exact hresult.trans (congrArg _ hchosen)
  · obtain ⟨members, hread, htest⟩ := exists_members numberContent hasNumber (by decide +kernel)
    obtain ⟨-, hfault, -⟩ := load_eq_chosen Document.reader ⟨"bot.yaml", some numberContent⟩
      numberContent members .empty (by decide +kernel) rfl hread (habsent rfl) (habsent rfl)
    rw [hasNumber] at htest
    split at htest
    · next i hget => exact hfault (.integer i) hget nofun rfl
    · exact absurd htest Bool.false_ne_true
  · obtain ⟨members, hread, hchosen⟩ := exists_chosen loopContent .empty
      { logging := { level := .debug } } (by decide +kernel)
    obtain ⟨hresult, -⟩ := load_eq_chosen Document.reader ⟨"bot.yaml", some loopContent⟩
      loopContent members .empty (by decide +kernel) rfl hread (habsent rfl) (habsent rfl)
    exact hresult.trans (congrArg _ hchosen)

end Settings

end ChatCommands
