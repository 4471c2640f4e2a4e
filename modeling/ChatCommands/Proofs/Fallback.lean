import ChatCommands.Proofs.Layering

/-!
# ChatCommands.Proofs.Fallback

A variable for an integer that holds none.  It is reported and sets the default
of its setting, whatever the file says about it: the outcome is that with the
default in this variable.  Without the variable it is the same exactly if the
setting has its default then, or is not among the faults that are reported
(`Settings.unreadable_sets_default`).

The check of a record is taken apart around one setting
(`CountSetting.readWith`): what is read for the others depends on their own
members only, and so do their faults.
-/

namespace ChatCommands

/-! ## settings that are counts -/

/-- A setting for which a variable may hold an integer. -/
inductive CountSetting where
  /-- The bound on macros. -/
  | maxMacroDepth
  /-- The number of workers. -/
  | workers

namespace CountSetting

variable {c : CountSetting} {members others : Members} {x y : Checked Nat} {s : Settings}

/-- Its name in a record. -/
def key : CountSetting → String
  | maxMacroDepth => SettingKey.maxMacroDepth
  | workers => SettingKey.workers

/-- Its variable. -/
def variableName : CountSetting → String
  | maxMacroDepth => Environment.maxMacroDepthName
  | workers => Environment.workersName

/-- Its value among settings. -/
def value (s : Settings) : CountSetting → Nat
  | maxMacroDepth => s.maxMacroDepth
  | workers => s.workers

/-- Its value when nothing is set. -/
def default (c : CountSetting) : Nat := c.value Settings.default

/-- The least value that it can have. -/
def least : CountSetting → Nat
  | maxMacroDepth => 0
  | workers => 1

/-- Reads it from the members of a record. -/
def read (members : Members) (c : CountSetting) : Checked Nat :=
  Datum.readFieldOr members c.key c.default (Settings.readCount c.least)

/-- Settings that were loaded have its default, or it is not at fault in what went wrong. -/
def DefaultIn (c : CountSetting) (r : Except LoadError Settings) : Prop :=
  (∀ s, r = .ok s → c.value s = c.default) ∧
    ∀ es, r = .error (.invalid es) → ∀ e ∈ es, e.path.head? ≠ some (.field c.key)

/-! ## the check of the other settings -/

/-- The check of a record, with the two counts as they are given. -/
def readCounts (members : Members) (macros workers : Checked Nat) : Checked Settings :=
  .app (.app (.app (.app (.app (.app (.ok Settings.mk)
    (Datum.readFieldOr members SettingKey.marker Settings.default.marker Settings.readMarker))
    macros) workers)
    (Datum.readFieldOr members SettingKey.deniedMessage Settings.default.deniedMessage
      Datum.readText))
    (Datum.readFieldOr members SettingKey.parseErrorLead Settings.default.parseErrorLead
      Datum.readText))
    (Datum.readFieldOr members SettingKey.logging Settings.default.logging LogSettings.read)

/-- The check of a record, with one of the counts as it is given. -/
def readWith (members : Members) (x : Checked Nat) : CountSetting → Checked Settings
  | maxMacroDepth => readCounts members x (workers.read members)
  | workers => readCounts members (maxMacroDepth.read members) x

/-- The check of a record is that of one count together with that of the rest. -/
theorem readMembers_eq (members : Members) (c : CountSetting) :
    Settings.readMembers members = c.readWith members (c.read members) := by
  cases c <;> rfl

/-- Which value a count has does not matter for the other settings. -/
theorem isOk_readWith (members : Members) (m n : Nat) (c : CountSetting) :
    (c.readWith members (.ok m)).isOk = (c.readWith members (.ok n)).isOk := by
  cases c <;> simp only [readWith, readCounts, Checked.isOk_app, Checked.isOk_ok]

/-- Nor does it for their faults. -/
theorem faults_readWith (members : Members) (m n : Nat) (c : CountSetting) :
    (c.readWith members (.ok m)).faults = (c.readWith members (.ok n)).faults := by
  cases c <;> simp only [readWith, readCounts, Checked.faults_app, Checked.faults_ok]

/-- The faults of a count are among those of the record. -/
theorem mem_faults_readWith {e : FieldError} (h : e ∈ x.faults) (c : CountSetting) :
    e ∈ (c.readWith members x).faults := by
  cases c <;> simp [readWith, readCounts, Checked.faults_app, h]

theorem readCounts_eq_ok (h : readCounts members x y = .ok s) :
    x = .ok s.maxMacroDepth ∧ y = .ok s.workers := by
  simp only [readCounts, Checked.app_eq_ok_iff] at h
  obtain ⟨_, log, ⟨_, lead, ⟨_, denied, ⟨_, n, ⟨_, m, ⟨_, marker, hmk, -, rfl⟩, hm, rfl⟩, hn, rfl⟩,
    -, rfl⟩, -, rfl⟩, -, rfl⟩ := h
  obtain rfl := Except.ok.inj hmk
  exact ⟨hm, hn⟩

/-- In a record that passes its check, a count has the value that was read. -/
theorem eq_ok_value (h : c.readWith members x = .ok s) : x = .ok (c.value s) := by
  cases c with
  | maxMacroDepth => exact (readCounts_eq_ok h).1
  | workers => exact (readCounts_eq_ok h).2

/-- The names of the settings that are no counts. -/
def otherKeys : List String :=
  [SettingKey.marker, SettingKey.deniedMessage, SettingKey.parseErrorLead, SettingKey.logging]

theorem key_not_mem_otherKeys (c : CountSetting) : c.key ∉ otherKeys := by
  cases c <;> decide

/-- The settings that are no counts depend on their own members only. -/
theorem readCounts_congr
    (h : ∀ key ∈ otherKeys, Pairs.get? members key = Pairs.get? others key) :
    readCounts members x y = readCounts others x y := by
  have hfield {α : Type} (key : String) (hkey : key ∈ otherKeys) (default : α)
      (read : Datum → Checked α) :
      Datum.readFieldOr members key default read = Datum.readFieldOr others key default read :=
    Datum.readFieldOr_congr (h key hkey) default read
  rw [readCounts, readCounts, hfield SettingKey.marker (by decide),
    hfield SettingKey.deniedMessage (by decide), hfield SettingKey.parseErrorLead (by decide),
    hfield SettingKey.logging (by decide)]

/-- The other settings are read from their own members. -/
theorem readWith_congr
    (h : ∀ key ≠ c.key, Pairs.get? members key = Pairs.get? others key) (x : Checked Nat) :
    c.readWith members x = c.readWith others x := by
  have hothers : ∀ key ∈ otherKeys, Pairs.get? members key = Pairs.get? others key :=
    fun key hkey => h key fun heq => c.key_not_mem_otherKeys (heq ▸ hkey)
  cases c with
  | maxMacroDepth =>
    have hworkers : workers.read members = workers.read others :=
      Datum.readFieldOr_congr (h workers.key (by decide)) _ _
    rw [readWith, readWith, hworkers, readCounts_congr hothers]
  | workers =>
    have hmacros : maxMacroDepth.read members = maxMacroDepth.read others :=
      Datum.readFieldOr_congr (h maxMacroDepth.key (by decide)) _ _
    rw [readWith, readWith, hmacros, readCounts_congr hothers]

/-- A fault is one of the two counts, or found under the name of another setting. -/
theorem mem_faults_readCounts {e : FieldError} (h : e ∈ (readCounts members x y).faults) :
    e ∈ x.faults ∨ e ∈ y.faults ∨ ∃ key ∈ otherKeys, e.path.head? = some (.field key) := by
  simp only [readCounts, Checked.faults_app, List.mem_append] at h
  rcases h with (((((h | h) | hx) | hy) | h) | h) | h
  · contradiction
  · exact .inr (.inr ⟨SettingKey.marker, by decide, Datum.head?_of_mem_faults h⟩)
  · exact .inl hx
  · exact .inr (.inl hy)
  · exact .inr (.inr ⟨SettingKey.deniedMessage, by decide, Datum.head?_of_mem_faults h⟩)
  · exact .inr (.inr ⟨SettingKey.parseErrorLead, by decide, Datum.head?_of_mem_faults h⟩)
  · exact .inr (.inr ⟨SettingKey.logging, by decide, Datum.head?_of_mem_faults h⟩)

/-! ## the default in place of a value -/

/-- The faults of the other settings are found under other names. -/
theorem head?_ne_of_mem_faults {n : Nat} {e : FieldError}
    (h : e ∈ (c.readWith members (.ok n)).faults) : e.path.head? ≠ some (.field c.key) := by
  have hother {key : String} (hhead : e.path.head? = some (.field key)) (hne : key ≠ c.key) :
      e.path.head? ≠ some (.field c.key) := by
    rw [hhead]
    exact fun heq => hne (PathStep.field.inj (Option.some.inj heq))
  have hothers (hmem : ∃ key ∈ otherKeys, e.path.head? = some (.field key)) :
      e.path.head? ≠ some (.field c.key) := by
    obtain ⟨key, hkey, hhead⟩ := hmem
    exact hother hhead fun heq => c.key_not_mem_otherKeys (heq ▸ hkey)
  cases c with
  | maxMacroDepth =>
    rcases mem_faults_readCounts h with h | h | h
    · contradiction
    · exact hother (Datum.head?_of_mem_faults h) (by decide)
    · exact hothers h
  | workers =>
    rcases mem_faults_readCounts h with h | h | h
    · exact hother (Datum.head?_of_mem_faults h) (by decide)
    · contradiction
    · exact hothers h

/-- A count that is read as its default is never at fault. -/
theorem defaultIn_readWith (members : Members) (c : CountSetting) :
    c.DefaultIn ((c.readWith members (.ok c.default)).mapError .invalid) := by
  cases h : c.readWith members (.ok c.default) with
  | ok s =>
    refine ⟨fun t ht => ?_, nofun⟩
    obtain rfl := Except.ok.inj ht
    exact (Except.ok.inj (eq_ok_value h)).symm
  | error es =>
    refine ⟨nofun, fun more hmore e he => ?_⟩
    obtain rfl := LoadError.invalid.inj (Except.error.inj hmore)
    have hmem : e ∈ (c.readWith members (.ok c.default)).faults := by
      rw [h]
      exact he
    exact head?_ne_of_mem_faults hmem

theorem readIntegerText_ne_error_nil (s : String) : Datum.readIntegerText s ≠ .error [] := by
  rw [Datum.readIntegerText]
  split
  · split <;> exact nofun
  · exact nofun

/-- An integer that cannot be read has a fault. -/
theorem readInteger_ne_error_nil (d : Datum) : d.readInteger ≠ .error [] := by
  cases d with
  | integer i | bool b => exact nofun
  | real x =>
    rw [Datum.readInteger]
    split
    · split <;> exact nofun
    · exact nofun
  | text s => exact readIntegerText_ne_error_nil s
  | foreign x =>
    cases x with
    | date s => exact nofun
    | bytes bs =>
      rw [Datum.readInteger, Datum.readBytes]
      split
      · exact readIntegerText_ne_error_nil _
      · exact nofun
  | _ => exact nofun

/-- A count is not refused without a fault. -/
theorem readCount_ne_error_nil (least : Nat) (d : Datum) :
    Settings.readCount least d ≠ .error [] := by
  rw [Settings.readCount, Datum.readIntegerFrom]
  cases h : d.readInteger with
  | ok i =>
    dsimp only
    split <;> exact nofun
  | error es =>
    rintro ⟨⟩
    exact readInteger_ne_error_nil d h

/-- A count that is at fault has a fault of its own. -/
theorem exists_mem_faults_read {es : List FieldError} (h : c.read members = .error es) :
    ∃ e ∈ es, e.path.head? = some (.field c.key) := by
  cases es with
  | nil =>
    rw [read, Datum.readFieldOr] at h
    split at h
    · next d hget =>
      cases hcount : Settings.readCount c.least d with
      | ok n =>
        rw [hcount] at h
        contradiction
      | error es =>
        rw [hcount] at h
        obtain rfl : es = [] := List.map_eq_nil_iff.mp (Except.error.inj h)
        exact absurd hcount (readCount_ne_error_nil c.least d)
    · contradiction
  | cons e es =>
    have he : e ∈ (c.read members).faults := by
      rw [h]
      exact List.mem_cons_self
    exact ⟨e, List.mem_cons_self, Datum.head?_of_mem_faults he⟩

/-- Where the setting has its default anyway, nothing changes if that is set. -/
theorem readWith_default
    (h : c.DefaultIn ((c.readWith members (c.read members)).mapError .invalid)) :
    c.readWith members (.ok c.default) = c.readWith members (c.read members) := by
  cases hread : c.read members with
  | ok n =>
    rw [hread] at h
    cases hwith : c.readWith members (.ok n) with
    | ok s =>
      rw [hwith] at h
      have hvalue : c.value s = c.default := h.1 s rfl
      have hn : n = c.value s := Except.ok.inj (eq_ok_value hwith)
      rw [← hwith, hn, hvalue]
    | error es =>
      -- The count does not show where others fail, so the default leads to the same faults.
      rw [← hwith]
      refine Checked.eq_of_isOk_eq_false ?_ (isOk_readWith members _ _ c)
        (faults_readWith members _ _ c)
      rw [hwith]
      rfl
  | error es =>
    obtain ⟨e, he, hhead⟩ := exists_mem_faults_read hread
    have hmem : e ∈ (c.readWith members (.error es)).faults := mem_faults_readWith he c
    rw [hread, Checked.eq_error_of_mem_faults hmem] at h
    exact absurd hhead (h.2 _ rfl e hmem)

end CountSetting

/-! ## loading -/

namespace Environment

variable {env other : Environment} {c : CountSetting} {key : String}

/-- An environment with a value for a variable. -/
def holding (env : Environment) (name value : String) : Environment :=
  fun other => if other = name then some value else env other

/-- A count is what its variable holds. -/
theorem get?_members_count (env : Environment) (c : CountSetting) :
    Pairs.get? env.members c.key = (env.integer? c.variableName c.default).map .integer := by
  rw [get?_members]
  cases c <;> rfl

/-- The variable of a count sets nothing else. -/
theorem get?_members_congr (h : ∀ name ≠ c.variableName, env name = other name)
    (hkey : key ≠ c.key) : Pairs.get? env.members key = Pairs.get? other.members key := by
  have hlogging : env.loggingMembers = other.loggingMembers := by
    rw [loggingMembers, loggingMembers, nonEmpty?, nonEmpty?, nonEmpty?, nonEmpty?,
      h levelName (by cases c <;> decide), h fileName (by cases c <;> decide)]
  have hmarker : env markerName = other markerName := h markerName (by cases c <;> decide)
  rw [get?_members, get?_members, values, values, hlogging, hmarker]
  cases c with
  | maxMacroDepth =>
    have hinteger : env.integer? workersName Settings.default.workers =
        other.integer? workersName Settings.default.workers := by
      rw [integer?, h workersName (by decide), integer?]
    have hne : SettingKey.maxMacroDepth ≠ key := hkey.symm
    simp only [Pairs.get?, hinteger, if_neg hne]
  | workers =>
    have hinteger : env.integer? maxMacroDepthName Settings.default.maxMacroDepth =
        other.integer? maxMacroDepthName Settings.default.maxMacroDepth := by
      rw [integer?, h maxMacroDepthName (by decide), integer?]
    have hne : SettingKey.workers ≠ key := hkey.symm
    simp only [Pairs.get?, hinteger, if_neg hne]

end Environment

namespace Settings

variable {c : CountSetting} {env other : Environment} {members : Members} {text : String}

/-- A variable of a count that sets the default makes the check one with the default. -/
theorem readMembers_of_default (hmembers : (Pairs.keys members).Nodup)
    (h : env.integer? c.variableName c.default = some (c.default : Int)) :
    readMembers (layered members env) = c.readWith (layered members env) (.ok c.default) := by
  have hget : Pairs.get? (layered members env) c.key = some (.integer c.default) := by
    rw [get?_layered hmembers env (by cases c <;> decide), env.get?_members_count, h]
    rfl
  have hread : c.read (layered members env) = .ok c.default := by
    rw [CountSetting.read, Datum.readFieldOr_of_get? hget]
    cases c <;> rfl
  rw [CountSetting.readMembers_eq _ c, hread]

/-- Environments that differ in the variable of a count differ for this count only. -/
theorem readWith_layered_congr (h : ∀ name ≠ c.variableName, env name = other name)
    (members : Members) (x : Checked Nat) :
    c.readWith (layered members env) x = c.readWith (layered members other) x :=
  CountSetting.readWith_congr (fun _ hkey =>
    get?_layered_congr (Environment.get?_members_congr h hkey) members) x

/-- **An unreadable integer sets the default**, however documents are read: if the variable of a
count holds something that is no integer, the outcome is that with the default in the variable.  So
the count has its default in settings that are loaded, and no fault.  It is the outcome without the
variable exactly if that is so without the variable, too. -/
theorem unreadable_sets_default (reader : Document.Reader) (c : CountSetting)
    (file : Option SettingsFile) (env : Environment) (text : String)
    (hvalue : env c.variableName = some text) (htext : Numeral.readInteger? text = none) :
    (loadWith reader.read file env).result =
      (loadWith reader.read file (env.holding c.variableName (toString c.default))).result ∧
    c.DefaultIn (loadWith reader.read file env).result ∧
    ((loadWith reader.read file env).result =
        (loadWith reader.read file (env.without c.variableName)).result ↔
      c.DefaultIn (loadWith reader.read file (env.without c.variableName)).result) := by
  have hinteger : env.integer? c.variableName c.default = some (c.default : Int) := by
    rw [Environment.integer?, hvalue, Option.map_some, htext, Option.getD_none]
  have hholding : (env.holding c.variableName (toString c.default)).integer? c.variableName
      c.default = some (c.default : Int) := by
    rw [Environment.integer?, Environment.holding, if_pos rfl]
    cases c <;> decide +kernel
  have hheld (name : String) (hne : name ≠ c.variableName) :
      env name = env.holding c.variableName (toString c.default) name := (if_neg hne).symm
  have hwithout (name : String) (hne : name ≠ c.variableName) :
      env name = env.without c.variableName name := (if_neg hne).symm
  rcases load_cases reader file with ⟨members, hmembers, hload⟩ | ⟨e, he, hload⟩
  · have hcheck := readMembers_of_default hmembers.keys hinteger
    have hdefault : c.DefaultIn (loadWith reader.read file env).result := by
      rw [hload, hcheck]
      exact c.defaultIn_readWith _
    refine ⟨?_, hdefault, fun heq => heq ▸ hdefault, fun h => ?_⟩
    · rw [hload, hload, hcheck, readMembers_of_default hmembers.keys hholding,
        readWith_layered_congr hheld]
    · rw [hload, CountSetting.readMembers_eq _ c] at h
      rw [hload, hload, hcheck, readWith_layered_congr hwithout, CountSetting.readWith_default h,
        ← CountSetting.readMembers_eq]
  · have hdefault : c.DefaultIn (.error e) :=
      ⟨nofun, fun es hes => absurd (Except.error.inj hes) (he es)⟩
    rw [hload, hload, hload]
    exact ⟨rfl, hdefault, fun _ => hdefault, fun _ => rfl⟩

/-- A bound on macros in a file. -/
def boundedFile : SettingsFile where
  path := "bot.yaml"
  content := some "max_macro_depth: 2\n"

/-- A variable for it without an integer. -/
def wordEnvironment : Environment := .ofPairs [("BOTCMD_MAX_MACRO_DEPTH", "deep")]

/-- The variable does away with the bound in the file. -/
theorem fallback_of_word :
    (load (some boundedFile) wordEnvironment).result = .ok {} ∧
    (load (some boundedFile) (wordEnvironment.without Environment.maxMacroDepthName)).result =
      .ok { maxMacroDepth := 2 } ∧
    (load (some boundedFile) wordEnvironment).result ≠
      (load (some boundedFile) (wordEnvironment.without Environment.maxMacroDepthName)).result := by
  have hwithout :
      (load (some boundedFile) (wordEnvironment.without Environment.maxMacroDepthName)).result =
        .ok { maxMacroDepth := 2 } := eq_ok_of_toOption (by decide +kernel)
  obtain ⟨hheld, -, hiff⟩ := unreadable_sets_default Document.reader .maxMacroDepth
    (some boundedFile) wordEnvironment "deep" (by decide +kernel) (by decide +kernel)
  refine ⟨hheld.trans (eq_ok_of_toOption (by decide +kernel)), hwithout, fun heq => ?_⟩
  have hdefault : 2 = CountSetting.maxMacroDepth.default := (hiff.mp heq).1 _ hwithout
  exact absurd hdefault (by decide)

end Settings

end ChatCommands
