import ChatCommands.Proofs.Fallback
import ChatCommands.Proofs.Precedence

/-!
# ChatCommands.Proofs.Acceptance

What passes the check of settings.  `Settings.Sound` says which settings the
interpreter can work with, and how they come from the record that was checked:

1. the marker is one of the characters of `Marker.punctuation`, as it was given;
2. a count is the integer that was given, in whatever way, and not below its
   bound;
3. the level of the log is the one whose name was given.

A text may be given by its bytes, where documents have these.  All ways to
settings go through that check, so they give nothing else.  Where several sources
set a marker or a count, the one that comes first has to pass
(`Settings.accepted_sound`).
-/

namespace ChatCommands

/-! ## markers -/

namespace Marker

/-- The ASCII punctuation characters other than the quote mark. -/
def punctuation : List Char := "!#$%&'()*+,-./:;<=>?@[\\]^_`\x7b|\x7d~".toList

example : punctuation.length = 31 ∧ punctuation.Nodup := by decide

/-- The rules for a character leave these characters. -/
theorem charFault?_eq_none_iff {c : Char} : charFault? c = none ↔ c ∈ punctuation := by
  -- Printable characters are few enough to be gone through; no other one is in the list.
  have hascii : ∀ n : Fin 0x7f,
      charFault? (Char.ofNat n) = none ↔ Char.ofNat n ∈ punctuation := by decide +kernel
  by_cases h : c.toNat < 0x7f
  · have hc := hascii ⟨c.toNat, h⟩
    rwa [Char.ofNat_toNat] at hc
  · have hfault : charFault? c ≠ none := by
      rw [charFault?]
      grind
    have hbound : (punctuation.all fun c => c.toNat < 0x7f) = true := by decide
    have hmem : c ∉ punctuation := fun hc => h (by simpa using List.all_eq_true.mp hbound c hc)
    exact iff_of_false hfault hmem

/-- The rules for markers together leave the characters of the list, and no others. -/
theorem textFault?_eq_none_iff {s : String} :
    textFault? s = none ↔ ∃ c ∈ punctuation, s = String.singleton c := by
  constructor
  · intro h
    unfold textFault? at h
    split at h
    · contradiction
    · next c hc => exact ⟨c, charFault?_eq_none_iff.mp h, String.toList_inj.mp (by simpa using hc)⟩
    · contradiction
  · rintro ⟨c, hc, rfl⟩
    simpa [textFault?] using charFault?_eq_none_iff.mpr hc

/-- **Markers**: of all values, those pass that are the text of one such character. -/
theorem fault?_eq_none_iff {d : Datum} :
    fault? d = none ↔ ∃ c ∈ punctuation, d = .text (String.singleton c) := by
  cases d with
  | text s => simpa [fault?, Datum.text?] using textFault?_eq_none_iff
  | _ => simp [fault?, Datum.text?]

end Marker

/-! ## readers -/

namespace Datum

variable {α : Type} {members : Members} {key : String} {d : Datum}

/-- A field with a default is read as if the default had been given. -/
theorem readFieldOr_eq_ok_iff {default a : α} {read : Datum → Checked α}
    (hdefault : read d = .ok default) :
    readFieldOr members key default read = .ok a ↔
      read ((Pairs.get? members key).getD d) = .ok a := by
  rw [readFieldOr]
  cases Pairs.get? members key with
  | none => rw [Option.getD_none, hdefault]
  | some value => exact Checked.under_eq_ok_iff

/-- An integer passes if it is not below the bound. -/
theorem readIntegerFrom_eq_ok_iff {least i : Int} :
    d.readIntegerFrom least = .ok i ↔ d.readInteger = .ok i ∧ least ≤ i := by
  rw [readIntegerFrom]
  cases d.readInteger with
  | error es => simp
  | ok j =>
    by_cases h : least ≤ j
    · simp only [if_pos h, Except.ok.injEq]
      exact ⟨fun heq => ⟨heq, heq ▸ h⟩, And.left⟩
    · simp only [if_neg h, Checked.fault, Except.ok.injEq, reduceCtorEq, false_iff]
      rintro ⟨rfl, hle⟩
      exact h hle

/-- A level is read from the text of its name. -/
theorem readLevel_eq_ok {l : Level} (h : d.readChoice Level.byName = .ok l) :
    d.readText = .ok l.name := by
  rw [readChoice] at h
  split at h
  · next level hget =>
    obtain rfl := Except.ok.inj h
    obtain ⟨s, hs, hname⟩ := Option.bind_eq_some_iff.mp hget
    obtain ⟨l, -, hl⟩ := List.mem_map.mp (Pairs.mem_of_get? hname)
    obtain ⟨rfl, rfl⟩ := Prod.mk.inj hl
    exact eq_ok_of_toOption hs
  · contradiction

end Datum

namespace Settings

variable {members file : Members} {env : Environment} {s : Settings} {c : CountSetting} {d : Datum}

/-- A marker is read from its text. -/
theorem readMarker_eq_ok_iff {text : String} :
    readMarker d = .ok text ↔ d.readText = .ok text ∧ Marker.textFault? text = none := by
  rw [readMarker]
  cases hread : d.readText with
  | error es => simp
  | ok t =>
    cases hfault : Marker.textFault? t with
    | none =>
      simp only [hfault, Except.ok.injEq]
      exact ⟨fun h => ⟨h, h ▸ hfault⟩, And.left⟩
    | some f =>
      simp only [hfault, Checked.fault, Except.ok.injEq, reduceCtorEq, false_iff]
      rintro ⟨rfl, htext⟩
      exact Option.some_ne_none f (hfault.symm.trans htext)

theorem readCount_eq_ok_iff {least n : Nat} :
    readCount least d = .ok n ↔ d.readInteger = .ok (n : Int) ∧ least ≤ n := by
  rw [readCount, Checked.app_eq_ok_iff]
  constructor
  · rintro ⟨_, i, hf, hi, hn⟩
    obtain rfl := Except.ok.inj hf
    obtain ⟨hread, hle⟩ := Datum.readIntegerFrom_eq_ok_iff.mp hi
    obtain rfl : i = n := by omega
    exact ⟨hread, by omega⟩
  · rintro ⟨hread, hle⟩
    exact ⟨Int.toNat, n, rfl, Datum.readIntegerFrom_eq_ok_iff.mpr ⟨hread, by omega⟩, by omega⟩

/-! ## what passes -/

/-- Settings that the interpreter can work with, taken from a record, or from the defaults where
the record has nothing. -/
structure Sound (s : Settings) (members : Members) : Prop where
  /-- The marker is one punctuation character. -/
  marker : ∃ c ∈ Marker.punctuation, s.marker = String.singleton c
  /-- It is the text that was given. -/
  marker_given :
    ((Pairs.get? members SettingKey.marker).getD (.text default.marker)).readText = .ok s.marker
  /-- No count is below its bound. -/
  count (c : CountSetting) : c.least ≤ c.value s
  /-- A count is the integer that was given. -/
  count_given (c : CountSetting) :
    ((Pairs.get? members c.key).getD (.integer c.default)).readInteger = .ok (c.value s : Int)
  /-- The level of the log is one of five. -/
  level : s.logging.level.name ∈ ["DEBUG", "INFO", "WARNING", "ERROR", "CRITICAL"]
  /-- Its name was given, in a record for the log. -/
  level_given : ∃ log, (Pairs.get? members SettingKey.logging).getD (.record []) = .record log ∧
    ((Pairs.get? log SettingKey.level).getD (.text Level.info.name)).readText =
      .ok s.logging.level.name

theorem count_given_of_read {n : Nat} (h : c.read members = .ok n) :
    ((Pairs.get? members c.key).getD (.integer c.default)).readInteger = .ok (n : Int) ∧
      c.least ≤ n := by
  have hdefault : readCount c.least (.integer c.default) = .ok c.default := by cases c <;> rfl
  exact readCount_eq_ok_iff.mp ((Datum.readFieldOr_eq_ok_iff hdefault).mp h)

theorem level_given_of_read {log : LogSettings} (h : LogSettings.read d = .ok log) :
    ∃ inner, d = .record inner ∧
      ((Pairs.get? inner SettingKey.level).getD (.text Level.info.name)).readText =
        .ok log.level.name := by
  cases d with
  | record inner =>
    simp only [LogSettings.read, Checked.app_eq_ok_iff] at h
    obtain ⟨_, file, ⟨_, level, hmk, hlevel, rfl⟩, -, rfl⟩ := h
    obtain rfl := Except.ok.inj hmk
    have hdefault : Datum.readChoice Level.byName (.text Level.info.name) = .ok Level.info := rfl
    exact ⟨inner, rfl, Datum.readLevel_eq_ok ((Datum.readFieldOr_eq_ok_iff hdefault).mp hlevel)⟩
  | _ => contradiction

/-- The check lets sound settings pass only. -/
theorem sound_of_readMembers (h : readMembers members = .ok s) : s.Sound members := by
  have hcount (c : CountSetting) := count_given_of_read
    (CountSetting.eq_ok_value ((CountSetting.readMembers_eq members c).symm.trans h))
  -- Fields are applied one by one, so they come off in the opposite order, the log's first.
  simp only [readMembers, Checked.app_eq_ok_iff] at h
  obtain ⟨_, log, ⟨_, lead, ⟨_, denied, ⟨_, workers, ⟨_, macros, ⟨_, marker, hmk, hmarker, rfl⟩, -,
    rfl⟩, -, rfl⟩, -, rfl⟩, -, rfl⟩, hlog, rfl⟩ := h
  obtain rfl := Except.ok.inj hmk
  have hdefault : readMarker (.text default.marker) = .ok default.marker := rfl
  obtain ⟨hgiven, hpasses⟩ :=
    readMarker_eq_ok_iff.mp ((Datum.readFieldOr_eq_ok_iff hdefault).mp hmarker)
  have hlogDefault : LogSettings.read (.record []) = .ok default.logging := rfl
  exact {
    marker := Marker.textFault?_eq_none_iff.mp hpasses
    marker_given := hgiven
    count := fun c => (hcount c).2
    count_given := fun c => (hcount c).1
    level := by cases log.level <;> decide
    level_given := level_given_of_read ((Datum.readFieldOr_eq_ok_iff hlogDefault).mp hlog) }

/-! ## what does not pass -/

/-- A text that is no marker is a fault of the record. -/
theorem mem_faults_of_marker {text : String} {f : MarkerFault}
    (hget : Pairs.get? members SettingKey.marker = some d) (hread : d.readText = .ok text)
    (htext : Marker.textFault? text = some f) :
    ⟨[.field SettingKey.marker], .refused f.message⟩ ∈ (readMembers members).faults := by
  have hmarker : readMarker d = Checked.fault (.refused f.message) := by
    rw [readMarker, hread]
    simp only [htext]
  simp only [readMembers, Checked.faults_app, Datum.readFieldOr_of_get? hget, hmarker,
    List.mem_append]
  simp [Checked.under, Checked.fault, Checked.faults, FieldError.under]

/-- An integer below the bound is a fault of the record. -/
theorem mem_faults_of_count {i : Int} (hget : Pairs.get? members c.key = some d)
    (hread : d.readInteger = .ok i) (hi : i < c.least) :
    ⟨[.field c.key], .below c.least⟩ ∈ (readMembers members).faults := by
  have hcount : readCount c.least d = Checked.fault (.below c.least) := by
    rw [readCount, Datum.readIntegerFrom, hread]
    simp only [if_neg (Int.not_le.mpr hi)]
    rfl
  have hmem : ⟨[.field c.key], .below c.least⟩ ∈ (c.read members).faults := by
    rw [CountSetting.read, Datum.readFieldOr_of_get? hget, hcount]
    exact List.mem_cons_self
  rw [CountSetting.readMembers_eq _ c]
  exact CountSetting.mem_faults_readWith hmem c

/-! ## all sources -/

/-- The marker of the source that comes first. -/
def firstMarker (file : Members) (env : Environment) : Datum :=
  preferred ((env Environment.markerName).map .text) (Pairs.get? file SettingKey.marker)
    (.text default.marker)

/-- A count of the source that comes first; a variable without an integer sets the default. -/
def firstCount (file : Members) (env : Environment) (c : CountSetting) : Datum :=
  preferred ((env.integer? c.variableName c.default).map .integer) (Pairs.get? file c.key)
    (.integer c.default)

/-- The marker that is checked is that of the first source which sets one. -/
theorem get?_layered_marker (hfile : (Pairs.keys file).Nodup) (env : Environment) :
    Pairs.get? (layered file env) SettingKey.marker = some (firstMarker file env) := by
  rw [get?_layered hfile env (by decide), env.get?_members, firstMarker, some_preferred]
  rfl

/-- A count that is checked is that of the first source which sets it. -/
theorem get?_layered_count (hfile : (Pairs.keys file).Nodup) (env : Environment)
    (c : CountSetting) :
    Pairs.get? (layered file env) c.key = some (firstCount file env c) := by
  rw [get?_layered hfile env (by cases c <;> decide), env.get?_members_count, firstCount,
    some_preferred]
  cases c <;> rfl

section

variable {reader : Document.Reader} {f : Option SettingsFile}

/-- What is loaded passed the check together with what the file sets. -/
theorem sound_of_load (h : (loadWith reader.read f env).result = .ok s) :
    ∃ members, fileSets reader f = .ok members ∧ s.Sound (layered members env) := by
  rw [result_load] at h
  cases hsets : fileSets reader f with
  | error e =>
    rw [hsets] at h
    contradiction
  | ok members =>
    rw [hsets] at h
    cases hread : readMembers (layered members env) with
    | error es =>
      simp only [Except.bind, hread, Except.mapError] at h
      contradiction
    | ok t =>
      simp only [Except.bind, hread, Except.mapError] at h
      obtain rfl := Except.ok.inj h
      exact ⟨members, rfl, sound_of_readMembers hread⟩

/-- What is at fault in all that the sources set is reported. -/
theorem load_of_mem_faults {e : FieldError} (hsets : fileSets reader f = .ok file)
    (h : e ∈ (readMembers (layered file env)).faults) :
    ∃ es, (loadWith reader.read f env).result = .error (.invalid es) ∧ e ∈ es := by
  refine ⟨_, ?_, h⟩
  rw [result_load, hsets, Except.bind, Checked.eq_error_of_mem_faults h]
  rfl

end

/-- **Only sound settings are accepted**, from a value of any form, from the environment or from
all sources, however documents are read.  If the source that comes first has a text that is no
marker, or an integer below the bound of a count, then this is among the faults for which there are
no settings. -/
theorem accepted_sound :
    (∀ d, Marker.fault? d = none ↔ ∃ c ∈ Marker.punctuation, d = .text (String.singleton c)) ∧
    (∀ d s, read d = .ok s → ∃ members, d = .record members ∧ s.Sound members) ∧
    (∀ (env : Environment) s, env.settings = .ok s → s.Sound env.members) ∧
    ∀ (reader : Document.Reader) f env,
      (∀ s, (loadWith reader.read f env).result = .ok s →
        ∃ members, fileSets reader f = .ok members ∧ s.Sound (layered members env)) ∧
      ∀ members, fileSets reader f = .ok members →
        (∀ text, (firstMarker members env).readText = .ok text →
          (∀ c ∈ Marker.punctuation, text ≠ String.singleton c) →
          ∃ es fault, (loadWith reader.read f env).result = .error (.invalid es) ∧
            ⟨[.field SettingKey.marker], .refused (MarkerFault.message fault)⟩ ∈ es) ∧
        ∀ c i, (firstCount members env c).readInteger = .ok i → i < c.least →
          ∃ es, (loadWith reader.read f env).result = .error (.invalid es) ∧
            ⟨[.field c.key], .below c.least⟩ ∈ es := by
  refine ⟨fun d => Marker.fault?_eq_none_iff, fun d s h => ?_, fun env s => sound_of_readMembers,
    fun reader f env => ⟨fun s => sound_of_load, fun members hsets => ⟨?_, ?_⟩⟩⟩
  · cases d with
    | record members => exact ⟨members, rfl, sound_of_readMembers h⟩
    | _ => contradiction
  · intro text hread htext
    have hget := get?_layered_marker (distinct_of_fileSets hsets).keys env
    cases hfault : Marker.textFault? text with
    | none =>
      obtain ⟨c, hc, heq⟩ := Marker.textFault?_eq_none_iff.mp hfault
      exact absurd heq (htext c hc)
    | some fault =>
      obtain ⟨es, hload, hmem⟩ := load_of_mem_faults hsets (mem_faults_of_marker hget hread hfault)
      exact ⟨es, fault, hload, hmem⟩
  · intro c i hread hi
    have hget := get?_layered_count (distinct_of_fileSets hsets).keys env c
    exact load_of_mem_faults hsets (mem_faults_of_count hget hread hi)

/-- A record in which the counts are no integers, but are taken for some. -/
def leniently : Members :=
  [(SettingKey.marker, .text "~"), (SettingKey.maxMacroDepth, .bool false),
   (SettingKey.workers, .text " 10 "),
   (SettingKey.logging, .record [(SettingKey.level, .text "ERROR")])]

/-- Variables for all settings that have one but the file of the log. -/
def fullEnvironment : Environment :=
  .ofPairs [("BOTCMD_COMMAND_PREFIX", "?"), ("BOTCMD_MAX_MACRO_DEPTH", " 3 "),
    ("BOTCMD_WORKER_THREADS", "x"), ("BOTCMD_LOG_LEVEL", "debug ")]

/-- A file with a name for a marker and no workers, as the bytes of a zero. -/
def lowFile : SettingsFile where
  path := "bot.yml"
  content := some "command_prefix: ab\nworker_threads: !!binary MA==\n"

/-- Variables for the marker and for the bound on macros, which is too low. -/
def lowEnvironment : Environment :=
  .ofPairs [("BOTCMD_COMMAND_PREFIX", "é"), ("BOTCMD_MAX_MACRO_DEPTH", "-1")]

/-- What a file sets, if it passes a test. -/
theorem exists_fileSets (f : Option SettingsFile) (test : Members → Bool)
    (h : ((fileSets Document.reader f).toOption.map test).getD false = true) :
    ∃ members, fileSets Document.reader f = .ok members ∧ test members = true := by
  cases hsets : fileSets Document.reader f with
  | error e =>
    rw [hsets] at h
    contradiction
  | ok members =>
    rw [hsets] at h
    exact ⟨members, rfl, h⟩

/-- A truth value, a text and bytes count as integers, and the environment makes up for a file with
faults; an environment with faults comes before the file, too. -/
theorem accepted_of_lenient :
    (∃ s : Settings, read (.record leniently) = .ok s ∧ s.marker = "~" ∧ s.workers = 10 ∧
      s.Sound leniently) ∧
    (∃ s, fullEnvironment.settings = .ok s ∧ s.workers = 4 ∧ s.Sound fullEnvironment.members) ∧
    (∃ s members, (load (some lowFile) fullEnvironment).result = .ok s ∧ s.marker = "?" ∧
      s.Sound (layered members fullEnvironment)) ∧
    ∃ es fault, (load (some lowFile) lowEnvironment).result = .error (.invalid es) ∧
      ⟨[.field SettingKey.marker], .refused (MarkerFault.message fault)⟩ ∈ es ∧
      ⟨[.field SettingKey.maxMacroDepth], .below 0⟩ ∈ es ∧
      ⟨[.field SettingKey.workers], .below 1⟩ ∈ es := by
  obtain ⟨-, hread, henv, hload⟩ := accepted_sound
  refine ⟨?_, ?_, ?_, ?_⟩
  · have hs : read (.record leniently) =
        .ok { marker := "~", maxMacroDepth := 0, workers := 10, logging := { level := .error } } :=
      eq_ok_of_toOption (by decide +kernel)
    obtain ⟨members, hmembers, hsound⟩ := hread _ _ hs
    obtain rfl := Datum.record.inj hmembers
    exact ⟨_, hs, rfl, rfl, hsound⟩
  · have hs : fullEnvironment.settings =
        .ok { marker := "?", maxMacroDepth := 3, logging := { level := .debug } } :=
      eq_ok_of_toOption (by decide +kernel)
    exact ⟨_, hs, rfl, henv _ _ hs⟩
  · have hs : (load (some lowFile) fullEnvironment).result =
        .ok { marker := "?", maxMacroDepth := 3, logging := { level := .debug } } :=
      eq_ok_of_toOption (by decide +kernel)
    obtain ⟨hsound, -⟩ := hload Document.reader (some lowFile) fullEnvironment
    obtain ⟨members, -, hsound⟩ := hsound _ hs
    exact ⟨_, members, hs, rfl, hsound⟩
  · obtain ⟨members, hsets, htest⟩ := exists_fileSets (some lowFile) (fun members =>
      (firstMarker members lowEnvironment).readText.toOption = some "é" ∧
      (firstCount members lowEnvironment .maxMacroDepth).readInteger.toOption = some (-1) ∧
      (firstCount members lowEnvironment .workers).readInteger.toOption = some 0)
      (by decide +kernel)
    obtain ⟨hmarker, hmacros, hworkers⟩ := of_decide_eq_true htest
    obtain ⟨-, hfaults⟩ := hload Document.reader (some lowFile) lowEnvironment
    obtain ⟨hlowMarker, hlowCount⟩ := hfaults members hsets
    have hrefused : Marker.textFault? "é" ≠ none := by decide
    obtain ⟨es, fault, hes, hmem⟩ := hlowMarker "é" (eq_ok_of_toOption hmarker)
      fun c hc heq => hrefused (Marker.textFault?_eq_none_iff.mpr ⟨c, hc, heq⟩)
    obtain ⟨es', hes', hmem'⟩ := hlowCount _ _ (eq_ok_of_toOption hmacros) (by decide)
    obtain ⟨es'', hes'', hmem''⟩ := hlowCount _ _ (eq_ok_of_toOption hworkers) (by decide)
    obtain rfl : es = es' := by simpa [hes] using hes'
    obtain rfl : es = es'' := by simpa [hes] using hes''
    exact ⟨es, fault, hes, hmem, hmem', hmem''⟩

end Settings

end ChatCommands
