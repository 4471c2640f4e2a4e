import ChatCommands.Proofs.Checks
import ChatCommands.Proofs.DistinctNames
import ChatCommands.Proofs.Overlay
import ChatCommands.Settings.Load

/-!
# ChatCommands.Proofs.Layering

The record that is checked when settings are loaded, name by name: what the
environment sets, else what the file sets, else the default
(`Settings.get?_layered`).  Only the settings of the log are a record of their
own; the checks look at nothing but the members with the names of settings
(`Settings.readMembers_congr`).

How documents are read is left open: all of this holds for any `Document.Reader`.
-/

namespace ChatCommands

/-! ## the environment -/

namespace Environment

variable {key : String}

/-- The members for which there are values. -/
def ofValues (vs : List (String × Option Datum)) : Members := vs.flatMap fun p => member? p.1 p.2

/-- Names without a value are left out; the others keep their order. -/
theorem keys_ofValues_sublist (vs : List (String × Option Datum)) :
    (Pairs.keys (ofValues vs)).Sublist (Pairs.keys vs) := by
  induction vs with
  | nil => exact List.nil_sublist _
  | cons p rest ih =>
    obtain ⟨name, value⟩ := p
    cases value with
    | none => exact ih.cons name
    | some d => exact ih.cons_cons name

/-- If no name repeats, a name has the value that it is listed with. -/
theorem get?_ofValues {vs : List (String × Option Datum)} (h : (Pairs.keys vs).Nodup)
    (key : String) : Pairs.get? (ofValues vs) key = (Pairs.get? vs key).join := by
  induction vs with
  | nil => rfl
  | cons p rest ih =>
    obtain ⟨name, value⟩ := p
    rw [Pairs.keys, List.map_cons, List.nodup_cons, ← Pairs.keys] at h
    rw [ofValues, List.flatMap_cons, Pairs.get?_append, ← ofValues, ih h.2, Pairs.get?]
    by_cases hkey : name = key
    · obtain rfl := hkey
      have hrest : Pairs.get? rest name = none :=
        Option.not_isSome_iff_eq_none.mp fun hsome => h.1 (Pairs.isSome_get?_iff.mp hsome)
      cases value <;> simp [member?, Pairs.get?, hrest]
    · cases value <;> simp [member?, Pairs.get?, hkey]

/-- A value that is made into a datum which is no record gives no record. -/
theorem map_ne_record {α : Type} {make : α → Datum} (h : ∀ a members, make a ≠ .record members)
    (value : Option α) (members : Members) : value.map make ≠ some (.record members) := by
  cases value with
  | none => exact nofun
  | some a => exact fun heq => h a members (Option.some.inj heq)

/-- What the environment says about the settings of the log. -/
def loggingValues (env : Environment) : List (String × Option Datum) :=
  [(SettingKey.level, (env.nonEmpty? levelName).map fun s => .text (levelText s)),
   (SettingKey.file, (env.nonEmpty? fileName).map .text)]

theorem loggingMembers_eq (env : Environment) :
    env.loggingMembers = ofValues env.loggingValues := by
  simp [loggingMembers, ofValues, loggingValues]

/-- What the environment says about the settings. -/
def values (env : Environment) : List (String × Option Datum) :=
  [(SettingKey.marker, (env markerName).map .text),
   (SettingKey.maxMacroDepth,
     (env.integer? maxMacroDepthName Settings.default.maxMacroDepth).map .integer),
   (SettingKey.workers, (env.integer? workersName Settings.default.workers).map .integer),
   (SettingKey.logging,
     if env.loggingMembers.isEmpty then none else some (.record env.loggingMembers))]

/-- The members that are set one after the other are those for which there is a value. -/
theorem members_eq (env : Environment) : env.members = ofValues env.values := by
  rw [members]
  split <;> simp_all [ofValues, values, member?]

theorem nodup_keys_loggingValues (env : Environment) : (Pairs.keys env.loggingValues).Nodup :=
  (by decide : [SettingKey.level, SettingKey.file].Nodup)

/-- The environment sets no setting of the log twice. -/
theorem nodup_keys_loggingMembers (env : Environment) :
    (Pairs.keys env.loggingMembers).Nodup := by
  rw [loggingMembers_eq]
  exact (keys_ofValues_sublist _).nodup env.nodup_keys_loggingValues

/-- The names of the settings that the environment can set are distinct. -/
theorem nodup_keys_values (env : Environment) : (Pairs.keys env.values).Nodup :=
  (by decide : [SettingKey.marker, SettingKey.maxMacroDepth, SettingKey.workers,
    SettingKey.logging].Nodup)

/-- The environment sets no setting twice. -/
theorem nodup_keys_members (env : Environment) : (Pairs.keys env.members).Nodup := by
  rw [members_eq]
  exact (keys_ofValues_sublist _).nodup env.nodup_keys_values

/-- What the environment sets under a name is the value listed for it. -/
theorem get?_members (env : Environment) (key : String) :
    Pairs.get? env.members key = (Pairs.get? env.values key).join := by
  rw [members_eq, get?_ofValues env.nodup_keys_values]

theorem get?_loggingMembers (env : Environment) (key : String) :
    Pairs.get? env.loggingMembers key = (Pairs.get? env.loggingValues key).join := by
  rw [loggingMembers_eq, get?_ofValues env.nodup_keys_loggingValues]

/-- No setting of the log is a record. -/
theorem get?_loggingMembers_ne_record (env : Environment) (key : String) (members : Members) :
    Pairs.get? env.loggingMembers key ≠ some (.record members) := by
  rw [get?_loggingMembers]
  intro h
  have hmem : (key, some (Datum.record members)) ∈ env.loggingValues :=
    Pairs.mem_of_get? (Option.join_eq_some_iff.mp h)
  simp only [loggingValues, List.mem_cons, Prod.mk.injEq, List.not_mem_nil, or_false] at hmem
  rcases hmem with ⟨-, h⟩ | ⟨-, h⟩ <;> exact map_ne_record nofun _ members h.symm

/-- The settings of the log are set as a record, unless none of them is set. -/
theorem get?_members_logging (env : Environment) :
    Pairs.get? env.members SettingKey.logging =
      if env.loggingMembers.isEmpty then none else some (.record env.loggingMembers) := by
  rw [get?_members]
  rfl

/-- The environment sets no other setting to a record. -/
theorem get?_members_ne_record (env : Environment) (hkey : key ≠ SettingKey.logging)
    (members : Members) : Pairs.get? env.members key ≠ some (.record members) := by
  rw [get?_members]
  intro h
  have hmem : (key, some (Datum.record members)) ∈ env.values :=
    Pairs.mem_of_get? (Option.join_eq_some_iff.mp h)
  simp only [values, List.mem_cons, Prod.mk.injEq, hkey, List.not_mem_nil, false_and,
    or_false] at hmem
  rcases hmem with ⟨-, h⟩ | ⟨-, h⟩ | ⟨-, h⟩ <;> exact map_ne_record nofun _ members h.symm

end Environment

/-! ## all sources -/

namespace Settings

variable {file : Members} {key : String}

/-- Nothing but the settings of the log is a record by default. -/
theorem get?_default_ne_record (hkey : key ≠ SettingKey.logging) (members : Members) :
    Pairs.get? Settings.default.toRecord key ≠ some (.record members) := by
  intro h
  have hmem := Pairs.mem_of_get? h
  simp [toRecord, hkey] at hmem

/-- A setting is what the environment sets, else what the file sets, else the default. -/
theorem get?_layered (hfile : (Pairs.keys file).Nodup) (env : Environment)
    (hkey : key ≠ SettingKey.logging) :
    Pairs.get? (layered file env) key =
      (Pairs.get? env.members key).or
        ((Pairs.get? file key).or (Pairs.get? Settings.default.toRecord key)) := by
  rw [layered, Datum.get?_merge_of_leaf env.nodup_keys_members, Datum.get?_merge_of_leaf hfile]
  · exact fun below above h => absurd h (get?_default_ne_record hkey below)
  · exact fun below above _ => env.get?_members_ne_record hkey above

/-- The settings of the log by default. -/
def defaultLogging : Members :=
  [(SettingKey.level, .text Level.info.name), (SettingKey.file, .null)]

/-- The default and the file, together. -/
theorem get?_beneath_logging (hfile : (Pairs.keys file).Nodup) :
    Pairs.get? (Datum.merge Settings.default.toRecord file) SettingKey.logging =
      match Pairs.get? file SettingKey.logging with
      | some d => some (Datum.layOver (some (.record defaultLogging)) d)
      | none => some (.record defaultLogging) :=
  Datum.get?_merge hfile _ _

/-- The environment above these. -/
theorem get?_above_logging (lower : Members) (env : Environment) :
    Pairs.get? (Datum.merge lower env.members) SettingKey.logging =
      if env.loggingMembers = [] then Pairs.get? lower SettingKey.logging
      else some (Datum.layOver (Pairs.get? lower SettingKey.logging)
        (.record env.loggingMembers)) := by
  rw [Datum.get?_merge env.nodup_keys_members, env.get?_members_logging]
  by_cases hempty : env.loggingMembers = []
  · simp [hempty]
  · simp [hempty]

/-- The settings of the log, if those of the file are a record or not given. -/
theorem get?_layered_logging (hfile : (Pairs.keys file).Nodup) (env : Environment)
    {members : Members}
    (h : (Pairs.get? file SettingKey.logging).getD (.record []) = .record members) :
    Pairs.get? (layered file env) SettingKey.logging =
      some (.record (Datum.merge (Datum.merge defaultLogging members) env.loggingMembers)) := by
  have hbeneath : Pairs.get? (Datum.merge Settings.default.toRecord file) SettingKey.logging =
      some (.record (Datum.merge defaultLogging members)) := by
    rw [get?_beneath_logging hfile]
    cases hget : Pairs.get? file SettingKey.logging with
    | none =>
      obtain rfl : [] = members := by simpa [hget] using h
      rw [Datum.merge_nil]
    | some d =>
      obtain rfl : d = .record members := by simpa [hget] using h
      exact congrArg some (Datum.layOver_record _ _)
  rw [layered, get?_above_logging, hbeneath]
  split
  · next hempty => rw [hempty, Datum.merge_nil]
  · rw [Datum.layOver_record]

/-- The settings of the log, each by itself. -/
theorem get?_mergedLogging {members : Members} (hmembers : (Pairs.keys members).Nodup)
    (env : Environment) (key : String) :
    Pairs.get? (Datum.merge (Datum.merge defaultLogging members) env.loggingMembers) key =
      (Pairs.get? env.loggingMembers key).or
        ((Pairs.get? members key).or (Pairs.get? defaultLogging key)) := by
  have hdefault (below : Members) : Pairs.get? defaultLogging key ≠ some (.record below) := by
    intro h
    have hmem := Pairs.mem_of_get? h
    simp [defaultLogging] at hmem
  rw [Datum.get?_merge_of_leaf env.nodup_keys_loggingMembers, Datum.get?_merge_of_leaf hmembers]
  · exact fun below above h => absurd h (hdefault below)
  · exact fun below above _ => env.get?_loggingMembers_ne_record key above

/-- Settings of the log that are no record give way to those of the environment, if there are
any. -/
theorem get?_layered_logging_of_not_record (hfile : (Pairs.keys file).Nodup) (env : Environment)
    {d : Datum} (h : Pairs.get? file SettingKey.logging = some d)
    (hd : ∀ members, d ≠ .record members) :
    Pairs.get? (layered file env) SettingKey.logging =
      some (if env.loggingMembers = [] then d else .record env.loggingMembers) := by
  have hbeneath : Pairs.get? (Datum.merge Settings.default.toRecord file) SettingKey.logging =
      some d := by
    rw [get?_beneath_logging hfile, h]
    exact congrArg some (Datum.layOver_of_upper hd)
  rw [layered, get?_above_logging, hbeneath]
  split
  · rfl
  · exact congrArg some (Datum.layOver_of_below fun members heq => hd members (Option.some.inj heq))

/-- An environment matters for a name by what it sets there. -/
theorem get?_layered_congr {env other : Environment}
    (h : Pairs.get? env.members key = Pairs.get? other.members key) (file : Members) :
    Pairs.get? (layered file env) key = Pairs.get? (layered file other) key := by
  rw [layered, layered, Datum.get?_merge env.nodup_keys_members,
    Datum.get?_merge other.nodup_keys_members, h]

/-! ## the check -/

/-- The names of the settings that are no record. -/
def plainKeys : List String :=
  [SettingKey.marker, SettingKey.maxMacroDepth, SettingKey.workers, SettingKey.deniedMessage,
   SettingKey.parseErrorLead]

/-- The check looks at nothing but the members with the names of settings. -/
theorem readMembers_congr {members others : Members}
    (hplain : ∀ key ∈ plainKeys, Pairs.get? members key = Pairs.get? others key)
    (hlogging : Datum.readFieldOr members SettingKey.logging Settings.default.logging
        LogSettings.read =
      Datum.readFieldOr others SettingKey.logging Settings.default.logging LogSettings.read) :
    readMembers members = readMembers others := by
  have hfield {α : Type} (key : String) (hkey : key ∈ plainKeys) (default : α)
      (read : Datum → Checked α) :
      Datum.readFieldOr members key default read = Datum.readFieldOr others key default read :=
    Datum.readFieldOr_congr (hplain key hkey) default read
  rw [readMembers, readMembers, hlogging, hfield SettingKey.marker (by decide),
    hfield SettingKey.maxMacroDepth (by decide), hfield SettingKey.workers (by decide),
    hfield SettingKey.deniedMessage (by decide), hfield SettingKey.parseErrorLead (by decide)]

/-! ## the outcome -/

/-- The outcome is that of checking what all sources together set. -/
theorem result_combine (file : Members) (env : Environment) :
    (combine file env).result = (readMembers (layered file env)).mapError .invalid := by
  rw [combine]
  split
  · next h =>
    rw [h]
    rfl
  · next h =>
    rw [h]
    rfl

/-- A record sets its members, the empty one none. -/
theorem documentMembers?_record (members : Members) :
    documentMembers? (.record members) = some members := by
  cases members <;> rfl

/-- What is no record sets nothing if it counts as not given, and is refused otherwise. -/
theorem documentMembers?_of_not_record {d : Datum} (h : ∀ members, d ≠ .record members) :
    documentMembers? d = if d.isGiven then none else some [] := by
  cases d with
  | record members => exact absurd rfl (h members)
  | _ => rfl

/-- The members that a document sets are not named twice. -/
theorem distinct_of_documentMembers? {d : Datum} (h : documentMembers? d = some file)
    (hd : d.Distinct) : Members.Distinct file := by
  unfold documentMembers? at h
  split at h
  · split at h
    · obtain rfl := Option.some.inj h
      exact Datum.distinct_record_iff.mp hd
    · contradiction
  · obtain rfl := Option.some.inj h
    exact Members.distinct_nil

variable {reader : Document.Reader}

/-- Nor are those that a file sets. -/
theorem distinct_of_fileMembers {f : SettingsFile} {content : String}
    (h : fileMembers reader.read f content = .ok file) : Members.Distinct file := by
  rw [fileMembers] at h
  split at h
  · split at h
    · cases h
    · next d hread =>
      split at h
      · next hmembers =>
        obtain rfl := Except.ok.inj h
        exact distinct_of_documentMembers? hmembers (reader.distinct hread)
      · cases h
  · cases h

/-- What a file sets is read without being checked. -/
theorem fileMembers_ne_invalid {f : SettingsFile} {content : String} {e : LoadError}
    (h : fileMembers reader.read f content = .error e) (es : List FieldError) :
    e ≠ .invalid es := by
  rintro rfl
  rw [fileMembers] at h
  split at h
  · split at h
    · exact nomatch Except.error.inj h
    · split at h
      · cases h
      · exact nomatch Except.error.inj h
  · exact nomatch Except.error.inj h

variable (reader)

/-- A file of a known format that is there is used for its members, or is refused. -/
theorem load_of_supported {f : SettingsFile} {content : String}
    (hsupported : SettingsFile.isSupported f.path = true) (hcontent : f.content = some content)
    (env : Environment) :
    loadWith reader.read (some f) env =
      match fileMembers reader.read f content with
      | .ok members => combine members env
      | .error e => ⟨.error e, []⟩ := by
  have hpath : f.path ≠ "" := by
    intro h
    rw [h] at hsupported
    contradiction
  have hfile : (some f).filter (fun f => f.path ≠ "") = some f := by
    simp [Option.filter, hpath]
  rw [loadWith, hfile]
  cases hmembers : fileMembers reader.read f content with
  | ok members => simp only [hcontent, hmembers]
  | error e => simp only [hcontent, hmembers]

/-- A file of a known format whose document can be read is used for its members, unless it has
none. -/
theorem load_of_read {f : SettingsFile} {content : String} {d : Datum}
    (hsupported : SettingsFile.isSupported f.path = true) (hcontent : f.content = some content)
    (hread : reader.read content = .ok d) (env : Environment) :
    loadWith reader.read (some f) env =
      match documentMembers? d with
      | some members => combine members env
      | none => ⟨.error (.notMapping (SettingsFile.normalPath f.path)), []⟩ := by
  rw [load_of_supported reader hsupported hcontent, fileMembers, if_pos hsupported, hread]
  dsimp only
  cases documentMembers? d <;> rfl

/-- What a file sets, if it can be used; nothing if none is named or it is not there. -/
def fileSets (f : Option SettingsFile) : Except LoadError Members :=
  match f.filter fun f => f.path ≠ "" with
  | none => .ok []
  | some f => (f.content.map (fileMembers reader.read f)).getD (.ok [])

/-- What is loaded is what the check makes of all that the sources set, unless the file cannot be
used. -/
theorem result_load (f : Option SettingsFile) (env : Environment) :
    (loadWith reader.read f env).result =
      (fileSets reader f).bind fun members =>
        (readMembers (layered members env)).mapError .invalid := by
  have hnone : (combine [] env).result = (readMembers (layered [] env)).mapError .invalid :=
    result_combine [] env
  rw [loadWith, fileSets]
  cases f.filter fun f => f.path ≠ "" with
  | none => exact hnone
  | some f =>
    cases hcontent : f.content with
    | none => simp [hcontent, hnone, Except.bind]
    | some content =>
      cases hmembers : fileMembers reader.read f content with
      | ok members => simp [hcontent, hmembers, result_combine, Except.bind]
      | error e => simp [hcontent, hmembers, Except.bind]

/-- A file sets nothing, or what is in it. -/
theorem fileSets_cases (f : Option SettingsFile) :
    fileSets reader f = .ok [] ∨
      ∃ file content, fileSets reader f = fileMembers reader.read file content := by
  rw [fileSets]
  cases f.filter fun f => f.path ≠ "" with
  | none => exact .inl rfl
  | some file =>
    cases hcontent : file.content with
    | none => simp [hcontent]
    | some content =>
      refine .inr ⟨file, content, ?_⟩
      simp [hcontent]

variable {reader}

/-- The members that are set by a file, which may be missing, are not named twice. -/
theorem distinct_of_fileSets {f : Option SettingsFile} (h : fileSets reader f = .ok file) :
    Members.Distinct file := by
  rcases fileSets_cases reader f with hnil | ⟨_, _, hmembers⟩
  · obtain rfl := Except.ok.inj (hnil.symm.trans h)
    exact Members.distinct_nil
  · exact distinct_of_fileMembers (hmembers.symm.trans h)

/-- Values are looked at only when all sources are together. -/
theorem fileSets_ne_invalid {f : Option SettingsFile} {e : LoadError}
    (h : fileSets reader f = .error e) (es : List FieldError) : e ≠ .invalid es := by
  rcases fileSets_cases reader f with hnil | ⟨_, _, hmembers⟩
  · exact nomatch hnil.symm.trans h
  · exact fileMembers_ne_invalid (hmembers.symm.trans h) es

/-- A file sets members, and the environment matters for these only; or it cannot be used, with
any environment. -/
theorem load_cases (reader : Document.Reader) (f : Option SettingsFile) :
    (∃ members : Members, Members.Distinct members ∧ ∀ env, (loadWith reader.read f env).result =
      (readMembers (layered members env)).mapError .invalid) ∨
    ∃ e, (∀ es, e ≠ LoadError.invalid es) ∧
      ∀ env, (loadWith reader.read f env).result = .error e := by
  cases hsets : fileSets reader f with
  | ok members =>
    refine .inl ⟨members, distinct_of_fileSets hsets, fun env => ?_⟩
    rw [result_load, hsets]
    rfl
  | error e =>
    refine .inr ⟨e, fileSets_ne_invalid hsets, fun env => ?_⟩
    rw [result_load, hsets]
    rfl

end Settings

end ChatCommands
