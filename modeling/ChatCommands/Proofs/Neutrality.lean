import ChatCommands.Proofs.Layering

/-!
# ChatCommands.Proofs.Neutrality

The defaults are neutral: a record that is laid over them is checked like the
record alone (`Settings.readMembers_merge_default`), although the check sees
all settings in one case and only those that are set in the other.

1. A default is read as the value that a missing member stands for.
2. It gives way to any member of its name, except that the settings of the log
   are merged one by one.
3. There the same holds again, as none of their defaults is a record.

So it makes no difference whether the settings of the environment are laid over
the defaults or checked by themselves.
-/

namespace ChatCommands

variable {members : Members}

/-- The defaults of the log's settings are neutral. -/
theorem LogSettings.read_merge_default (h : (Pairs.keys members).Nodup) :
    read (.record (Datum.merge Settings.defaultLogging members)) = read (.record members) := by
  have hget (key : String) : Pairs.get? (Datum.merge Settings.defaultLogging members) key =
      (Pairs.get? members key).or (Pairs.get? Settings.defaultLogging key) := by
    refine Datum.get?_merge_of_leaf h fun below above hbelow => ?_
    have hmem := Pairs.mem_of_get? hbelow
    simp [Settings.defaultLogging] at hmem
  have hlevel : Datum.readFieldOr (Datum.merge Settings.defaultLogging members) SettingKey.level
      Level.info (Datum.readChoice Level.byName) = _ :=
    Datum.readFieldOr_of_neutral (hget SettingKey.level) rfl
  have hfile : Datum.readFieldOr (Datum.merge Settings.defaultLogging members) SettingKey.file
      none readFile = _ := Datum.readFieldOr_of_neutral (hget SettingKey.file) rfl
  rw [read, read, hlevel, hfile]

namespace Settings

/-- The log's settings are read alike with and without the defaults beneath them, whether they are
a record, something else or nothing. -/
theorem readFieldOr_merge_default_logging (h : (Pairs.keys members).Nodup)
    (hlogging : ∀ inner, Pairs.get? members SettingKey.logging = some (.record inner) →
      (Pairs.keys inner).Nodup) :
    Datum.readFieldOr (Datum.merge Settings.default.toRecord members) SettingKey.logging
        Settings.default.logging LogSettings.read =
      Datum.readFieldOr members SettingKey.logging Settings.default.logging LogSettings.read := by
  have hbeneath := get?_beneath_logging h
  cases hget : Pairs.get? members SettingKey.logging with
  | none =>
    rw [hget] at hbeneath
    refine Datum.readFieldOr_of_neutral (d := .record defaultLogging) ?_ rfl
    rw [hbeneath, hget, Option.none_or]
  | some d =>
    rw [hget] at hbeneath
    rw [Datum.readFieldOr_of_get? hbeneath, Datum.readFieldOr_of_get? hget]
    -- A record is merged with the defaults, and anything else takes their place.
    by_cases hrecord : ∃ inner, d = .record inner
    · obtain ⟨inner, rfl⟩ := hrecord
      rw [Datum.layOver_record, LogSettings.read_merge_default (hlogging inner hget)]
    · rw [Datum.layOver_of_upper (not_exists.mp hrecord)]

/-- **The defaults are neutral**: laid beneath a record, they change neither what its check gives
nor which faults it finds. -/
theorem readMembers_merge_default (h : (Pairs.keys members).Nodup)
    (hlogging : ∀ inner, Pairs.get? members SettingKey.logging = some (.record inner) →
      (Pairs.keys inner).Nodup) :
    readMembers (Datum.merge Settings.default.toRecord members) = readMembers members := by
  have hfield {α : Type} (key : String) (d : Datum) (default : α) (read : Datum → Checked α)
      (hkey : key ≠ SettingKey.logging)
      (hd : Pairs.get? Settings.default.toRecord key = some d) (hread : read d = .ok default) :
      Datum.readFieldOr (Datum.merge Settings.default.toRecord members) key default read =
        Datum.readFieldOr members key default read := by
    refine Datum.readFieldOr_of_neutral ?_ hread
    rw [← hd]
    exact Datum.get?_merge_of_leaf h fun below _ hbelow =>
      absurd hbelow (get?_default_ne_record hkey below)
  rw [readMembers, readMembers, readFieldOr_merge_default_logging h hlogging,
    hfield SettingKey.marker _ Settings.default.marker readMarker (by decide) rfl rfl,
    hfield SettingKey.maxMacroDepth _ Settings.default.maxMacroDepth (readCount 0) (by decide) rfl
      rfl,
    hfield SettingKey.workers _ Settings.default.workers (readCount 1) (by decide) rfl rfl,
    hfield SettingKey.deniedMessage _ Settings.default.deniedMessage Datum.readText (by decide) rfl
      rfl,
    hfield SettingKey.parseErrorLead _ Settings.default.parseErrorLead Datum.readText (by decide)
      rfl rfl]

/-! ## the environment alone -/

/-- Without a file, what is loaded is what the check makes of the environment alone. -/
theorem result_load_none (env : Environment) :
    (load none env).result = env.settings.mapError .invalid := by
  have hlogging (inner : Members)
      (h : Pairs.get? env.members SettingKey.logging = some (.record inner)) :
      (Pairs.keys inner).Nodup := by
    rw [env.get?_members_logging] at h
    split at h
    · cases h
    · obtain rfl : env.loggingMembers = inner := by simpa using h
      exact env.nodup_keys_loggingMembers
  have hlayered : layered [] env = Datum.merge Settings.default.toRecord env.members := by
    rw [layered, Datum.merge_nil]
  have hload : load none env = combine [] env := rfl
  rw [hload, result_combine, hlayered,
    readMembers_merge_default env.nodup_keys_members hlogging, Environment.settings]

/-- The two ways to settings from the environment agree for every environment: they give the same
settings, or none for the same faults. -/
theorem settings_iff_load_none (env : Environment) :
    (∀ s, env.settings = .ok s ↔ (load none env).result = .ok s) ∧
    ∀ es, (env.settings = .error es ↔ (load none env).result = .error (.invalid es)) ∧
      (LoadError.invalid es).message? = some "Invalid configuration" := by
  rw [result_load_none]
  cases env.settings with
  | ok s => simp [Except.mapError, LoadError.message?]
  | error es => simp [Except.mapError, LoadError.message?]

end Settings

end ChatCommands
