import ChatCommands.Proofs.Checks
import ChatCommands.Proofs.Layering

/-!
# ChatCommands.Proofs.FileOutcome

What becomes of a settings file that is there and has a known format, by its
document:

1. A document that cannot be read is the outcome, whatever the environment sets.
   This is the only failure that is no error of setting up.
2. A record is laid over the defaults, and the check of all sources together
   decides.
3. Any other document is refused as it is no record, unless it counts as none
   (`Datum.CountsAsNone`): null, false, zero, no bytes, and the empty text, list
   or set.  These are the same as no file.

This does not depend on how documents are read, but for which of them can be.
-/

namespace ChatCommands

/-- The values that are no record and count as no document. -/
inductive Datum.CountsAsNone : Datum → Prop
  /-- No value. -/
  | null : CountsAsNone .null
  /-- The truth value false. -/
  | no : CountsAsNone (.bool false)
  /-- The integer zero. -/
  | zero : CountsAsNone (.integer 0)
  /-- One of the two floating-point zeros. -/
  | realZero {x : Binary64} (h : x.isZero = true) : CountsAsNone (.real x)
  /-- The empty text. -/
  | emptyText : CountsAsNone (.text "")
  /-- No bytes. -/
  | noBytes : CountsAsNone (.foreign (.bytes []))
  /-- The empty list; the empty set is this list, too. -/
  | emptyList : CountsAsNone (.list [])

/-- Of the values that are no record, those count that are given. -/
theorem Datum.countsAsNone_iff {d : Datum} (h : ∀ members, d ≠ .record members) :
    d.CountsAsNone ↔ d.isGiven = false := by
  constructor
  · intro hnone
    cases hnone with
    | realZero hzero => simp [isGiven, hzero]
    | _ => rfl
  · intro hgiven
    cases d with
    | null => exact .null
    | bool b =>
      obtain rfl : b = false := hgiven
      exact .no
    | integer i =>
      obtain rfl : i = 0 := by simpa [isGiven] using hgiven
      exact .zero
    | real x => exact .realZero (by simpa [isGiven] using hgiven)
    | text s =>
      obtain rfl : s = "" := by simpa [isGiven] using hgiven
      exact .emptyText
    | foreign x =>
      cases x with
      | date s => contradiction
      | bytes bs =>
        obtain rfl : bs = [] := by simpa [isGiven] using hgiven
        exact .noBytes
    | list items =>
      obtain rfl : items = [] := by simpa [isGiven] using hgiven
      exact .emptyList
    | record members => exact absurd rfl (h members)

namespace Settings

variable {reader : Document.Reader} {file : SettingsFile} {content : String} {members : Members}
  {d : Datum} {fault : Document.Fault} {env : Environment}

/-- The sources fail together by an error of setting up. -/
theorem isConfiguration_of_combine {e : LoadError} (h : (combine members env).result = .error e) :
    e.isConfiguration = true := by
  rw [result_combine] at h
  cases hread : readMembers (layered members env) with
  | ok s =>
    rw [hread] at h
    cases h
  | error es =>
    rw [hread] at h
    obtain rfl := Except.error.inj h
    rfl

/-! ## by the document -/

section

variable (hsupported : SettingsFile.isSupported file.path = true)
  (hcontent : file.content = some content)

include hsupported hcontent

/-- A file whose document cannot be read. -/
theorem load_of_fault (hread : reader.read content = .error fault) (env : Environment) :
    loadWith reader.read (some file) env = ⟨.error (.document fault), []⟩ := by
  rw [load_of_supported reader hsupported hcontent, fileMembers, if_pos hsupported, hread]

/-- A readable document leads to settings or to an error of setting up. -/
theorem isConfiguration_of_read {e : LoadError} (hread : reader.read content = .ok d)
    (h : (loadWith reader.read (some file) env).result = .error e) :
    e.isConfiguration = true := by
  rw [load_of_read reader hsupported hcontent hread] at h
  split at h
  · exact isConfiguration_of_combine h
  · obtain rfl := Except.error.inj h
    rfl

end

/-- **Outcomes of a file**, however documents are read: let a file of a known format be there.  If
loading fails, it does so by an error of setting up exactly if the document can be read; a document
that cannot be read always is the outcome itself, and nothing is logged.  A document that can be
read and is no record leads to the outcome without a file if it counts as none, and is refused
otherwise. -/
theorem load_by_document (reader : Document.Reader) (file : SettingsFile) (content : String)
    (env : Environment) (hsupported : SettingsFile.isSupported file.path = true)
    (hcontent : file.content = some content) :
    (∀ e, (loadWith reader.read (some file) env).result = .error e →
      (e.isConfiguration = true ↔ ∃ d, reader.read content = .ok d)) ∧
    (∀ fault, reader.read content = .error fault →
      loadWith reader.read (some file) env = ⟨.error (.document fault), []⟩) ∧
    ∀ d, reader.read content = .ok d → (∀ members, d ≠ .record members) →
      (d.CountsAsNone → loadWith reader.read (some file) env = loadWith reader.read none env) ∧
      (¬d.CountsAsNone → loadWith reader.read (some file) env =
        ⟨.error (.notMapping (SettingsFile.normalPath file.path)), []⟩) := by
  refine ⟨fun e h => ⟨fun hconfiguration => ?_, fun hread => ?_⟩,
    fun fault hread => load_of_fault hsupported hcontent hread env, fun d hread hrecord => ?_⟩
  · cases hread : reader.read content with
    | ok d => exact ⟨d, rfl⟩
    | error fault =>
      rw [load_of_fault hsupported hcontent hread] at h
      obtain rfl := Except.error.inj h
      exact absurd hconfiguration Bool.false_ne_true
  · obtain ⟨d, hread⟩ := hread
    exact isConfiguration_of_read hsupported hcontent hread h
  · rw [load_of_read reader hsupported hcontent hread, documentMembers?_of_not_record hrecord,
      Datum.countsAsNone_iff hrecord]
    constructor
    · intro hgiven
      rw [hgiven]
      rfl
    · intro hgiven
      rw [Bool.not_eq_false] at hgiven
      rw [hgiven]
      rfl

/-- A document that holds a list which passes a test. -/
theorem exists_items (content : String) (test : List Datum → Bool)
    (h : (match Document.read content with
      | .ok (.list items) => test items
      | _ => false) = true) :
    ∃ items, Document.read content = .ok (.list items) ∧ test items = true := by
  split at h
  · next items hread => exact ⟨items, hread, h⟩
  · contradiction

/-- A document that cannot be read has a fault. -/
theorem exists_fault (content : String) (h : (Document.read content).isOk = false) :
    ∃ fault, Document.read content = .error fault := by
  cases hread : Document.read content with
  | ok d =>
    rw [hread] at h
    exact absurd h Bool.true_eq_false.mp
  | error fault => exact ⟨fault, rfl⟩

/-- A file that holds a text. -/
def fileOf (content : String) : SettingsFile := ⟨"bot.yaml", some content⟩

/-- A list that is not closed leaves as it is, an empty one counts for nothing, and a set that is
not empty is refused. -/
theorem outcomes_of_lists :
    (∃ fault, load (some (fileOf "a: [1, 2\n")) .empty = ⟨.error (.document fault), []⟩ ∧
      (LoadError.document fault).isConfiguration = false) ∧
    (load (some (fileOf "[]\n")) .empty).result = .ok {} ∧
    load (some (fileOf "!!set \x7bone, two\x7d\n")) .empty =
      ⟨.error (.notMapping "bot.yaml"), []⟩ := by
  have hsupported : SettingsFile.isSupported "bot.yaml" = true := by decide +kernel
  have hfile (content : String) (env : Environment) :=
    load_by_document Document.reader (fileOf content) content env hsupported rfl
  refine ⟨?_, ?_, ?_⟩
  · obtain ⟨hfail, hbroken, -⟩ := hfile "a: [1, 2\n" .empty
    obtain ⟨fault, hread⟩ := exists_fault "a: [1, 2\n" (by decide +kernel)
    have hresult := hbroken fault hread
    refine ⟨fault, hresult, ?_⟩
    have hunread : ¬∃ d, Document.read "a: [1, 2\n" = .ok d := by
      rintro ⟨d, hd⟩
      exact absurd (hread.symm.trans hd) nofun
    exact Bool.eq_false_iff.mpr (hunread ∘ (hfail _ (congrArg Loaded.result hresult)).mp)
  · obtain ⟨items, hread, hnone⟩ := exists_items "[]\n" List.isEmpty (by decide +kernel)
    obtain rfl := List.isEmpty_iff.mp hnone
    obtain ⟨-, -, hempty⟩ := hfile "[]\n" .empty
    have hsame := (hempty _ hread nofun).1 .emptyList
    exact (congrArg Loaded.result hsame).trans (eq_ok_of_toOption (by decide +kernel))
  · obtain ⟨items, hread, hsome⟩ := exists_items "!!set \x7bone, two\x7d\n" (!List.isEmpty ·)
      (by decide +kernel)
    have hgiven : ¬(Datum.list items).CountsAsNone := by
      intro hnone
      obtain rfl : items = [] := by
        cases hnone
        rfl
      exact absurd hsome Bool.false_ne_true
    obtain ⟨-, -, hlist⟩ := hfile "!!set \x7bone, two\x7d\n" .empty
    have hpath : SettingsFile.normalPath "bot.yaml" = "bot.yaml" := by decide +kernel
    have hrefused := (hlist _ hread nofun).2 hgiven
    rw [fileOf, hpath] at hrefused
    exact hrefused

end Settings

end ChatCommands
