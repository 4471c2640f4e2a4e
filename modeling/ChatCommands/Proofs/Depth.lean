import ChatCommands.Proofs.Layering

/-!
# ChatCommands.Proofs.Depth

How deeply settings look into a document: they see the members of a record, and
the members of one of these (`Settings.loadWith_congr`).  What is nested more
deeply makes no difference, so that a document without an end, where a part is
mentioned within itself, can be given up to that depth.

1. Cutting a value off at a depth (`Datum.upTo`) goes through laying one record
   over another.
2. The check reads a value alike with and without what is cut off.
-/

namespace ChatCommands

/-! ## values up to a depth -/

/-- A value up to a depth, where collections have nothing in them. -/
def Datum.upTo : Nat → Datum → Datum
  | 0, .list _ => .list []
  | 0, .record _ => .record []
  | n + 1, .list items => .list (items.map (upTo n))
  | n + 1, .record members => .record (members.map fun p => (p.1, upTo n p.2))
  | _, d => d

/-- Members whose values are given up to a depth. -/
def Members.upTo (n : Nat) (members : Members) : Members := members.map fun p => (p.1, p.2.upTo n)

variable {n : Nat} {members : Members} {d : Datum}

namespace Datum

theorem upTo_record_succ (n : Nat) (members : Members) :
    upTo (n + 1) (.record members) = .record (members.upTo n) := rfl

/-- Only records are records up to a depth. -/
theorem upTo_ne_record (h : ∀ members, d ≠ .record members) (n : Nat) (members : Members) :
    d.upTo n ≠ .record members := by
  cases d with
  | record inner => exact absurd rfl (h inner)
  | list items => cases n <;> exact nofun
  | _ => cases n <;> exact nofun

end Datum

/-! ## laying records over others -/

namespace Members

theorem upTo_nil (n : Nat) : upTo n [] = [] := rfl

/-- A member is cut off like all others. -/
theorem get?_upTo (n : Nat) (members : Members) (key : String) :
    Pairs.get? (members.upTo n) key = (Pairs.get? members key).map (Datum.upTo n) := by
  induction members with
  | nil => rfl
  | cons p rest ih =>
    rw [upTo, List.map_cons, Pairs.get?, Pairs.get?, ← upTo, ih]
    split <;> rfl

/-- Entering a value and cutting off can change places. -/
theorem upTo_set (n : Nat) (members : Members) (key : String) (d : Datum) :
    upTo n (Pairs.set members key d) = Pairs.set (members.upTo n) key (d.upTo n) := by
  induction members with
  | nil => rfl
  | cons p rest ih =>
    by_cases hkey : p.1 = key
    · simp [upTo, Pairs.set, hkey]
    · simpa [upTo, Pairs.set, hkey] using ih

end Members

namespace Datum

/-- Records laid over each other are cut off like both of them, one level below a depth. -/
def MergesBelow (n : Nat) : Prop :=
  ∀ m, n = m + 1 → ∀ lower upper,
    Members.upTo m (merge lower upper) = merge (lower.upTo m) (upper.upTo m)

/-- A value laid over another is cut off like both of them, if that goes for their members. -/
theorem upTo_layOver (h : MergesBelow n) (below : Option Datum) (d : Datum) :
    (layOver below d).upTo n = layOver (below.map (upTo n)) (d.upTo n) := by
  by_cases hupper : ∃ upper, d = .record upper
  · obtain ⟨upper, rfl⟩ := hupper
    by_cases hlower : ∃ lower, below = some (.record lower)
    · obtain ⟨lower, rfl⟩ := hlower
      rw [layOver_record, Option.map_some]
      -- Only here one record goes into another, so that a level of the depth is used up.
      cases n with
      | zero => rfl
      | succ m => simp only [upTo_record_succ, layOver_record, h m rfl]
    · have hbelow := not_exists.mp hlower
      rw [layOver_of_below hbelow, layOver_of_below]
      intro members heq
      obtain ⟨b, rfl, hb⟩ := Option.map_eq_some_iff.mp heq
      exact upTo_ne_record (fun inner hinner => hbelow inner (congrArg some hinner)) n members hb
  · have hd := not_exists.mp hupper
    rw [layOver_of_upper hd, layOver_of_upper (upTo_ne_record hd n)]

/-- The members of the upper record are entered one by one. -/
theorem upTo_merge_of_below (h : MergesBelow n) (lower upper : Members) :
    Members.upTo n (merge lower upper) = merge (lower.upTo n) (upper.upTo n) := by
  induction upper generalizing lower with
  | nil => rw [merge_nil, Members.upTo_nil, merge_nil]
  | cons p rest ih =>
    rw [merge_cons, ih, Members.upTo_set, upTo_layOver h, ← Members.get?_upTo, ← merge_cons]
    rfl

/-- **Merging goes level by level**: records laid over each other are cut off like both of them. -/
theorem upTo_merge (n : Nat) (lower upper : Members) :
    Members.upTo n (merge lower upper) = merge (lower.upTo n) (upper.upTo n) := by
  induction n generalizing lower upper with
  | zero => exact upTo_merge_of_below (fun m h => absurd h.symm m.succ_ne_zero) lower upper
  | succ n ih =>
    refine upTo_merge_of_below (fun m hm => ?_) lower upper
    obtain rfl := Nat.succ.inj hm
    exact ih

/-! ## the check -/

/-- Texts and numbers have no depth, and collections are read as neither. -/
theorem readText_upTo (n : Nat) (d : Datum) : (d.upTo n).readText = d.readText := by
  cases d <;> cases n <;> rfl

theorem readInteger_upTo (n : Nat) (d : Datum) : (d.upTo n).readInteger = d.readInteger := by
  cases d <;> cases n <;> rfl

/-- A field is read alike up to a depth if its value is. -/
theorem readFieldOr_upTo {α : Type} {read : Datum → Checked α}
    (h : ∀ d : Datum, read (d.upTo n) = read d) (members : Members) (key : String) (default : α) :
    readFieldOr (members.upTo n) key default read = readFieldOr members key default read := by
  rw [readFieldOr, readFieldOr, Members.get?_upTo]
  cases Pairs.get? members key with
  | none => rfl
  | some d => exact congrArg (Checked.under (.field key)) (h d)

end Datum

/-- The settings of the log are the members of a record. -/
theorem LogSettings.read_upTo (d : Datum) : read (d.upTo 1) = read d := by
  have hlevel (d : Datum) :
      (d.upTo 0).readChoice Level.byName = d.readChoice Level.byName := by
    rw [Datum.readChoice, Datum.readText_upTo, Datum.readChoice]
  have hfile (d : Datum) : readFile (d.upTo 0) = readFile d := by
    cases d <;> rfl
  cases d with
  | record members =>
    rw [Datum.upTo_record_succ, read, read, Datum.readFieldOr_upTo hlevel,
      Datum.readFieldOr_upTo hfile]
  | _ => rfl

namespace Settings

/-- The settings are the members of a record, one of which is the record of those of the log. -/
theorem readMembers_upTo (members : Members) :
    readMembers (members.upTo 1) = readMembers members := by
  have hmarker (d : Datum) : readMarker (d.upTo 1) = readMarker d := by
    rw [readMarker, Datum.readText_upTo, readMarker]
  have hcount (least : Nat) (d : Datum) : readCount least (d.upTo 1) = readCount least d := by
    rw [readCount, Datum.readIntegerFrom, Datum.readInteger_upTo, readCount, Datum.readIntegerFrom]
  rw [readMembers, readMembers, Datum.readFieldOr_upTo hmarker, Datum.readFieldOr_upTo (hcount 0),
    Datum.readFieldOr_upTo (hcount 1), Datum.readFieldOr_upTo (Datum.readText_upTo 1),
    Datum.readFieldOr_upTo (Datum.readText_upTo 1), Datum.readFieldOr_upTo LogSettings.read_upTo]

/-! ## loading -/

/-- What the sources set together is checked alike if the file sets the same up to that depth. -/
theorem combine_congr {file other : Members} (h : file.upTo 1 = other.upTo 1)
    (env : Environment) : combine file env = combine other env := by
  -- The sources are cut off one by one, as cutting off goes through laying them over each other.
  have hlayered : readMembers (layered file env) = readMembers (layered other env) := by
    rw [← readMembers_upTo (layered file env), ← readMembers_upTo (layered other env), layered,
      layered, Datum.upTo_merge, Datum.upTo_merge, h, Datum.upTo_merge, Datum.upTo_merge]
  rw [combine, combine, hlayered]

/-- Whether a collection is empty shows at its first level. -/
theorem isGiven_upTo (n : Nat) (d : Datum) : (d.upTo (n + 1)).isGiven = d.isGiven := by
  cases d with
  | list items => cases items <;> rfl
  | record members => cases members <;> rfl
  | _ => rfl

/-- The members that a document sets are one level deeper than the document. -/
theorem documentMembers?_upTo (n : Nat) (d : Datum) :
    documentMembers? (d.upTo (n + 1)) = (documentMembers? d).map (Members.upTo n) := by
  by_cases hrecord : ∃ members, d = .record members
  · obtain ⟨members, rfl⟩ := hrecord
    rw [Datum.upTo_record_succ, documentMembers?_record, documentMembers?_record, Option.map_some]
  · have hd := not_exists.mp hrecord
    rw [documentMembers?_of_not_record hd,
      documentMembers?_of_not_record (Datum.upTo_ne_record hd (n + 1)), isGiven_upTo]
    split <;> rfl

section

variable {read other : String → Except Document.Fault Datum} {file : SettingsFile}

/-- Two results that agree in some way are both values or the same fault. -/
theorem cases_of_map_eq {ε α β : Type} {f : α → β} {x y : Except ε α} (h : x.map f = y.map f) :
    (∃ e, x = .error e ∧ y = .error e) ∨ ∃ a b, x = .ok a ∧ y = .ok b ∧ f a = f b := by
  cases x with
  | error e =>
    cases y with
    | error e' => exact .inl ⟨e, rfl, congrArg _ (Except.error.inj h).symm⟩
    | ok b => cases h
  | ok a =>
    cases y with
    | error e => cases h
    | ok b => exact .inr ⟨a, b, rfl, rfl, Except.ok.inj h⟩

/-- The members that a file sets are one level deeper than its document. -/
theorem fileMembers_congr {content : String}
    (h : (read content).map (Datum.upTo 2) = (other content).map (Datum.upTo 2)) :
    (fileMembers read file content).map (Members.upTo 1) =
      (fileMembers other file content).map (Members.upTo 1) := by
  rw [fileMembers, fileMembers]
  split
  · obtain ⟨fault, hread, hother⟩ | ⟨d, e, hread, hother, heq⟩ := cases_of_map_eq h
    · rw [hread, hother]
    · have hmembers := congrArg documentMembers? heq
      rw [documentMembers?_upTo, documentMembers?_upTo] at hmembers
      rw [hread, hother]
      cases hd : documentMembers? d <;> cases he : documentMembers? e <;>
        simp_all [Except.map]
  · rfl

/-- **Settings are read from the outer levels of a document**: two ways of reading lead to the same
outcome if the values that they give agree down to the values within the members of a record. -/
theorem loadWith_congr (env : Environment)
    (h : ∀ content, file.content = some content →
      (read content).map (Datum.upTo 2) = (other content).map (Datum.upTo 2)) :
    loadWith read (some file) env = loadWith other (some file) env := by
  rw [loadWith, loadWith]
  cases hfile : (some file).filter fun f => f.path ≠ "" with
  | none => rfl
  | some f =>
    obtain ⟨heq, -⟩ := Option.filter_eq_some_iff.mp hfile
    obtain rfl := Option.some.inj heq
    cases hcontent : file.content with
    | none => simp only [hcontent]
    | some content =>
      simp only [hcontent]
      obtain ⟨e, hread, hother⟩ | ⟨members, members', hread, hother, hmembers⟩ :=
        cases_of_map_eq (fileMembers_congr (h content hcontent))
      · rw [hread, hother]
      · rw [hread, hother]
        exact combine_congr hmembers env

end

end Settings

end ChatCommands
