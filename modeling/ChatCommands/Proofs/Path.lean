import ChatCommands.Proofs.DistinctNames
import ChatCommands.Proofs.Overlay

/-!
# ChatCommands.Proofs.Path

What records hold at paths, and what a record laid over another one makes of it:

1. a value of the upper record that is no record counts wherever it stands;
2. a value of the lower record is kept if the upper one holds nothing in its
   place and nothing but records on the way there;
3. nothing else comes about, so that every leaf is one of the two records.

The step is `Datum.at?_merge`: one name further in, a member of the upper record
lies over the lower one's.  What is laid over a value once is there, so laying it
over that again changes nothing (`Datum.layOver_idem`).
-/

namespace ChatCommands.Datum

/-! ## paths -/

/-- Whether a value is a record. -/
def isRecord : Datum → Bool
  | record _ => true
  | _ => false

/-- What a value holds at a path: itself where the path ends, and nothing beyond a value that is
no record. -/
def at? : Datum → List String → Option Datum
  | d, [] => some d
  | record members, name :: path =>
    match Pairs.get? members name with
    | some d => d.at? path
    | none => none
  | _, _ :: _ => none

/-- Whether a value holds nothing further in: it is no record, or one without members. -/
def isLeaf : Datum → Bool
  | record members => members.isEmpty
  | _ => true

variable {below value : Datum} {lower upper members : Members} {name : String}
  {path : List String} {d : Datum}

@[simp] theorem at?_nil (d : Datum) : d.at? [] = some d := by
  rw [at?]

/-- A path leads through a record by its first name. -/
theorem at?_record_cons (members : Members) (name : String) (path : List String) :
    (record members).at? (name :: path) =
      (Pairs.get? members name).bind fun d => d.at? path := by
  rw [at?]
  cases Pairs.get? members name <;> rfl

/-- A value behind a name is one within a record. -/
theorem at?_cons_eq_some_iff :
    value.at? (name :: path) = some d ↔
      ∃ members inner, value = record members ∧ Pairs.get? members name = some inner ∧
        inner.at? path = some d := by
  cases value with
  | record members => simp [at?_record_cons, Option.bind_eq_some_iff]
  | _ => simp [at?]

/-! ## laying over -/

/-- Either a record is merged into a record, or the upper value takes the place of the lower
one. -/
theorem layOver_cases (below : Option Datum) (value : Datum) :
    (∃ lower upper, below = some (record lower) ∧ value = record upper ∧
      layOver below value = record (merge lower upper)) ∨ layOver below value = value := by
  by_cases hbelow : ∃ lower, below = some (record lower)
  · obtain ⟨lower, rfl⟩ := hbelow
    cases value with
    | record upper => exact .inl ⟨lower, upper, rfl, rfl, layOver_record lower upper⟩
    | _ => exact .inr (layOver_of_upper nofun)
  · exact .inr (layOver_of_below (not_exists.mp hbelow))

/-- One name further in, a member of the upper record lies over the lower one's. -/
theorem at?_merge (h : (Pairs.keys upper).Nodup) (lower : Members) (name : String)
    (path : List String) :
    (record (merge lower upper)).at? (name :: path) =
      match Pairs.get? upper name with
      | some value => (layOver (Pairs.get? lower name) value).at? path
      | none => (record lower).at? (name :: path) := by
  rw [at?_record_cons, get?_merge h]
  cases Pairs.get? upper name with
  | none => rw [at?_record_cons]
  | some value => rfl

/-- Only nothing over nothing makes a record without members. -/
theorem eq_nil_of_merge_eq_nil (h : (Pairs.keys upper).Nodup) (hmerge : merge lower upper = []) :
    upper = [] := by
  cases upper with
  | nil => rfl
  | cons p rest =>
    obtain ⟨key, value⟩ := p
    have hget := get?_merge h lower key
    simp [hmerge, Pairs.get?] at hget

/-- The members of a record have distinct names too. -/
theorem Distinct.of_get? (h : Datum.Distinct (.record members))
    (hget : Pairs.get? members name = some d) : d.Distinct :=
  (distinct_record_iff.mp h).values _ (Pairs.mem_of_get? hget)

theorem Distinct.nodup_keys (h : Datum.Distinct (.record members)) :
    (Pairs.keys members).Nodup :=
  (distinct_record_iff.mp h).keys

/-- What the upper value holds and is no record is there afterwards. -/
theorem at?_layOver_of_upper (below : Option Datum) (h : value.Distinct)
    (hat : value.at? path = some d) (hd : d.isRecord = false) :
    (layOver below value).at? path = some d := by
  induction path generalizing below value with
  | nil =>
    obtain rfl : value = d := by simpa using hat
    have hnot : ∀ members, value ≠ record members := by
      rintro members rfl
      simp [isRecord] at hd
    rw [layOver_of_upper hnot, at?_nil]
  | cons name path ih =>
    obtain ⟨lower, upper, rfl, rfl, hmerge⟩ | hself := layOver_cases below value
    · obtain ⟨_, inner, heq, hget, hinner⟩ := at?_cons_eq_some_iff.mp hat
      obtain rfl := record.inj heq
      rw [hmerge, at?_merge h.nodup_keys, hget]
      exact ih _ (h.of_get? hget) hinner
    · rw [hself, hat]

/-- What the lower value holds is there afterwards if the upper one holds nothing in its place and
nothing but records on the way. -/
theorem at?_layOver_of_below (h : value.Distinct) (hat : below.at? path = some d)
    (hnone : value.at? path = none)
    (hway : ∀ front name back above, path = front ++ name :: back → value.at? front = some above →
      above.isRecord = true) :
    (layOver (some below) value).at? path = some d := by
  induction path generalizing below value with
  | nil => simp at hnone
  | cons name path ih =>
    obtain ⟨lower, inner, rfl, hinner, hd⟩ := at?_cons_eq_some_iff.mp hat
    have hrecord : value.isRecord = true := hway [] name path value rfl (at?_nil value)
    cases value with
    | record upper =>
      rw [layOver_record, at?_merge h.nodup_keys]
      cases hget : Pairs.get? upper name with
      | none => exact hat
      | some above =>
        have habove : (record upper).at? (name :: path) = above.at? path := by
          rw [at?_record_cons, hget, Option.bind_some]
        rw [habove] at hnone
        rw [hinner]
        refine ih (h.of_get? hget) hd hnone fun front key back found hpath hfound => ?_
        have hfront : (record upper).at? (name :: front) = some found := by
          rw [at?_record_cons, hget, Option.bind_some, hfound]
        exact hway (name :: front) key back found (by rw [hpath, List.cons_append]) hfront
    | _ => simp [isRecord] at hrecord

/-- A leaf of what was laid over each other is one of the two. -/
theorem at?_layOver_leaf (below : Option Datum) (h : value.Distinct) (hd : d.isLeaf = true)
    (hat : (layOver below value).at? path = some d) :
    value.at? path = some d ∨ ∃ b, below = some b ∧ b.at? path = some d := by
  induction path generalizing below value with
  | nil =>
    obtain ⟨lower, upper, rfl, rfl, hmerge⟩ | hself := layOver_cases below value
    · -- a record without members comes from two of the kind
      obtain rfl : record (merge lower upper) = d := by simpa [hmerge] using hat
      have hmerged : merge lower upper = [] := by simpa [isLeaf] using hd
      have hupper : upper = [] := eq_nil_of_merge_eq_nil h.nodup_keys hmerged
      exact .inl (by rw [hmerged, hupper, at?_nil])
    · exact .inl (by rwa [hself] at hat)
  | cons name path ih =>
    obtain ⟨lower, upper, rfl, rfl, hmerge⟩ | hself := layOver_cases below value
    · rw [hmerge, at?_merge h.nodup_keys] at hat
      cases hget : Pairs.get? upper name with
      | none =>
        rw [hget] at hat
        exact .inr ⟨record lower, rfl, hat⟩
      | some above =>
        rw [hget] at hat
        have habove : (record upper).at? (name :: path) = above.at? path := by
          rw [at?_record_cons, hget, Option.bind_some]
        rcases ih _ (h.of_get? hget) hat with hup | ⟨b, hb, hlow⟩
        · exact .inl (habove.trans hup)
        · refine .inr ⟨record lower, rfl, ?_⟩
          rw [at?_record_cons, hb, Option.bind_some, hlow]
    · exact .inl (by rwa [hself] at hat)

/-! ## a second time -/

/-- Members that change nothing where they are laid over change nothing together. -/
theorem merge_eq_self
    (h : ∀ p ∈ upper, ∃ d, Pairs.get? lower p.1 = some d ∧ layOver (some d) p.2 = d) :
    merge lower upper = lower := by
  induction upper with
  | nil => rw [merge_nil]
  | cons p rest ih =>
    obtain ⟨key, value⟩ := p
    obtain ⟨⟨d, hget, hd⟩, hrest⟩ := List.forall_mem_cons.mp h
    have hset : Pairs.set lower key d = lower := Pairs.set_eq_self hget
    rw [merge_cons, hget, hd, hset, ih hrest]

/-- What was laid over a value is laid over it again without a change. -/
theorem layOver_idem (h : value.Distinct) (below : Option Datum) :
    layOver (some (layOver below value)) value = layOver below value := by
  -- The values of a record's members are laid over what was there, each with its own lower value.
  induction h generalizing below with
  | single hlist hrecord => simp only [layOver_of_upper hrecord]
  | @list items h ih =>
    have hlist : ∀ members, list items ≠ record members := nofun
    simp only [layOver_of_upper hlist]
  | @record members hkeys h ih =>
    have hmember : ∀ p ∈ members, Pairs.get? members p.1 = some p.2 := fun p hp =>
      (Pairs.get?_eq_some_iff hkeys).mpr hp
    obtain ⟨lower, upper, rfl, heq, hmerge⟩ | hself := layOver_cases below (record members)
    · obtain rfl := record.inj heq
      rw [hmerge, layOver_record, merge_eq_self]
      intro p hp
      refine ⟨layOver (Pairs.get? lower p.1) p.2, ?_, ih p hp _⟩
      rw [get?_merge hkeys, hmember p hp]
    · rw [hself, layOver_record, merge_eq_self]
      intro p hp
      have hnone : layOver none p.2 = p.2 := layOver_of_below nofun
      have hagain := ih p hp none
      rw [hnone] at hagain
      exact ⟨p.2, hmember p hp, hagain⟩

/-- **Merging by path**: what the upper record holds and is no record is held afterwards, and what
the lower one holds is kept where the upper one has nothing in its place and no other value than
records on the way.  Every leaf is one of the two.  Merging nothing, or the same record again,
changes nothing. -/
theorem merge_by_path (lower : Members) {upper : Members} (h : upper.Distinct) :
    (∀ path d, (record upper).at? path = some d → d.isRecord = false →
      (record (merge lower upper)).at? path = some d) ∧
    (∀ path d, (record lower).at? path = some d → (record upper).at? path = none →
      (∀ front name back above, path = front ++ name :: back →
        (record upper).at? front = some above → above.isRecord = true) →
      (record (merge lower upper)).at? path = some d) ∧
    (∀ path leaf, (record (merge lower upper)).at? path = some leaf → leaf.isLeaf = true →
      (record upper).at? path = some leaf ∨ (record lower).at? path = some leaf) ∧
    merge lower [] = lower ∧
    merge (merge lower upper) upper = merge lower upper := by
  have hupper : (record upper).Distinct := distinct_record_iff.mpr h
  rw [← layOver_record]
  refine ⟨fun path d hat hd => at?_layOver_of_upper _ hupper hat hd,
    fun path d hat hnone hway => at?_layOver_of_below hupper hat hnone hway,
    fun path leaf hat hleaf => ?_, merge_nil lower, ?_⟩
  · rcases at?_layOver_leaf _ hupper hleaf hat with hup | ⟨b, hb, hlow⟩
    · exact .inl hup
    · obtain rfl := Option.some.inj hb
      exact .inr hlow
  · have hagain := layOver_idem hupper (some (record lower))
    rw [layOver_record, layOver_record] at hagain
    exact record.inj hagain

/-- A record over which `overBelow` is laid. -/
def underAbove : Members :=
  [("log", .record [("level", .integer 1), ("file", .record [("name", .text "a")])]),
    ("marker", .text "!"), ("empty", .record [("depth", .integer 4)])]

/-- Values over records, a record over a value, and one without members over a record. -/
def overBelow : Members :=
  [("log", .record [("file", .null), ("level", .integer 2)]),
    ("marker", .record [("text", .text "?")]), ("empty", .record [])]

theorem distinct_overBelow : Members.Distinct overBelow := by
  have hlog : Distinct (.record [("file", .null), ("level", .integer 2)]) :=
    .record (by decide) (by simp [Distinct.single])
  have hmarker : Distinct (.record [("text", .text "?")]) :=
    .record (by decide) (by simp [Distinct.single])
  have hempty : Distinct (.record []) := .record (by decide) (by simp)
  exact ⟨by decide, by simp [overBelow, hlog, hmarker, hempty]⟩

/-- Values clash with records at the top and further in, both ways. -/
theorem paths_of_clashing :
    Members.Distinct overBelow ∧
    (record (merge underAbove overBelow)).at? ["log", "file"] = some .null ∧
    (record (merge underAbove overBelow)).at? ["marker", "text"] = some (.text "?") ∧
    (record (merge underAbove overBelow)).at? ["empty", "depth"] = some (.integer 4) ∧
    ((record overBelow).at? ["empty", "depth"] = some (.integer 4) ∨
      (record underAbove).at? ["empty", "depth"] = some (.integer 4)) ∧
    merge (merge underAbove overBelow) overBelow = merge underAbove overBelow := by
  obtain ⟨hupper, hlower, hleaf, -, hagain⟩ := merge_by_path underAbove distinct_overBelow
  have hway : ∀ front name back above, ["empty", "depth"] = front ++ name :: back →
      (record overBelow).at? front = some above → above.isRecord = true := by
    intro front name back above hpath habove
    match front with
    | [] =>
      obtain rfl : record overBelow = above := Option.some.inj habove
      rfl
    | [key] =>
      obtain ⟨rfl, -⟩ : "empty" = key ∧ _ := by simpa using hpath
      obtain rfl : record [] = above := Option.some.inj habove
      rfl
    | key :: key' :: front => simp at hpath
  have hkept : (record (merge underAbove overBelow)).at? ["empty", "depth"] = some (.integer 4) :=
    hlower _ _ rfl rfl hway
  exact ⟨distinct_overBelow, hupper _ _ rfl rfl, hupper _ _ rfl rfl, hkept, hleaf _ _ hkept rfl,
    hagain⟩

end ChatCommands.Datum
