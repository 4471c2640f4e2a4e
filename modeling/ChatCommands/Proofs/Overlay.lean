import ChatCommands.Datum.Merge
import ChatCommands.Proofs.OrderedMap

/-!
# ChatCommands.Proofs.Overlay

What is found under a name in a record that was laid over another: the upper
value laid over the lower one (`Datum.get?_merge`), which is just the upper one,
or else the lower one, unless both are records (`Datum.get?_merge_of_leaf`).

Names must not repeat in the upper record.  Every pair of it counts in a merge,
but only the first one of a name is found.
-/

namespace ChatCommands.Datum

variable {lower upper : Members} {name : String}

theorem layOver_of_upper {below : Option Datum} {value : Datum}
    (h : ∀ members, value ≠ .record members) : layOver below value = value := by
  cases value with
  | record members => exact absurd rfl (h members)
  | _ =>
    rw [layOver]
    exact h

theorem layOver_of_below {below : Option Datum} {value : Datum}
    (h : ∀ members, below ≠ some (.record members)) : layOver below value = value := by
  cases value with
  | record upper =>
    rw [layOver]
    exact h
  | _ => exact layOver_of_upper nofun

theorem layOver_record (lower upper : Members) :
    layOver (some (.record lower)) (.record upper) = .record (merge lower upper) := by
  rw [layOver, merge]

theorem merge_nil (lower : Members) : merge lower [] = lower := by
  rw [merge, layAllOver]

theorem merge_cons (lower upper : Members) (name : String) (value : Datum) :
    merge lower ((name, value) :: upper) =
      merge (Pairs.set lower name (layOver (Pairs.get? lower name) value)) upper := by
  rw [merge, layAllOver, merge]

theorem get?_merge (h : (Pairs.keys upper).Nodup) (lower : Members) (name : String) :
    Pairs.get? (merge lower upper) name =
      match Pairs.get? upper name with
      | some value => some (layOver (Pairs.get? lower name) value)
      | none => Pairs.get? lower name := by
  -- Every member of the upper record changes the lower one for those behind it.
  induction upper generalizing lower with
  | nil => rw [merge_nil, Pairs.get?]
  | cons p rest ih =>
    obtain ⟨key, value⟩ := p
    rw [Pairs.keys, List.map_cons, List.nodup_cons, ← Pairs.keys] at h
    rw [merge_cons, ih h.2, Pairs.get?, Pairs.get?_set]
    by_cases hkey : key = name
    · obtain rfl := hkey
      have hrest : Pairs.get? rest key = none :=
        Option.not_isSome_iff_eq_none.mp fun hsome => h.1 (Pairs.isSome_get?_iff.mp hsome)
      rw [if_pos rfl, if_pos rfl, hrest]
    · rw [if_neg hkey, if_neg hkey]

/-- Where no record lies over another, the upper value counts if there is one. -/
theorem get?_merge_of_leaf (h : (Pairs.keys upper).Nodup)
    (hleaf : ∀ below above, Pairs.get? lower name = some (.record below) →
      Pairs.get? upper name ≠ some (.record above)) :
    Pairs.get? (merge lower upper) name =
      (Pairs.get? upper name).or (Pairs.get? lower name) := by
  rw [get?_merge h]
  cases hupper : Pairs.get? upper name with
  | none => rfl
  | some value =>
    rw [Option.some_or, Option.some.injEq]
    by_cases hbelow : ∃ below, Pairs.get? lower name = some (.record below)
    · obtain ⟨below, hbelow⟩ := hbelow
      exact layOver_of_upper fun above heq => hleaf below above hbelow (heq ▸ hupper)
    · exact layOver_of_below (not_exists.mp hbelow)

end ChatCommands.Datum
