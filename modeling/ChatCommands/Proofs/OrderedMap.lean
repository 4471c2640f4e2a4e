import ChatCommands.OrderedMap
import Mathlib.Data.List.Basic

/-!
# ChatCommands.Proofs.OrderedMap

Ordered maps through their entries: a key is there if an entry has it, and a
new key comes last, so pairs with distinct keys, inserted one after another,
are listed as they were inserted.  Looking up, in order, names of which the keys
are some gives the values in order (`Pairs.filterMap_get?`).
-/

namespace ChatCommands

variable {α : Type u} {β : Type v} [DecidableEq α]

/-- A new key is set by adding its pair at the end. -/
theorem Pairs.set_of_not_mem {ps : List (α × β)} {key : α} (h : key ∉ keys ps) (value : β) :
    set ps key value = ps ++ [(key, value)] := by
  induction ps with
  | nil => rfl
  | cons p rest ih =>
      obtain ⟨k, v⟩ := p
      simp only [keys, List.map_cons, List.mem_cons, not_or] at h
      have hne : ¬k = key := fun heq => h.1 heq.symm
      rw [set, if_neg hne, ih h.2, List.cons_append]

/-- Exactly the keys have a value. -/
theorem Pairs.isSome_get?_iff {ps : List (α × β)} {key : α} :
    (get? ps key).isSome = true ↔ key ∈ keys ps := by
  induction ps with
  | nil => simp [get?, keys]
  | cons p rest ih =>
      obtain ⟨k, v⟩ := p
      rw [get?, keys, List.map_cons, List.mem_cons, ← keys]
      by_cases hk : k = key
      · simp [hk]
      · rw [if_neg hk, ih]
        exact ⟨.inr, fun h => h.resolve_left fun heq => hk heq.symm⟩

/-- The pairs further to the front come first. -/
theorem Pairs.get?_append (ps qs : List (α × β)) (key : α) :
    get? (ps ++ qs) key = (get? ps key).or (get? qs key) := by
  induction ps with
  | nil => rfl
  | cons p rest ih =>
      obtain ⟨k, v⟩ := p
      rw [List.cons_append, get?, get?]
      split
      · rfl
      · exact ih

/-- The value of a key is that of one of the pairs. -/
theorem Pairs.mem_of_get? {ps : List (α × β)} {key : α} {value : β}
    (h : get? ps key = some value) : (key, value) ∈ ps := by
  induction ps with
  | nil => contradiction
  | cons p rest ih =>
      obtain ⟨k, v⟩ := p
      rw [get?] at h
      split at h
      · next hk =>
        rw [hk, Option.some.inj h]
        exact List.mem_cons_self
      · exact List.mem_cons_of_mem _ (ih h)

/-- Setting a key adds at most the one pair; the others were there before. -/
theorem Pairs.mem_set {ps : List (α × β)} {key : α} {value : β} {p : α × β}
    (h : p ∈ set ps key value) : p = (key, value) ∨ p ∈ ps := by
  induction ps with
  | nil => exact .inl (List.mem_singleton.mp h)
  | cons q rest ih =>
      rw [set] at h
      split at h
      · next hk =>
        rw [hk] at h
        exact (List.mem_cons.mp h).imp_right (List.mem_cons_of_mem _)
      · rcases List.mem_cons.mp h with rfl | h
        · exact .inr List.mem_cons_self
        · exact (ih h).imp_right (List.mem_cons_of_mem _)

/-- A key that has a value is given that value again without a change. -/
theorem Pairs.set_eq_self {ps : List (α × β)} {key : α} {value : β}
    (h : get? ps key = some value) : set ps key value = ps := by
  induction ps with
  | nil => contradiction
  | cons p rest ih =>
      obtain ⟨k, v⟩ := p
      rw [get?] at h
      rw [set]
      split at h
      · next hk => rw [if_pos hk, hk, Option.some.inj h]
      · next hk => rw [if_neg hk, ih h]

/-- If no key repeats, the value of a key is the one that it is paired with. -/
theorem Pairs.get?_eq_some_iff {ps : List (α × β)} (h : (keys ps).Nodup) {key : α} {value : β} :
    get? ps key = some value ↔ (key, value) ∈ ps := by
  refine ⟨mem_of_get?, fun hmem => ?_⟩
  induction ps with
  | nil => contradiction
  | cons p rest ih =>
      obtain ⟨k, v⟩ := p
      rw [keys, List.map_cons, List.nodup_cons, ← keys] at h
      rcases List.mem_cons.mp hmem with heq | hrest
      · obtain ⟨rfl, rfl⟩ := Prod.mk.inj heq
        rw [get?, if_pos rfl]
      · have hne : k ≠ key := by
          rintro rfl
          exact h.1 (List.mem_map.mpr ⟨_, hrest, rfl⟩)
        rw [get?, if_neg hne]
        exact ih h.2 hrest

theorem Pairs.get?_eq_none_iff {ps : List (α × β)} {key : α} :
    get? ps key = none ↔ key ∉ keys ps := by
  rw [← isSome_get?_iff, Bool.not_eq_true, Option.isSome_eq_false_iff, Option.isNone_iff_eq_none]

/-- Pairs that are chosen by their keys are found under those keys. -/
theorem Pairs.get?_filter (f : α → Bool) (ps : List (α × β)) (key : α) :
    get? (ps.filter fun p => f p.1) key = if f key then get? ps key else none := by
  induction ps with
  | nil => simp [get?]
  | cons p rest ih =>
      obtain ⟨k, v⟩ := p
      by_cases hk : k = key
      · by_cases hf : f k <;> simp_all [get?]
      · by_cases hf : f k <;> simp_all [get?]

/-- Pairs with distinct keys that are set hide what was there before. -/
theorem Pairs.get?_setAll {ps new : List (α × β)} (h : (keys new).Nodup) (key : α) :
    get? (setAll ps new) key = (get? new key).or (get? ps key) := by
  induction new generalizing ps with
  | nil => rfl
  | cons p rest ih =>
      obtain ⟨k, v⟩ := p
      rw [keys, List.map_cons, List.nodup_cons, ← keys] at h
      have hset : setAll ps ((k, v) :: rest) = setAll (set ps k v) rest := rfl
      rw [hset, ih h.2, get?_set, get?]
      by_cases hk : k = key
      · have hrest : get? rest key = none := get?_eq_none_iff.mpr (hk ▸ h.1)
        simp [hk, hrest]
      · simp [hk]

omit [DecidableEq α] in
/-- Taking pairs away makes no key repeat. -/
theorem Pairs.nodup_keys_filter {ps : List (α × β)} (h : (keys ps).Nodup) (f : α × β → Bool) :
    (keys (ps.filter f)).Nodup :=
  (List.filter_sublist.map Prod.fst).nodup h

/-- Keys that are some of a list of names, in order: looking the names up gives the values. -/
theorem Pairs.filterMap_get? {ps : List (α × β)} {names : List α} (h : (keys ps).Sublist names)
    (hnames : names.Nodup) : names.filterMap (get? ps) = ps.map Prod.snd := by
  generalize hkeys : keys ps = ks at h
  induction h generalizing ps with
  | slnil =>
      rw [keys, List.map_eq_nil_iff] at hkeys
      rw [hkeys]
      rfl
  | @cons ks names name h ih =>
      obtain ⟨hnew, hrest⟩ := List.nodup_cons.mp hnames
      have hnone : get? ps name = none :=
        get?_eq_none_iff.mpr fun hmem => hnew (h.subset (hkeys ▸ hmem))
      rw [List.filterMap_cons_none hnone, ih hrest hkeys]
  | @cons_cons ks names name h ih =>
      obtain ⟨hnew, hrest⟩ := List.nodup_cons.mp hnames
      obtain ⟨⟨k, v⟩, rest, rfl, rfl, hks⟩ := List.map_eq_cons_iff.mp hkeys
      have hothers : names.filterMap (get? ((k, v) :: rest)) = names.filterMap (get? rest) := by
        refine List.filterMap_congr fun n hn => ?_
        have hne : k ≠ n := by
          rintro rfl
          exact hnew hn
        rw [get?, if_neg hne]
      rw [List.filterMap_cons_some (b := v) (by rw [get?, if_pos rfl]), hothers, ih hrest hks,
        List.map_cons]

namespace OrderedMap

/-- Exactly the keys have a value. -/
theorem contains_iff_mem_keys {m : OrderedMap α β} {key : α} :
    m.contains key = true ↔ key ∈ m.keys := Pairs.isSome_get?_iff

/-- Pairs with new and distinct keys are inserted as they stand. -/
theorem entries_foldl_insert (m : OrderedMap α β) (ps : List (α × β))
    (h : (Pairs.keys (m.entries ++ ps)).Nodup) :
    (ps.foldl (fun m p => m.insert p.1 p.2) m).entries = m.entries ++ ps := by
  induction ps generalizing m with
  | nil => simp
  | cons p rest ih =>
      have hkey : p.1 ∉ Pairs.keys m.entries := by
        simp only [Pairs.keys, List.map_append, List.map_cons] at h
        have := (List.nodup_append.mp h).2.2
        intro hmem
        exact this _ hmem _ List.mem_cons_self rfl
      have hentries : (m.insert p.1 p.2).entries = m.entries ++ [p] :=
        Pairs.set_of_not_mem hkey p.2
      have hrest : (Pairs.keys ((m.insert p.1 p.2).entries ++ rest)).Nodup := by
        rw [hentries, List.append_assoc]
        exact h
      rw [List.foldl_cons, ih _ hrest, hentries, List.append_assoc]
      rfl

/-- Pairs with distinct keys are the entries of their map. -/
theorem entries_ofList {ps : List (α × β)} (h : (Pairs.keys ps).Nodup) :
    (ofList ps).entries = ps := by
  rw [ofList, entries_foldl_insert empty ps h]
  rfl

end OrderedMap

end ChatCommands
