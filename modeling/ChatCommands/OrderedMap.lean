/-!
# ChatCommands.OrderedMap

Finite maps that remember the order in which their keys were first entered.
Registered commands, matched arguments and the members of records are listed
in that order; giving a key a new value leaves the key where it is.

The first half works on plain lists of pairs, where a key may repeat and the
first pair counts; `OrderedMap` adds that keys are distinct.
-/

namespace ChatCommands

variable {α : Type u} {β : Type v} [DecidableEq α]

/-! ## lists of pairs -/

namespace Pairs

/-- The keys, in order. -/
def keys (ps : List (α × β)) : List α := ps.map Prod.fst

/-- The value of the first pair with a key. -/
def get? : List (α × β) → α → Option β
  | [], _ => none
  | (k, v) :: rest, key => if k = key then some v else get? rest key

/-- Whether some pair has a key. -/
def contains (ps : List (α × β)) (key : α) : Bool := (get? ps key).isSome

/-- Gives a key a value: in place if the key is there, else at the end. -/
def set : List (α × β) → α → β → List (α × β)
  | [], key, value => [(key, value)]
  | (k, v) :: rest, key, value =>
    if k = key then (k, value) :: rest else (k, v) :: set rest key value

/-- Gives a key a value unless it has one. -/
def setNew (ps : List (α × β)) (key : α) (value : β) : List (α × β) :=
  if contains ps key then ps else ps ++ [(key, value)]

/-- Sets all pairs of a list, from left to right. -/
def setAll (ps new : List (α × β)) : List (α × β) :=
  new.foldl (fun acc p => set acc p.1 p.2) ps

/-- Setting a key changes the value of no other key. -/
theorem get?_set (ps : List (α × β)) (key other : α) (value : β) :
    get? (set ps key value) other = if key = other then some value else get? ps other := by
  induction ps with
  | nil => simp [set, get?]
  | cons p rest ih =>
    obtain ⟨k, v⟩ := p
    by_cases hk : k = key <;> by_cases ho : k = other <;> simp_all [set, get?]
    intro h
    exact absurd h.symm hk

/-- A key that is set stays where it was, and a new one comes last. -/
theorem keys_set (ps : List (α × β)) (key : α) (value : β) :
    keys (set ps key value) = if key ∈ keys ps then keys ps else keys ps ++ [key] := by
  induction ps with
  | nil => simp [set, keys]
  | cons p rest ih =>
    obtain ⟨k, v⟩ := p
    by_cases hk : k = key
    · simp [set, keys, hk]
    · have hk' : key ≠ k := fun h => hk h.symm
      simp only [keys] at ih
      by_cases hm : key ∈ rest.map Prod.fst <;> simp_all [set, keys]

/-- Setting a key makes no key repeat. -/
theorem nodup_keys_set {ps : List (α × β)} (h : (keys ps).Nodup) (key : α) (value : β) :
    (keys (set ps key value)).Nodup := by
  rw [keys_set]
  split
  · exact h
  · rename_i hn
    refine List.nodup_append.2 ⟨h, by simp, fun a ha b hb hab => hn ?_⟩
    rwa [← List.mem_singleton.1 hb, ← hab]

end Pairs

/-! ## maps -/

/-- A finite map with its keys in the order in which they were first entered. -/
structure OrderedMap (α : Type u) (β : Type v) where
  /-- The pairs, in order. -/
  entries : List (α × β)
  /-- No key occurs twice. -/
  nodup : (Pairs.keys entries).Nodup

namespace OrderedMap

/-- The map without a key. -/
def empty : OrderedMap α β := ⟨[], List.nodup_nil⟩

instance : Inhabited (OrderedMap α β) := ⟨empty⟩

instance [DecidableEq β] : DecidableEq (OrderedMap α β) := fun a b =>
  decidable_of_iff (a.entries = b.entries)
    ⟨fun h => by cases a; cases b; simpa using h, fun h => h ▸ rfl⟩

/-- The value of a key. -/
def get? (m : OrderedMap α β) (key : α) : Option β := Pairs.get? m.entries key

/-- Whether a key has a value. -/
def contains (m : OrderedMap α β) (key : α) : Bool := (m.get? key).isSome

/-- The keys, in order. -/
def keys (m : OrderedMap α β) : List α := Pairs.keys m.entries

/-- The number of keys. -/
def size (m : OrderedMap α β) : Nat := m.entries.length

/-- Gives a key a value; a new key comes last. -/
def insert (m : OrderedMap α β) (key : α) (value : β) : OrderedMap α β :=
  ⟨Pairs.set m.entries key value, Pairs.nodup_keys_set m.nodup key value⟩

/-- The map with all pairs of a list inserted from left to right. -/
def ofList (ps : List (α × β)) : OrderedMap α β := ps.foldl (fun m p => m.insert p.1 p.2) empty

omit [DecidableEq α] in
/-- A map is its pairs: that the keys are distinct is a proof, not data. -/
@[ext] theorem ext {a b : OrderedMap α β} (h : a.entries = b.entries) : a = b := by
  cases a; cases b; simpa using h

@[simp] theorem get?_empty (key : α) : (empty : OrderedMap α β).get? key = none := rfl

/-- Inserting a key changes the value of no other key. -/
theorem get?_insert (m : OrderedMap α β) (key other : α) (value : β) :
    (m.insert key value).get? other = if key = other then some value else m.get? other :=
  Pairs.get?_set _ _ _ _

/-- The keys stand in the order in which they were first inserted. -/
theorem keys_insert (m : OrderedMap α β) (key : α) (value : β) :
    (m.insert key value).keys = if key ∈ m.keys then m.keys else m.keys ++ [key] :=
  Pairs.keys_set _ _ _

end OrderedMap

end ChatCommands
