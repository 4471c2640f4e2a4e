import ChatCommands.Proofs.OrderedMap
import ChatCommands.Proofs.Registration
import Mathlib.Data.Finset.Card
import Mathlib.Data.List.TakeWhile

/-!
# ChatCommands.Proofs.History

A registry as its history has made it.  Of some operations on the empty
registry only those count that offer a command after the first start
(`Registry.registered`).  These decide everything (`Registry.Follows`):

1. the registry is active if there was a start;
2. the command of a name is the one that was registered last under it;
3. the names are listed as they were registered first.

An operation that comes next keeps this so (`Follows.apply`), and therefore it
holds after every run (`follows_after`).
-/

namespace ChatCommands

namespace Registry

variable {τ : Type} {r : Registry τ} {operations : List (Operation τ)} {schema : Schema τ}
  {name : String}

/-- The command that an operation offers. -/
def Operation.schema? : Operation τ → Option (Schema τ)
  | .activate => none
  | .register schema => some schema

/-- The commands that are registered in the course of some operations, in order: all that are
offered behind the first start. -/
def registered (operations : List (Operation τ)) : List (Schema τ) :=
  (operations.dropWhile fun operation => operation.schema?.isSome).filterMap Operation.schema?

/-- The command that was registered last under a name. -/
def latest? (operations : List (Operation τ)) (name : String) : Option (Schema τ) :=
  ((registered operations).filter fun schema => schema.name = name).getLast?

/-- A registry is what some operations on the empty one have made of it. -/
structure Follows (r : Registry τ) (operations : List (Operation τ)) : Prop where
  /-- Registration is allowed once there was a start. -/
  active_iff : r.active = true ↔ .activate ∈ operations
  /-- The last registration under a name counts. -/
  get?_eq : ∀ name, r.get? name = latest? operations name
  /-- The names come in the order of their first registration. -/
  names_eq : r.names = ((registered operations).map Schema.name).eraseDups

/-! ## one more operation -/

theorem dropWhile_eq_nil_iff :
    (operations.dropWhile fun operation => operation.schema?.isSome) = [] ↔
      .activate ∉ operations := by
  rw [List.dropWhile_eq_nil_iff]
  constructor
  · intro h hmem
    exact absurd (h _ hmem) Bool.false_ne_true
  · intro h operation hmem
    cases operation with
    | activate => exact absurd hmem h
    | register schema => rfl

/-- A start registers nothing, be it the first or a later one. -/
theorem registered_concat_activate :
    registered (operations ++ [.activate]) = registered operations := by
  unfold registered
  rw [List.dropWhile_append]
  split
  · next h =>
    rw [List.isEmpty_iff.mp h]
    rfl
  · rw [List.filterMap_append]
    exact List.append_nil _

/-- Behind a start, an offered command is registered. -/
theorem registered_concat_register (h : .activate ∈ operations) :
    registered (operations ++ [.register schema]) = registered operations ++ [schema] := by
  have hne : (operations.dropWhile fun operation => operation.schema?.isSome) ≠ [] :=
    fun hnil => dropWhile_eq_nil_iff.mp hnil h
  unfold registered
  rw [List.dropWhile_append, if_neg (by simpa using hne), List.filterMap_append]
  rfl

/-- Before the first start nothing is registered. -/
theorem registered_eq_nil (h : .activate ∉ operations) : registered operations = [] := by
  rw [registered, dropWhile_eq_nil_iff.mpr h]
  rfl

/-- A command that is registered is the latest one of its name, and no other name is concerned. -/
theorem latest?_concat_register (h : .activate ∈ operations) (name : String) :
    latest? (operations ++ [.register schema]) name =
      if schema.name = name then some schema else latest? operations name := by
  unfold latest?
  rw [registered_concat_register h, List.filter_append]
  split
  · next hname => simp [hname]
  · next hname => simp [hname]

theorem eraseDups_concat (names : List String) (name : String) :
    (names ++ [name]).eraseDups =
      if name ∈ names.eraseDups then names.eraseDups else names.eraseDups ++ [name] := by
  rw [List.eraseDups_append]
  split
  · next h => simp [List.removeAll, List.mem_eraseDups.mp h]
  · next h =>
    have hmem : name ∉ names := fun hmem => h (List.mem_eraseDups.mpr hmem)
    simp [List.removeAll, hmem, List.eraseDups_cons]

/-! ## runs -/

/-- The empty registry is that of no operations. -/
theorem follows_empty : Follows (empty : Registry τ) [] where
  active_iff := by simp [empty]
  get?_eq _ := rfl
  names_eq := rfl

/-- Behind the first start a command is registered. -/
theorem Follows.register_of_started (h : r.Follows operations) (hstarted : .activate ∈ operations)
    (schema : Schema τ) :
    r.register schema = .ok { r with commands := r.commands.insert schema.name schema } := by
  rw [register, if_pos (h.active_iff.mpr hstarted)]

/-- Before the first start a command is refused. -/
theorem Follows.register_of_not_started (h : r.Follows operations)
    (hstarted : .activate ∉ operations) (schema : Schema τ) :
    r.register schema = .error (.inactive schema.name) := by
  rw [register, if_neg (mt h.active_iff.mp hstarted)]

/-- A start makes a registry active and leaves its commands. -/
theorem Follows.activate (h : r.Follows operations) :
    r.activate.Follows (operations ++ [.activate]) where
  active_iff := by simp [Registry.activate]
  get?_eq name := by
    rw [latest?, registered_concat_activate]
    exact h.get?_eq name
  names_eq := by
    rw [registered_concat_activate]
    exact h.names_eq

/-- A registered command is the latest of its name, whose place in the list is kept. -/
theorem Follows.insert (h : r.Follows operations) (hstarted : .activate ∈ operations)
    (schema : Schema τ) :
    Follows { r with commands := r.commands.insert schema.name schema }
      (operations ++ [.register schema]) where
  active_iff := by simp [h.active_iff]
  get?_eq name := by
    rw [latest?_concat_register hstarted, ← h.get?_eq]
    exact OrderedMap.get?_insert _ _ _ _
  names_eq := by
    have hnames := h.names_eq
    rw [registered_concat_register hstarted, List.map_append, List.map_singleton,
      eraseDups_concat, ← hnames]
    exact OrderedMap.keys_insert _ _ _

/-- A refused registration changes nothing, in the registry and in what counts of its history. -/
theorem Follows.refuse (h : r.Follows operations) (hstarted : .activate ∉ operations)
    (schema : Schema τ) : r.Follows (operations ++ [.register schema]) := by
  have hnone : registered (operations ++ [.register schema]) = registered operations := by
    rw [registered_eq_nil hstarted, registered_eq_nil (by simpa using hstarted)]
  exact ⟨by simp [h.active_iff], by simpa only [latest?, hnone] using h.get?_eq,
    by simpa only [hnone] using h.names_eq⟩

/-- **One operation**: a registry that follows its history still does after one more operation. -/
theorem Follows.apply (h : r.Follows operations) (operation : Operation τ) :
    (r.apply operation).Follows (operations ++ [operation]) := by
  cases operation with
  | activate => exact h.activate
  | register schema =>
      rw [Registry.apply]
      by_cases hstarted : .activate ∈ operations
      · rw [h.register_of_started hstarted]
        exact h.insert hstarted schema
      · rw [h.register_of_not_started hstarted]
        exact h.refuse hstarted schema

/-- A registry follows its history through any operations. -/
theorem Follows.foldl (h : r.Follows operations) (more : List (Operation τ)) :
    (more.foldl Registry.apply r).Follows (operations ++ more) := by
  induction more generalizing r operations with
  | nil =>
      rw [List.append_nil]
      exact h
  | cons operation more ih =>
      have := ih (h.apply operation)
      rwa [List.append_assoc] at this

/-- Every registry that can come about is what its history says. -/
theorem follows_after (operations : List (Operation τ)) : (after operations).Follows operations :=
  follows_empty.foldl operations

/-- There are as many commands as different names among those that were registered. -/
theorem Follows.size_eq (h : r.Follows operations) :
    r.size = ((registered operations).map Schema.name).toFinset.card := by
  have hlength : r.size = r.names.length := (List.length_map _).symm
  have hnodup : r.names.Nodup := r.commands.nodup
  have hset : ((registered operations).map Schema.name).toFinset = r.names.toFinset := by
    ext name
    rw [h.names_eq, List.mem_toFinset, List.mem_toFinset, List.mem_eraseDups]
  rw [hset, List.toFinset_card_of_nodup hnodup, hlength]

/-- Only what was offered is registered. -/
theorem register_mem_of_latest? (h : latest? operations name = some schema) :
    .register schema ∈ operations := by
  obtain ⟨hmem, -⟩ := List.mem_filter.mp (List.mem_of_getLast? h)
  obtain ⟨operation, hmem, hschema⟩ := List.mem_filterMap.mp hmem
  have hoffered : operation ∈ operations := (List.dropWhile_suffix _).subset hmem
  cases operation with
  | activate => contradiction
  | register other =>
      obtain rfl : other = schema := Option.some.inj hschema
      exact hoffered

theorem name_of_latest? (h : latest? operations name = some schema) : schema.name = name := by
  obtain ⟨-, hname⟩ := List.mem_filter.mp (List.mem_of_getLast? h)
  simpa using hname

end Registry

end ChatCommands
