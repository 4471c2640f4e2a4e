import ChatCommands.Registry

/-!
# ChatCommands.Proofs.Registration

The registries that can come about, by any run of starts and registrations of
which some may be refused.  Such a registry has every command under its own
name (`Registry.FiledByName`): the empty one does, one operation keeps it so,
and therefore so does every run.
-/

namespace ChatCommands

namespace Registry

variable {τ : Type} {r r' : Registry τ}

/-- Something that is done to a registry. -/
inductive Operation (τ : Type) where
  /-- Registration is allowed. -/
  | activate
  /-- A command is to be registered. -/
  | register (schema : Schema τ)

/-- The registry after an operation; a refused one leaves it as it is. -/
def apply (r : Registry τ) : Operation τ → Registry τ
  | .activate => r.activate
  | .register schema =>
    match r.register schema with
    | .ok r' => r'
    | .error _ => r

/-- The registry after some operations on the empty one. -/
def after (operations : List (Operation τ)) : Registry τ := operations.foldl apply empty

/-- A registry that can come about. -/
def Reachable (r : Registry τ) : Prop := ∃ operations, r = after operations

/-- Every command stands under its own name. -/
def FiledByName (r : Registry τ) : Prop :=
  ∀ (name : String) (schema : Schema τ), r.get? name = some schema → schema.name = name

theorem filedByName_empty : FiledByName (empty : Registry τ) := by
  intro name schema h
  rw [get?, empty, OrderedMap.get?_empty] at h
  contradiction

/-- A command that is registered goes under its own name, and all others stay where they are. -/
theorem FiledByName.register {schema : Schema τ} (h : r.FiledByName)
    (hr : r.register schema = .ok r') : r'.FiledByName := by
  unfold Registry.register at hr
  split at hr
  · obtain rfl : _ = r' := by simpa using hr
    intro name other hget
    rw [get?, OrderedMap.get?_insert] at hget
    split at hget
    · next hname =>
      obtain rfl : schema = other := by simpa using hget
      exact hname
    · exact h name other hget
  · contradiction

theorem FiledByName.apply (h : r.FiledByName) (operation : Operation τ) :
    (r.apply operation).FiledByName := by
  cases operation with
  | activate => exact h
  | register schema =>
      show (match r.register schema with | .ok r' => r' | .error _ => r).FiledByName
      cases hr : r.register schema with
      | ok r' => exact h.register hr
      | error fault => exact h

theorem FiledByName.foldl (h : r.FiledByName) (operations : List (Operation τ)) :
    (operations.foldl Registry.apply r).FiledByName := by
  induction operations generalizing r with
  | nil => exact h
  | cons operation operations ih => exact ih (h.apply operation)

theorem Reachable.filedByName (h : r.Reachable) : r.FiledByName := by
  obtain ⟨operations, rfl⟩ := h
  exact filedByName_empty.foldl operations

end Registry

end ChatCommands
