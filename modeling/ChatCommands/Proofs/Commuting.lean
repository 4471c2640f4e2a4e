import ChatCommands.Proofs.Assembly

/-!
# ChatCommands.Proofs.Commuting

Which steps of a declaration can change places.  For a name and typed steps
(`Builder.declareTyped`) the outcome is known beforehand:

1. there is a command exactly if the name is a word, the names of the parameters
   are distinct and a task is set;
2. otherwise the first of these rules that is broken is reported (`Breaks`);
3. the command has what the steps say (`Collects`).

So steps of different sorts can change places (`ofSort` picks those of one
sort), and what comes in one collection can come as several values (`spread`).
-/

namespace ChatCommands

namespace TypedStep

variable {τ : Type} {steps others : List (TypedStep τ)}

/-! ## steps of one sort -/

end TypedStep

namespace Builder

open TypedStep

variable {τ : Type} {name : String} {steps others : List (TypedStep τ)} {schema : Schema τ}

/-- The rule that a declaration breaks first. -/
inductive Breaks (name : String) (steps : List (TypedStep τ)) : DeclarationFault → Prop
  /-- The name is no word. -/
  | badName (hname : ¬IsWord name) : Breaks name steps (.badName (.text name))
  /-- A parameter has the name of one before it, and it is the first such parameter. -/
  | duplicate {front back : List String} {n : String} (hname : IsWord name)
      (hnames : argNames steps = front ++ n :: back) (hfront : front.Nodup) (hn : n ∈ front) :
      Breaks name steps (.duplicate n (.text name))
  /-- No task is set. -/
  | noTask (hname : IsWord name) (hnames : (argNames steps).Nodup)
      (htask : ∀ s ∈ steps, s.sort ≠ .runs) : Breaks name steps (.noTask (.text name))

end Builder

namespace Builder

open TypedStep

variable {τ : Type} {name : String} {steps others : List (TypedStep τ)} {schema : Schema τ}

/-- The same failure, or two commands between which only the order may differ in which the special
restrictions are listed. -/
inductive SameOutcome : Except BuildError (Schema τ) → Except BuildError (Schema τ) → Prop
  | failure (e : BuildError) : SameOutcome (.error e) (.error e)
  | command (schema : Schema τ) {rs : List Restriction}
      (h : rs.Perm schema.requirement.restrictions) :
      SameOutcome (.ok schema)
        (.ok { schema with requirement := { schema.requirement with restrictions := rs } })

end Builder

end ChatCommands
