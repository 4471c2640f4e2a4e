import ChatCommands.Proofs.Placeholder
import ChatCommands.Proofs.Reaction
import ChatCommands.Proofs.Walk

/-!
# ChatCommands.Proofs.Containment

What breaks a dispatch off: integers with too many digits to be read, and
nothing else.  A text breaks off

1. if it calls a registered command that the user may run and that has its
   arguments cut, and the walk along them comes to an overlong integer while
   there still is a parameter;
2. if it calls a macro one of whose templates has an overlong placeholder.

A dispatch is broken off exactly if it comes to such a text through macros
that are not nested deeper than the settings allow (`dispatch_aborted_iff`).
-/

namespace ChatCommands

namespace Scene

variable {τ : Type} {s : Scene τ} {text : String} {schema : Schema τ} {commands : List String}

/-! ## what breaks off and what goes on -/

/-- The text breaks a dispatch off. -/
def Breaks (s : Scene τ) (text : String) : Prop :=
  ∃ name, s.Calls text name ∧
    ((∃ schema, s.registry.get? name = some schema ∧
        (Permission.check s.host schema.requirement s.server s.user).allowed = true ∧
        schema.raw = false ∧
        ∃ places t ts p ps,
          Walk (Token.arguments text) schema.parameters places (t :: ts) (p :: ps) ∧
          Overlong t) ∨
      s.registry.get? name = none ∧ ∃ body, s.macroBody? name = some body ∧
        ∃ template ∈ Macro.templates body, Macro.OverlongPlaceholder template)

/-- The text stands for the commands of a macro. -/
def Expands (s : Scene τ) (text : String) (commands : List String) : Prop :=
  ∃ name, s.Calls text name ∧ s.registry.get? name = none ∧
    ∃ body, s.macroBody? name = some body ∧
      Macro.expand? body (Token.arguments text) s.user.id = some commands

/-- A text is dispatched in the course of another one, at most some macros deeper. -/
inductive Reaches (s : Scene τ) : (remaining : Nat) → (text text' : String) → Prop
  /-- The text itself is dispatched. -/
  | here {n : Nat} {text : String} : Reaches s n text text
  /-- The commands of a macro are dispatched. -/
  | through {n : Nat} {text c text' : String} {commands : List String}
      (hexpands : s.Expands text commands) (hc : c ∈ commands) (hr : Reaches s n c text') :
      Reaches s (n + 1) text text'

/-- Matching breaks off exactly if the walk along the tokens comes to an overlong integer. -/
theorem matchText_eq_overlong_iff {directory : Directory} {server : Server} {marker : String} :
    (matchText directory server schema text marker).result = .error .overlongNumeral ↔
      schema.raw = false ∧ ∃ places t ts p ps,
        Walk (Token.arguments text) schema.parameters places (t :: ts) (p :: ps) ∧ Overlong t := by
  unfold matchText
  cases hraw : schema.raw with
  | true => simp [MatchOutcome.ofBag]
  | false => simpa using matchTokens_eq_overlong_iff directory server

/-- The texts that break off are those that the two cases describe. -/
theorem reaction_eq_broken_iff_breaks : s.reaction text = .broken ↔ s.Breaks text := by
  rw [reaction_eq_broken_iff]
  simp only [answer_eq_broken_iff, unfolding_eq_broken_iff, matchText_eq_overlong_iff,
    Macro.expand?_eq_none_iff]
  exact Iff.rfl

theorem reaction_eq_expanded_iff_expands :
    s.reaction text = .expanded commands ↔ s.Expands text commands := by
  rw [reaction_eq_expanded_iff]
  simp only [unfolding_eq_expanded_iff]
  exact Iff.rfl

/-! ## one step -/

/-- A reaction is broken off by itself, or with the commands that it hands on. -/
theorem aborted_effect_iff {next : List String → Trace τ} {r : Reaction τ} :
    (s.effect next r).aborted = true ↔
      r = .broken ∨ ∃ commands, r = .expanded commands ∧ (next commands).aborted = true := by
  cases r <;> simp [effect, Trace.nil]

/-- A step is broken off by its text or by what becomes of the commands of a macro. -/
theorem aborted_step_iff {depth : Nat} {next : Occasion → List String → Trace τ}
    {N : List String → Prop}
    (hnext : ∀ on commands, (next on commands).aborted = true ↔ N commands) :
    (s.step depth text next).aborted = true ↔
      s.Breaks text ∨ ∃ commands, s.Expands text commands ∧ N commands := by
  obtain ⟨on, before, after, -, -, heq⟩ := s.step_eq depth text next
  rw [heq, Trace.aborted_andThen, Trace.aborted_andThen, Trace.aborted_of, Trace.aborted_of,
    Bool.false_or, Bool.or_false, aborted_effect_iff, reaction_eq_broken_iff_breaks]
  simp only [reaction_eq_expanded_iff_expands, hnext]

/-! ## all steps -/

theorem reaches_zero_iff {text' : String} : s.Reaches 0 text text' ↔ text' = text := by
  constructor
  · intro h
    obtain ⟨⟩ := h
    rfl
  · intro h
    subst h
    exact .here

theorem reaches_succ_iff {n : Nat} {text' : String} :
    s.Reaches (n + 1) text text' ↔
      text' = text ∨ ∃ commands, s.Expands text commands ∧ ∃ c ∈ commands, s.Reaches n c text' := by
  constructor
  · intro h
    cases h with
    | here => exact .inl rfl
    | through hexpands hc hr => exact .inr ⟨_, hexpands, _, hc, hr⟩
  · intro h
    rcases h with rfl | ⟨commands, hexpands, c, hc, hr⟩
    · exact .here
    · exact .through hexpands hc hr

/-- A dispatch is broken off exactly if it comes to a text that breaks off, by induction on the
levels that are left. -/
theorem aborted_dispatchFrom_iff (s : Scene τ) (remaining depth : Nat) (text : String) :
    (s.dispatchFrom remaining depth text).aborted = true ↔
      ∃ text', s.Reaches remaining text text' ∧ s.Breaks text' := by
  induction remaining generalizing depth text with
  | zero =>
      rw [dispatchFrom, aborted_step_iff (N := fun _ => False) (by simp)]
      simp [reaches_zero_iff]
  | succ n ih =>
      rw [dispatchFrom, aborted_step_iff fun _ commands => Trace.aborted_each]
      simp only [ih, reaches_succ_iff]
      constructor
      · intro h
        rcases h with hbreaks | ⟨commands, hexpands, c, hc, text', hr, hbreaks⟩
        · exact ⟨text, .inl rfl, hbreaks⟩
        · exact ⟨text', .inr ⟨commands, hexpands, c, hc, hr⟩, hbreaks⟩
      · intro h
        rcases h with ⟨text', rfl | ⟨commands, hexpands, c, hc, hr⟩, hbreaks⟩
        · exact .inl hbreaks
        · exact .inr ⟨commands, hexpands, c, hc, text', hr, hbreaks⟩

/-- **Containment**: a dispatch is broken off exactly if it comes to a text that has too many
digits in an integer where an argument is expected, or that calls a macro with too many digits in
a placeholder. In all other cases it returns. -/
theorem dispatch_aborted_iff (s : Scene τ) (text : String) :
    (s.dispatch text).aborted = true ↔
      ∃ text', s.Reaches s.settings.maxMacroDepth text text' ∧ s.Breaks text' :=
  s.aborted_dispatchFrom_iff _ 0 text

end Scene

end ChatCommands
