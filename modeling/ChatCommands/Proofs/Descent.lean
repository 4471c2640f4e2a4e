import ChatCommands.Proofs.Question
import ChatCommands.Proofs.Reaction
import ChatCommands.Proofs.Substitution

/-!
# ChatCommands.Proofs.Descent

How a dispatch goes down into macros.  What a step does by itself, before any
further text is taken up, is its opening, and what it hands on is a list of
commands, empty unless the text is one of a macro and the depth is below the
bound.  A dispatch from some depth is the opening followed by the dispatches of
these commands, one level deeper (`Scene.dispatchFrom_eq_opening`).

An opening takes up one text, and asks for at most one macro.
-/

namespace ChatCommands

variable {τ : Type}

namespace Trace

variable {t : Trace τ} {next : Unit → Trace τ}

/-- It does not matter which of three parts are put together first. -/
theorem andThen_assoc (next' : Unit → Trace τ) :
    (t.andThen next).andThen next' = t.andThen fun _ => (next ()).andThen next' := by
  unfold andThen
  cases ht : t.aborted with
  | true => simp [ht]
  | false => cases hnext : (next ()).aborted <;> simp [hnext]

/-- Nothing is looked up after the break. -/
theorem lookups_andThen :
    (t.andThen next).lookups = t.lookups ++ if t.aborted then [] else (next ()).lookups := by
  rw [lookups, events_andThen, List.filterMap_append]
  cases t.aborted <;> rfl

/-- The questions for macros, in order. -/
def macrosAsked (t : Trace τ) : List Lookup := t.lookups.filter Lookup.isMacroBody

/-- How often a macro is asked for. -/
def macroQuestions (t : Trace τ) : Nat := t.lookups.countP Lookup.isMacroBody

theorem macroQuestions_eq_length : t.macroQuestions = t.macrosAsked.length :=
  List.countP_eq_length_filter

/-- No macro is asked for after the break. -/
theorem macrosAsked_andThen :
    (t.andThen next).macrosAsked =
      t.macrosAsked ++ if t.aborted then [] else (next ()).macrosAsked := by
  rw [macrosAsked, lookups_andThen, List.filter_append]
  cases t.aborted <;> rfl

/-- The questions for macros add up, as far as they come before the break. -/
theorem macroQuestions_andThen :
    (t.andThen next).macroQuestions =
      t.macroQuestions + if t.aborted then 0 else (next ()).macroQuestions := by
  simp only [macroQuestions_eq_length, macrosAsked_andThen, List.length_append]
  cases t.aborted <;> rfl

/-- Questions for other things do not count. -/
theorem macrosAsked_asking {lookups : List Lookup} (h : ∀ l ∈ lookups, l.isMacroBody = false) :
    (asking (τ := τ) lookups).macrosAsked = [] := by
  have hlookups : (asking (τ := τ) lookups).lookups = lookups := by
    rw [asking, of, Trace.lookups, List.filterMap_map]
    exact List.filterMap_some
  rw [macrosAsked, hlookups, List.filter_eq_nil_iff]
  simpa using h

end Trace

namespace Scene

variable (s : Scene τ) {depth : Nat} {text name : String} {commands : List String}
  {next next' : Occasion → List String → Trace τ}

/-! ## steps with and without a macro -/

/-- The step that a text is dispatched in. -/
def occasionOf (text : String) (depth : Nat) : Occasion :=
  s.occasion ((commandName? text s.settings.marker).getD "") depth

variable {s}

/-- Unless there is a macro that can be expanded, it does not matter what becomes of commands. -/
theorem expansion_of_not_expanded {next next' : List String → Trace τ}
    (h : ∀ commands, s.unfolding name text ≠ .expanded commands) :
    s.expansion name text next = s.expansion name text next' := by
  unfold unfolding macroBody? at h
  unfold expansion
  cases hmacros : s.host.macros? with
  | none => rfl
  | some resolve =>
      cases hbody : resolve s.server name with
      | none => simp [hbody]
      | some body =>
          cases hcommands : Macro.expand? body (Token.arguments text) s.user.id with
          | none => simp [hbody, hcommands]
          | some commands => simp [hmacros, hbody, hcommands] at h

/-- A step in which no macro is expanded does nothing with commands. -/
theorem step_of_not_expanded (h : ∀ commands, s.reaction text ≠ .expanded commands) :
    s.step depth text next = s.step depth text next' := by
  by_cases hcalls : ∃ name, s.Calls text name
  · obtain ⟨name, hcalls⟩ := hcalls
    cases hget : s.registry.get? name with
    | some schema =>
        rw [step_of_registered depth hcalls hget, step_of_registered depth hcalls hget]
    | none =>
        rw [reaction_of_unregistered hcalls hget] at h
        rw [step_of_unregistered depth hcalls hget, step_of_unregistered depth hcalls hget,
          expansion_of_not_expanded h]
  · rw [step_of_not_calls depth (not_exists.mp hcalls),
      step_of_not_calls depth (not_exists.mp hcalls)]

/-- A step in which a macro is expanded asks for it and hands its commands on. -/
theorem step_of_expanded (depth : Nat) (h : s.reaction text = .expanded commands) :
    ∃ name, ∀ next, s.step depth text next =
      (Trace.of [.step depth text, .asked (.automated s.user), .asked (.macroBody s.server name),
        .noted (.expanded name commands.length)]).andThen
        fun _ => next (s.occasionOf text depth) commands := by
  obtain ⟨name, hcalls, hget, hunfolding⟩ := reaction_eq_expanded_iff.mp h
  obtain ⟨body, hbody, hcommands⟩ := unfolding_eq_expanded_iff.mp hunfolding
  obtain ⟨resolve, hmacros, hresolve⟩ := Option.bind_eq_some_iff.mp hbody
  refine ⟨name, fun next => ?_⟩
  rw [step_of_unregistered depth hcalls hget]
  simp [expansion, hmacros, hresolve, hcommands, occasionOf, hcalls.2, Trace.asking,
    Trace.of_andThen]

/-- A step takes its text up and no other, if nothing else does. -/
theorem exists_events_step (depth : Nat) (text : String)
    (hnext : ∀ on commands, stepsOf (next on commands).events = []) :
    ∃ more, (s.step depth text next).events = .step depth text :: more ∧ stepsOf more = [] := by
  obtain ⟨on, before, after, hbefore, hafter, heq⟩ := s.step_eq depth text next
  have heffect : stepsOf (s.effect (next on) (s.reaction text)).events = [] := by
    cases s.reaction text with
    | expanded commands => exact hnext on commands
    | _ => rfl
  rw [heq, Trace.of_andThen, Trace.events_andThen, List.cons_append]
  refine ⟨_, rfl, ?_⟩
  rw [stepsOf_append, stepsOf_append, hbefore.stepsOf_eq_nil, heffect]
  split
  · rfl
  · exact hafter.stepsOf_eq_nil

/-! ## questions for macros -/

/-- A registered command asks for no macro. -/
theorem macrosAsked_command (schema : Schema τ) (text : String) (on : Occasion) :
    (s.command schema text on).macrosAsked = [] := by
  have hmatch : (Trace.asking (τ := τ) (matchText s.host.toDirectory s.server schema text
      s.settings.marker).lookups).macrosAsked = [] :=
    Trace.macrosAsked_asking fun _ => isMacroBody_of_mem_matchText
  have hinvoke : (s.invoke schema text on).macrosAsked = [] := by
    unfold invoke
    simp only [Trace.macrosAsked_andThen, hmatch]
    split
    · rfl
    · split
      · rfl
      · rfl
      · split <;> rfl
  have hcheck : (Trace.asking (τ := τ) (Permission.check s.host schema.requirement s.server
      s.user).lookups).macrosAsked = [] :=
    Trace.macrosAsked_asking fun _ => Permission.isMacroBody_of_mem_check
  unfold command
  simp only [Trace.macrosAsked_andThen, hcheck]
  split
  · rfl
  · split
    · rw [List.nil_append, hinvoke]
    · rfl

/-- A name that is not registered is asked for once if there is a resolver, and by nothing else in
the step. -/
theorem macrosAsked_expansion (name text : String) {next : List String → Trace τ}
    (hnext : ∀ commands, (next commands).macrosAsked = []) :
    (s.expansion name text next).macrosAsked =
      if s.host.macros?.isSome then [.macroBody s.server name] else [] := by
  unfold expansion
  cases s.host.macros? with
  | none => rfl
  | some resolve =>
      have hasked : (Trace.asking (τ := τ) [.macroBody s.server name]).macrosAsked =
          [.macroBody s.server name] := rfl
      simp only [Trace.macrosAsked_andThen, hasked]
      split
      · rfl
      · split
        · rfl
        · split
          · rfl
          · simp only [Trace.macrosAsked_andThen, hnext]
            rfl

/-- A step asks for a macro exactly if its text calls a name that is not registered, and there
are macros at all. -/
theorem macrosAsked_step_of_unregistered (depth : Nat) (h : s.Calls text name)
    (hget : s.registry.get? name = none)
    (hnext : ∀ on commands, (next on commands).macrosAsked = []) :
    (s.step depth text next).macrosAsked =
      if s.host.macros?.isSome then [.macroBody s.server name] else [] := by
  rw [step_of_unregistered depth h hget, Trace.macrosAsked_andThen,
    macrosAsked_expansion name text (hnext _)]
  rfl

/-- A text that calls no unregistered name asks for no macro. -/
theorem macrosAsked_step_of_not_unregistered (depth : Nat)
    (h : ∀ name, s.Calls text name → s.registry.get? name ≠ none) :
    (s.step depth text next).macrosAsked = [] := by
  by_cases hcalls : ∃ name, s.Calls text name
  · obtain ⟨name, hcalls⟩ := hcalls
    obtain ⟨schema, hget⟩ := Option.ne_none_iff_exists'.mp (h name hcalls)
    rw [step_of_registered depth hcalls hget, Trace.macrosAsked_andThen, macrosAsked_command]
    rfl
  · rw [step_of_not_calls depth (not_exists.mp hcalls)]
    rfl

/-- A step asks for at most one macro, if nothing else does. -/
theorem macroQuestions_step_le (depth : Nat) (text : String)
    (hnext : ∀ on commands, (next on commands).macrosAsked = []) :
    (s.step depth text next).macroQuestions ≤ 1 := by
  rw [Trace.macroQuestions_eq_length]
  by_cases h : ∃ name, s.Calls text name ∧ s.registry.get? name = none
  · obtain ⟨name, hcalls, hget⟩ := h
    rw [macrosAsked_step_of_unregistered depth hcalls hget hnext]
    split <;> simp
  · have hregistered : ∀ name, s.Calls text name → s.registry.get? name ≠ none :=
      fun name hcalls hget => h ⟨name, hcalls, hget⟩
    rw [macrosAsked_step_of_not_unregistered depth hregistered]
    exact Nat.zero_le 1

/-! ## openings -/

/-- What a step does before further texts are taken up. -/
def opening (s : Scene τ) (depth : Nat) (text : String) : Trace τ :=
  s.step depth text fun on _ =>
    if s.settings.maxMacroDepth ≤ depth then .of [.noted (.tooDeep on s.settings.maxMacroDepth)]
    else .nil

/-- The commands that a step hands on: those of a macro, as long as macros are not nested too
deeply. -/
def handedOn (s : Scene τ) (depth : Nat) (text : String) : List String :=
  match s.reaction text with
  | .expanded commands => if s.settings.maxMacroDepth ≤ depth then [] else commands
  | _ => []

/-- The text names a macro. -/
def NamesMacro (s : Scene τ) (text : String) : Prop :=
  ∃ name body, s.Calls text name ∧ s.registry.get? name = none ∧ s.macroBody? name = some body

/-- Only the text of a macro hands commands on. -/
theorem handedOn_of_not_expanded (h : ∀ commands, s.reaction text ≠ .expanded commands) :
    s.handedOn depth text = [] := by
  unfold handedOn
  split
  · next commands hcommands => exact absurd hcommands (h commands)
  · rfl

/-- A macro hands its commands on unless the step is as deep as macros may be nested. -/
theorem handedOn_of_expanded (h : s.reaction text = .expanded commands) :
    s.handedOn depth text = if s.settings.maxMacroDepth ≤ depth then [] else commands := by
  rw [handedOn, h]

/-- The deepest steps hand nothing on. -/
theorem handedOn_of_le (h : s.settings.maxMacroDepth ≤ depth) : s.handedOn depth text = [] := by
  unfold handedOn
  split
  · rw [if_pos h]
  · rfl

/-- No more commands are handed on than there are templates in a macro. -/
theorem length_handedOn_le {b : Nat} (hb : ∀ name body, s.macroBody? name = some body →
    (Macro.templates body).length ≤ b) : (s.handedOn depth text).length ≤ b := by
  by_cases hexpanded : ∃ commands, s.reaction text = .expanded commands
  · obtain ⟨commands, hcommands⟩ := hexpanded
    obtain ⟨name, -, -, hunfolding⟩ := reaction_eq_expanded_iff.mp hcommands
    obtain ⟨body, hbody, hexpand⟩ := unfolding_eq_expanded_iff.mp hunfolding
    rw [handedOn_of_expanded hcommands]
    split
    · exact Nat.zero_le b
    · rw [Macro.length_of_expand? hexpand]
      exact hb name body hbody
  · rw [handedOn_of_not_expanded (not_exists.mp hexpanded)]
    exact Nat.zero_le b

/-- An opening takes up its text and no other. -/
theorem exists_events_opening (s : Scene τ) (depth : Nat) (text : String) :
    ∃ more, (s.opening depth text).events = .step depth text :: more ∧ stepsOf more = [] := by
  refine exists_events_step depth text fun on _ => ?_
  split <;> rfl

/-- An opening asks for at most one macro. -/
theorem macroQuestions_opening_le (s : Scene τ) (depth : Nat) (text : String) :
    (s.opening depth text).macroQuestions ≤ 1 := by
  refine macroQuestions_step_le depth text fun on _ => ?_
  split <;> rfl

/-- A name that is not registered has no effect of its own. -/
theorem quiet_effect_unfolding {next : List String → Trace τ}
    (hnext : ∀ commands, Quiet (next commands).events) :
    Quiet (s.effect next (s.unfolding name text)).events := by
  unfold unfolding
  split
  · exact quiet_nil
  · split
    · exact quiet_nil
    · exact hnext _

/-- A step that names a macro does nothing by itself that can be seen. -/
theorem quiet_opening_of_namesMacro (h : s.NamesMacro text) (depth : Nat) :
    ∃ more, (s.opening depth text).events = .step depth text :: more ∧ Quiet more := by
  obtain ⟨name, body, hcalls, hget, hbody⟩ := h
  obtain ⟨on, before, after, hbefore, hafter, heq⟩ := s.step_eq depth text fun on _ =>
    if s.settings.maxMacroDepth ≤ depth then .of [.noted (.tooDeep on s.settings.maxMacroDepth)]
    else .nil
  rw [opening, heq, reaction_of_unregistered hcalls hget, Trace.of_andThen, Trace.events_andThen,
    List.cons_append]
  refine ⟨_, rfl, quiet_append.mpr ⟨hbefore, quiet_append.mpr ⟨?_, ?_⟩⟩⟩
  · refine quiet_effect_unfolding fun _ => ?_
    split
    · exact quiet_cons.mpr ⟨rfl, quiet_nil⟩
    · exact quiet_nil
  · cases (s.effect _ (s.unfolding name text)).aborted with
    | true => exact quiet_nil
    | false => exact hafter

/-- **Descent**: a dispatch is the opening of its step and then the dispatches of what it hands
on, one level deeper. -/
theorem dispatchFrom_eq_opening {remaining : Nat} (text : String)
    (h : depth + remaining = s.settings.maxMacroDepth) :
    s.dispatchFrom remaining depth text = (s.opening depth text).andThen fun _ =>
      .each (s.dispatchFrom (remaining - 1) (depth + 1)) (s.handedOn depth text) := by
  cases remaining with
  | zero =>
      have hle : s.settings.maxMacroDepth ≤ depth := by omega
      rw [handedOn_of_le hle]
      simp only [dispatchFrom, opening, if_pos hle]
      exact Trace.andThen_of_nil.symm
  | succ n =>
      have hlt : ¬s.settings.maxMacroDepth ≤ depth := by omega
      simp only [dispatchFrom, opening, if_neg hlt, Nat.add_sub_cancel]
      by_cases hexpanded : ∃ commands, s.reaction text = .expanded commands
      · obtain ⟨commands, hcommands⟩ := hexpanded
        obtain ⟨name, hstep⟩ := step_of_expanded depth hcommands
        rw [hstep, hstep, handedOn_of_expanded hcommands, if_neg hlt]
        rfl
      · rw [handedOn_of_not_expanded (not_exists.mp hexpanded)]
        exact (step_of_not_expanded (not_exists.mp hexpanded)).trans Trace.andThen_of_nil.symm

end Scene

end ChatCommands
