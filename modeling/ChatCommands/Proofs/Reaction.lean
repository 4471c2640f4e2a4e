import ChatCommands.Proofs.Trace

/-!
# ChatCommands.Proofs.Reaction

What a dispatch does about one text, without the questions and notices on the
way: nothing, one message, one job, the commands of a macro, or breaking off.
`Scene.reaction` says which, and `Scene.step_eq` is the one lemma on
`Scene.step`: a step is quiet up to and after the effect of the reaction.
-/

namespace ChatCommands

variable {τ : Type}

/-- What becomes of a text. -/
inductive Reaction (τ : Type) where
  /-- It is ignored. -/
  | ignored
  /-- The user may not run the command. -/
  | denied (schema : Schema τ)
  /-- The arguments do not fit the command. -/
  | misread (schema : Schema τ) (fault : ParseFault)
  /-- An integer with too many digits breaks the dispatch off. -/
  | broken
  /-- The task of the command is to be run. -/
  | invoked (job : Job τ)
  /-- The text stands for the commands of a macro. -/
  | expanded (commands : List String)

namespace Scene

variable (s : Scene τ)

/-- What becomes of the text of a command that the user may run. -/
def invocation (schema : Schema τ) (text : String) : Reaction τ :=
  match (matchText s.host.toDirectory s.server schema text s.settings.marker).result with
  | .error .overlongNumeral => .broken
  | .error (.parse fault) => .misread schema fault
  | .ok bag => .invoked ⟨schema, bag, s.user, s.channel, s.server⟩

/-- What becomes of the text of a registered command. -/
def answer (schema : Schema τ) (text : String) : Reaction τ :=
  if (Permission.check s.host schema.requirement s.server s.user).allowed then
    s.invocation schema text
  else .denied schema

/-- The macro body of a name. -/
def macroBody? (name : String) : Option String :=
  s.host.macros?.bind fun resolve => resolve s.server name

/-- What becomes of a text whose name is not registered. -/
def unfolding (name text : String) : Reaction τ :=
  match s.macroBody? name with
  | none => .ignored
  | some body =>
    match Macro.expand? body (Token.arguments text) s.user.id with
    | none => .broken
    | some commands => .expanded commands

/-- What becomes of a text. -/
def reaction (text : String) : Reaction τ :=
  if s.host.isAutomated s.user then .ignored
  else
    match commandName? text s.settings.marker with
    | none => .ignored
    | some name =>
      match s.registry.get? name with
      | some schema => s.answer schema text
      | none => s.unfolding name text

/-- What a reaction does; `next` takes the commands of a macro. -/
def effect (next : List String → Trace τ) : Reaction τ → Trace τ
  | .ignored => .nil
  | .denied _ => .of [.sent s.channel s.settings.deniedMessage]
  | .misread _ fault => .of [.sent s.channel (s.settings.parseErrorLead ++ fault.message)]
  | .broken => .abort []
  | .invoked job => .of [.submitted job]
  | .expanded commands => next commands

/-! ## which reaction it is -/

section

variable {s} {text name : String} {schema : Schema τ} {job : Job τ} {commands : List String}

/-- The user is no automated sender, and the text is a command of this name. -/
def Calls (s : Scene τ) (text name : String) : Prop :=
  s.host.isAutomated s.user = false ∧ commandName? text s.settings.marker = some name

/-- A call of a registered command is answered. -/
theorem reaction_of_registered (h : s.Calls text name) (hget : s.registry.get? name = some schema) :
    s.reaction text = s.answer schema text := by
  simp [reaction, h.1, h.2, hget]

/-- A call of another name is taken for a macro. -/
theorem reaction_of_unregistered (h : s.Calls text name) (hget : s.registry.get? name = none) :
    s.reaction text = s.unfolding name text := by
  simp [reaction, h.1, h.2, hget]

/-- A text that is not ignored calls a name, registered or not. -/
theorem reaction_cases (s : Scene τ) (text : String) :
    s.reaction text = .ignored ∨
    (∃ name schema, s.Calls text name ∧ s.registry.get? name = some schema ∧
      s.reaction text = s.answer schema text) ∨
    ∃ name, s.Calls text name ∧ s.registry.get? name = none ∧
      s.reaction text = s.unfolding name text := by
  cases hauto : s.host.isAutomated s.user with
  | true => exact .inl (by simp [reaction, hauto])
  | false =>
      cases hname : commandName? text s.settings.marker with
      | none => exact .inl (by simp [reaction, hauto, hname])
      | some name =>
          cases hget : s.registry.get? name with
          | some schema =>
              have h : s.Calls text name := ⟨hauto, hname⟩
              exact .inr (.inl ⟨name, schema, h, hget, reaction_of_registered h hget⟩)
          | none =>
              have h : s.Calls text name := ⟨hauto, hname⟩
              exact .inr (.inr ⟨name, h, hget, reaction_of_unregistered h hget⟩)

/-- A call becomes a job exactly if the user may run the command and the tokens fit it. -/
theorem answer_eq_invoked_iff :
    s.answer schema text = .invoked job ↔
      (Permission.check s.host schema.requirement s.server s.user).allowed = true ∧
      ∃ bag, (matchText s.host.toDirectory s.server schema text s.settings.marker).result =
        .ok bag ∧ ⟨schema, bag, s.user, s.channel, s.server⟩ = job := by
  unfold answer invocation
  split
  · next hallowed => split <;> simp_all
  · next hdenied => simp [hdenied]

/-- A call breaks off exactly if the user may run the command and a numeral is too long to be
read. -/
theorem answer_eq_broken_iff :
    s.answer schema text = .broken ↔
      (Permission.check s.host schema.requirement s.server s.user).allowed = true ∧
      (matchText s.host.toDirectory s.server schema text s.settings.marker).result =
        .error .overlongNumeral := by
  unfold answer invocation
  split
  · next hallowed => split <;> simp_all
  · next hdenied => simp [hdenied]

/-- A registered command is never taken for a macro. -/
theorem answer_ne_expanded : s.answer schema text ≠ .expanded commands := by
  unfold answer invocation
  split
  · split <;> simp
  · simp

/-- A macro is no job by itself. -/
theorem unfolding_ne_invoked : s.unfolding name text ≠ .invoked job := by
  unfold unfolding
  split
  · simp
  · split <;> simp

/-- A macro breaks off exactly if it is there and cannot be expanded. -/
theorem unfolding_eq_broken_iff :
    s.unfolding name text = .broken ↔ ∃ body, s.macroBody? name = some body ∧
      Macro.expand? body (Token.arguments text) s.user.id = none := by
  unfold unfolding
  split
  · next hbody => simp [hbody]
  · next body hbody => split <;> simp_all

/-- A macro hands on the commands that its body is expanded to. -/
theorem unfolding_eq_expanded_iff :
    s.unfolding name text = .expanded commands ↔ ∃ body, s.macroBody? name = some body ∧
      Macro.expand? body (Token.arguments text) s.user.id = some commands := by
  unfold unfolding
  split
  · next hbody => simp [hbody]
  · next body hbody => split <;> simp_all

/-- A job is one of the command that the text calls. -/
theorem reaction_eq_invoked_iff :
    s.reaction text = .invoked job ↔ ∃ name schema, s.Calls text name ∧
      s.registry.get? name = some schema ∧ s.answer schema text = .invoked job := by
  constructor
  · intro h
    rcases reaction_cases s text with h' | ⟨name, schema, hcalls, hget, h'⟩ | ⟨name, -, -, h'⟩
    · simp [h'] at h
    · exact ⟨name, schema, hcalls, hget, h'.symm.trans h⟩
    · exact absurd (h'.symm.trans h) unfolding_ne_invoked
  · intro h
    obtain ⟨name, schema, hcalls, hget, h⟩ := h
    rw [reaction_of_registered hcalls hget, h]

/-- A text breaks off with the command that it calls, or with the macro. -/
theorem reaction_eq_broken_iff :
    s.reaction text = .broken ↔ ∃ name, s.Calls text name ∧
      ((∃ schema, s.registry.get? name = some schema ∧ s.answer schema text = .broken) ∨
        s.registry.get? name = none ∧ s.unfolding name text = .broken) := by
  constructor
  · intro h
    rcases reaction_cases s text with h' | ⟨name, schema, hcalls, hget, h'⟩ |
      ⟨name, hcalls, hget, h'⟩
    · simp [h'] at h
    · exact ⟨name, hcalls, .inl ⟨schema, hget, h'.symm.trans h⟩⟩
    · exact ⟨name, hcalls, .inr ⟨hget, h'.symm.trans h⟩⟩
  · intro h
    rcases h with ⟨name, hcalls, ⟨schema, hget, h⟩ | ⟨hget, h⟩⟩
    · rw [reaction_of_registered hcalls hget, h]
    · rw [reaction_of_unregistered hcalls hget, h]

/-- Commands are those of the macro that the text calls. -/
theorem reaction_eq_expanded_iff :
    s.reaction text = .expanded commands ↔ ∃ name, s.Calls text name ∧
      s.registry.get? name = none ∧ s.unfolding name text = .expanded commands := by
  constructor
  · intro h
    rcases reaction_cases s text with h' | ⟨name, schema, -, -, h'⟩ | ⟨name, hcalls, hget, h'⟩
    · simp [h'] at h
    · exact absurd (h'.symm.trans h) answer_ne_expanded
    · exact ⟨name, hcalls, hget, h'.symm.trans h⟩
  · intro h
    obtain ⟨name, hcalls, hget, h⟩ := h
    rw [reaction_of_unregistered hcalls hget, h]

end

/-! ## the step -/

section

variable {s} {text name : String} {schema : Schema τ} {next : Occasion → List String → Trace τ}

/-- A step takes its text up and asks about the sender; if the text calls nothing, that is all. -/
theorem step_of_not_calls (depth : Nat) (h : ∀ name, ¬s.Calls text name) :
    s.step depth text next = .of [.step depth text, .asked (.automated s.user)] := by
  unfold step
  cases hauto : s.host.isAutomated s.user with
  | true => rfl
  | false =>
      cases hname : commandName? text s.settings.marker with
      | none => rfl
      | some name => exact absurd ⟨hauto, hname⟩ (h name)

/-- A step for a registered command asks who is there, and runs the command. -/
theorem step_of_registered (depth : Nat) (h : s.Calls text name)
    (hget : s.registry.get? name = some schema) :
    s.step depth text next = (Trace.of [.step depth text, .asked (.automated s.user)]).andThen
      fun _ => s.command schema text (s.occasion name depth) := by
  simp [step, h.1, h.2, hget]

/-- A step for another name asks who is there, and expands the macro. -/
theorem step_of_unregistered (depth : Nat) (h : s.Calls text name)
    (hget : s.registry.get? name = none) :
    s.step depth text next = (Trace.of [.step depth text, .asked (.automated s.user)]).andThen
      fun _ => s.expansion name text (next (s.occasion name depth)) := by
  simp [step, h.1, h.2, hget]

/-- However many levels are left, a dispatch begins as a step. -/
theorem exists_dispatchFrom_eq_step (s : Scene τ) (remaining depth : Nat) (text : String) :
    ∃ next, s.dispatchFrom remaining depth text = s.step depth text next := by
  cases remaining with
  | zero => exact ⟨_, rfl⟩
  | succ n => exact ⟨_, rfl⟩

end

/-- What a command that the user may run does is quiet up to and after the effect. -/
theorem invoke_eq (schema : Schema τ) (text : String) (on : Occasion)
    (next : List String → Trace τ) :
    ∃ before after, Quiet before ∧ Quiet after ∧ s.invoke schema text on =
      (Trace.of before).andThen fun _ =>
        (s.effect next (s.invocation schema text)).andThen fun _ => .of after := by
  unfold invoke invocation
  cases matchText s.host.toDirectory s.server schema text s.settings.marker with
  | mk result lookups surplus =>
  have hasked := quiet_asked (τ := τ) lookups
  cases result with
  | error fault =>
      cases fault with
      | overlongNumeral => exact ⟨_, [], hasked, quiet_nil, rfl⟩
      | parse fault =>
          refine ⟨lookups.map .asked ++ [.noted (.parseFailed on fault.message)], [],
            quiet_append.mpr ⟨hasked, quiet_cons.mpr ⟨rfl, quiet_nil⟩⟩, quiet_nil, ?_⟩
          simp [Trace.asking, Trace.of_andThen, effect]
  | ok bag =>
      refine ⟨lookups.map .asked ++ if surplus = 0 then [] else [.noted (.surplus surplus)],
        [.noted (.submitted on bag.size)], quiet_append.mpr ⟨hasked, ?_⟩,
        quiet_cons.mpr ⟨rfl, quiet_nil⟩, ?_⟩
      · split
        · exact quiet_nil
        · exact quiet_cons.mpr ⟨rfl, quiet_nil⟩
      · simp [Trace.asking, Trace.of_andThen, effect]

/-- What a registered command does is quiet up to and after the effect. -/
theorem command_eq (schema : Schema τ) (text : String) (on : Occasion)
    (next : List String → Trace τ) :
    ∃ before after, Quiet before ∧ Quiet after ∧ s.command schema text on =
      (Trace.of before).andThen fun _ =>
        (s.effect next (s.answer schema text)).andThen fun _ => .of after := by
  unfold command answer
  cases Permission.check s.host schema.requirement s.server s.user with
  | mk allowed lookups =>
  have hasked := quiet_asked (τ := τ) lookups
  cases allowed with
  | true =>
      obtain ⟨before, after, hbefore, hafter, heq⟩ := s.invoke_eq schema text on next
      refine ⟨lookups.map .asked ++ before, after, quiet_append.mpr ⟨hasked, hbefore⟩, hafter, ?_⟩
      simp [heq, Trace.asking, Trace.of_andThen]
  | false =>
      refine ⟨lookups.map .asked ++ [.noted (.refused s.user.id schema.name), .noted (.denied on)],
        [], quiet_append.mpr ⟨hasked, ?_⟩, quiet_nil, ?_⟩
      · exact quiet_cons.mpr ⟨rfl, quiet_cons.mpr ⟨rfl, quiet_nil⟩⟩
      · simp [Trace.asking, Trace.of_andThen, deny, effect]

/-- What a name that is not registered does is quiet up to the effect. -/
theorem expansion_eq (name text : String) (next : List String → Trace τ) :
    ∃ before, Quiet before ∧ s.expansion name text next =
      (Trace.of before).andThen fun _ => s.effect next (s.unfolding name text) := by
  unfold expansion unfolding macroBody?
  cases s.host.macros? with
  | none => exact ⟨[], quiet_nil, rfl⟩
  | some resolve =>
      have hasked : Quiet (τ := τ) [.asked (.macroBody s.server name)] :=
        quiet_asked [.macroBody s.server name]
      rw [Option.bind_some]
      cases hbody : resolve s.server name with
      | none => exact ⟨_, hasked, by simp [hbody, effect, Trace.asking]⟩
      | some body =>
          cases hcommands : Macro.expand? body (Token.arguments text) s.user.id with
          | none => exact ⟨_, hasked, by simp [hbody, hcommands, effect, Trace.asking]⟩
          | some commands =>
              refine ⟨[.asked (.macroBody s.server name), .noted (.expanded name commands.length)],
                quiet_cons.mpr ⟨rfl, quiet_cons.mpr ⟨rfl, quiet_nil⟩⟩, ?_⟩
              simp [hbody, hcommands, effect, Trace.asking, Trace.of_andThen]

/-- **The step**: it takes the text up, is quiet, has the effect of the reaction, and is quiet
again. -/
theorem step_eq (depth : Nat) (text : String) (next : Occasion → List String → Trace τ) :
    ∃ on before after, Quiet before ∧ Quiet after ∧ s.step depth text next =
      (Trace.of (.step depth text :: before)).andThen fun _ =>
        (s.effect (next on) (s.reaction text)).andThen fun _ => .of after := by
  unfold step reaction
  have hasked : Quiet (τ := τ) [.asked (.automated s.user)] := quiet_asked [.automated s.user]
  cases s.host.isAutomated s.user with
  | true => exact ⟨s.occasion "" depth, _, [], hasked, quiet_nil, rfl⟩
  | false =>
    cases commandName? text s.settings.marker with
    | none => exact ⟨s.occasion "" depth, _, [], hasked, quiet_nil, rfl⟩
    | some name =>
      refine ⟨s.occasion name depth, ?_⟩
      cases hget : s.registry.get? name with
      | some schema =>
          obtain ⟨before, after, hbefore, hafter, heq⟩ :=
            s.command_eq schema text (s.occasion name depth) (next (s.occasion name depth))
          refine ⟨_ :: before, after, quiet_append.mpr ⟨hasked, hbefore⟩, hafter, ?_⟩
          simp [hget, heq, Trace.of_andThen]
      | none =>
          obtain ⟨before, hbefore, heq⟩ :=
            s.expansion_eq name text (next (s.occasion name depth))
          refine ⟨_ :: before, [], quiet_append.mpr ⟨hasked, hbefore⟩, quiet_nil, ?_⟩
          simp [hget, heq, Trace.of_andThen, Trace.andThen_of_nil]

end Scene

end ChatCommands
