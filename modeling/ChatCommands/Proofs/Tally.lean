import ChatCommands.Proofs.Agenda
import ChatCommands.Proofs.Unfolding

/-!
# ChatCommands.Proofs.Tally

What every step of a dispatch adds to it, and what that comes to in all.

1. A step whose text calls a registered command has exactly one effect: the
   denial, the parse fault or the job (`Scene.Answers`).
2. Any other step has none.
3. A step asks for a macro exactly if its text calls a name that is not
   registered, and then once.

`Scene.Reacts` says all this of the events of one step, and `Scene.reacts_opening`
proves it of openings.  So the messages and jobs of a dispatch are as many as
its calls of registered commands.  The surroundings may change from step to
step, as in `ChatCommands.Proofs.Agenda`; whether a text calls a command is
asked in the scene that it is taken up in (`Scene.takenUp`).
-/

namespace ChatCommands

variable {τ : Type}

namespace Trace

/-- Effects are messages and jobs. -/
theorem length_effects (t : Trace τ) : t.effects.length = t.messages.length + t.jobs.length := by
  obtain ⟨events, aborted⟩ := t
  simp only [effects, messages, jobs]
  induction events with
  | nil => rfl
  | cons e es ih =>
      cases e <;> simp only [List.filter_cons, List.filterMap_cons, Event.isEffect] <;>
        simp [ih] <;> omega

/-- Taking a text up is no effect. -/
theorem effects_of_events {t : Trace τ} {depth : Nat} {text : String} {own : List (Event τ)}
    (h : t.events = .step depth text :: own) : t.effects = (of own).effects := by
  rw [effects, h]
  rfl

/-- Taking a text up is no question. -/
theorem macrosAsked_of_events {t : Trace τ} {depth : Nat} {text : String} {own : List (Event τ)}
    (h : t.events = .step depth text :: own) : t.macrosAsked = (of own).macrosAsked := by
  rw [macrosAsked, lookups, h]
  rfl

end Trace

namespace Scene

variable {s : Scene τ} {around : List (Event τ) → Host} {past own : List (Event τ)}
  {agenda : List (Nat × String)} {depth : Nat} {text name : String} {schema : Schema τ}
  {t : Trace τ}

/-! ## what one step adds -/

/-- The one effect of a call of a registered command. -/
inductive Answers (s : Scene τ) (schema : Schema τ) (text : String) : List (Event τ) → Prop
  /-- The user may not run the command, and is told so. -/
  | denied
      (hdenied : (Permission.check s.host schema.requirement s.server s.user).allowed = false) :
      Answers s schema text [.sent s.channel s.settings.deniedMessage]
  /-- The arguments do not fit the command, and the user is told why. -/
  | misread {fault : ParseFault}
      (hallowed : (Permission.check s.host schema.requirement s.server s.user).allowed = true)
      (hmatch : (matchText s.host.toDirectory s.server schema text s.settings.marker).result =
        .error (.parse fault)) :
      Answers s schema text [.sent s.channel (s.settings.parseErrorLead ++ fault.message)]
  /-- The task is handed on with the arguments. -/
  | invoked {bag : Bag}
      (hallowed : (Permission.check s.host schema.requirement s.server s.user).allowed = true)
      (hmatch : (matchText s.host.toDirectory s.server schema text s.settings.marker).result =
        .ok bag) :
      Answers s schema text [.submitted ⟨schema, bag, s.user, s.channel, s.server⟩]

/-- What a step that takes a text up does of its own. -/
structure Reacts (s : Scene τ) (text : String) (own : List (Event τ)) : Prop where
  /-- A call of a registered command has one effect. -/
  registered : ∀ name schema, s.Calls text name → s.registry.get? name = some schema →
    s.Answers schema text (Trace.of own).effects
  /-- Any other text has none. -/
  other : (∀ name schema, s.Calls text name → s.registry.get? name ≠ some schema) →
    (Trace.of own).effects = []
  /-- A name that is not registered is asked for once, if there are macros at all. -/
  asked : ∀ name, s.Calls text name → s.registry.get? name = none →
    s.host.macros?.isSome = true → (Trace.of own).macrosAsked = [.macroBody s.server name]
  /-- Nothing else is asked for. -/
  notAsked : (∀ name, s.Calls text name → s.registry.get? name ≠ none) ∨
    s.host.macros? = none → (Trace.of own).macrosAsked = []

/-- A call that is not broken off is answered: it is denied, it does not fit, or it becomes a
job. -/
theorem answers_effect {next : List String → Trace τ}
    (hgoes : (s.effect next (s.answer schema text)).aborted = false) :
    s.Answers schema text (s.effect next (s.answer schema text)).effects := by
  unfold answer invocation at hgoes ⊢
  cases hallowed : (Permission.check s.host schema.requirement s.server s.user).allowed with
  | false => exact .denied hallowed
  | true =>
      cases hmatch :
          (matchText s.host.toDirectory s.server schema text s.settings.marker).result with
      | ok bag => exact .invoked hallowed hmatch
      | error fault =>
          cases fault with
          | parse fault => exact .misread hallowed hmatch
          | overlongNumeral => simp [hallowed, hmatch, effect] at hgoes

/-- A name that is not registered has no effect of its own. -/
theorem effects_effect_unfolding {next : List String → Trace τ}
    (hnext : ∀ commands, (next commands).effects = []) :
    (s.effect next (s.unfolding name text)).effects = [] := by
  unfold unfolding
  split
  · rfl
  · split
    · rfl
    · exact hnext _

/-- An opening comes to what its reaction does. -/
theorem opening_outcome (s : Scene τ) (depth : Nat) (text : String) :
    ∃ next : List String → Trace τ, (∀ commands, (next commands).effects = []) ∧
      Trace.SameOutcome (s.opening depth text) (s.effect next (s.reaction text)) := by
  obtain ⟨on, hout⟩ := s.step_outcome depth text fun on _ =>
    if s.settings.maxMacroDepth ≤ depth then .of [.noted (.tooDeep on s.settings.maxMacroDepth)]
    else .nil
  refine ⟨_, fun commands => ?_, hout⟩
  split <;> rfl

/-- A call of a registered command is answered in its opening. -/
theorem answers_opening (h : s.Calls text name) (hget : s.registry.get? name = some schema)
    (hgoes : (s.opening depth text).aborted = false) :
    s.Answers schema text (s.opening depth text).effects := by
  obtain ⟨next, -, hout⟩ := s.opening_outcome depth text
  rw [reaction_of_registered h hget] at hout
  rw [hout.effects]
  exact answers_effect (hout.aborted ▸ hgoes)

/-- Without such a call an opening has no effect. -/
theorem effects_opening_of_not_registered
    (h : ∀ name schema, s.Calls text name → s.registry.get? name ≠ some schema) :
    (s.opening depth text).effects = [] := by
  obtain ⟨next, hnext, hout⟩ := s.opening_outcome depth text
  rw [hout.effects]
  rcases s.reaction_cases text with h' | ⟨name, schema, hcalls, hget, -⟩ | ⟨name, -, -, h'⟩
  · rw [h']
    rfl
  · exact absurd hget (h name schema hcalls)
  · rw [h']
    exact effects_effect_unfolding hnext

/-- **One step**: what an opening does is a reaction to its text. -/
theorem reacts_opening (hgoes : (s.opening depth text).aborted = false)
    (hown : (s.opening depth text).events = .step depth text :: own) : s.Reacts text own := by
  have hquiet (on : Occasion) (commands : List String) : Trace.macrosAsked (τ := τ)
      (if s.settings.maxMacroDepth ≤ depth then
        .of [.noted (.tooDeep on s.settings.maxMacroDepth)] else .nil) = [] := by
    split <;> rfl
  constructor
  · intro name schema hcalls hget
    rw [← Trace.effects_of_events hown]
    exact answers_opening hcalls hget hgoes
  · intro h
    rw [← Trace.effects_of_events hown]
    exact effects_opening_of_not_registered h
  · intro name hcalls hget hmacros
    rw [← Trace.macrosAsked_of_events hown, opening,
      macrosAsked_step_of_unregistered depth hcalls hget hquiet, if_pos hmacros]
  · intro h
    rw [← Trace.macrosAsked_of_events hown, opening]
    by_cases hnew : ∃ name, s.Calls text name ∧ s.registry.get? name = none
    · obtain ⟨name, hcalls, hget⟩ := hnew
      have hmacros : s.host.macros? = none := h.resolve_left fun h => h name hcalls hget
      rw [macrosAsked_step_of_unregistered depth hcalls hget hquiet, hmacros]
      rfl
    · exact macrosAsked_step_of_not_unregistered depth fun name hcalls hget =>
        hnew ⟨name, hcalls, hget⟩

/-! ## what it comes to -/

/-- The texts that are taken up in the course of some events, each with the scene of that time. -/
def takenUp (s : Scene τ) (around : List (Event τ) → Host) :
    (past events : List (Event τ)) → List (Scene τ × String)
  | _, [] => []
  | past, .step depth text :: es =>
    (s.amid (around past), text) :: takenUp s around (past ++ [.step depth text]) es
  | past, e :: es => takenUp s around (past ++ [e]) es

/-- Whether a text calls a registered command. -/
def callsRegistered (s : Scene τ) (text : String) : Bool :=
  !s.host.isAutomated s.user &&
    ((commandName? text s.settings.marker).bind s.registry.get?).isSome

theorem callsRegistered_iff : s.callsRegistered text = true ↔
    ∃ name schema, s.Calls text name ∧ s.registry.get? name = some schema := by
  simp only [callsRegistered, Calls, Bool.and_eq_true, Bool.not_eq_true', Option.isSome_iff_exists,
    Option.bind_eq_some_iff]
  constructor
  · rintro ⟨hauto, schema, name, hname, hget⟩
    exact ⟨name, schema, ⟨hauto, hname⟩, hget⟩
  · rintro ⟨name, schema, ⟨hauto, hname⟩, hget⟩
    exact ⟨hauto, schema, name, hname, hget⟩

/-- A call has one answer. -/
theorem Answers.length_eq_one {es : List (Event τ)} (h : s.Answers schema text es) :
    es.length = 1 := by
  cases h <;> rfl

/-- An opening has one effect if it calls a registered command, and none otherwise. -/
theorem length_effects_opening (hgoes : (s.opening depth text).aborted = false) :
    (s.opening depth text).effects.length = if s.callsRegistered text then 1 else 0 := by
  cases hcalls : s.callsRegistered text with
  | true =>
      obtain ⟨name, schema, hcalls, hget⟩ := callsRegistered_iff.mp hcalls
      exact (answers_opening hcalls hget hgoes).length_eq_one
  | false =>
      rw [effects_opening_of_not_registered]
      · rfl
      · intro name schema h hget
        have := callsRegistered_iff.mpr ⟨name, schema, h, hget⟩
        simp [hcalls] at this

/-- Texts are taken up one after another, each with what was done before it. -/
theorem takenUp_append (es es' : List (Event τ)) : s.takenUp around past (es ++ es') =
    s.takenUp around past es ++ s.takenUp around (past ++ es) es' := by
  induction es generalizing past with
  | nil => simp [takenUp]
  | cons e es ih => cases e <;> simp [takenUp, ih]

/-- Nothing is taken up among events without steps. -/
theorem takenUp_of_stepsOf_eq_nil {es : List (Event τ)} (h : stepsOf es = []) :
    s.takenUp around past es = [] := by
  induction es generalizing past with
  | nil => rfl
  | cons e es ih => cases e <;> simp_all [takenUp, stepsOf]

/-- An opening takes up its text, in the surroundings that it starts with. -/
theorem takenUp_opening (s' : Scene τ) : s.takenUp around past (s'.opening depth text).events =
    [(s.amid (around past), text)] := by
  obtain ⟨own, heq, hown⟩ := s'.exists_events_opening depth text
  rw [heq, takenUp, takenUp_of_stepsOf_eq_nil hown]

/-- There are as many effects as calls of registered commands.  The induction is on the run, one
opening after another. -/
theorem Runs.length_effects (h : s.Runs around past agenda t) (hreturns : t.aborted = false) :
    t.effects.length =
      (s.takenUp around past t.events).countP fun c => c.1.callsRegistered c.2 := by
  induction h with
  | done => rfl
  | broken hbroken => exact absurd (hbroken.symm.trans hreturns) Bool.false_ne_true.symm
  | @take past depth text rest t hgoes hr ih =>
      rw [Trace.aborted_andThen, hgoes, Bool.false_or] at hreturns
      rw [Trace.effects_andThen, Trace.events_andThen, hgoes, if_neg Bool.false_ne_true,
        if_neg Bool.false_ne_true, List.length_append, length_effects_opening hgoes, ih hreturns,
        takenUp_append, takenUp_opening, List.countP_append, List.countP_singleton]

/-- Messages go to the channel that the text came from. -/
theorem channel_of_sent_mem_opening {channel : Channel} {message : String}
    (h : .sent channel message ∈ (s.opening depth text).events) : channel = s.channel := by
  obtain ⟨next, hnext, hout⟩ := s.opening_outcome depth text
  have hmem : .sent channel message ∈ (s.effect next (s.reaction text)).effects := by
    rw [← hout.effects]
    exact List.mem_filter.mpr ⟨h, rfl⟩
  cases hreaction : s.reaction text with
  | expanded commands => simp [hreaction, effect, hnext] at hmem
  | _ => simp_all [effect, Trace.effects, Trace.nil, Event.isEffect]

/-- Every message goes to the channel of the scene. -/
theorem Runs.channel_of_sent_mem (h : s.Runs around past agenda t) {channel : Channel}
    {message : String} (hmem : .sent channel message ∈ t.events) : channel = s.channel := by
  induction h with
  | done => simp [Trace.nil] at hmem
  | @broken past depth text rest hbroken =>
      exact channel_of_sent_mem_opening (s := s.amid (around past)) hmem
  | @take past depth text rest t hgoes hr ih =>
      rw [Trace.events_andThen, hgoes, if_neg Bool.false_ne_true] at hmem
      rcases List.mem_append.mp hmem with hmem | hmem
      · exact channel_of_sent_mem_opening (s := s.amid (around past)) hmem
      · exact ih hmem

/-- **One effect for each call**: in a dispatch that is not broken off, even if the surroundings
change on the way, every step reacts to its text with the events up to the next step.  So it has
the one effect of a registered command if its text calls one, and otherwise none, and it asks for
a macro once if its text calls a name that is not registered, and otherwise for none.  In all there
are as many messages and jobs as calls of registered commands, and every message goes to the
channel of the dispatch. -/
theorem one_effect_per_call (s : Scene τ) (text : String) :
    s.Runs (fun _ => s.host) [] [(0, text)] (s.dispatch text) ∧
    ∀ around t, s.Runs around [] [(0, text)] t → t.aborted = false →
      (∀ before depth text' after, t.events = before ++ .step depth text' :: after →
        ∃ own later, after = own ++ later ∧ stepsOf own = [] ∧
          (∀ e ∈ later.head?, ∃ depth' text'', e = .step depth' text'') ∧
          (s.amid (around before)).Reacts text' own) ∧
      t.messages.length + t.jobs.length =
        ((s.takenUp around [] t.events).countP fun c => c.1.callsRegistered c.2) ∧
      ∀ channel message, .sent channel message ∈ t.events → channel = s.channel := by
  refine ⟨s.runs_dispatch text, fun around t ht hreturns => ⟨?_, ?_, ?_⟩⟩
  · intro before depth text' after hsplit
    obtain ⟨own, later, rfl, hopening, hbroken, hlater⟩ := ht.exists_opening hsplit
    obtain ⟨more, heq, hmore⟩ := (s.amid (around before)).exists_events_opening depth text'
    obtain rfl : more = own := (List.cons_eq_cons.mp (heq.symm.trans hopening)).2
    have hgoes : ((s.amid (around before)).opening depth text').aborted = false := by
      rw [← Bool.not_eq_true]
      exact fun h => Bool.false_ne_true (hreturns.symm.trans (hbroken h))
    exact ⟨more, later, rfl, hmore, hlater, reacts_opening hgoes heq⟩
  · rw [← Trace.length_effects]
    exact ht.length_effects hreturns
  · exact fun channel message => ht.channel_of_sent_mem

/-- A macro for a denial, a parse fault, itself and a job: three effects for five steps, and each
is where its call is. -/
theorem effects_of_mixed_macro :
    ((mixedScene.bounded 1).dispatch "!m").aborted = false ∧
    ((mixedScene.bounded 1).dispatch "!m").messages.length = 2 ∧
    ((mixedScene.bounded 1).dispatch "!m").jobs.length = 1 ∧
    (((mixedScene.bounded 1).takenUp (fun _ => (mixedScene.bounded 1).host) []
      ((mixedScene.bounded 1).dispatch "!m").events).countP fun c => c.1.callsRegistered c.2) = 3 ∧
    (∃ own later, ((mixedScene.bounded 1).dispatch "!m").events.drop 10 = own ++ later ∧
      stepsOf own = [] ∧ (mixedScene.bounded 1).Reacts "!n x" own) ∧
    ∀ channel message, .sent channel message ∈ ((mixedScene.bounded 1).dispatch "!m").events →
      channel = mixedScene.channel := by
  have hreturns : ((mixedScene.bounded 1).dispatch "!m").aborted = false := by decide
  obtain ⟨hruns, hall⟩ := one_effect_per_call (mixedScene.bounded 1) "!m"
  obtain ⟨hsteps, hcount, hchannel⟩ := hall _ _ hruns hreturns
  obtain ⟨own, later, hafter, hown, -, hreacts⟩ :=
    hsteps (((mixedScene.bounded 1).dispatch "!m").events.take 9) 1 "!n x"
      (((mixedScene.bounded 1).dispatch "!m").events.drop 10) rfl
  exact ⟨hreturns, rfl, rfl, hcount.symm, ⟨own, later, hafter, hown, hreacts⟩, hchannel⟩

end Scene

end ChatCommands
