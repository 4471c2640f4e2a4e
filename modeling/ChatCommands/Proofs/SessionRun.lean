import ChatCommands.Proofs.History
import ChatCommands.Session

/-!
# ChatCommands.Proofs.SessionRun

Registries in the course of a session.  Of all steps of a session only starts
and registrations concern a registry, and only those of the interpreters that
use it (`Session.operation?`).  One step does to a registry what that operation
does (`Session.registryOf_step`), so after any steps it is the registry of
their history (`Session.registryOf_after`).
-/

namespace ChatCommands

/-- A registration that is refused is an error of setting up. -/
theorem RegistrationFault.sort_failure (fault : RegistrationFault) :
    fault.failure.sort = .configuration := by
  cases fault
  rfl

namespace Session

variable {s : Session} {position : Nat}

/-- A session after some steps. -/
def after (s : Session) (steps : List SessionStep) : Session :=
  steps.foldl (fun s step => (s.step step).1) s

/-- The answers to some steps, in order. -/
def answers : Session → List SessionStep → List SessionAnswer
  | _, [] => []
  | s, step :: steps => (s.step step).2 :: answers (s.step step).1 steps

/-- What a step does to the registry of an interpreter, if it concerns it. -/
def operation? (s : Session) (position : Nat) : SessionStep → Option (Registry.Operation Task)
  | .start p => if s.registryIndex p = s.registryIndex position then some .activate else none
  | .register p name steps =>
    if s.registryIndex p = s.registryIndex position then
      match Builder.declare name steps with
      | .ok schema => some (.register schema)
      | .error _ => none
    else none
  | _ => none

/-- What some steps do to the registry of an interpreter. -/
def history (s : Session) (position : Nat) (steps : List SessionStep) :
    List (Registry.Operation Task) :=
  steps.filterMap (s.operation? position)

/-! ## one step -/

/-- Every interpreter keeps its settings and its registry's place. -/
theorem interpreters_step (s : Session) (step : SessionStep) :
    (s.step step).1.interpreters = s.interpreters := by
  cases step with
  | register p name steps =>
      simp only [Session.step, register]
      split
      · rfl
      · split <;> rfl
  | _ => rfl

/-- No step changes which registry an interpreter uses. -/
theorem registryIndex_step (s : Session) (step : SessionStep) (position : Nat) :
    (s.step step).1.registryIndex position = s.registryIndex position := by
  rw [registryIndex, registryIndex, interpreters_step]

/-- No step adds or drops a registry. -/
theorem length_registries_step (s : Session) (step : SessionStep) :
    (s.step step).1.registries.length = s.registries.length := by
  cases step with
  | start p => exact List.length_set
  | register p name steps =>
      simp only [Session.step, register]
      split
      · rfl
      · split
        · rfl
        · exact List.length_set
  | _ => rfl

/-- Interpreters with the same place share their registry. -/
theorem registryOf_congr {p : Nat} (h : s.registryIndex p = s.registryIndex position) :
    s.registryOf p = s.registryOf position := by
  rw [registryOf, registryOf, h]

/-- A registry is exchanged for all interpreters that share it, and for no others. -/
theorem registryOf_withRegistry (h : s.registryIndex position < s.registries.length) (p : Nat)
    (r : Registry Task) : (s.withRegistry p r).registryOf position =
      if s.registryIndex p = s.registryIndex position then r else s.registryOf position := by
  have hset : (s.withRegistry p r).registryOf position =
      ((s.registries.set (s.registryIndex p) r)[s.registryIndex position]?).getD .empty := rfl
  rw [hset, List.getElem?_set]
  split
  · next heq => simp [heq, h]
  · rfl

/-- A declared command is registered, or refused for the reason that the registry gives. -/
theorem step_register (s : Session) (p : Nat) {name : Datum} {steps : List (Step Task)}
    {schema : Schema Task} (hdeclare : Builder.declare name steps = .ok schema) :
    s.step (.register p name steps) =
      match (s.registryOf p).register schema with
      | .error fault => (s, { result := .unregistered fault })
      | .ok r => (s.withRegistry p r,
          { result := .done, notices := [(s.registryOf p).registrationNotice schema] }) := by
  cases h : (s.registryOf p).register schema <;> simp only [Session.step, register, hdeclare, h]

/-- Registering concerns the interpreters that share the registry. -/
theorem registryOf_step_register (h : s.registryIndex position < s.registries.length) (p : Nat)
    {name : Datum} {steps : List (Step Task)} {schema : Schema Task}
    (hdeclare : Builder.declare name steps = .ok schema) :
    (s.step (.register p name steps)).1.registryOf position =
      if s.registryIndex p = s.registryIndex position then
        (s.registryOf p).apply (.register schema)
      else s.registryOf position := by
  rw [step_register s p hdeclare, Registry.apply]
  cases (s.registryOf p).register schema with
  | error fault =>
      dsimp only
      split
      · next heq => exact (registryOf_congr heq).symm
      · rfl
  | ok r => exact registryOf_withRegistry h p r

/-- **One step**: a registry becomes what the operation of the step makes of it. -/
theorem registryOf_step (h : s.registryIndex position < s.registries.length)
    (step : SessionStep) : (s.step step).1.registryOf position =
      ((s.operation? position step).toList).foldl Registry.apply (s.registryOf position) := by
  cases step with
  | start p =>
      have hstep : (s.step (.start p)).1 = s.withRegistry p (s.registryOf p).activate := rfl
      rw [hstep, registryOf_withRegistry h, operation?]
      split
      · next heq =>
        rw [registryOf_congr heq]
        rfl
      · rfl
  | register p name steps =>
      rw [operation?]
      cases hdeclare : Builder.declare name steps with
      | error e =>
          have hstep : (s.step (.register p name steps)).1 = s := by
            rw [Session.step, register, hdeclare]
          rw [hstep]
          split <;> rfl
      | ok schema =>
          rw [registryOf_step_register h p hdeclare]
          split
          · next heq =>
            rw [registryOf_congr heq]
            rfl
          · rfl
  | _ => rfl

/-! ## runs -/

/-- What a step does to a registry does not depend on the steps before it. -/
theorem operation?_step (s : Session) (step : SessionStep) (position : Nat) :
    (s.step step).1.operation? position = s.operation? position := by
  funext other
  cases other <;> simp only [operation?, registryIndex_step]

/-- **Runs**: after some steps a registry is what their operations have made of it. -/
theorem registryOf_after (h : s.registryIndex position < s.registries.length)
    (steps : List SessionStep) : (s.after steps).registryOf position =
      (s.history position steps).foldl Registry.apply (s.registryOf position) := by
  induction steps generalizing s with
  | nil => rfl
  | cons step steps ih =>
      have hnext : (s.step step).1.registryIndex position < (s.step step).1.registries.length := by
        rwa [registryIndex_step, length_registries_step]
      have hhistory : s.history position (step :: steps) =
          (s.operation? position step).toList ++ s.history position steps := by
        simp only [history, List.filterMap_cons]
        cases s.operation? position step <;> rfl
      have hrest : (s.step step).1.history position steps = s.history position steps := by
        rw [history, operation?_step, history]
      show ((s.step step).1.after steps).registryOf position = _
      rw [ih hnext, hrest, registryOf_step h, hhistory, List.foldl_append]

/-- An interpreter uses the same registry all along. -/
theorem registryIndex_after (s : Session) (steps : List SessionStep) (position : Nat) :
    (s.after steps).registryIndex position = s.registryIndex position := by
  induction steps generalizing s with
  | nil => rfl
  | cons step steps ih => exact (ih _).trans (s.registryIndex_step step position)

/-- There are as many registries as in the beginning. -/
theorem length_registries_after (s : Session) (steps : List SessionStep) :
    (s.after steps).registries.length = s.registries.length := by
  induction steps generalizing s with
  | nil => rfl
  | cons step steps ih => exact (ih _).trans (s.length_registries_step step)

/-- The answer to a step is given in the session that the steps before it have left. -/
theorem getElem?_answers (s : Session) (earlier later : List SessionStep) (step : SessionStep) :
    (s.answers (earlier ++ step :: later))[earlier.length]? =
      some ((s.after earlier).step step).2 := by
  induction earlier generalizing s with
  | nil => rfl
  | cons other earlier ih => exact ih (s.step other).1

/-! ## sessions from their beginning -/

variable (world : World) {settings : List Settings} (shared : Bool)

/-- Interpreters share one registry, or each has its own. -/
theorem registryIndex_begin (h : position < settings.length) :
    (begin world settings shared).registryIndex position = if shared then 0 else position := by
  simp [registryIndex, begin, h]

/-- Every interpreter has a registry. -/
theorem registryIndex_begin_lt (h : position < settings.length) :
    (begin world settings shared).registryIndex position <
      (begin world settings shared).registries.length := by
  have hlength : (begin world settings shared).registries.length = settings.length :=
    List.length_map _
  rw [registryIndex_begin world shared h, hlength]
  split
  · exact Nat.zero_lt_of_lt h
  · exact h

/-- All registries are empty in the beginning. -/
theorem registryOf_begin (h : position < settings.length) :
    (begin world settings shared).registryOf position = .empty := by
  have hlt := registryIndex_begin_lt world shared h
  rw [registryOf, List.getElem?_eq_getElem hlt]
  simp [begin]

/-- After any steps of a session, every registry follows its history. -/
theorem follows_after_begin (h : position < settings.length) (steps : List SessionStep) :
    (((begin world settings shared).after steps).registryOf position).Follows
      ((begin world settings shared).history position steps) := by
  rw [registryOf_after (registryIndex_begin_lt world shared h), registryOf_begin world shared h]
  exact Registry.follows_after _

/-! ## what holds at every point -/

/-- Only a registration, and a start before which there was none, can change a registry. -/
theorem registryOf_step_of_reading {operations : List (Registry.Operation Task)}
    (h : s.registryIndex position < s.registries.length)
    (hfollows : (s.registryOf position).Follows operations) {step : SessionStep}
    (hregister : ∀ p name steps, step ≠ .register p name steps)
    (hstart : ∀ p, step = .start p → .activate ∈ operations) :
    (s.step step).1.registryOf position = s.registryOf position := by
  rw [registryOf_step h]
  cases step with
  | register p name steps => exact absurd rfl (hregister p name steps)
  | start p =>
      have hactive : (s.registryOf position).active = true :=
        hfollows.active_iff.mpr (hstart p rfl)
      have hagain : (s.registryOf position).activate = s.registryOf position := by
        rw [Registry.activate, ← hactive]
      rw [operation?]
      split
      · exact hagain
      · rfl
  | _ => rfl

/-- **Registries follow their history**: after any steps of a session, and so at every point of
a longer one, the following holds of the registry of every interpreter.

1. It is active exactly if there was a start; the command of a name is the one that was registered
   last under it; the names are in the order of their first registration.  The name of a command is
   the one that it stands under, and there are as many commands as names that were registered.
2. A registration is refused exactly if there was no start.  That is an error of setting up, and
   changes nothing at all in the session.
3. Any other step leaves the registry as it is, also a further start.
4. What an inspection shows is decided by the history up to then, whatever comes later. -/
theorem registry_follows_history (h : position < settings.length) (steps : List SessionStep) :
    let s := (begin world settings shared).after steps
    let operations := (begin world settings shared).history position steps
    let r := s.registryOf position
    (r.Follows operations ∧ (∀ entry ∈ r.commands.entries, entry.2.name = entry.1) ∧
      r.size = ((Registry.registered operations).map Schema.name).toFinset.card) ∧
    (∀ name declaration schema, Builder.declare name declaration = .ok schema →
      let outcome := s.step (.register position name declaration)
      ((∃ fault, outcome.2.result = .unregistered fault) ↔ .activate ∉ operations) ∧
      ∀ fault, outcome.2.result = .unregistered fault →
        fault.failure.sort = .configuration ∧ outcome.1 = s) ∧
    (∀ step, (∀ p name declaration, step ≠ .register p name declaration) →
      (∀ p, step = .start p → .activate ∈ operations) →
      (s.step step).1.registryOf position = r) ∧
    ∀ names later, ∃ view,
      (((begin world settings shared).answers
        (steps ++ .inspect position names :: later))[steps.length]?).map SessionAnswer.result =
          some (.registry view) ∧
      (view.active = true ↔ .activate ∈ operations) ∧
      view.size = ((Registry.registered operations).map Schema.name).toFinset.card ∧
      view.names = ((Registry.registered operations).map Schema.name).eraseDups ∧
      view.tooltips = names.map fun name =>
        (Registry.latest? operations name).map Schema.tooltip := by
  intro s operations r
  have hfollows : r.Follows operations := follows_after_begin world shared h steps
  have hindex : s.registryIndex position < s.registries.length := by
    rw [registryIndex_after, length_registries_after]
    exact registryIndex_begin_lt world shared h
  refine ⟨⟨hfollows, ?_, hfollows.size_eq⟩, ?_, ?_, ?_⟩
  · intro entry hmem
    have hget : r.get? entry.1 = some entry.2 :=
      (Pairs.get?_eq_some_iff r.commands.nodup).mpr hmem
    exact Registry.name_of_latest? ((hfollows.get?_eq entry.1).symm.trans hget)
  · intro name declaration schema hdeclare outcome
    have hstep : outcome = _ := s.step_register position hdeclare
    by_cases hstarted : .activate ∈ operations
    · have hregister := hfollows.register_of_started hstarted schema
      rw [hstep, hregister]
      simp [hstarted]
    · have hregister := hfollows.register_of_not_started hstarted schema
      rw [hstep, hregister]
      refine ⟨by simp [hstarted], fun fault _ => ⟨fault.sort_failure, rfl⟩⟩
  · intro step hregister hstart
    exact registryOf_step_of_reading hindex hfollows hregister hstart
  · intro names later
    rw [getElem?_answers]
    refine ⟨view r names, rfl, hfollows.active_iff, hfollows.size_eq, hfollows.names_eq, ?_⟩
    simp only [view, hfollows.get?_eq]

/-- The declaration of a command that does nothing. -/
def quietCommand (tooltip : String) : List (Step Task) := [.runs .quiet, .tip (.text tooltip)]

/-- Two interpreters that share a registry: a command comes too early, two are registered, and the
first of these is replaced behind a second start, a message and a question for help. -/
def replacingSteps : List SessionStep :=
  [.register 1 (.text "a") (quietCommand "early"), .start 0,
    .register 0 (.text "b") (quietCommand "old"), .register 1 (.text "a") (quietCommand "first"),
    .start 1, .dispatch 1 "!b" { id := "u" } { id := "c" } { id := "s" },
    .summary 0 { id := "s" } { id := "u" }, .register 1 (.text "b") (quietCommand "new")]

/-- A command that is replaced keeps its place, and the one that came too early does not count. -/
theorem history_of_replacing :
    let start := begin {} [Settings.default, Settings.default] true
    let r := (start.after replacingSteps).registryOf 0
    0 < [Settings.default, Settings.default].length ∧ r.active = true ∧
    r.names = ["b", "a"] ∧ r.size = 2 ∧ (r.get? "b").map Schema.tooltip = some "new" ∧
    (∃ fault, (start.step (.register 0 (.text "a") (quietCommand "early"))).2.result =
      .unregistered fault) ∧
    ∃ view, ((start.answers (replacingSteps.take 4 ++ .inspect 0 ["b"] ::
      replacingSteps.drop 4))[4]?).map SessionAnswer.result = some (.registry view) ∧
      view.names = ["b", "a"] ∧ view.tooltips = [some "old"] := by
  intro start r
  have hposition : 0 < [Settings.default, Settings.default].length := by decide
  obtain ⟨⟨hfollows, -, hsize⟩, -⟩ := registry_follows_history {} true hposition replacingSteps
  obtain ⟨-, hregister, -⟩ := registry_follows_history {} true hposition []
  obtain ⟨-, -, -, hinspect⟩ := registry_follows_history {} true hposition (replacingSteps.take 4)
  obtain ⟨view, hview, -, -, hnames, htooltips⟩ := hinspect ["b"] (replacingSteps.drop 4)
  refine ⟨hposition, hfollows.active_iff.mpr ?_, hfollows.names_eq.trans ?_, hsize.trans ?_, ?_,
    (hregister _ _ _ rfl).1.mpr (by simp [history]), view, hview, hnames.trans ?_,
    htooltips.trans ?_⟩
  · exact List.mem_cons_of_mem _ List.mem_cons_self
  · decide
  · decide
  · rw [hfollows.get?_eq]
    rfl
  · decide
  · rfl

end Session

end ChatCommands
