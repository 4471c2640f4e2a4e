import ChatCommands.Proofs.Reaction
import ChatCommands.Proofs.Registration
import ChatCommands.World

/-!
# ChatCommands.Proofs.Authorization

No job without permission.  Macros put texts together from the arguments of
the user, and these texts are dispatched in turn; yet

1. every job is the reaction to the last text that was taken up before it
   (`attributed_dispatchFrom`), whatever macros it came through;
2. the reaction to a text is a job only if the user may run the command that
   the text calls;
3. the reaction to a text is the same when the user types it.
-/

namespace ChatCommands

namespace Scene

variable {τ : Type} (s : Scene τ) {text : String} {job : Job τ}

/-! ## one step -/

/-- Only a macro takes up further texts, and only a job is handed on. -/
theorem effect_of_not_expanded (next : List String → Trace τ) {r : Reaction τ}
    (h : ∀ commands, r ≠ .expanded commands) :
    stepsOf (s.effect next r).events = [] ∧
      ∀ job, .submitted job ∈ (s.effect next r).events → r = .invoked job := by
  cases r with
  | expanded commands => exact absurd rfl (h commands)
  | invoked job =>
      refine ⟨rfl, fun job' hmem => ?_⟩
      obtain rfl : job' = job := by simpa [effect] using hmem
      rfl
  | ignored => exact ⟨rfl, by simp [effect, Trace.nil]⟩
  | denied schema => exact ⟨rfl, by simp [effect]⟩
  | misread schema fault => exact ⟨rfl, by simp [effect]⟩
  | broken => exact ⟨rfl, by simp [effect]⟩

/-- A step attributes jobs to the texts that they are the reactions to, if what becomes of the
commands of a macro does so. -/
theorem attributed_step (depth : Nat) (text : String) (next : Occasion → List String → Trace τ)
    (hnext : ∀ on commands,
      Attributed (fun t job => s.reaction t = .invoked job) (next on commands).events) :
    Attributed (fun t job => s.reaction t = .invoked job) (s.step depth text next).events := by
  obtain ⟨on, before, after, hbefore, hafter, heq⟩ := s.step_eq depth text next
  have htail (b : Bool) : Quiet (if b then [] else after) := by
    cases b with
    | true => exact quiet_nil
    | false => exact hafter
  rw [heq, Trace.of_andThen, Trace.events_andThen]
  by_cases hexp : ∃ commands, s.reaction text = .expanded commands
  · obtain ⟨commands, hcommands⟩ := hexp
    rw [hcommands]
    refine Attributed.append ?_ (.append (hnext on commands) ?_)
    · refine attributed_of_not_mem fun job hmem => ?_
      rcases List.mem_cons.mp hmem with hmem | hmem
      · contradiction
      · exact hbefore.submitted_not_mem job hmem
    · exact attributed_of_not_mem (htail _).submitted_not_mem
  · obtain ⟨hsteps, hjobs⟩ := s.effect_of_not_expanded (next on) (not_exists.mp hexp)
    rw [List.cons_append]
    refine attributed_of_step ?_ fun job hmem => ?_
    · rw [stepsOf_append, stepsOf_append, hbefore.stepsOf_eq_nil, hsteps]
      exact (htail _).stepsOf_eq_nil
    · rcases List.mem_append.mp hmem with hmem | hmem
      · exact absurd hmem (hbefore.submitted_not_mem job)
      · rcases List.mem_append.mp hmem with hmem | hmem
        · exact hjobs job hmem
        · exact absurd hmem ((htail _).submitted_not_mem job)

/-! ## all steps -/

/-- **Attribution**: every job is the reaction to the last text that was taken up before it. -/
theorem attributed_dispatchFrom (remaining depth : Nat) (text : String) :
    Attributed (fun t job => s.reaction t = .invoked job)
      (s.dispatchFrom remaining depth text).events := by
  induction remaining generalizing depth text with
  | zero =>
      refine s.attributed_step depth text _ fun on commands => ?_
      exact attributed_of_not_mem (by simp)
  | succ remaining ih =>
      refine s.attributed_step depth text _ fun on commands => ?_
      exact Trace.attributed_each fun c _ => ih (depth + 1) c

variable {s}

theorem jobs_step_of_invoked (depth : Nat) (next : Occasion → List String → Trace τ)
    (h : s.reaction text = .invoked job) : (s.step depth text next).jobs = [job] := by
  obtain ⟨on, before, after, hbefore, hafter, heq⟩ := s.step_eq depth text next
  have hfirst : (Trace.of (.step depth text :: before)).jobs = [] := hbefore.jobs_of
  rw [heq, h, Trace.jobs_andThen, hfirst, effect, Trace.jobs_andThen, hafter.jobs_of]
  rfl

/-- A text whose reaction is a job makes this job when it is typed. -/
theorem jobs_dispatch_of_invoked (h : s.reaction text = .invoked job) :
    (s.dispatch text).jobs = [job] := by
  obtain ⟨next, hstep⟩ := s.exists_dispatchFrom_eq_step s.settings.maxMacroDepth 0 text
  rw [dispatch, hstep]
  exact jobs_step_of_invoked 0 next h

/-- **Authorization**: a job that is handed on while a text is dispatched, through whatever macros,
is one of the command that is registered under the name in the last text before it.  The user of
the dispatch is no automated sender and is allowed to run that command, and the job has that user,
channel and server.  Typing that text makes the same job. -/
theorem submitted_authorized (s : Scene τ) (hreachable : s.registry.Reachable) (text : String)
    (before after : List (Event τ)) (job : Job τ)
    (h : (s.dispatch text).events = before ++ .submitted job :: after) :
    ∃ (depth : Nat) (text' name : String), (stepsOf before).getLast? = some (depth, text') ∧
      commandName? text' s.settings.marker = some name ∧
      s.registry.get? name = some job.schema ∧ job.schema.name = name ∧
      (Permission.check s.host job.schema.requirement s.server s.user).allowed = true ∧
      s.host.isAutomated s.user = false ∧
      job.user = s.user ∧ job.channel = s.channel ∧ job.server = s.server ∧
      (s.dispatch text').jobs = [job] := by
  obtain ⟨depth, text', hlast, hreaction⟩ := s.attributed_dispatchFrom _ _ _ before job after h
  obtain ⟨name, schema, ⟨hauto, hname⟩, hget, hanswer⟩ := reaction_eq_invoked_iff.mp hreaction
  obtain ⟨hallowed, bag, -, rfl⟩ := answer_eq_invoked_iff.mp hanswer
  exact ⟨depth, text', name, hlast, hname, hget, hreachable.filedByName name schema hget, hallowed,
    hauto, rfl, rfl, rfl, jobs_dispatch_of_invoked hreaction⟩

/-- A scene in which `!m` is a macro for the registered `!p`. -/
def macroScene : Scene Unit where
  settings := {}
  registry := .after [.activate, .register { name := "p", task := () }]
  host := World.fullHost { macros := some [("s", [("m", some "!p")])] }
  user := { id := "u" }
  channel := { id := "c" }
  server := { id := "s" }

/-- The job of a macro is that of the command that it stands for. -/
theorem authorized_through_macro :
    macroScene.registry.Reachable ∧
    ∃ before job after,
      (macroScene.dispatch "!m").events = before ++ .submitted job :: after ∧
      (stepsOf before).getLast? = some (1, "!p") ∧ job.schema.name = "p" ∧
      job.user = macroScene.user ∧ (macroScene.dispatch "!p").jobs = [job] := by
  have hreachable : macroScene.registry.Reachable := ⟨_, rfl⟩
  have hevents : (macroScene.dispatch "!m").events =
      [.step 0 "!m", .asked (.automated { id := "u" }), .asked (.macroBody { id := "s" } "m"),
        .noted (.expanded "m" 1), .step 1 "!p", .asked (.automated { id := "u" })] ++
      .submitted ⟨{ name := "p", task := () }, .empty, { id := "u" }, { id := "c" },
        { id := "s" }⟩ :: [.noted (.submitted ⟨"p", "u", 1⟩ 0)] := rfl
  obtain ⟨depth, text', name, hlast, -, -, -, -, -, huser, -, -, hjobs⟩ :=
    submitted_authorized macroScene hreachable "!m" _ _ _ hevents
  obtain ⟨rfl, rfl⟩ : depth = 1 ∧ text' = "!p" := by simpa [stepsOf, eq_comm] using hlast
  exact ⟨hreachable, _, _, _, hevents, rfl, rfl, huser, hjobs⟩

end Scene

end ChatCommands
