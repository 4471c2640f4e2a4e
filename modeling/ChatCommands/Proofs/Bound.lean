import ChatCommands.Proofs.Descent
import ChatCommands.Proofs.Unfolding

/-!
# ChatCommands.Proofs.Bound

One scene under two bounds on macros.  Under the lower bound some steps hand
nothing on that do so under the higher one.

1. If nothing is broken off under the higher bound, nothing is under the lower
   one, and its messages and jobs are some of those under the higher one, in
   the same order (`Trace.Pruned`).
2. If no macro is nested too deeply under the lower bound, the two dispatches
   are the same in every event (`Scene.dispatchFrom_eq_of_le`).
-/

namespace ChatCommands

variable {τ : Type}

namespace Trace

variable {t t' u u' : Trace τ} {next next' : Unit → Trace τ} {run run' : String → Trace τ}
  {cs : List String}

/-! ## fewer effects -/

/-- Unless the second trace is broken off, the first one is not either, and its effects are some
of those of the second one. -/
def Pruned (t t' : Trace τ) : Prop :=
  t'.aborted = false → t.aborted = false ∧ t.effects.Sublist t'.effects

theorem Pruned.refl (t : Trace τ) : Pruned t t := fun h => ⟨h, List.Sublist.refl _⟩

/-- Only outcomes matter. -/
theorem Pruned.congr (h : SameOutcome t u) (h' : SameOutcome t' u') (hu : Pruned u u') :
    Pruned t t' := by
  intro hreturns
  rw [h'.aborted] at hreturns
  rw [h.aborted, h.effects, h'.effects]
  exact hu hreturns

theorem Pruned.andThen (h : Pruned t t') (hnext : Pruned (next ()) (next' ())) :
    Pruned (t.andThen next) (t'.andThen next') := by
  intro hreturns
  rw [aborted_andThen, Bool.or_eq_false_iff] at hreturns
  obtain ⟨ht, hsub⟩ := h hreturns.1
  obtain ⟨hn, hnsub⟩ := hnext hreturns.2
  rw [aborted_andThen, effects_andThen, effects_andThen, ht, hn, hreturns.1]
  exact ⟨rfl, hsub.append hnsub⟩

theorem Pruned.each (h : ∀ c, Pruned (run c) (run' c)) (cs : List String) :
    Pruned (Trace.each run cs) (Trace.each run' cs) := by
  induction cs with
  | nil => exact .refl _
  | cons c cs ih => exact (h c).andThen ih

/-! ## no macro too deep -/

/-- No macro is found to be nested too deeply. -/
def WithinBound (t : Trace τ) : Prop := ∀ on limit, .noted (.tooDeep on limit) ∉ t.events

theorem WithinBound.of_andThen (h : WithinBound (t.andThen next)) :
    WithinBound t ∧ (t.aborted = false → WithinBound (next ())) := by
  constructor
  · intro on limit hmem
    refine h on limit ?_
    rw [events_andThen]
    exact List.mem_append_left _ hmem
  · intro hgoes on limit hmem
    refine h on limit ?_
    rw [events_andThen, hgoes]
    exact List.mem_append_right _ hmem

/-- Texts one after another do the same if each of them does, up to one that is broken off. -/
theorem each_eq_of_withinBound (h : ∀ c, WithinBound (run c) → run c = run' c)
    (hbound : WithinBound (each run cs)) : each run cs = each run' cs := by
  induction cs with
  | nil => rfl
  | cons c cs ih =>
      obtain ⟨hc, hcs⟩ := hbound.of_andThen
      rw [each, each, ← h c hc]
      cases hgoes : (run c).aborted with
      | true => rw [andThen, andThen, if_pos hgoes, if_pos hgoes]
      | false => rw [ih (hcs hgoes)]

end Trace

namespace Scene

open Trace

variable {s : Scene τ} {m m' remaining remaining' depth : Nat} {text : String}
  {next next' : Occasion → List String → Trace τ}

/-- A step has fewer effects if it does less with commands. -/
theorem step_pruned
    (h : ∀ on on' commands, Pruned (next on commands) (next' on' commands)) :
    Pruned (s.step depth text next) (s.step depth text next') := by
  obtain ⟨on, hstep⟩ := s.step_outcome depth text next
  obtain ⟨on', hstep'⟩ := s.step_outcome depth text next'
  refine Pruned.congr hstep hstep' ?_
  cases s.reaction text with
  | expanded commands => exact h on on' commands
  | _ => exact .refl _

theorem dispatchFrom_pruned (s : Scene τ) (m m' : Nat) (h : remaining ≤ remaining')
    (depth : Nat) (text : String) :
    Pruned ((s.bounded m).dispatchFrom remaining depth text)
      ((s.bounded m').dispatchFrom remaining' depth text) := by
  induction remaining generalizing remaining' depth text with
  | zero =>
      obtain ⟨next, heq⟩ := (s.bounded m').exists_dispatchFrom_eq_step remaining' depth text
      rw [heq, dispatchFrom, step_bounded, step_bounded]
      exact step_pruned fun _ _ _ _ => ⟨rfl, List.nil_sublist _⟩
  | succ n ih =>
      obtain ⟨n', rfl⟩ : ∃ n', remaining' = n' + 1 := ⟨remaining' - 1, by omega⟩
      rw [dispatchFrom, dispatchFrom, step_bounded, step_bounded]
      exact step_pruned fun _ _ commands =>
        .each (ih (Nat.le_of_succ_le_succ h) (depth + 1)) commands

/-- Steps are the same if they do the same with commands, unless the first finds them nested too
deeply. -/
theorem step_eq_of_withinBound
    (h : ∀ on commands, WithinBound (next on commands) → next on commands = next' on commands)
    (hbound : WithinBound (s.step depth text next)) :
    s.step depth text next = s.step depth text next' := by
  by_cases hexpanded : ∃ commands, s.reaction text = .expanded commands
  · obtain ⟨commands, hcommands⟩ := hexpanded
    obtain ⟨name, hstep⟩ := step_of_expanded depth hcommands
    rw [hstep] at hbound
    rw [hstep, hstep, h _ _ (hbound.of_andThen.2 rfl)]
  · exact step_of_not_expanded (not_exists.mp hexpanded)

/-- If no macro is nested too deeply, more levels change nothing. -/
theorem dispatchFrom_eq_of_le (h : remaining ≤ remaining')
    (hbound : WithinBound ((s.bounded m).dispatchFrom remaining depth text)) :
    (s.bounded m).dispatchFrom remaining depth text =
      (s.bounded m').dispatchFrom remaining' depth text := by
  induction remaining generalizing remaining' depth text with
  | zero =>
      obtain ⟨next, heq⟩ := (s.bounded m').exists_dispatchFrom_eq_step remaining' depth text
      rw [dispatchFrom, step_bounded] at hbound
      rw [heq, dispatchFrom, step_bounded, step_bounded]
      refine step_eq_of_withinBound (fun on _ hnext => ?_) hbound
      exact absurd List.mem_cons_self (hnext on m)
  | succ n ih =>
      obtain ⟨n', rfl⟩ : ∃ n', remaining' = n' + 1 := ⟨remaining' - 1, by omega⟩
      rw [dispatchFrom, step_bounded] at hbound
      rw [dispatchFrom, dispatchFrom, step_bounded, step_bounded]
      refine step_eq_of_withinBound (fun _ commands hnext => ?_) hbound
      exact each_eq_of_withinBound (fun c => ih (Nat.le_of_succ_le_succ h)) hnext

/-- **Higher bounds**: if a dispatch is not broken off under a bound, neither is it under a lower
one, and its messages and jobs under the lower bound are some of those under the higher one, in
the same order.  If under the lower bound no macro is nested too deeply, the dispatch is the same
under both: the same messages and jobs, the same questions and the same notices. -/
theorem dispatch_bound_mono (s : Scene τ) (text : String) {m m' : Nat} (h : m ≤ m') :
    (((s.bounded m').dispatch text).aborted = false →
      ((s.bounded m).dispatch text).aborted = false ∧
      ((s.bounded m).dispatch text).effects.Sublist ((s.bounded m').dispatch text).effects) ∧
    ((∀ on limit, .noted (.tooDeep on limit) ∉ ((s.bounded m).dispatch text).events) →
      (s.bounded m).dispatch text = (s.bounded m').dispatch text) :=
  ⟨s.dispatchFrom_pruned m m' h 0 text, dispatchFrom_eq_of_le h⟩

/-- A macro for calls of itself has fewer effects under a lower bound, and one that is not nested
does the same. -/
theorem bound_mono_of_mixed :
    ((mixedScene.bounded 2).dispatch "!m").effects.length = 6 ∧
    ((mixedScene.bounded 1).dispatch "!m").effects.length = 3 ∧
    ((mixedScene.bounded 1).dispatch "!m").aborted = false ∧
    ((mixedScene.bounded 1).dispatch "!m").effects.Sublist
      ((mixedScene.bounded 2).dispatch "!m").effects ∧
    (mixedScene.bounded 1).dispatch "!a" = (mixedScene.bounded 2).dispatch "!a" := by
  have hreturns : ((mixedScene.bounded 2).dispatch "!m").aborted = false := by decide
  have hevents : ((mixedScene.bounded 1).dispatch "!a").events =
      [.step 0 "!a", .asked (.automated { id := "u" }), .asked (.macroBody { id := "s" } "a"),
        .noted (.expanded "a" 1), .step 1 "!p", .asked (.automated { id := "u" }),
        .submitted ⟨{ name := "p", task := () }, .empty, { id := "u" }, { id := "c" },
          { id := "s" }⟩, .noted (.submitted ⟨"p", "u", 1⟩ 0)] := rfl
  have hbound : ∀ on limit,
      .noted (.tooDeep on limit) ∉ ((mixedScene.bounded 1).dispatch "!a").events := by
    intro on limit
    simp [hevents]
  have hle : 1 ≤ 2 := by decide
  obtain ⟨haborted, hsub⟩ := (dispatch_bound_mono mixedScene "!m" hle).1 hreturns
  exact ⟨rfl, rfl, haborted, hsub, (dispatch_bound_mono mixedScene "!a" hle).2 hbound⟩

end Scene

end ChatCommands
