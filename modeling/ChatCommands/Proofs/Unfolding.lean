import ChatCommands.Proofs.Containment
import ChatCommands.Proofs.Registration
import ChatCommands.World

/-!
# ChatCommands.Proofs.Unfolding

What a macro does is what its commands do.  The effects of a trace are the
messages and jobs in it, and its outcome is these together with whether it was
broken off.

1. The outcome of a step is that of its reaction, at whatever depth
   (`Scene.step_outcome`).
2. The outcome of a dispatch depends on the depth and on the bound only through
   the levels that are left (`Scene.dispatchFrom_shift`).
3. So a macro under one more level has the effects of its commands, each of
   them dispatched as a message of its own (`Scene.dispatch_macro_unfolds`).
-/

namespace ChatCommands

variable {τ : Type}

/-! ## effects -/

/-- A message or a job. -/
def Event.isEffect : Event τ → Bool
  | .sent .. => true
  | .submitted _ => true
  | _ => false

namespace Trace

/-- The messages and jobs of a trace, in order. -/
def effects (t : Trace τ) : List (Event τ) := t.events.filter Event.isEffect

variable {t t' : Trace τ} {next next' : Unit → Trace τ} {run run' : String → Trace τ}
  {cs : List String}

/-- There are no effects behind the break. -/
theorem effects_andThen :
    (t.andThen next).effects = t.effects ++ if t.aborted then [] else (next ()).effects := by
  rw [effects, events_andThen, List.filter_append]
  cases t.aborted <;> rfl

/-- If no text is broken off, the effects are those of all texts. -/
theorem effects_each (h : ∀ c ∈ cs, (run c).aborted = false) :
    (each run cs).effects = cs.flatMap fun c => (run c).effects := by
  induction cs with
  | nil => rfl
  | cons c cs ih =>
      obtain ⟨hc, hcs⟩ := List.forall_mem_cons.mp h
      rw [each, effects_andThen, hc, if_neg Bool.false_ne_true, ih hcs, List.flatMap_cons]

/-- Two traces have the same effects, and both are broken off or neither is. -/
structure SameOutcome (t t' : Trace τ) : Prop where
  /-- The effects are the same. -/
  effects : t.effects = t'.effects
  /-- One is broken off if the other is. -/
  aborted : t.aborted = t'.aborted

namespace SameOutcome

theorem refl (t : Trace τ) : SameOutcome t t := ⟨rfl, rfl⟩

theorem symm (h : SameOutcome t t') : SameOutcome t' t := ⟨h.effects.symm, h.aborted.symm⟩

theorem trans {u : Trace τ} (h : SameOutcome t t') (h' : SameOutcome t' u) : SameOutcome t u :=
  ⟨h.effects.trans h'.effects, h.aborted.trans h'.aborted⟩

/-- Parts with the same outcome make wholes with the same outcome. -/
theorem andThen (h : SameOutcome t t') (hnext : SameOutcome (next ()) (next' ())) :
    SameOutcome (t.andThen next) (t'.andThen next') := by
  constructor
  · rw [effects_andThen, effects_andThen, h.effects, h.aborted, hnext.effects]
  · rw [aborted_andThen, aborted_andThen, h.aborted, hnext.aborted]

/-- So do any number of parts, one after the other. -/
theorem each (h : ∀ c, SameOutcome (run c) (run' c)) (cs : List String) :
    SameOutcome (Trace.each run cs) (Trace.each run' cs) := by
  induction cs with
  | nil => exact refl _
  | cons c cs ih => exact (h c).andThen ih

end SameOutcome

end Trace

theorem Quiet.effects_eq_nil {es : List (Event τ)} (h : Quiet es) :
    es.filter Event.isEffect = [] := by
  rw [List.filter_eq_nil_iff]
  intro e he
  cases e with
  | sent channel text => exact absurd (h _ he) Bool.false_ne_true
  | submitted job => exact absurd (h _ he) Bool.false_ne_true
  | _ => exact Bool.false_ne_true

namespace Scene

open Trace

/-- The same scene with another bound on macros. -/
def bounded (s : Scene τ) (m : Nat) : Scene τ :=
  { s with settings := { s.settings with maxMacroDepth := m } }

variable {s : Scene τ} {depth : Nat} {text : String} {commands : List String}
  {next next' : Occasion → List String → Trace τ}

/-! ## steps -/

/-- The outcome of a step is that of its reaction. -/
theorem step_outcome (s : Scene τ) (depth : Nat) (text : String)
    (next : Occasion → List String → Trace τ) :
    ∃ on, SameOutcome (s.step depth text next) (s.effect (next on) (s.reaction text)) := by
  obtain ⟨on, before, after, hbefore, hafter, heq⟩ := s.step_eq depth text next
  have hfirst : (Trace.of (.step depth text :: before)).effects = [] := hbefore.effects_eq_nil
  have hlast : (Trace.of after).effects = [] := hafter.effects_eq_nil
  refine ⟨on, ?_, ?_⟩
  · rw [heq, effects_andThen, effects_andThen, hfirst, hlast]
    simp
  · rw [heq, aborted_andThen, aborted_andThen]
    simp

/-- The outcome of a reaction depends on the outcome of the commands that it hands on. -/
theorem effect_congr {next next' : List String → Trace τ} {r : Reaction τ}
    (h : ∀ commands, SameOutcome (next commands) (next' commands)) :
    SameOutcome (s.effect next r) (s.effect next' r) := by
  cases r with
  | expanded commands => exact h commands
  | _ => exact .refl _

/-- Steps at different depths have the same outcome if they do the same with commands. -/
theorem step_congr {depth' : Nat}
    (h : ∀ on on' commands, SameOutcome (next on commands) (next' on' commands)) :
    SameOutcome (s.step depth text next) (s.step depth' text next') := by
  obtain ⟨on, hstep⟩ := s.step_outcome depth text next
  obtain ⟨on', hstep'⟩ := s.step_outcome depth' text next'
  exact hstep.trans ((effect_congr (h on on')).trans hstep'.symm)

/-! ## levels that are left -/

theorem command_bounded (s : Scene τ) (m : Nat) : (s.bounded m).command = s.command := rfl

theorem expansion_bounded (s : Scene τ) (m : Nat) : (s.bounded m).expansion = s.expansion := rfl

/-- A step does not look at the bound. -/
theorem step_bounded (s : Scene τ) (m : Nat) : (s.bounded m).step = s.step := by
  funext depth text next
  unfold step
  rw [command_bounded, expansion_bounded]
  rfl

/-- The outcome of a dispatch depends on the text and on the levels that are left. -/
theorem dispatchFrom_shift (s : Scene τ) (m m' remaining depth depth' : Nat) (text : String) :
    SameOutcome ((s.bounded m).dispatchFrom remaining depth text)
      ((s.bounded m').dispatchFrom remaining depth' text) := by
  induction remaining generalizing depth depth' text with
  | zero =>
      rw [dispatchFrom, dispatchFrom, step_bounded, step_bounded]
      exact step_congr fun _ _ _ => ⟨rfl, rfl⟩
  | succ n ih =>
      rw [dispatchFrom, dispatchFrom, step_bounded, step_bounded]
      exact step_congr fun _ _ commands => .each (ih _ _) commands

/-- The outcome of a macro is that of its commands as messages of their own, one after another
under a bound that is lower by one. -/
theorem dispatch_outcome_of_expands (h : s.Expands text commands) (m : Nat) :
    SameOutcome ((s.bounded (m + 1)).dispatch text)
      (Trace.each (s.bounded m).dispatch commands) := by
  obtain ⟨on, hstep⟩ := s.step_outcome 0 text fun _ commands =>
    .each ((s.bounded (m + 1)).dispatchFrom m 1) commands
  rw [reaction_eq_expanded_iff_expands.mpr h] at hstep
  have hdispatch : (s.bounded (m + 1)).dispatch text = s.step 0 text fun _ commands =>
      .each ((s.bounded (m + 1)).dispatchFrom m 1) commands := by
    rw [dispatch, bounded, dispatchFrom, ← bounded, step_bounded]
  rw [hdispatch]
  exact hstep.trans (.each (s.dispatchFrom_shift (m + 1) m m 1 0) commands)

/-- **Unfolding**: if a text stands for the commands of a macro and none of them breaks off as a
message of its own, the text does not break off under one more level, and its messages and jobs
are those of the commands, in order.  So what becomes of one command leaves the others alone. -/
theorem dispatch_macro_unfolds (s : Scene τ) (m : Nat) (text : String) (commands : List String)
    (h : s.Expands text commands)
    (hreturns : ∀ c ∈ commands, ((s.bounded m).dispatch c).aborted = false) :
    ((s.bounded (m + 1)).dispatch text).aborted = false ∧
    ((s.bounded (m + 1)).dispatch text).effects =
      (commands.flatMap fun c => ((s.bounded m).dispatch c).effects) ∧
    ∀ before c after, commands = before ++ c :: after →
      ((s.bounded (m + 1)).dispatch text).effects =
        (before.flatMap fun c => ((s.bounded m).dispatch c).effects) ++
          ((s.bounded m).dispatch c).effects ++
          after.flatMap fun c => ((s.bounded m).dispatch c).effects := by
  have houtcome := dispatch_outcome_of_expands h m
  have heffects := houtcome.effects.trans (effects_each hreturns)
  refine ⟨?_, heffects, ?_⟩
  · rw [houtcome.aborted, ← Bool.not_eq_true, aborted_each]
    intro hbroken
    obtain ⟨c, hc, hbroken⟩ := hbroken
    exact Bool.false_ne_true ((hreturns c hc).symm.trans hbroken)
  · rintro before c after rfl
    rw [heffects, List.flatMap_append, List.flatMap_cons, List.append_assoc]

/-- A scene with a command that nobody may run, one that takes an integer, one that takes
nothing, a macro `!m` for calls of all three and of itself, and a macro `!a` for the third. -/
def mixedScene : Scene Unit where
  settings := {}
  registry := .after [.activate,
    .register { name := "d", task := (), requirement := { restrictions := [.nobody] } },
    .register { name := "n", task := (), parameters := [⟨.long, "i", false⟩] },
    .register { name := "p", task := () }]
  host := { World.directory {} with
    macros? := some fun _ name =>
      if name = "m" then some "!d; !n x; !m; !p" else if name = "a" then some "!p" else none }
  user := { id := "u" }
  channel := { id := "c" }
  server := { id := "s" }

/-- A denial, arguments that do not fit and a macro that is nested too deeply leave the command
behind them alone. -/
theorem unfolding_of_mixed_macro :
    mixedScene.Expands "!m" ["!d", "!n x", "!m", "!p"] ∧
    (∀ c ∈ ["!d", "!n x", "!m", "!p"], ((mixedScene.bounded 0).dispatch c).aborted = false) ∧
    ((mixedScene.bounded 1).dispatch "!m").effects =
      [.sent mixedScene.channel mixedScene.settings.deniedMessage,
        .sent mixedScene.channel (mixedScene.settings.parseErrorLead ++
          (ParseFault.badType ⟨.long, "i", false⟩).message),
        .submitted ⟨{ name := "p", task := () }, .empty, { id := "u" }, { id := "c" },
          { id := "s" }⟩] := by
  have hexpands : mixedScene.Expands "!m" ["!d", "!n x", "!m", "!p"] :=
    ⟨"m", ⟨rfl, rfl⟩, rfl, "!d; !n x; !m; !p", rfl, rfl⟩
  have hreturns : ∀ c ∈ ["!d", "!n x", "!m", "!p"],
      ((mixedScene.bounded 0).dispatch c).aborted = false := by decide
  obtain ⟨-, heffects, -⟩ := dispatch_macro_unfolds mixedScene 0 "!m" _ hexpands hreturns
  exact ⟨hexpands, hreturns, heffects⟩

end Scene

end ChatCommands
