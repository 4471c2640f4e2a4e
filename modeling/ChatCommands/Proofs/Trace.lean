import ChatCommands.Dispatch

/-!
# ChatCommands.Proofs.Trace

Traces put together, and what can be said about their events.

* `andThen` appends the events of a second trace unless the first was broken
  off, and the whole is broken off if one of the two is.
* Questions and notices are `Quiet`: nobody but the host sees them.
* A job is handed on in the course of the last text that was taken up before
  it.  `Attributed P` says that `P` relates every job to that text; it holds of
  two lists of events, one after the other, if it holds of both.
-/

namespace ChatCommands

variable {τ : Type}

namespace Trace

variable {t : Trace τ} {next : Unit → Trace τ} {run : String → Trace τ} {cs : List String}

/-! ## one trace after another -/

@[simp] theorem events_of (es : List (Event τ)) : (of es).events = es := rfl

@[simp] theorem aborted_of (es : List (Event τ)) : (of es).aborted = false := rfl

@[simp] theorem events_abort (es : List (Event τ)) : (abort es).events = es := rfl

@[simp] theorem aborted_abort (es : List (Event τ)) : (abort es).aborted = true := rfl

/-- Events that were not broken off come in front of all that follows. -/
theorem of_andThen (es : List (Event τ)) :
    (of es).andThen next = ⟨es ++ (next ()).events, (next ()).aborted⟩ := rfl

/-- The whole is broken off if the first part is, or else the second. -/
theorem aborted_andThen : (t.andThen next).aborted = (t.aborted || (next ()).aborted) := by
  unfold andThen
  cases h : t.aborted with
  | true => exact h
  | false => rfl

/-- What would have come after the break never happens. -/
theorem events_andThen :
    (t.andThen next).events = t.events ++ if t.aborted then [] else (next ()).events := by
  unfold andThen
  cases h : t.aborted with
  | true => exact (List.append_nil _).symm
  | false => rfl

/-- No job is handed on after the break. -/
theorem jobs_andThen :
    (t.andThen next).jobs = t.jobs ++ if t.aborted then [] else (next ()).jobs := by
  rw [jobs, events_andThen, List.filterMap_append]
  cases t.aborted <;> rfl

/-- Nothing is added by a part without events. -/
theorem andThen_of_nil : (t.andThen fun _ => of []) = t := by
  unfold andThen
  split
  · rfl
  · next h =>
    rw [Bool.not_eq_true] at h
    simp [← h]

/-- Texts one after another are broken off if one of them is. -/
theorem aborted_each : (each run cs).aborted = true ↔ ∃ c ∈ cs, (run c).aborted = true := by
  induction cs with
  | nil => simp [each, nil]
  | cons c cs ih =>
      rw [each, aborted_andThen, Bool.or_eq_true, ih]
      simp

end Trace

/-! ## quiet events -/

/-- A question or a notice. -/
def Event.isQuiet : Event τ → Bool
  | .asked _ => true
  | .noted _ => true
  | _ => false

/-- All of some events are questions and notices. -/
def Quiet (events : List (Event τ)) : Prop := ∀ e ∈ events, e.isQuiet = true

theorem quiet_nil : Quiet (τ := τ) [] := by simp [Quiet]

theorem quiet_cons {e : Event τ} {es : List (Event τ)} :
    Quiet (e :: es) ↔ e.isQuiet = true ∧ Quiet es := List.forall_mem_cons

/-- Events are quiet one part after the other. -/
theorem quiet_append {es es' : List (Event τ)} : Quiet (es ++ es') ↔ Quiet es ∧ Quiet es' :=
  List.forall_mem_append

/-- Looking up references is quiet. -/
theorem quiet_asked (lookups : List Lookup) : Quiet (τ := τ) (lookups.map .asked) := by
  intro e he
  obtain ⟨l, -, rfl⟩ := List.mem_map.mp he
  rfl

/-- No job is handed on among quiet events. -/
theorem Quiet.submitted_not_mem {es : List (Event τ)} (h : Quiet es) (job : Job τ) :
    .submitted job ∉ es := fun hmem => Bool.false_ne_true (h _ hmem)

/-- Quiet events leave nothing to do. -/
theorem Quiet.jobs_of {es : List (Event τ)} (h : Quiet es) : (Trace.of es).jobs = [] := by
  refine List.filterMap_eq_nil_iff.mpr fun e he => ?_
  cases e with
  | submitted job => exact absurd he (h.submitted_not_mem job)
  | _ => rfl

/-! ## attribution -/

/-- The texts that are taken up in the course of some events, with how many macros deep. -/
def stepsOf (events : List (Event τ)) : List (Nat × String) :=
  events.filterMap fun
    | .step depth text => some (depth, text)
    | _ => none

/-- Every job is related to the last text that was taken up before it was handed on. -/
def Attributed (P : String → Job τ → Prop) (events : List (Event τ)) : Prop :=
  ∀ (before : List (Event τ)) (job : Job τ) (after : List (Event τ)),
    events = before ++ .submitted job :: after →
    ∃ depth text, (stepsOf before).getLast? = some (depth, text) ∧ P text job

variable {P : String → Job τ → Prop} {es es' : List (Event τ)}

/-- Texts are taken up one after another. -/
theorem stepsOf_append : stepsOf (es ++ es') = stepsOf es ++ stepsOf es' :=
  List.filterMap_append

/-- No text is taken up among quiet events. -/
theorem Quiet.stepsOf_eq_nil (h : Quiet es) : stepsOf es = [] := by
  refine List.filterMap_eq_nil_iff.mpr fun e he => ?_
  cases e with
  | step depth text => exact absurd (h _ he) Bool.false_ne_true
  | _ => rfl

/-- Events without a job attribute none. -/
theorem attributed_of_not_mem (h : ∀ job, .submitted job ∉ es) : Attributed P es := by
  rintro before job after rfl
  exact absurd (List.mem_append_right before List.mem_cons_self) (h job)

/-- In the course of one text, every job is attributed to that text. -/
theorem attributed_of_step {depth : Nat} {text : String} (hsteps : stepsOf es = [])
    (h : ∀ job, .submitted job ∈ es → P text job) : Attributed P (.step depth text :: es) := by
  intro before job after heq
  cases before with
  | nil => simp at heq
  | cons e before =>
      obtain ⟨rfl, rfl⟩ : Event.step depth text = e ∧ es = before ++ .submitted job :: after := by
        simpa using heq
      have hbefore : stepsOf before = [] := by
        rw [stepsOf_append] at hsteps
        exact (List.append_eq_nil_iff.mp hsteps).1
      refine ⟨depth, text, ?_, h job (List.mem_append_right before List.mem_cons_self)⟩
      show ((depth, text) :: stepsOf before).getLast? = _
      rw [hbefore]
      rfl

/-- Jobs stay attributed when events come in front of others: the last text before a job of the
second list is in that list, as the first job there has one too. -/
theorem Attributed.append (h : Attributed P es) (h' : Attributed P es') :
    Attributed P (es ++ es') := by
  intro before job after heq
  rcases List.append_eq_append_iff.mp heq with ⟨front, rfl, hes'⟩ | ⟨back, rfl, hback⟩
  · -- the job is one of the second list: the last text before it is there too
    obtain ⟨depth, text, hlast, hP⟩ := h' front job after hes'
    refine ⟨depth, text, ?_, hP⟩
    rw [stepsOf_append, List.getLast?_append, hlast]
    rfl
  · cases back with
    | nil =>
        obtain ⟨depth, text, hlast, -⟩ := h' [] job after hback.symm
        exact absurd hlast (by simp [stepsOf])
    | cons e back =>
        obtain ⟨rfl, rfl⟩ : Event.submitted job = e ∧ after = back ++ es' := by simpa using hback
        exact h before job back rfl

namespace Trace

/-- If the jobs of both parts are attributed, so are those of the whole, broken off or not. -/
theorem attributed_andThen {t : Trace τ} {next : Unit → Trace τ} (h : Attributed P t.events)
    (hnext : Attributed P (next ()).events) : Attributed P (t.andThen next).events := by
  rw [events_andThen]
  split
  · rw [List.append_nil]
    exact h
  · exact h.append hnext

/-- Texts one after another leave every job attributed if each of them does. -/
theorem attributed_each {run : String → Trace τ} {cs : List String}
    (h : ∀ c ∈ cs, Attributed P (run c).events) : Attributed P (each run cs).events := by
  induction cs with
  | nil => exact attributed_of_not_mem (by simp [each, nil])
  | cons c cs ih =>
      exact attributed_andThen (h c List.mem_cons_self)
        (ih fun d hd => h d (List.mem_cons_of_mem c hd))

end Trace

end ChatCommands
