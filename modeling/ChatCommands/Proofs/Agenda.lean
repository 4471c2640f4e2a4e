import ChatCommands.Proofs.Descent
import ChatCommands.Proofs.Registration
import ChatCommands.World
import Mathlib.Algebra.Ring.GeomSum
import Mathlib.Logic.ExistsUnique

/-!
# ChatCommands.Proofs.Agenda

Dispatching as work on an agenda, a list of texts with how many macros deep
they are.  The first text is taken up, and what its step hands on goes to the
front of the agenda; the work is done when the agenda is empty, or when an
opening is broken off.

Nothing bounds this work but the rule that a step at the greatest depth hands
nothing on.  The surroundings may change from one text to the next, in any way
that depends on what has been done so far, so they also stand for a host that
answers the same question differently each time.  A step asks for one macro at
most, so no answer of such a host is left out.

1. Every agenda is worked off, in one way (`exists_runs_cons`, `Runs.unique`).
2. If the surroundings stay the same, this is the dispatch (`runs_dispatchFrom`).
3. The depths on an agenda stay within the bound, and a step at depth `d` and
   all that come of it are at most `1 + b + ⋯ + b ^ (m - d)` steps
   (`Runs.depth_le`, `Runs.length_steps_le`).
-/

namespace ChatCommands

variable {τ : Type}

namespace Scene

/-- The same scene in other surroundings. -/
def amid (s : Scene τ) (host : Host) : Scene τ := { s with host := host }

/-- What comes of an agenda. -/
inductive Runs (s : Scene τ) (around : List (Event τ) → Host) :
    (past : List (Event τ)) → (agenda : List (Nat × String)) → Trace τ → Prop
  /-- There is nothing to do. -/
  | done {past : List (Event τ)} : Runs s around past [] .nil
  /-- The first text breaks the work off. -/
  | broken {past : List (Event τ)} {depth : Nat} {text : String} {rest : List (Nat × String)}
      (hbroken : ((s.amid (around past)).opening depth text).aborted = true) :
      Runs s around past ((depth, text) :: rest) ((s.amid (around past)).opening depth text)
  /-- The first text is taken up, and what it hands on comes next. -/
  | take {past : List (Event τ)} {depth : Nat} {text : String} {rest : List (Nat × String)}
      {t : Trace τ} (hgoes : ((s.amid (around past)).opening depth text).aborted = false)
      (hr : Runs s around (past ++ ((s.amid (around past)).opening depth text).events)
        (((s.amid (around past)).handedOn depth text).map (depth + 1, ·) ++ rest) t) :
      Runs s around past ((depth, text) :: rest)
        (((s.amid (around past)).opening depth text).andThen fun _ => t)

variable {s : Scene τ} {around : List (Event τ) → Host} {past : List (Event τ)}
  {agenda rest : List (Nat × String)} {depth remaining : Nat} {text : String} {t t' u : Trace τ}

/-! ## every agenda is worked off -/

/-- The first text can be worked off if the agenda behind it can. -/
theorem exists_runs_of_next
    (hnext : ∀ past', ∃ t, s.Runs around past'
      (((s.amid (around past)).handedOn depth text).map (depth + 1, ·) ++ rest) t) :
    ∃ t, s.Runs around past ((depth, text) :: rest) t := by
  cases hopening : ((s.amid (around past)).opening depth text).aborted with
  | true => exact ⟨_, .broken hopening⟩
  | false =>
      obtain ⟨t, ht⟩ := hnext (past ++ ((s.amid (around past)).opening depth text).events)
      exact ⟨_, .take hopening ht⟩

/-- If the rest of an agenda is worked off at any time, so is the agenda. The induction is on the
levels that are left below the bound. -/
theorem exists_runs_cons (h : s.settings.maxMacroDepth ≤ depth + remaining)
    (hrest : ∀ past, ∃ t, s.Runs around past rest t) (past : List (Event τ)) (text : String) :
    ∃ t, s.Runs around past ((depth, text) :: rest) t := by
  induction remaining generalizing depth rest past text with
  | zero =>
      have hle : (s.amid (around past)).settings.maxMacroDepth ≤ depth := h
      refine exists_runs_of_next fun past' => ?_
      rw [handedOn_of_le hle]
      exact hrest past'
  | succ n ih =>
      have hall (commands : List String) (past : List (Event τ)) :
          ∃ t, s.Runs around past (commands.map (depth + 1, ·) ++ rest) t := by
        induction commands generalizing past with
        | nil => exact hrest past
        | cons c commands ihc => exact ih (by omega) ihc past c
      exact exists_runs_of_next fun past' => hall _ past'

/-- An agenda is worked off in one way. -/
theorem Runs.unique (h : s.Runs around past agenda t) (h' : s.Runs around past agenda t') :
    t = t' := by
  induction h generalizing t' with
  | done => cases h'; rfl
  | broken hbroken =>
      cases h' with
      | broken => rfl
      | take hgoes => exact absurd (hgoes.symm.trans hbroken) Bool.false_ne_true
  | take hgoes hr ih =>
      cases h' with
      | broken hbroken => exact absurd (hgoes.symm.trans hbroken) Bool.false_ne_true
      | take _ hr' => rw [ih hr']

/-! ## surroundings that stay the same -/

/-- In surroundings that stay as they are, a text comes to its opening, with what comes of the rest
of the agenda behind it. -/
theorem runs_of_next
    (hnext : ∀ past, s.Runs (fun _ => s.host) past
      ((s.handedOn depth text).map (depth + 1, ·) ++ rest) u) (past : List (Event τ)) :
    s.Runs (fun _ => s.host) past ((depth, text) :: rest)
      ((s.opening depth text).andThen fun _ => u) := by
  cases hopening : (s.opening depth text).aborted with
  | true =>
      rw [Trace.andThen, if_pos hopening]
      exact .broken hopening
  | false => exact .take hopening (hnext _)

/-- In surroundings that stay the same, what comes of a text is its dispatch. -/
theorem runs_dispatchFrom (h : depth + remaining = s.settings.maxMacroDepth)
    (hrest : ∀ past, s.Runs (fun _ => s.host) past rest u) (past : List (Event τ))
    (text : String) :
    s.Runs (fun _ => s.host) past ((depth, text) :: rest)
      ((s.dispatchFrom remaining depth text).andThen fun _ => u) := by
  induction remaining generalizing depth rest u past text with
  | zero =>
      have hle : s.settings.maxMacroDepth ≤ depth := h.ge
      rw [dispatchFrom_eq_opening text h, Trace.andThen_assoc]
      refine runs_of_next (fun past => ?_) past
      rw [handedOn_of_le hle]
      exact hrest past
  | succ n ih =>
      have hall (commands : List String) (past : List (Event τ)) :
          s.Runs (fun _ => s.host) past (commands.map (depth + 1, ·) ++ rest)
            ((Trace.each (s.dispatchFrom n (depth + 1)) commands).andThen fun _ => u) := by
        induction commands generalizing past with
        | nil => exact hrest past
        | cons c commands ihc =>
            rw [Trace.each, Trace.andThen_assoc]
            exact ih (by omega) ihc past c
      rw [dispatchFrom_eq_opening text h, Trace.andThen_assoc]
      exact runs_of_next (hall _) past

/-- A dispatch works off the agenda with its text alone. -/
theorem runs_dispatch (s : Scene τ) (text : String) :
    s.Runs (fun _ => s.host) [] [(0, text)] (s.dispatch text) := by
  have h := runs_dispatchFrom (Nat.zero_add _) (fun _ => .done) [] text (s := s)
  rwa [show Trace.nil = Trace.of (τ := τ) [] from rfl, Trace.andThen_of_nil] at h

/-! ## depth -/

/-- The text of an opening is taken up before those of all that follows. -/
theorem stepsOf_opening_append (s : Scene τ) (depth : Nat) (text : String) (es : List (Event τ)) :
    stepsOf ((s.opening depth text).events ++ es) = (depth, text) :: stepsOf es := by
  obtain ⟨more, heq, hmore⟩ := s.exists_events_opening depth text
  rw [stepsOf_append, heq]
  show ((depth, text) :: stepsOf more) ++ stepsOf es = _
  rw [hmore]
  rfl

/-- An opening takes up its text and no other. -/
theorem stepsOf_opening (s : Scene τ) (depth : Nat) (text : String) :
    stepsOf (s.opening depth text).events = [(depth, text)] := by
  simpa [stepsOf] using s.stepsOf_opening_append depth text []

/-- What is handed on is no deeper than the bound. -/
theorem depth_le_of_handedOn {c : Nat × String}
    (h : c ∈ (s.handedOn depth text).map (depth + 1, ·)) : c.1 ≤ s.settings.maxMacroDepth := by
  obtain ⟨command, hcommand, rfl⟩ := List.mem_map.mp h
  by_cases hle : s.settings.maxMacroDepth ≤ depth
  · rw [handedOn_of_le hle] at hcommand
    contradiction
  · exact Nat.lt_of_not_le hle

/-- What is put on an agenda stays within the bound. -/
theorem forall_agenda (h : ∀ c ∈ (depth, text) :: rest, c.1 ≤ s.settings.maxMacroDepth)
    (host : Host) :
    ∀ c ∈ ((s.amid host).handedOn depth text).map (depth + 1, ·) ++ rest,
      c.1 ≤ s.settings.maxMacroDepth :=
  List.forall_mem_append.mpr
    ⟨fun _ => depth_le_of_handedOn (s := s.amid host), (List.forall_mem_cons.mp h).2⟩

/-- The depths stay within the bound. -/
theorem Runs.depth_le (h : s.Runs around past agenda t)
    (hagenda : ∀ c ∈ agenda, c.1 ≤ s.settings.maxMacroDepth) :
    ∀ c ∈ stepsOf t.events, c.1 ≤ s.settings.maxMacroDepth := by
  induction h with
  | done => simp [Trace.nil, stepsOf]
  | broken hbroken =>
      rw [stepsOf_opening]
      simpa using hagenda _ List.mem_cons_self
  | take hgoes hr ih =>
      rw [Trace.events_andThen, hgoes, if_neg Bool.false_ne_true, stepsOf_opening_append]
      exact List.forall_mem_cons.mpr
        ⟨hagenda _ List.mem_cons_self, ih (forall_agenda hagenda _)⟩

/-! ## number of steps -/

/-- There are at most as many questions for macros as texts that are taken up. -/
theorem Runs.macroQuestions_le (h : s.Runs around past agenda t) :
    t.macroQuestions ≤ (stepsOf t.events).length := by
  induction h with
  | done => exact Nat.le_refl 0
  | broken hbroken =>
      rw [stepsOf_opening]
      exact macroQuestions_opening_le _ _ _
  | @take past depth text rest t hgoes hr ih =>
      have hopening := macroQuestions_opening_le (s.amid (around past)) depth text
      rw [Trace.macroQuestions_andThen, Trace.events_andThen, hgoes, stepsOf_opening_append]
      simp only [Bool.false_eq_true, if_false, List.length_cons]
      omega

/-- What a text may cost at most, if macros have at most `b` templates: the number of steps of a
tree with `b` branches at every step and `levels` levels below the first. -/
def cost (b levels : Nat) : Nat := ∑ i ∈ Finset.range (levels + 1), b ^ i

/-- A step costs at least itself. -/
theorem cost_pos (b levels : Nat) : 1 ≤ cost b levels := by
  rw [cost, geom_sum_succ]
  exact Nat.le_add_left 1 _

/-- A text costs its own step and what it hands on. -/
theorem cost_handedOn {b : Nat} (hb : ∀ name body, s.macroBody? name = some body →
    (Macro.templates body).length ≤ b) :
    (s.handedOn depth text).length * cost b (s.settings.maxMacroDepth - (depth + 1)) + 1 ≤
      cost b (s.settings.maxMacroDepth - depth) := by
  by_cases hle : s.settings.maxMacroDepth ≤ depth
  · rw [handedOn_of_le hle]
    simpa using cost_pos b _
  · obtain ⟨levels, hlevels⟩ : ∃ n, s.settings.maxMacroDepth - depth = n + 1 :=
      ⟨s.settings.maxMacroDepth - (depth + 1), by omega⟩
    have hbelow : s.settings.maxMacroDepth - (depth + 1) = levels := by omega
    rw [hlevels, hbelow, cost, cost, geom_sum_succ (n := levels + 1)]
    exact Nat.add_le_add_right (Nat.mul_le_mul_right _ (length_handedOn_le hb)) 1

/-- What an agenda may cost at most. -/
def agendaCost (s : Scene τ) (b : Nat) (agenda : List (Nat × String)) : Nat :=
  (agenda.map fun c => cost b (s.settings.maxMacroDepth - c.1)).sum

/-- Working off the first text lowers the cost of the agenda, by one step at least. -/
theorem agendaCost_handedOn {b : Nat} {host : Host}
    (hb : ∀ name body, (s.amid host).macroBody? name = some body →
      (Macro.templates body).length ≤ b) :
    s.agendaCost b (((s.amid host).handedOn depth text).map (depth + 1, ·) ++ rest) + 1 ≤
      s.agendaCost b ((depth, text) :: rest) := by
  have hcost : ((s.amid host).handedOn depth text).length *
      cost b (s.settings.maxMacroDepth - (depth + 1)) + 1 ≤
      cost b (s.settings.maxMacroDepth - depth) := cost_handedOn hb
  simp only [agendaCost, List.map_append, List.map_map, Function.comp_def, List.sum_append,
    List.map_cons, List.sum_cons, List.map_const', List.sum_replicate_nat]
  omega

/-- If macros have at most `b` templates, there are no more steps than the agenda may cost. -/
theorem Runs.length_steps_le (h : s.Runs around past agenda t) {b : Nat}
    (hb : ∀ past name body, (s.amid (around past)).macroBody? name = some body →
      (Macro.templates body).length ≤ b) :
    (stepsOf t.events).length ≤ s.agendaCost b agenda := by
  induction h with
  | done => exact Nat.zero_le _
  | @broken past depth text rest hbroken =>
      rw [stepsOf_opening]
      exact Nat.le_trans (Nat.le_add_left 1 _) (agendaCost_handedOn (hb past))
  | @take past depth text rest t hgoes hr ih =>
      rw [Trace.events_andThen, hgoes, if_neg Bool.false_ne_true, stepsOf_opening_append]
      exact Nat.le_trans (Nat.succ_le_succ ih) (agendaCost_handedOn (hb past))

/-! ## one step among others -/

/-- A step in a trace is that of the opening, or it comes later. -/
theorem opening_append_eq {es before after : List (Event τ)} {depth' : Nat} {text' : String}
    (h : (s.opening depth text).events ++ es = before ++ .step depth' text' :: after) :
    (before = [] ∧ depth = depth' ∧ text = text' ∧
      .step depth text :: after = (s.opening depth text).events ++ es) ∨
    ∃ front, before = (s.opening depth text).events ++ front ∧
      es = front ++ .step depth' text' :: after := by
  obtain ⟨more, heq, hmore⟩ := s.exists_events_opening depth text
  cases before with
  | nil =>
      rw [heq] at h
      obtain ⟨⟨rfl, rfl⟩, -⟩ : (depth = depth' ∧ text = text') ∧ more ++ es = after := by
        simpa using h
      rw [heq, h]
      exact .inl ⟨rfl, rfl, rfl, rfl⟩
  | cons e before =>
      rw [heq, List.cons_append, List.cons_append] at h
      obtain ⟨rfl, htail⟩ := List.cons_eq_cons.mp h
      rw [heq]
      rcases List.append_eq_append_iff.mp htail with ⟨front, rfl, hes⟩ | ⟨back, rfl, hback⟩
      · exact .inr ⟨front, rfl, hes⟩
      · -- the opening takes up no other text
        cases back with
        | nil => exact .inr ⟨[], by simp, hback.symm⟩
        | cons e back =>
            obtain ⟨rfl, -⟩ := List.cons_eq_cons.mp hback
            rw [stepsOf_append] at hmore
            exact absurd (List.append_eq_nil_iff.mp hmore).2 (by simp [stepsOf])

/-- The work starts with a text that is taken up. -/
theorem Runs.exists_step_of_mem_head? (h : s.Runs around past agenda t) :
    ∀ e ∈ t.events.head?, ∃ depth text, e = .step depth text := by
  intro e he
  cases h with
  | done => contradiction
  | @broken past depth text rest hbroken =>
      obtain ⟨more, heq, -⟩ := (s.amid (around past)).exists_events_opening depth text
      rw [heq] at he
      exact ⟨depth, text, by simpa using he.symm⟩
  | @take past depth text rest t hgoes hr =>
      obtain ⟨more, heq, -⟩ := (s.amid (around past)).exists_events_opening depth text
      rw [Trace.events_andThen, heq] at he
      exact ⟨depth, text, by simpa using he.symm⟩

/-- A step does what its opening does in the surroundings of that time, and then the next step
follows, if there is one. -/
theorem Runs.exists_opening (h : s.Runs around past agenda t) {before after : List (Event τ)}
    (hsplit : t.events = before ++ .step depth text :: after) :
    ∃ own later, after = own ++ later ∧
      ((s.amid (around (past ++ before))).opening depth text).events = .step depth text :: own ∧
      (((s.amid (around (past ++ before))).opening depth text).aborted = true →
        t.aborted = true) ∧
      ∀ e ∈ later.head?, ∃ depth' text', e = .step depth' text' := by
  induction h generalizing before with
  | done => simp [Trace.nil] at hsplit
  | @broken past d x rest hbroken =>
      rw [← List.append_nil ((s.amid (around past)).opening d x).events] at hsplit
      rcases opening_append_eq hsplit with ⟨rfl, rfl, rfl, hafter⟩ | ⟨front, -, hfront⟩
      · refine ⟨after, [], by simp, ?_, fun _ => hbroken, by simp⟩
        rw [List.append_nil, hafter, List.append_nil]
      · simp at hfront
  | @take past d x rest t hgoes hr ih =>
      rw [Trace.events_andThen, hgoes, if_neg Bool.false_ne_true] at hsplit
      rcases opening_append_eq hsplit with ⟨rfl, rfl, rfl, hafter⟩ | ⟨front, rfl, hfront⟩
      · obtain ⟨own, heq, -⟩ := (s.amid (around past)).exists_events_opening d x
        rw [heq, List.cons_append] at hafter
        refine ⟨own, t.events, (List.cons_eq_cons.mp hafter).2, ?_, ?_, hr.exists_step_of_mem_head?⟩
        · rw [List.append_nil, heq]
        · rw [List.append_nil, hgoes]
          exact fun h => absurd h Bool.false_ne_true
      · obtain ⟨own, later, hafter, hopening, hbroken, hlater⟩ := ih hfront
        rw [List.append_assoc] at hopening hbroken
        refine ⟨own, later, hafter, hopening, fun h => ?_, hlater⟩
        rw [Trace.aborted_andThen, hbroken h, Bool.or_true]

theorem mem_stepsOf {es : List (Event τ)} (h : .step depth text ∈ es) :
    (depth, text) ∈ stepsOf es := List.mem_filterMap.mpr ⟨_, h, rfl⟩

/-- A step that names a macro is quiet, and no step is deeper than the bound, so neither is the
one that follows. -/
theorem Runs.quiet_of_namesMacro (h : s.Runs around past agenda t)
    (hagenda : ∀ c ∈ agenda, c.1 ≤ s.settings.maxMacroDepth) {before after : List (Event τ)}
    (hsplit : t.events = before ++ .step depth text :: after)
    (hnames : (s.amid (around (past ++ before))).NamesMacro text) :
    ∃ own later, after = own ++ later ∧ Quiet own ∧
      ∀ e ∈ later.head?, ∃ depth' text', e = .step depth' text' ∧
        depth' ≤ s.settings.maxMacroDepth := by
  obtain ⟨own, later, rfl, hopening, -, hlater⟩ := h.exists_opening hsplit
  obtain ⟨more, heq, hmore⟩ := quiet_opening_of_namesMacro hnames depth
  obtain rfl : more = own := (List.cons_eq_cons.mp (heq.symm.trans hopening)).2
  refine ⟨more, later, rfl, hmore, fun e he => ?_⟩
  obtain ⟨depth', text', rfl⟩ := hlater e he
  have hmem : .step depth' text' ∈ t.events := by
    have := List.mem_of_mem_head? he
    simp [hsplit, this]
  exact ⟨depth', text', rfl, h.depth_le hagenda _ (mem_stepsOf hmem)⟩

/-! ## the bound -/

/-- **Recursion is bounded**: whatever macros there are, and even if the surroundings change while
a text is dispatched, the work comes to an end in one way; it is the dispatch if they do not
change.  No step is deeper than the settings allow.  A step at the greatest depth that names a
macro sends nothing and hands no task on, and the next step, if there is one, is not deeper, so
that it is none that this step takes up.  If macros have at most `b` templates, there are at most
`1 + b + ⋯ + b ^ m` steps, and macros are asked for no more often. -/
theorem macro_recursion_bounded (s : Scene τ) (around : List (Event τ) → Host) (text : String) :
    s.Runs (fun _ => s.host) [] [(0, text)] (s.dispatch text) ∧
    (∃! t, s.Runs around [] [(0, text)] t) ∧
    ∀ t, s.Runs around [] [(0, text)] t →
      (∀ depth text', .step depth text' ∈ t.events → depth ≤ s.settings.maxMacroDepth) ∧
      (∀ before text' after,
        t.events = before ++ .step s.settings.maxMacroDepth text' :: after →
        (s.amid (around before)).NamesMacro text' →
        ∃ own later, after = own ++ later ∧ Quiet own ∧
          ∀ e ∈ later.head?, ∃ depth text'', e = .step depth text'' ∧
            depth ≤ s.settings.maxMacroDepth) ∧
      ∀ b, (∀ past resolve server name body, (around past).macros? = some resolve →
          resolve server name = some body → (Macro.templates body).length ≤ b) →
        (stepsOf t.events).length ≤ ∑ i ∈ Finset.range (s.settings.maxMacroDepth + 1), b ^ i ∧
        t.macroQuestions ≤ ∑ i ∈ Finset.range (s.settings.maxMacroDepth + 1), b ^ i := by
  have hagenda : ∀ c ∈ [(0, text)], c.1 ≤ s.settings.maxMacroDepth := by simp
  refine ⟨s.runs_dispatch text, ?_, fun t ht => ⟨fun depth text' hmem => ?_, ?_, ?_⟩⟩
  · have hrest (past : List (Event τ)) : ∃ t, s.Runs around past [] t := ⟨_, .done⟩
    obtain ⟨t, ht⟩ := exists_runs_cons (Nat.le_add_left s.settings.maxMacroDepth 0) hrest [] text
    exact ⟨t, ht, fun t' ht' => ht'.unique ht⟩
  · exact ht.depth_le hagenda _ (mem_stepsOf hmem)
  · intro before text' after hsplit hnames
    exact ht.quiet_of_namesMacro hagenda hsplit hnames
  · intro b hb
    have hbody : ∀ past name body, (s.amid (around past)).macroBody? name = some body →
        (Macro.templates body).length ≤ b := by
      intro past name body hbody
      obtain ⟨resolve, hresolve, hname⟩ := Option.bind_eq_some_iff.mp hbody
      exact hb past resolve s.server name body hresolve hname
    have hsteps : (stepsOf t.events).length ≤ cost b s.settings.maxMacroDepth := by
      simpa [agendaCost] using ht.length_steps_le hbody
    exact ⟨hsteps, Nat.le_trans ht.macroQuestions_le hsteps⟩

/-- A scene in which `!m` stands for itself twice, two levels deep. -/
def doublingScene : Scene Unit where
  settings := { maxMacroDepth := 2 }
  registry := .empty
  host := { World.directory {} with
    macros? := some fun _ name => if name = "m" then some "!m; !m" else none }
  user := { id := "u" }
  channel := { id := "c" }
  server := { id := "s" }

/-- A macro that stands for itself twice takes as many steps as the bound allows, and its first
step at the greatest depth is quiet. -/
theorem recursion_of_doubling :
    doublingScene.Runs (fun _ => doublingScene.host) [] [(0, "!m")] (doublingScene.dispatch "!m") ∧
    (stepsOf (doublingScene.dispatch "!m").events).length = 7 ∧
    (stepsOf (doublingScene.dispatch "!m").events).length ≤ ∑ i ∈ Finset.range 3, 2 ^ i ∧
    (doublingScene.dispatch "!m").macroQuestions ≤ ∑ i ∈ Finset.range 3, 2 ^ i ∧
    (∀ depth text, .step depth text ∈ (doublingScene.dispatch "!m").events → depth ≤ 2) ∧
    ∃ own later, (doublingScene.dispatch "!m").events.drop 9 = own ++ later ∧ Quiet own ∧
      ∀ e ∈ later.head?, ∃ depth text, e = .step depth text ∧ depth ≤ 2 := by
  obtain ⟨hruns, -, hbound⟩ :=
    macro_recursion_bounded doublingScene (fun _ => doublingScene.host) "!m"
  obtain ⟨hdepth, hquiet, hsteps⟩ := hbound _ hruns
  have hnames : doublingScene.NamesMacro "!m" := ⟨"m", "!m; !m", ⟨rfl, rfl⟩, rfl, rfl⟩
  obtain ⟨own, later, hafter, hown, hlater⟩ :=
    hquiet ((doublingScene.dispatch "!m").events.take 8) "!m"
      ((doublingScene.dispatch "!m").events.drop 9) rfl hnames
  have hb : ∀ (resolve : Server → String → Option String) (server : Server) (name body : String),
      doublingScene.host.macros? = some resolve → resolve server name = some body →
      (Macro.templates body).length ≤ 2 := by
    intro resolve server name body hresolve hbody
    obtain rfl : (fun _ name => if name = "m" then some "!m; !m" else none) = resolve := by
      simpa [doublingScene] using hresolve
    obtain ⟨-, rfl⟩ : name = "m" ∧ "!m; !m" = body := by simpa using hbody
    decide
  obtain ⟨hlength, hquestions⟩ := hsteps 2 fun _ => hb
  exact ⟨hruns, rfl, hlength, hquestions, hdepth, own, later, hafter, hown, hlater⟩

end Scene

end ChatCommands
