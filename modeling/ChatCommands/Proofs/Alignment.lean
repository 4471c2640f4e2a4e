import ChatCommands.Proofs.Walk
import ChatCommands.World

/-!
# ChatCommands.Proofs.Alignment

Greedy in-order alignments of tokens with parameters, by position.  The tokens
in front are bound at increasing places, one token at each, such that

1. a token is no bad integer and is bound where its form is taken;
2. the parameters between the place of a token and that of the token before it
   are optional and refuse it;
3. the first token that is not bound, if there is one, is refused by all the
   parameters behind the last place, which are optional, and if there are such
   parameters it is no bad integer.

An alignment by position is the same as a walk that uses up the tokens or the
parameters (`greedy_iff_walk`).  So a match succeeds exactly if there is such
an alignment with enough tokens, which then is the only one
(`matchTokens_ok_iff_greedy`).
-/

namespace ChatCommands

/-- The parameters behind some places and in front of a position are optional and refuse a
token. -/
def Passed (parameters : List Parameter) (places : List Nat) (token : String) (j : Nat) : Prop :=
  ∀ (m : Nat) (q : Parameter), (∀ l ∈ places, l < m) → m < j → parameters[m]? = some q →
    q.optional = true ∧ ¬q.Accepts token

/-- The first tokens are aligned with the parameters at some places, in order and greedily. -/
structure Greedy (tokens : List String) (parameters : List Parameter) (places : List Nat) :
    Prop where
  /-- No more tokens are bound than there are. -/
  length_le : places.length ≤ tokens.length
  /-- The places increase. -/
  increasing : places.Pairwise (· < ·)
  /-- A token is no bad integer, and is bound to a parameter that takes its form. -/
  accepts : ∀ i j : Nat, places[i]? = some j → ∃ (t : String) (p : Parameter),
    tokens[i]? = some t ∧ parameters[j]? = some p ∧ ¬BadInteger t ∧ p.Accepts t
  /-- Parameters between the place of a token and that of the token before it pass it on. -/
  passes : ∀ (i j : Nat) (t : String), places[i]? = some j → tokens[i]? = some t →
    Passed parameters (places.take i) t j
  /-- All tokens are bound, or all parameters behind the last place pass the next token on, and
  if there are any, it is no bad integer. -/
  stops : places.length = tokens.length ∨ ∀ t : String, tokens[places.length]? = some t →
    Passed parameters places t parameters.length ∧
    ((∃ m < parameters.length, ∀ l ∈ places, l < m) → ¬BadInteger t)

variable {t u : String} {p : Parameter} {ts : List String} {ps : List Parameter}
  {places : List Nat} {j : Nat}

/-! ## behind a first parameter -/

/-- Positive places are places behind a first parameter. -/
theorem exists_map_succ (h : ∀ j ∈ places, 0 < j) :
    ∃ rest : List Nat, places = rest.map (· + 1) := by
  refine ⟨places.map (· - 1), ?_⟩
  rw [List.map_map]
  refine (List.map_id places).symm.trans (List.map_congr_left fun j hj => ?_)
  have := h j hj
  simp only [id, Function.comp_apply]
  omega

/-- A first parameter that a token is bound to does not matter to later ones. -/
theorem passed_bind_iff :
    Passed (p :: ps) (0 :: places.map (· + 1)) u (j + 1) ↔ Passed ps places u j := by
  constructor
  · intro h m q hl hm hq
    exact h (m + 1) q (by simpa using hl) (by omega) (by simpa using hq)
  · intro h m q hl hm hq
    cases m with
    | zero => exact absurd (hl 0 (by simp)) (by omega)
    | succ m => exact h m q (by simpa using hl) (by omega) (by simpa using hq)

/-- A first parameter has passed a token on that is not bound to it, if no token before was bound
elsewhere. -/
theorem passed_pass_iff :
    Passed (p :: ps) (places.map (· + 1)) u (j + 1) ↔
      (places = [] → p.optional = true ∧ ¬p.Accepts u) ∧ Passed ps places u j := by
  constructor
  · intro h
    constructor
    · intro h
      subst h
      exact h 0 p (by simp) (by omega) rfl
    · intro m q hl hm hq
      exact h (m + 1) q (by simpa using hl) (by omega) (by simpa using hq)
  · rintro ⟨hfirst, h⟩ m q hl hm hq
    cases m with
    | zero =>
        obtain rfl : places = [] := by
          cases places with
          | nil => rfl
          | cons l places => exact absurd (hl (l + 1) (by simp)) (by omega)
        obtain rfl : p = q := by simpa using hq
        exact hfirst rfl
    | succ m => exact h m q (by simpa using hl) (by omega) (by simpa using hq)

theorem getElem?_map_succ {i : Nat} :
    (places.map (· + 1))[i]? = some j ↔ ∃ j', places[i]? = some j' ∧ j' + 1 = j := by
  simp

/-! ## the first step of an alignment -/

theorem greedy_nil (h : ts = [] ∨ ps = []) : Greedy ts ps [] where
  length_le := Nat.zero_le _
  increasing := .nil
  accepts := by simp
  passes := by simp
  stops := by
    rcases h with rfl | rfl
    · exact .inl rfl
    · exact .inr fun t ht => ⟨by simp [Passed], by simp⟩

theorem Greedy.eq_nil (h : Greedy ts ps places) (hout : ts = [] ∨ ps = []) : places = [] := by
  cases places with
  | nil => rfl
  | cons j places =>
      obtain ⟨t, p, ht, hp, -⟩ := h.accepts 0 j rfl
      rcases hout with rfl | rfl
      · exact absurd ht (by simp)
      · exact absurd hp (by simp)

/-- Increasing places that are not all positive start with the first parameter. -/
theorem Greedy.exists_zero_cons (h : Greedy ts ps places) (hpos : ¬∀ j ∈ places, 0 < j) :
    ∃ rest : List Nat, places = 0 :: rest.map (· + 1) := by
  cases places with
  | nil => exact absurd (by simp) hpos
  | cons j places =>
      have hlt := (List.pairwise_cons.mp h.increasing).1
      obtain rfl : j = 0 := by
        by_cases hj : j = 0
        · exact hj
        · refine absurd (fun l hl => ?_) hpos
          rcases List.mem_cons.mp hl with rfl | hl
          · exact Nat.pos_of_ne_zero hj
          · exact Nat.lt_of_le_of_lt (Nat.zero_le j) (hlt l hl)
      obtain ⟨rest, rfl⟩ := exists_map_succ hlt
      exact ⟨rest, rfl⟩

/-! ### the first token is bound to the first parameter -/

/-- An alignment goes on in front with a token that is bound at the first parameter. -/
theorem Greedy.bind (hbad : ¬BadInteger t) (haccepts : p.Accepts t) (h : Greedy ts ps places) :
    Greedy (t :: ts) (p :: ps) (0 :: places.map (· + 1)) where
  length_le := by simpa using h.length_le
  increasing := by
    refine List.pairwise_cons.mpr ⟨by simp, ?_⟩
    simpa [List.pairwise_map] using h.increasing
  accepts := by
    intro i j hj
    cases i with
    | zero =>
        obtain rfl : 0 = j := by simpa using hj
        exact ⟨t, p, rfl, rfl, hbad, haccepts⟩
    | succ i =>
        obtain ⟨j', hj', rfl⟩ := getElem?_map_succ.mp hj
        simpa using h.accepts i j' hj'
  passes := by
    intro i j u hj hu
    cases i with
    | zero =>
        obtain rfl : 0 = j := by simpa using hj
        intro m q _ hm
        omega
    | succ i =>
        obtain ⟨j', hj', rfl⟩ := getElem?_map_succ.mp hj
        rw [List.take_succ_cons, ← List.map_take]
        exact passed_bind_iff.mpr (h.passes i j' u hj' hu)
  stops := by
    refine h.stops.imp (by simpa using ·) fun hstop u hu => ?_
    have hstop := hstop u (by simpa using hu)
    refine ⟨passed_bind_iff.mpr hstop.1, fun ⟨m, hm, hl⟩ => ?_⟩
    cases m with
    | zero => exact absurd (hl 0 (by simp)) (by omega)
    | succ m => exact hstop.2 ⟨m, by simpa using hm, by simpa using hl⟩

/-- Behind such a token it is an alignment too. -/
theorem Greedy.of_bind (h : Greedy (t :: ts) (p :: ps) (0 :: places.map (· + 1))) :
    ¬BadInteger t ∧ p.Accepts t ∧ Greedy ts ps places := by
  obtain ⟨t', p', ht, hp, hbad, haccepts⟩ := h.accepts 0 0 rfl
  obtain rfl : t = t' := by simpa using ht
  obtain rfl : p = p' := by simpa using hp
  refine ⟨hbad, haccepts, ?_, ?_, ?_, ?_, ?_⟩
  · simpa using h.length_le
  · simpa [List.pairwise_map] using (List.pairwise_cons.mp h.increasing).2
  · intro i j hj
    simpa using h.accepts (i + 1) (j + 1) (by simp [hj])
  · intro i j u hj hu
    have hpassed := h.passes (i + 1) (j + 1) u (by simp [hj]) hu
    rw [List.take_succ_cons, ← List.map_take] at hpassed
    exact passed_bind_iff.mp hpassed
  · refine h.stops.imp (by simpa using ·) fun hstop u hu => ?_
    have hstop := hstop u (by simpa using hu)
    refine ⟨passed_bind_iff.mp hstop.1, fun ⟨m, hm, hl⟩ => ?_⟩
    exact hstop.2 ⟨m + 1, by simpa using hm, by simpa using hl⟩

/-! ### the first parameter passes the first token on -/

/-- An alignment goes on in front with an optional parameter that refuses the first token. -/
theorem Greedy.pass (hbad : ¬BadInteger t) (hrefuses : ¬p.Accepts t) (hoptional : p.optional = true)
    (h : Greedy (t :: ts) ps places) : Greedy (t :: ts) (p :: ps) (places.map (· + 1)) where
  length_le := by simpa using h.length_le
  increasing := by simpa [List.pairwise_map] using h.increasing
  accepts := by
    intro i j hj
    obtain ⟨j', hj', rfl⟩ := getElem?_map_succ.mp hj
    simpa using h.accepts i j' hj'
  passes := by
    intro i j u hj hu
    obtain ⟨j', hj', rfl⟩ := getElem?_map_succ.mp hj
    rw [← List.map_take]
    refine passed_pass_iff.mpr ⟨fun hnil => ?_, h.passes i j' u hj' hu⟩
    -- nothing is bound before this token, so it is the first one
    obtain rfl : i = 0 := by
      rcases List.take_eq_nil_iff.mp hnil with hi | hplaces
      · exact hi
      · simp [hplaces] at hj'
    obtain rfl : t = u := by simpa using hu
    exact ⟨hoptional, hrefuses⟩
  stops := by
    refine h.stops.imp (by simpa using ·) fun hstop u hu => ?_
    have hstop := hstop u (by simpa using hu)
    have hfirst : places = [] → t = u := by
      intro hnil
      simpa [hnil] using hu
    refine ⟨passed_pass_iff.mpr ⟨fun hnil => ?_, hstop.1⟩, fun ⟨m, hm, hl⟩ => ?_⟩
    · exact hfirst hnil ▸ ⟨hoptional, hrefuses⟩
    · cases hplaces : places with
      | nil => exact hfirst hplaces ▸ hbad
      | cons l rest =>
          cases m with
          | zero => exact absurd (hl (l + 1) (by simp [hplaces])) (by omega)
          | succ m => exact hstop.2 ⟨m, by simpa using hm, by simpa using hl⟩

/-- A first parameter that no token is bound to has passed the first token on. -/
theorem Greedy.first_passed (h : Greedy (t :: ts) (p :: ps) (places.map (· + 1))) :
    ¬BadInteger t ∧ ¬p.Accepts t ∧ p.optional = true := by
  cases places with
  | nil =>
      have hstop := h.stops.resolve_left (by simp) t rfl
      have hp := hstop.1 0 p (by simp) (by simp) rfl
      exact ⟨hstop.2 ⟨0, by simp, by simp⟩, hp.2, hp.1⟩
  | cons j places =>
      obtain ⟨t', -, ht, -, hbad, -⟩ := h.accepts 0 (j + 1) rfl
      obtain rfl : t = t' := by simpa using ht
      have hp := h.passes 0 (j + 1) t rfl rfl 0 p (by simp) (by omega) rfl
      exact ⟨hbad, hp.2, hp.1⟩

/-- Behind such a parameter it is an alignment too. -/
theorem Greedy.of_pass (h : Greedy (t :: ts) (p :: ps) (places.map (· + 1))) :
    Greedy (t :: ts) ps places where
  length_le := by simpa using h.length_le
  increasing := by simpa [List.pairwise_map] using h.increasing
  accepts := by
    intro i j hj
    simpa using h.accepts i (j + 1) (by simp [hj])
  passes := by
    intro i j u hj hu
    have hpassed := h.passes i (j + 1) u (by simp [hj]) hu
    rw [← List.map_take] at hpassed
    exact (passed_pass_iff.mp hpassed).2
  stops := by
    refine h.stops.imp (by simpa using ·) fun hstop u hu => ?_
    have hstop := hstop u (by simpa using hu)
    refine ⟨(passed_pass_iff.mp hstop.1).2, fun ⟨m, hm, hl⟩ => ?_⟩
    exact hstop.2 ⟨m + 1, by simpa using hm, by simpa using hl⟩

/-! ## alignments and walks -/

/-- **Alignments and walks**: an alignment by position is a walk that uses up the tokens or the
parameters. -/
theorem greedy_iff_walk :
    Greedy ts ps places ↔ ∃ ts' ps', Walk ts ps places ts' ps' ∧ (ts' = [] ∨ ps' = []) := by
  constructor
  · intro h
    induction ps generalizing ts places with
    | nil =>
        obtain rfl := h.eq_nil (.inr rfl)
        exact ⟨ts, [], .stay, .inr rfl⟩
    | cons p ps ih =>
        cases ts with
        | nil =>
            obtain rfl := h.eq_nil (.inl rfl)
            exact ⟨[], p :: ps, .stay, .inl rfl⟩
        | cons t ts =>
            -- the first place, if there is one, tells whether the first parameter is bound
            by_cases hpos : ∀ j ∈ places, 0 < j
            · obtain ⟨rest, rfl⟩ := exists_map_succ hpos
              obtain ⟨hbad, hrefuses, hoptional⟩ := h.first_passed
              obtain ⟨ts', ps', hw, hout⟩ := ih h.of_pass
              exact ⟨ts', ps', .pass hbad hrefuses hoptional hw, hout⟩
            · obtain ⟨rest, rfl⟩ := h.exists_zero_cons hpos
              obtain ⟨hbad, haccepts, hrest⟩ := h.of_bind
              obtain ⟨ts', ps', hw, hout⟩ := ih hrest
              exact ⟨ts', ps', .bind hbad haccepts hw, hout⟩
  · intro h
    obtain ⟨ts', ps', hw, hout⟩ := h
    induction hw with
    | stay => exact greedy_nil hout
    | bind hbad haccepts hw ih => exact (ih hout).bind hbad haccepts
    | pass hbad hrefuses hoptional hw ih => exact (ih hout).pass hbad hrefuses hoptional

/-- **There is one greedy alignment at most.** -/
theorem Greedy.unique {places' : List Nat} (h : Greedy ts ps places)
    (h' : Greedy ts ps places') : places = places' := by
  obtain ⟨_, _, hw, hout⟩ := greedy_iff_walk.mp h
  obtain ⟨_, _, hw', hout'⟩ := greedy_iff_walk.mp h'
  exact (hw.unique (atEnd_of_nil hout) hw' (atEnd_of_nil hout')).1

/-- An alignment with enough tokens makes a bag. -/
theorem Greedy.exists_bag (directory : Directory) (server : Server)
    (hnames : (ps.map Parameter.name).Nodup) (h : Greedy ts ps places)
    (hcount : Schema.requiredCount ps ≤ places.length) :
    ∃ bag, (matchTokens directory server ts ps).result = .ok bag ∧ bag.size = places.length ∧
      bag.entries = (boundArguments directory server ts ps places).map fun a => (a.name, a) := by
  obtain ⟨ts', ps', hw, hout⟩ := greedy_iff_walk.mp h
  obtain ⟨bag, hbag, hentries⟩ := hw.exists_bag directory server hnames hout hcount
  refine ⟨bag, hbag, ?_, hentries⟩
  rw [OrderedMap.size, hentries, List.length_map, hw.length_boundArguments directory server]

/-- **Greedy matching**: matching returns a bag exactly if the tokens have an alignment that binds
at least as many of them as there are required parameters. There is no other such alignment, and
the bag lists, in order, what its tokens are read as. -/
theorem matchTokens_ok_iff_greedy (directory : Directory) (server : Server) (tokens : List String)
    (parameters : List Parameter) (hnames : (parameters.map Parameter.name).Nodup) :
    ((∃ bag, (matchTokens directory server tokens parameters).result = .ok bag) ↔
      ∃ places, Greedy tokens parameters places ∧
        Schema.requiredCount parameters ≤ places.length) ∧
    ∀ places, Greedy tokens parameters places →
      Schema.requiredCount parameters ≤ places.length →
      (∀ places', Greedy tokens parameters places' →
        Schema.requiredCount parameters ≤ places'.length → places' = places) ∧
      ∃ bag, (matchTokens directory server tokens parameters).result = .ok bag ∧
        bag.size = places.length ∧
        bag.entries = (boundArguments directory server tokens parameters places).map
          fun a => (a.name, a) := by
  refine ⟨⟨?_, ?_⟩, fun places h hcount => ⟨fun places' h' _ => h'.unique h, ?_⟩⟩
  · intro h
    obtain ⟨bag, hbag⟩ := h
    obtain ⟨places, ts', ps', hw, hout, hcount, -⟩ :=
      (matchTokens_eq_ok_iff directory server hnames).mp hbag
    exact ⟨places, greedy_iff_walk.mpr ⟨ts', ps', hw, hout⟩, hcount⟩
  · intro h
    obtain ⟨places, h, hcount⟩ := h
    obtain ⟨bag, hbag, -⟩ := h.exists_bag directory server hnames hcount
    exact ⟨bag, hbag⟩
  · exact h.exists_bag directory server hnames hcount

/-- A text passes an optional integer over and goes to the parameter behind it. -/
theorem matchTokens_passing_optional :
    (([⟨.long, "n", true⟩, ⟨.string, "text", false⟩] : List Parameter).map Parameter.name).Nodup ∧
    ∃ bag, (matchTokens (World.directory {}) ⟨"s", "S"⟩ ["hi"]
        [⟨.long, "n", true⟩, ⟨.string, "text", false⟩]).result = .ok bag ∧
      bag.size = 1 ∧ bag.entries = [("text", ⟨"text", .string "hi"⟩)] := by
  have hnames : (([⟨.long, "n", true⟩, ⟨.string, "text", false⟩] : List Parameter).map
    Parameter.name).Nodup := by decide
  have hgreedy : Greedy ["hi"] [⟨.long, "n", true⟩, ⟨.string, "text", false⟩] [1] :=
    greedy_iff_walk.mpr ⟨[], [], .pass (by decide) (by decide) rfl
      (.bind (by decide) (by decide) .stay), .inl rfl⟩
  have hmatch := matchTokens_ok_iff_greedy (World.directory {}) ⟨"s", "S"⟩ ["hi"]
    [⟨.long, "n", true⟩, ⟨.string, "text", false⟩] hnames
  exact ⟨hnames, (hmatch.2 [1] hgreedy (by decide)).2⟩

end ChatCommands
