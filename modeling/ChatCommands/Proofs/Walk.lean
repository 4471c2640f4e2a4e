import ChatCommands.Matching
import ChatCommands.Proofs.Offer
import ChatCommands.Proofs.OrderedMap

/-!
# ChatCommands.Proofs.Walk

The walk that binds tokens to parameters, as a relation between where it starts
and where it has come to.  A walk

1. may stay where it is;
2. binds a token to the current parameter if that takes it;
3. passes an optional parameter over that does not take the token.

It cannot go on when the tokens or the parameters have run out, or when the
token is a bad integer or refused by a required parameter (`AtEnd`).  Every
start has one walk to such an end, and `align` is what that walk binds together
with what it ends with (`Walk.align`, `align_of_out`, `align_of_stops`).
-/

namespace ChatCommands

/-- A walk from some tokens and parameters to what is left of them; `places` are the positions
of the parameters that the tokens on the way were bound to. -/
inductive Walk : (tokens : List String) → (parameters : List Parameter) → (places : List Nat) →
    (tokensLeft : List String) → (parametersLeft : List Parameter) → Prop
  /-- The walk stays where it is. -/
  | stay {ts : List String} {ps : List Parameter} : Walk ts ps [] ts ps
  /-- A token is bound. -/
  | bind {t : String} {p : Parameter} {ts ts' : List String} {ps ps' : List Parameter}
      {places : List Nat} (hbad : ¬BadInteger t) (haccepts : p.Accepts t)
      (hw : Walk ts ps places ts' ps') :
      Walk (t :: ts) (p :: ps) (0 :: places.map (· + 1)) ts' ps'
  /-- An optional parameter is passed over. -/
  | pass {t : String} {p : Parameter} {ts ts' : List String} {ps ps' : List Parameter}
      {places : List Nat} (hbad : ¬BadInteger t) (hrefuses : ¬p.Accepts t)
      (hoptional : p.optional = true) (hw : Walk (t :: ts) ps places ts' ps') :
      Walk (t :: ts) (p :: ps) (places.map (· + 1)) ts' ps'

/-- A walk cannot go on from here. -/
def AtEnd : List String → List Parameter → Prop
  | [], _ => True
  | _ :: _, [] => True
  | t :: _, p :: _ => BadInteger t ∨ ¬p.Accepts t ∧ p.optional = false

/-- The arguments that some tokens make at some places among the parameters. -/
def boundArguments (directory : Directory) (server : Server) (tokens : List String)
    (parameters : List Parameter) (places : List Nat) : List Argument :=
  (places.zip tokens).filterMap fun (j, t) =>
    parameters[j]?.map fun p => ⟨p.name, p.kind.reading directory server t⟩

variable {directory : Directory} {server : Server} {ts ts' : List String}
  {ps ps' : List Parameter} {places : List Nat}

/-! ## arguments along a walk -/

/-- A parameter that is passed over gets no argument. -/
theorem boundArguments_pass (p : Parameter) :
    boundArguments directory server ts (p :: ps) (places.map (· + 1)) =
      boundArguments directory server ts ps places := by
  simp only [boundArguments, List.zip_map_left, List.filterMap_map]
  rfl

/-- A parameter that takes the first token gets what it reads from it. -/
theorem boundArguments_bind (t : String) (p : Parameter) :
    boundArguments directory server (t :: ts) (p :: ps) (0 :: places.map (· + 1)) =
      ⟨p.name, p.kind.reading directory server t⟩ ::
        boundArguments directory server ts ps places :=
  congrArg (_ :: ·) (boundArguments_pass p)

variable (directory) (server)

namespace Walk

/-- What a walk leaves of the parameters stands behind a front part of them, along which the walk
goes.  The bound names are names of that front part, in order. -/
theorem exists_front (h : Walk ts ps places ts' ps') : ∃ front, ps = front ++ ps' ∧
    Walk ts front places ts' [] ∧
    ((boundArguments directory server ts ps places).map Argument.name).Sublist
      (front.map Parameter.name) := by
  induction h with
  | stay => exact ⟨[], rfl, .stay, List.Sublist.refl _⟩
  | @bind t p ts ts' ps ps' places hbad haccepts hw ih =>
      obtain ⟨front, rfl, hfront, hsub⟩ := ih
      refine ⟨p :: front, rfl, .bind hbad haccepts hfront, ?_⟩
      rw [boundArguments_bind]
      exact hsub.cons_cons p.name
  | @pass t p ts ts' ps ps' places hbad hrefuses hoptional hw ih =>
      obtain ⟨front, rfl, hfront, hsub⟩ := ih
      refine ⟨p :: front, rfl, .pass hbad hrefuses hoptional hfront, ?_⟩
      rw [boundArguments_pass]
      exact hsub.cons p.name

/-- Every place of a walk binds an argument. -/
theorem length_boundArguments (h : Walk ts ps places ts' ps') :
    (boundArguments directory server ts ps places).length = places.length := by
  induction h with
  | stay => rfl
  | bind hbad haccepts hw ih => rw [boundArguments_bind]; simp [ih]
  | pass hbad hrefuses hoptional hw ih => rw [boundArguments_pass, ih, List.length_map]

/-- **Walks and alignment**: aligning from the start of a walk binds the arguments of the walk
and goes on from where the walk has come to. -/
theorem align (h : Walk ts ps places ts' ps') :
    (ChatCommands.align directory server ts ps).bound =
      boundArguments directory server ts ps places ++
        (ChatCommands.align directory server ts' ps').bound ∧
    (ChatCommands.align directory server ts ps).fault =
      (ChatCommands.align directory server ts' ps').fault ∧
    (ChatCommands.align directory server ts ps).surplus =
      (ChatCommands.align directory server ts' ps').surplus := by
  induction h with
  | stay => exact ⟨rfl, rfl, rfl⟩
  | @bind t p ts ts' ps ps' places hbad haccepts hw ih =>
      obtain ⟨source, hoffer, hvalue, -⟩ := offer_of_accepts hbad haccepts
      rw [boundArguments_bind, ChatCommands.align, hoffer]
      simp only [Alignment.bind, hvalue, ih.1, ih.2.1, ih.2.2, List.cons_append, and_self]
  | @pass t p ts ts' ps ps' places hbad hrefuses hoptional hw ih =>
      rw [boundArguments_pass, ChatCommands.align, offer_of_not_accepts hbad hrefuses]
      simp only [hoptional, if_true]
      exact ih

/-- A walk is the same walk with more parameters behind. -/
theorem append_right (h : Walk ts ps places ts' ps') (more : List Parameter) :
    Walk ts (ps ++ more) places ts' (ps' ++ more) := by
  induction h with
  | stay => exact .stay
  | bind hbad haccepts hw ih => exact .bind hbad haccepts ih
  | pass hbad hrefuses hoptional hw ih => exact .pass hbad hrefuses hoptional ih

/-- Two walks from one start to an end bind at the same places and leave the same. -/
theorem unique {places' : List Nat} {ts'' : List String} {ps'' : List Parameter}
    (h : Walk ts ps places ts' ps') (hend : AtEnd ts' ps')
    (h' : Walk ts ps places' ts'' ps'') (hend' : AtEnd ts'' ps'') :
    places = places' ∧ ts' = ts'' ∧ ps' = ps'' := by
  induction h generalizing places' with
  | @stay ts ps =>
      cases h' with
      | stay => exact ⟨rfl, rfl, rfl⟩
      | bind hbad haccepts hw => exact (hend.elim hbad fun h => h.1 haccepts).elim
      | pass hbad hrefuses hoptional hw =>
          exact (hend.elim hbad fun h => by simp [hoptional] at h).elim
  | @bind t p ts ts' ps ps' places hbad haccepts hw ih =>
      cases h' with
      | stay => exact (hend'.elim hbad fun h => h.1 haccepts).elim
      | bind _ _ hw' =>
          obtain ⟨rfl, hleft⟩ := ih hend hw'
          exact ⟨rfl, hleft⟩
      | pass _ hrefuses' _ _ => exact absurd haccepts hrefuses'
  | @pass t p ts ts' ps ps' places hbad hrefuses hoptional hw ih =>
      cases h' with
      | stay => exact (hend'.elim hbad fun h => by simp [hoptional] at h).elim
      | bind _ haccepts' _ => exact absurd haccepts' hrefuses
      | pass _ _ _ hw' =>
          obtain ⟨rfl, hleft⟩ := ih hend hw'
          exact ⟨rfl, hleft⟩

end Walk

/-! ## ends -/

theorem atEnd_of_nil (h : ts = [] ∨ ps = []) : AtEnd ts ps := by
  rcases h with rfl | rfl
  · exact trivial
  · cases ts <;> exact trivial

/-- Every start has a walk to an end. -/
theorem exists_walk_atEnd (ts : List String) (ps : List Parameter) :
    ∃ places ts' ps', Walk ts ps places ts' ps' ∧ AtEnd ts' ps' := by
  induction ps generalizing ts with
  | nil => exact ⟨[], ts, [], .stay, atEnd_of_nil (.inr rfl)⟩
  | cons p ps ih =>
      cases ts with
      | nil => exact ⟨[], [], p :: ps, .stay, trivial⟩
      | cons t ts =>
          by_cases hbad : BadInteger t
          · exact ⟨[], t :: ts, p :: ps, .stay, .inl hbad⟩
          · by_cases haccepts : p.Accepts t
            · obtain ⟨places, ts', ps', hw, hend⟩ := ih ts
              exact ⟨_, ts', ps', .bind hbad haccepts hw, hend⟩
            · cases hoptional : p.optional with
              | true =>
                  obtain ⟨places, ts', ps', hw, hend⟩ := ih (t :: ts)
                  exact ⟨_, ts', ps', .pass hbad haccepts hoptional hw, hend⟩
              | false => exact ⟨[], t :: ts, p :: ps, .stay, .inr ⟨haccepts, hoptional⟩⟩

/-- At an end the tokens or the parameters have run out, or a token stops at a parameter. -/
theorem AtEnd.out_or_stops (h : AtEnd ts ps) :
    (ts = [] ∨ ps = []) ∨
      ∃ t ts' p ps', ts = t :: ts' ∧ ps = p :: ps' ∧ AtEnd (t :: ts') (p :: ps') := by
  cases ts with
  | nil => exact .inl (.inl rfl)
  | cons t ts =>
      cases ps with
      | nil => exact .inl (.inr rfl)
      | cons p ps => exact .inr ⟨t, ts, p, ps, rfl, rfl, h⟩

/-- The fault of a token that stops at a parameter. -/
def stopFault (p : Parameter) (t : String) : MatchFault :=
  if Overlong t then .overlongNumeral
  else if OutOfRange t then .parse (.outOfRange p.name)
  else .parse (.badType p)

theorem stopFault_eq_overlong_iff {p : Parameter} {t : String} :
    stopFault p t = .overlongNumeral ↔ Overlong t := by
  unfold stopFault
  split
  · next h => simp [h]
  · next h => split <;> simp [h]

/-- Without tokens or without parameters nothing is bound. -/
theorem align_of_out (h : ts = [] ∨ ps = []) :
    align directory server ts ps = ⟨[], [], ts, none⟩ := by
  rcases h with rfl | rfl
  · rw [align]
  · cases ts <;> rw [align]

/-- At a token that stops it, a walk ends with the fault of that token. -/
theorem align_of_stops {t : String} {p : Parameter} (h : AtEnd (t :: ts) (p :: ps)) :
    align directory server (t :: ts) (p :: ps) = .stopped (stopFault p t) := by
  by_cases hl : Overlong t
  · rw [align, offer_of_overlong p.kind hl, stopFault, if_pos hl]
  · by_cases hr : OutOfRange t
    · rw [align, offer_of_outOfRange p.kind hl hr, stopFault, if_neg hl, if_pos hr]
    · have hbad : ¬BadInteger t := not_or.mpr ⟨hl, hr⟩
      obtain ⟨hrefuses, hoptional⟩ := h.resolve_left hbad
      rw [align, offer_of_not_accepts hbad hrefuses, stopFault, if_neg hl, if_neg hr]
      simp [hoptional]

/-! ## matching -/

/-- Arguments with distinct names are the entries of their bag. -/
theorem Bag.entries_ofArguments {as : List Argument} (h : (as.map Argument.name).Nodup) :
    (Bag.ofArguments as).entries = as.map fun a => (a.name, a) := by
  rw [Bag.ofArguments, OrderedMap.entries_ofList]
  rw [Pairs.keys, List.map_map]
  exact h

theorem Bag.contains_iff_mem_names {bag : Bag} {as : List Argument} {name : String}
    (h : bag.entries = as.map fun a => (a.name, a)) :
    bag.contains name = true ↔ name ∈ as.map Argument.name := by
  rw [OrderedMap.contains_iff_mem_keys, OrderedMap.keys, h, Pairs.keys, List.map_map]
  rfl

namespace Walk

/-- If parameters have distinct names, no name is bound twice: places increase. -/
theorem nodup_boundArguments (hnames : (ps.map Parameter.name).Nodup)
    (h : Walk ts ps places ts' ps') :
    ((boundArguments directory server ts ps places).map Argument.name).Nodup := by
  obtain ⟨front, rfl, -, hsub⟩ := h.exists_front directory server
  rw [List.map_append] at hnames
  exact hsub.nodup (List.nodup_append.mp hnames).1

/-- The bag of the arguments of a walk. -/
theorem entries_ofArguments (hnames : (ps.map Parameter.name).Nodup)
    (h : Walk ts ps places ts' ps') :
    (Bag.ofArguments (boundArguments directory server ts ps places)).entries =
      (boundArguments directory server ts ps places).map fun a => (a.name, a) :=
  Bag.entries_ofArguments (h.nodup_boundArguments directory server hnames)

end Walk

/-- **Broken matches**: the fault is that of the token that stops, at the parameter where it
does. -/
theorem matchTokens_of_stops {t : String} {p : Parameter}
    (hw : Walk ts ps places (t :: ts') (p :: ps')) (hend : AtEnd (t :: ts') (p :: ps')) :
    (matchTokens directory server ts ps).result = .error (stopFault p t) := by
  have hfault : (align directory server ts ps).fault = some (stopFault p t) := by
    rw [(hw.align directory server).2.1, align_of_stops directory server hend]
    rfl
  simp only [matchTokens, hfault]

/-- **Matches to the end**: the number of places is compared with that of required parameters. -/
theorem matchTokens_of_out (hnames : (ps.map Parameter.name).Nodup)
    (hw : Walk ts ps places ts' ps') (hout : ts' = [] ∨ ps' = []) :
    (matchTokens directory server ts ps).result =
      if places.length < Schema.requiredCount ps then
        .error (.parse (.tooFew (Schema.requiredCount ps) ps.length places.length))
      else .ok (Bag.ofArguments (boundArguments directory server ts ps places)) := by
  obtain ⟨hbound, hfault, -⟩ := hw.align directory server
  rw [align_of_out directory server hout] at hbound hfault
  rw [List.append_nil] at hbound
  have hsize : (Bag.ofArguments (boundArguments directory server ts ps places)).size =
      places.length := by
    rw [OrderedMap.size, hw.entries_ofArguments directory server hnames, List.length_map,
      hw.length_boundArguments directory server]
  simp only [matchTokens, hbound, hfault, hsize]
  split <;> rfl

/-- **Successful matches**: the walk uses up the tokens or the parameters, it binds at least as
many tokens as there are required parameters, and the bag lists what it binds. -/
theorem matchTokens_eq_ok_iff (hnames : (ps.map Parameter.name).Nodup) {bag : Bag} :
    (matchTokens directory server ts ps).result = .ok bag ↔
      ∃ places ts' ps', Walk ts ps places ts' ps' ∧ (ts' = [] ∨ ps' = []) ∧
        Schema.requiredCount ps ≤ places.length ∧
        bag.entries = (boundArguments directory server ts ps places).map fun a => (a.name, a) := by
  constructor
  · intro h
    obtain ⟨places, ts', ps', hw, hend⟩ := exists_walk_atEnd ts ps
    rcases hend.out_or_stops with hout | ⟨t, ts'', p, ps'', rfl, rfl, -⟩
    · rw [matchTokens_of_out directory server hnames hw hout] at h
      split at h
      · cases h
      · next hcount =>
        obtain rfl := Except.ok.inj h
        exact ⟨places, ts', ps', hw, hout, Nat.le_of_not_lt hcount,
          hw.entries_ofArguments directory server hnames⟩
    · rw [matchTokens_of_stops directory server hw hend] at h
      cases h
  · intro h
    obtain ⟨places, ts', ps', hw, hout, hcount, hbag⟩ := h
    rw [matchTokens_of_out directory server hnames hw hout, if_neg (Nat.not_lt.mpr hcount),
      OrderedMap.ext ((hw.entries_ofArguments directory server hnames).trans hbag.symm)]

/-- A walk that uses up the tokens or the parameters and binds enough makes a bag. -/
theorem Walk.exists_bag (hnames : (ps.map Parameter.name).Nodup) (h : Walk ts ps places ts' ps')
    (hout : ts' = [] ∨ ps' = []) (hcount : Schema.requiredCount ps ≤ places.length) :
    ∃ bag, (matchTokens directory server ts ps).result = .ok bag ∧
      bag.entries = (boundArguments directory server ts ps places).map fun a => (a.name, a) := by
  have hentries := h.entries_ofArguments directory server hnames
  exact ⟨_, (matchTokens_eq_ok_iff directory server hnames).mpr
    ⟨places, ts', ps', h, hout, hcount, hentries⟩, hentries⟩

/-- Whatever the names are, a match to the end has a bag or too few arguments. -/
theorem Walk.result_of_out (h : Walk ts ps places ts' ps') (hout : ts' = [] ∨ ps' = []) :
    (∃ bag, (matchTokens directory server ts ps).result = .ok bag) ∨
      ∃ minimum maximum given, (matchTokens directory server ts ps).result =
        .error (.parse (.tooFew minimum maximum given)) := by
  have hfault := (h.align directory server).2.1
  rw [align_of_out directory server hout] at hfault
  simp only [matchTokens, hfault]
  split
  · exact .inr ⟨_, _, _, rfl⟩
  · exact .inl ⟨_, rfl⟩

/-- A match is broken off exactly if the walk comes to an overlong integer while there still is a
parameter. -/
theorem matchTokens_eq_overlong_iff :
    (matchTokens directory server ts ps).result = .error .overlongNumeral ↔
      ∃ places t ts' p ps', Walk ts ps places (t :: ts') (p :: ps') ∧ Overlong t := by
  constructor
  · intro h
    obtain ⟨places, ts', ps', hw, hend⟩ := exists_walk_atEnd ts ps
    rcases hend.out_or_stops with hout | ⟨t, ts'', p, ps'', rfl, rfl, -⟩
    · rcases hw.result_of_out directory server hout with ⟨bag, hbag⟩ | ⟨_, _, _, hfew⟩
      · rw [hbag] at h
        cases h
      · rw [hfew] at h
        cases h
    · rw [matchTokens_of_stops directory server hw hend, Except.error.injEq,
        stopFault_eq_overlong_iff] at h
      exact ⟨places, t, ts'', p, ps'', hw, h⟩
  · intro h
    obtain ⟨places, t, ts', p, ps', hw, hl⟩ := h
    rw [matchTokens_of_stops directory server hw (.inl (.inl hl)),
      stopFault_eq_overlong_iff.mpr hl]

end ChatCommands
