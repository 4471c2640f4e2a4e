import ChatCommands.Proofs.Fault

/-!
# ChatCommands.Proofs.Extension

How a match changes when something is appended.

A walk stays a walk with more tokens or more parameters behind, binds the same
arguments, and can go on from where it has come to (`Walk.append_tokens`,
`Walk.append_right`, `Walk.exists_trans`).  So a match that had enough arguments
keeps them: it returns a bag that begins with them, or it is stopped by a token
that the shorter match did not bind (`Walk.bag_or_stopsAt`).

1. More tokens change nothing if no parameter was left for them, or if a token
   had stopped the match (`matchTokens_with_more_tokens`).
2. More optional parameters change nothing if no token was left for them, and
   nothing but a bad integer is ever stopped by one of them
   (`matchTokens_with_more_parameters`).
-/

namespace ChatCommands

variable {directory : Directory} {server : Server} {ts ts' ts'' : List String}
  {ps ps' ps'' : List Parameter} {places places' : List Nat} {t : String} {p : Parameter} {j : Nat}
  {bag : Bag}

/-! ## longer walks -/

namespace Walk

/-- A walk is the same walk with more tokens behind. -/
theorem append_tokens (h : Walk ts ps places ts' ps') (more : List String) :
    Walk (ts ++ more) ps places (ts' ++ more) ps' := by
  induction h with
  | stay => exact .stay
  | bind hbad haccepts hw ih => exact .bind hbad haccepts ih
  | pass hbad hrefuses hoptional hw ih => exact .pass hbad hrefuses hoptional ih

/-- What stands behind a walk does not matter to the arguments that it binds. -/
theorem boundArguments_append (h : Walk ts ps places ts' ps') (directory : Directory)
    (server : Server) (more : List String) (rest : List Parameter) :
    boundArguments directory server (ts ++ more) (ps ++ rest) places =
      boundArguments directory server ts ps places := by
  induction h with
  | stay => rfl
  | bind hbad haccepts hw ih =>
      rw [List.cons_append, List.cons_append, boundArguments_bind, boundArguments_bind, ih]
  | @pass t p ts ts' ps ps' places hbad hrefuses hoptional hw ih =>
      rw [boundArguments_pass, ← ih]
      exact boundArguments_pass p

/-- A walk goes on with another one, and binds what both of them bind. -/
theorem exists_trans (h : Walk ts ps places ts' ps') (h' : Walk ts' ps' places' ts'' ps'') :
    ∃ all, Walk ts ps all ts'' ps'' ∧ all.length = places.length + places'.length ∧
      ∀ (directory : Directory) (server : Server),
        boundArguments directory server ts ps all =
          boundArguments directory server ts ps places ++
            boundArguments directory server ts' ps' places' := by
  induction h with
  | stay => exact ⟨places', h', by simp, fun _ _ => rfl⟩
  | bind hbad haccepts hw ih =>
      obtain ⟨all, hall, hlength, hbound⟩ := ih h'
      refine ⟨_, .bind hbad haccepts hall, by simp [hlength]; omega, fun directory server => ?_⟩
      rw [boundArguments_bind, boundArguments_bind, hbound, List.cons_append]
  | pass hbad hrefuses hoptional hw ih =>
      obtain ⟨all, hall, hlength, hbound⟩ := ih h'
      refine ⟨_, .pass hbad hrefuses hoptional hall, by simp [hlength], fun directory server => ?_⟩
      rw [boundArguments_pass, boundArguments_pass, hbound]

end Walk

theorem StopsAt.append_tokens (h : StopsAt ts ps places j t p) (more : List String) :
    StopsAt (ts ++ more) ps places j t p := by
  obtain ⟨front, ts', ps', rfl, rfl, hw, hend⟩ := stopsAt_iff_walk.mp h
  exact stopsAt_iff_walk.mpr ⟨front, ts' ++ more, ps', rfl, rfl, hw.append_tokens more, hend⟩

theorem StopsAt.append_parameters (h : StopsAt ts ps places j t p) (more : List Parameter) :
    StopsAt ts (ps ++ more) places j t p := by
  obtain ⟨front, ts', ps', rfl, rfl, hw, hend⟩ := stopsAt_iff_walk.mp h
  refine stopsAt_iff_walk.mpr ⟨front, ts', ps' ++ more, ?_, rfl, hw, hend⟩
  rw [List.append_assoc, List.cons_append]

/-! ## matches that go on -/

/-- The arguments of a successful match are those of a walk, and every token that they leave is
one for which there was no parameter. -/
theorem exists_walk_of_ok (hnames : (ps.map Parameter.name).Nodup)
    (h : (matchTokens directory server ts ps).result = .ok bag) :
    ∃ places ts' ps', Walk ts ps places ts' ps' ∧ (ts' = [] ∨ ps' = []) ∧
      Schema.requiredCount ps ≤ places.length ∧ bag.size = places.length ∧
      ts' = ts.drop bag.size ∧
      bag.entries = (boundArguments directory server ts ps places).map fun a => (a.name, a) := by
  obtain ⟨places, ts', ps', hw, hout, hcount, hentries⟩ :=
    (matchTokens_eq_ok_iff directory server hnames).mp h
  have hsize : bag.size = places.length := by
    rw [OrderedMap.size, hentries, List.length_map, hw.length_boundArguments directory server]
  exact ⟨places, ts', ps', hw, hout, hcount, hsize, hsize ▸ hw.eq_drop, hentries⟩

/-- **Going on**: from where a walk that binds enough has come to, a match goes on to a bag that
begins with what the walk binds, or to a token that stops it behind the walk. -/
theorem Walk.bag_or_stopsAt (directory : Directory) (server : Server)
    (hnames : (ps.map Parameter.name).Nodup) (h : Walk ts ps places ts' ps')
    (hcount : Schema.requiredCount ps ≤ places.length) :
    (∃ bag more, (matchTokens directory server ts ps).result = .ok bag ∧
      bag.entries = (boundArguments directory server ts ps places).map (fun a => (a.name, a)) ++
        more ∧
      ∀ e ∈ more, e.1 ∈ ps'.map Parameter.name) ∨
    ∃ all j t p, StopsAt ts ps all j t p ∧ places.length ≤ all.length ∧
      ps.length ≤ j + ps'.length := by
  obtain ⟨places', ts'', ps'', hgoes, hend⟩ := exists_walk_atEnd ts' ps'
  obtain ⟨all, hw, hlength, hbound⟩ := h.exists_trans hgoes
  rcases hend.out_or_stops with hout | ⟨t, ts''', p, ps''', rfl, rfl, hstops⟩
  · left
    obtain ⟨bag, hbag, hentries⟩ :=
      hw.exists_bag directory server hnames hout (by rw [hlength]; omega)
    rw [hbound, List.map_append] at hentries
    refine ⟨bag, _, hbag, hentries, fun e he => ?_⟩
    obtain ⟨a, ha, rfl⟩ := List.mem_map.mp he
    obtain ⟨front, hfront, -, hsub⟩ := hgoes.exists_front directory server
    have hname := hsub.subset (List.mem_map_of_mem ha)
    rw [hfront, List.map_append]
    exact List.mem_append_left _ hname
  · right
    obtain ⟨front, hps, hfront, -⟩ := hw.exists_front directory server
    obtain ⟨front', hps', -, -⟩ := hgoes.exists_front directory server
    refine ⟨all, front.length, t, p,
      stopsAt_iff_walk.mpr ⟨front, ts''', ps''', hps, rfl, hfront, hstops⟩, by omega, ?_⟩
    rw [hps, hps', List.length_append, List.length_append]
    omega

/-! ## more tokens -/

/-- Behind a walk that binds the last parameter there is none left. -/
theorem Walk.eq_nil_of_last_bound (hnames : (ps.map Parameter.name).Nodup)
    (h : Walk ts ps places ts' ps') (hlast : ps.getLast? = some p)
    (hbound : p.name ∈ (boundArguments directory server ts ps places).map Argument.name) :
    ps' = [] := by
  obtain ⟨front, rfl, -, hsub⟩ := h.exists_front directory server
  cases hq : ps'.getLast? with
  | none => exact List.getLast?_eq_none_iff.mp hq
  | some q =>
      rw [List.getLast?_append, hq] at hlast
      obtain rfl : q = p := by simpa using hlast
      have hleft : q.name ∈ ps'.map Parameter.name := List.mem_map_of_mem (List.mem_of_getLast? hq)
      rw [List.map_append] at hnames
      exact absurd rfl ((List.nodup_append.mp hnames).2.2 _ (hsub.subset hbound) _ hleft)

/-- **More tokens**: let tokens be appended to those of a match.  If the match returned a bag, it
now returns one that begins with the entries of that bag, or fails for another reason than too few
arguments; and it returns the same bag if that left a token over or if the last parameter was
bound.  If the match failed for another reason than too few arguments, it fails for the same
reason, at the same token and the same parameter. -/
theorem matchTokens_with_more_tokens (directory : Directory) (server : Server)
    (tokens more : List String) (parameters : List Parameter)
    (hnames : (parameters.map Parameter.name).Nodup) :
    (∀ bag, (matchTokens directory server tokens parameters).result = .ok bag →
      ((∃ longer, (matchTokens directory server (tokens ++ more) parameters).result = .ok longer ∧
          longer.entries.take bag.size = bag.entries) ∨
        ∃ f, (matchTokens directory server (tokens ++ more) parameters).result = .error f ∧
          f.isShortage = false) ∧
      (bag.size < tokens.length ∨
          (∃ p, parameters.getLast? = some p ∧ bag.contains p.name = true) →
        (matchTokens directory server (tokens ++ more) parameters).result = .ok bag)) ∧
    ∀ f, (matchTokens directory server tokens parameters).result = .error f →
      f.isShortage = false →
      (matchTokens directory server (tokens ++ more) parameters).result = .error f ∧
      ∃ places j t p, StopsAt tokens parameters places j t p ∧
        StopsAt (tokens ++ more) parameters places j t p := by
  refine ⟨fun bag hbag => ?_, fun f hresult hf => ?_⟩
  · obtain ⟨places, ts', ps', hw, hout, hcount, hsize, hleft, hentries⟩ :=
      exists_walk_of_ok hnames hbag
    have hlonger := hw.append_tokens more
    have hbound := hw.boundArguments_append directory server more []
    rw [List.append_nil] at hbound
    constructor
    · rcases hlonger.bag_or_stopsAt directory server hnames hcount with
        ⟨longer, behind, hok, hbegins, -⟩ | ⟨_, _, t, p, hstops, -, -⟩
      · refine .inl ⟨longer, hok, ?_⟩
        rw [hbegins, hbound, ← hentries, OrderedMap.size, List.take_left]
      · exact .inr ⟨_, hstops.result directory server, isShortage_stopFault p t⟩
    · intro hsurplus
      obtain rfl : ps' = [] := by
        rcases hsurplus with hfewer | ⟨p, hlast, hcontains⟩
        · refine hout.resolve_left fun hnil => ?_
          rw [hleft, List.drop_eq_nil_iff] at hnil
          omega
        · exact hw.eq_nil_of_last_bound hnames hlast
            ((Bag.contains_iff_mem_names hentries).mp hcontains)
      exact (matchTokens_eq_ok_iff directory server hnames).mpr
        ⟨places, _, [], hlonger, .inr rfl, hcount, hentries.trans (by rw [hbound])⟩
  · obtain ⟨places, j, t, p, hstops⟩ := exists_fault_iff_stopsAt.mp ⟨f, hresult, hf⟩
    have hlonger := hstops.append_tokens more
    rw [hstops.result directory server] at hresult
    exact ⟨(hlonger.result directory server).trans hresult, places, j, t, p, hstops, hlonger⟩

/-- A count that is required and one that is not. -/
def twoCounts : List Parameter := [⟨.long, "n", false⟩, ⟨.long, "m", true⟩]

/-- Behind a bound last parameter, not even an integer out of range makes a difference; and a word
in place of a count stays the fault that it was. -/
theorem more_tokens_of_twoCounts :
    (twoCounts.map Parameter.name).Nodup ∧
    (∃ bag, (matchTokens (World.directory {}) ⟨"s", "S"⟩ ["7", "8"] twoCounts).result = .ok bag ∧
      bag.contains "m" = true ∧
      (matchTokens (World.directory {}) ⟨"s", "S"⟩ (["7", "8"] ++ ["9223372036854775808"])
        twoCounts).result = .ok bag) ∧
    (matchTokens (World.directory {}) ⟨"s", "S"⟩ ["x"] twoCounts).result =
      .error (.parse (.badType ⟨.long, "n", false⟩)) ∧
    (matchTokens (World.directory {}) ⟨"s", "S"⟩ (["x"] ++ ["8"]) twoCounts).result =
      .error (.parse (.badType ⟨.long, "n", false⟩)) := by
  have hnames : (twoCounts.map Parameter.name).Nodup := by decide
  have hw : Walk ["7", "8"] twoCounts [0, 1] [] [] :=
    .bind (by decide) (by decide) (.bind (by decide) (by decide) .stay)
  obtain ⟨bag, hbag, hentries⟩ :=
    hw.exists_bag (World.directory {}) ⟨"s", "S"⟩ hnames (.inl rfl) (by decide)
  have hcontains : bag.contains "m" = true := (Bag.contains_iff_mem_names hentries).mpr (by decide)
  have hstops : AtEnd ["x"] twoCounts := .inr (by decide)
  have hfault := matchTokens_of_stops (World.directory {}) ⟨"s", "S"⟩ .stay hstops
  obtain ⟨hkept, -⟩ := matchTokens_with_more_tokens (World.directory {}) ⟨"s", "S"⟩ ["7", "8"]
    ["9223372036854775808"] twoCounts hnames
  obtain ⟨-, hfailed⟩ := matchTokens_with_more_tokens (World.directory {}) ⟨"s", "S"⟩ ["x"] ["8"]
    twoCounts hnames
  exact ⟨hnames, ⟨bag, hbag, hcontains, (hkept bag hbag).2 (.inr ⟨_, rfl, hcontains⟩)⟩, hfault,
    (hfailed _ hfault rfl).1⟩

/-! ## more parameters -/

theorem requiredCount_of_optional {qs : List Parameter} (h : ∀ q ∈ qs, q.optional = true) :
    Schema.requiredCount qs = 0 :=
  List.countP_eq_zero.mpr fun q hq => by simp [h q hq]

/-- Nothing but a bad integer is stopped by an optional parameter. -/
theorem StopsAt.result_of_optional (directory : Directory) (server : Server)
    (h : StopsAt ts ps places j t p) (hoptional : p.optional = true) :
    Overlong t ∧ (matchTokens directory server ts ps).result = .error .overlongNumeral ∨
      ¬Overlong t ∧ OutOfRange t ∧
        (matchTokens directory server ts ps).result = .error (.parse (.outOfRange p.name)) := by
  have hbad : BadInteger t := h.stops.resolve_right fun hrequired => by
    simp [hoptional] at hrequired
  rw [h.result directory server]
  by_cases hl : Overlong t
  · exact .inl ⟨hl, by rw [stopFault, if_pos hl]⟩
  · have hr : OutOfRange t := hbad.resolve_left hl
    exact .inr ⟨hl, hr, by rw [stopFault, if_neg hl, if_pos hr]⟩

/-- **More parameters**: let optional parameters be appended to those of a match.

* If the match returned a bag for all tokens, it still returns that bag.
* If it returned a bag and left tokens over, it now returns one that begins with the entries of
  that bag and goes on with new parameters, or it fails at a new parameter because of a token that
  was left over: an integer out of range, or one with too many digits.
* If it failed for too few arguments, it still does, with the same number of them.
* If it failed for another reason, it still fails for that reason. -/
theorem matchTokens_with_more_parameters (directory : Directory) (server : Server)
    (tokens : List String) (parameters more : List Parameter)
    (hnames : ((parameters ++ more).map Parameter.name).Nodup)
    (hoptional : ∀ q ∈ more, q.optional = true) :
    (∀ bag, (matchTokens directory server tokens parameters).result = .ok bag →
      (bag.size = tokens.length →
        (matchTokens directory server tokens (parameters ++ more)).result = .ok bag) ∧
      (bag.size ≠ tokens.length →
        (∃ wider behind,
          (matchTokens directory server tokens (parameters ++ more)).result = .ok wider ∧
          wider.entries = bag.entries ++ behind ∧
          ∀ e ∈ behind, e.1 ∈ more.map Parameter.name) ∨
        ∃ places j t q, StopsAt tokens (parameters ++ more) places j t q ∧
          bag.size ≤ places.length ∧ q ∈ more ∧
          (Overlong t ∧ (matchTokens directory server tokens (parameters ++ more)).result =
              .error .overlongNumeral ∨
            ¬Overlong t ∧ OutOfRange t ∧
              (matchTokens directory server tokens (parameters ++ more)).result =
                .error (.parse (.outOfRange q.name))))) ∧
    (∀ minimum maximum given,
      (matchTokens directory server tokens parameters).result =
        .error (.parse (.tooFew minimum maximum given)) →
      (matchTokens directory server tokens (parameters ++ more)).result =
        .error (.parse (.tooFew minimum (maximum + more.length) given))) ∧
    ∀ f, (matchTokens directory server tokens parameters).result = .error f →
      f.isShortage = false →
      (matchTokens directory server tokens (parameters ++ more)).result = .error f := by
  have hrequired : Schema.requiredCount (parameters ++ more) = Schema.requiredCount parameters := by
    rw [Schema.requiredCount_append, requiredCount_of_optional hoptional, Nat.add_zero]
  have hshorter : (parameters.map Parameter.name).Nodup := by
    rw [List.map_append] at hnames
    exact (List.nodup_append.mp hnames).1
  refine ⟨fun bag hbag => ?_, fun minimum maximum given hresult => ?_, fun f hresult hf => ?_⟩
  · obtain ⟨places, ts', ps', hw, hout, hcount, hsize, hleft, hentries⟩ :=
      exists_walk_of_ok hshorter hbag
    have hwider := hw.append_right more
    have hbound := hw.boundArguments_append directory server [] more
    rw [List.append_nil] at hbound
    constructor
    · intro hall
      have hnil : ts' = [] := by rw [hleft, hall, List.drop_length]
      exact (matchTokens_eq_ok_iff directory server hnames).mpr
        ⟨places, ts', _, hwider, .inl hnil, hrequired ▸ hcount, hentries.trans (by rw [hbound])⟩
    · intro hsurplus
      have hne : ts' ≠ [] := by
        rw [hleft, ne_eq, List.drop_eq_nil_iff]
        have := hw.length_eq
        omega
      obtain rfl := hout.resolve_left hne
      rcases hwider.bag_or_stopsAt directory server hnames (hrequired ▸ hcount) with
        ⟨wider, behind, hok, hbegins, hnew⟩ | ⟨all, j, t, q, hstops, hlater, hplace⟩
      · exact .inl ⟨wider, behind, hok, by rw [hbegins, hbound, ← hentries], hnew⟩
      · have hj : parameters.length ≤ j := by simpa using hplace
        have hq : q ∈ more := by
          have hparameter := hstops.parameter
          rw [List.getElem?_append_right hj] at hparameter
          exact List.mem_of_getElem? hparameter
        exact .inr ⟨all, j, t, q, hstops, hsize ▸ hlater, hq,
          hstops.result_of_optional directory server (hoptional q hq)⟩
  · obtain ⟨heq, hfew, places, ps', hw, hlength⟩ := exists_walk_of_shortage hshorter hresult rfl
    obtain ⟨rfl, rfl, rfl⟩ : _ ∧ _ ∧ _ := by simpa using heq
    rw [matchTokens_of_out directory server hnames (hw.append_right more) (.inl rfl), hrequired,
      hlength, if_pos hfew, List.length_append]
  · obtain ⟨places, j, t, p, hstops⟩ := exists_fault_iff_stopsAt.mp ⟨f, hresult, hf⟩
    rw [hstops.result directory server] at hresult
    exact ((hstops.append_parameters more).result directory server).trans hresult

/-- A count and a text, both of them required. -/
def countAndText : List Parameter := [⟨.long, "n", false⟩, ⟨.string, "text", false⟩]

/-- A user that may be left out. -/
def optionalUser : List Parameter := [⟨.user, "who", true⟩]

/-- An optional user behind two required arguments: they are still all that is given, and one of
them alone is still too few. -/
theorem more_parameters_of_optionalUser :
    ((countAndText ++ optionalUser).map Parameter.name).Nodup ∧
    (∀ q ∈ optionalUser, q.optional = true) ∧
    (∃ bag, (matchTokens (World.directory {}) ⟨"s", "S"⟩ ["7", "hi"] countAndText).result =
        .ok bag ∧ bag.size = 2 ∧
      (matchTokens (World.directory {}) ⟨"s", "S"⟩ ["7", "hi"]
        (countAndText ++ optionalUser)).result = .ok bag) ∧
    (matchTokens (World.directory {}) ⟨"s", "S"⟩ ["7"] countAndText).result =
      .error (.parse (.tooFew 2 2 1)) ∧
    (matchTokens (World.directory {}) ⟨"s", "S"⟩ ["7"] (countAndText ++ optionalUser)).result =
      .error (.parse (.tooFew 2 3 1)) := by
  have hnames : (countAndText.map Parameter.name).Nodup := by decide
  have hwider : ((countAndText ++ optionalUser).map Parameter.name).Nodup := by decide
  have hoptional : ∀ q ∈ optionalUser, q.optional = true := by decide
  have hw : Walk ["7", "hi"] countAndText [0, 1] [] [] :=
    .bind (by decide) (by decide) (.bind (by decide) (by decide) .stay)
  have hshort : Walk ["7"] countAndText [0] [] [⟨.string, "text", false⟩] :=
    .bind (by decide) (by decide) .stay
  obtain ⟨bag, hbag, hentries⟩ :=
    hw.exists_bag (World.directory {}) ⟨"s", "S"⟩ hnames (.inl rfl) (by decide)
  have hsize : bag.size = 2 := by rw [OrderedMap.size, hentries]; rfl
  have hfew := matchTokens_of_out (World.directory {}) ⟨"s", "S"⟩ hnames hshort (.inl rfl)
  rw [if_pos (by decide)] at hfew
  obtain ⟨hkept, -, -⟩ := matchTokens_with_more_parameters (World.directory {}) ⟨"s", "S"⟩
    ["7", "hi"] countAndText optionalUser hwider hoptional
  obtain ⟨-, hstill, -⟩ := matchTokens_with_more_parameters (World.directory {}) ⟨"s", "S"⟩
    ["7"] countAndText optionalUser hwider hoptional
  exact ⟨hwider, hoptional, ⟨bag, hbag, hsize, (hkept bag hbag).1 hsize⟩, hfew,
    hstill _ _ _ hfew⟩

end ChatCommands
