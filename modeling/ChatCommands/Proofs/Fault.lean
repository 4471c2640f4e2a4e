import ChatCommands.Proofs.Alignment

/-!
# ChatCommands.Proofs.Fault

How a match fails.  Either a token stops at a parameter, or all tokens are bound
and they are too few:

1. A token stops at a place if the tokens before it are aligned with the
   parameters in front of that place, the other ones of these pass it on, and it
   is a bad integer, whatever the parameter, or the parameter is required and
   refuses it (`StopsAt`).  There is at most one such place, and the fault is that
   of its token and its parameter (`fault_iff_stopsAt`).
2. Behind a walk to the end all required parameters are bound, unless the tokens
   have run out.  So the number of arguments that is compared with that of the
   required parameters is the number of tokens whenever the comparison fails
   (`shortage_decided_by_count`).
-/

namespace ChatCommands

variable {directory : Directory} {server : Server} {ts ts' : List String}
  {ps ps' : List Parameter} {places : List Nat} {t : String} {p : Parameter} {j : Nat}

/-! ## what a walk leaves -/

namespace Walk

/-- A walk leaves the tokens behind those that it binds. -/
theorem exists_bound (h : Walk ts ps places ts' ps') :
    ∃ bound, ts = bound ++ ts' ∧ bound.length = places.length := by
  induction h with
  | stay => exact ⟨[], rfl, rfl⟩
  | @bind t p ts ts' ps ps' places hbad haccepts hw ih =>
      obtain ⟨bound, rfl, hlength⟩ := ih
      exact ⟨t :: bound, rfl, by simp [hlength]⟩
  | pass hbad hrefuses hoptional hw ih => simpa using ih

theorem eq_drop (h : Walk ts ps places ts' ps') : ts' = ts.drop places.length := by
  obtain ⟨bound, rfl, hlength⟩ := h.exists_bound
  rw [← hlength, List.drop_left]

theorem length_eq (h : Walk ts ps places ts' ps') : ts.length = places.length + ts'.length := by
  obtain ⟨bound, rfl, hlength⟩ := h.exists_bound
  rw [List.length_append, hlength]

/-- A walk binds all required parameters but those that it leaves. -/
theorem requiredCount_le (h : Walk ts ps places ts' ps') :
    Schema.requiredCount ps ≤ places.length + Schema.requiredCount ps' := by
  induction h with
  | stay => simp
  | @bind t p ts ts' ps ps' places hbad haccepts hw ih =>
      rw [Schema.requiredCount_cons, List.length_cons, List.length_map]
      split <;> omega
  | @pass t p ts ts' ps ps' places hbad hrefuses hoptional hw ih =>
      rw [Schema.requiredCount_cons, hoptional, List.length_map]
      exact ih

end Walk

/-! ## where a token stops -/

/-- The token behind some aligned ones stops at a place among the parameters. -/
structure StopsAt (tokens : List String) (parameters : List Parameter) (places : List Nat)
    (j : Nat) (t : String) (p : Parameter) : Prop where
  /-- The tokens before it are aligned with the parameters in front of the place, and of these
  the ones behind the last bound one pass it on. -/
  aligned : Greedy tokens (parameters.take j) places
  /-- It is the next token. -/
  token : tokens[places.length]? = some t
  /-- The parameter stands at the place. -/
  parameter : parameters[j]? = some p
  /-- It cannot be bound to the parameter, and is not passed on. -/
  stops : BadInteger t ∨ p.optional = false ∧ ¬p.Accepts t

/-- A token stops at the place where a walk cannot go on. -/
theorem stopsAt_iff_walk :
    StopsAt ts ps places j t p ↔ ∃ front ts' ps', ps = front ++ p :: ps' ∧ front.length = j ∧
      Walk ts front places (t :: ts') [] ∧ AtEnd (t :: ts') (p :: ps') := by
  constructor
  · intro h
    obtain ⟨ts', front', hw, hout⟩ := greedy_iff_walk.mp h.aligned
    obtain ⟨hj, hp⟩ := List.getElem?_eq_some_iff.mp h.parameter
    obtain ⟨hi, ht⟩ := List.getElem?_eq_some_iff.mp h.token
    have hts' := hw.eq_drop
    rw [List.drop_eq_getElem_cons hi, ht] at hts'
    obtain rfl : front' = [] := hout.resolve_left (by simp [hts'])
    rw [hts'] at hw
    refine ⟨ps.take j, _, ps.drop (j + 1), ?_, ?_, hw, h.stops.imp_right And.symm⟩
    · rw [← hp, ← List.drop_eq_getElem_cons hj, List.take_append_drop]
    · rw [List.length_take, Nat.min_eq_left (Nat.le_of_lt hj)]
  · intro h
    obtain ⟨front, ts', ps', rfl, rfl, hw, hend⟩ := h
    refine ⟨?_, ?_, by simp, hend.imp_right And.symm⟩
    · rw [List.take_left]
      exact greedy_iff_walk.mpr ⟨_, _, hw, .inr rfl⟩
    · rw [← List.head?_drop, ← hw.eq_drop, List.head?_cons]

/-- A token stops at one place at most. -/
theorem StopsAt.unique {places' : List Nat} {j' : Nat} {t' : String} {p' : Parameter}
    (h : StopsAt ts ps places j t p) (h' : StopsAt ts ps places' j' t' p') :
    places' = places ∧ j' = j ∧ t' = t ∧ p' = p := by
  obtain ⟨front, _, rest, rfl, rfl, hw, hend⟩ := stopsAt_iff_walk.mp h
  obtain ⟨front', _, rest', hps, rfl, hw', hend'⟩ := stopsAt_iff_walk.mp h'
  have hwalk' := hps ▸ hw'.append_right (p' :: rest')
  obtain ⟨rfl, hts, hleft⟩ := (hw.append_right (p :: rest)).unique hend hwalk' hend'
  obtain ⟨rfl, -⟩ := List.cons.inj hts
  obtain ⟨rfl, rfl⟩ := List.cons.inj hleft
  obtain rfl : front = front' := List.append_cancel_right hps
  exact ⟨rfl, rfl, rfl, rfl⟩

theorem StopsAt.result (directory : Directory) (server : Server) (h : StopsAt ts ps places j t p) :
    (matchTokens directory server ts ps).result = .error (stopFault p t) := by
  obtain ⟨front, ts', rest, rfl, -, hw, hend⟩ := stopsAt_iff_walk.mp h
  exact matchTokens_of_stops directory server (hw.append_right (p :: rest)) hend

/-! ## faults of a token -/

/-- Whether a fault is that of too few arguments. -/
def MatchFault.isShortage : MatchFault → Bool
  | parse (.tooFew ..) => true
  | _ => false

theorem isShortage_stopFault (p : Parameter) (t : String) :
    (stopFault p t).isShortage = false := by
  unfold stopFault
  split
  · rfl
  · split <;> rfl

/-- A match has a fault of a token exactly if a token stops. -/
theorem exists_fault_iff_stopsAt :
    (∃ f, (matchTokens directory server ts ps).result = .error f ∧ f.isShortage = false) ↔
      ∃ places j t p, StopsAt ts ps places j t p := by
  constructor
  · intro h
    obtain ⟨f, hresult, hf⟩ := h
    obtain ⟨places, ts', ps', hw, hend⟩ := exists_walk_atEnd ts ps
    rcases hend.out_or_stops with hout | ⟨t, ts'', p, ps'', rfl, rfl, hstops⟩
    · rcases hw.result_of_out directory server hout with ⟨bag, hbag⟩ | ⟨_, _, _, hfew⟩
      · rw [hbag] at hresult
        cases hresult
      · rw [hfew] at hresult
        obtain rfl := Except.error.inj hresult
        contradiction
    · obtain ⟨front, rfl, hfront, -⟩ := hw.exists_front directory server
      exact ⟨places, _, t, p, stopsAt_iff_walk.mpr ⟨front, _, _, rfl, rfl, hfront, hstops⟩⟩
  · intro h
    obtain ⟨places, j, t, p, h⟩ := h
    exact ⟨_, h.result directory server, isShortage_stopFault p t⟩

/-- **Faults of a token**: matching fails for another reason than too few arguments exactly if a
token stops at a place among the parameters.  The token, the place and those of the tokens before
it are the only ones.  An integer with too many digits breaks the match off; any other bad integer
is out of range for the parameter at the place, whatever that takes and even if it is optional;
and otherwise the parameter is required and the token is of a bad type for it. -/
theorem fault_iff_stopsAt (directory : Directory) (server : Server) (tokens : List String)
    (parameters : List Parameter) :
    ((∃ f, (matchTokens directory server tokens parameters).result = .error f ∧
        f.isShortage = false) ↔
      ∃ places j t p, StopsAt tokens parameters places j t p) ∧
    ∀ places j t p, StopsAt tokens parameters places j t p →
      (∀ places' j' t' p', StopsAt tokens parameters places' j' t' p' →
        places' = places ∧ j' = j ∧ t' = t ∧ p' = p) ∧
      (Overlong t →
        (matchTokens directory server tokens parameters).result = .error .overlongNumeral) ∧
      (¬Overlong t → OutOfRange t → ∃ fault,
        (matchTokens directory server tokens parameters).result = .error (.parse fault) ∧
        fault.failure = Failure.make .parsing
          ("Bad argument format for long integer parameter " ++ p.name ++
            ", value is out of range") (.text p.name) []) ∧
      (¬BadInteger t → (p.optional = false ∧ ¬p.Accepts t) ∧ ∃ fault,
        (matchTokens directory server tokens parameters).result = .error (.parse fault) ∧
        fault.failure = Failure.make .parsing
          ("Bad argument type for non-optional parameter " ++ p.name ++ ", I expected " ++
            p.kind.title) (.text p.name) []) := by
  refine ⟨exists_fault_iff_stopsAt, fun places j t p h => ?_⟩
  have hresult := h.result directory server
  refine ⟨fun _ _ _ _ h' => h.unique h', fun hl => ?_, fun hl hr => ?_, fun hbad => ?_⟩
  · rw [hresult, stopFault, if_pos hl]
  · rw [hresult, stopFault, if_neg hl, if_pos hr]
    exact ⟨.outOfRange p.name, rfl, rfl⟩
  · obtain ⟨hl, hr⟩ := not_or.mp hbad
    rw [hresult, stopFault, if_neg hl, if_neg hr]
    exact ⟨h.stops.resolve_left hbad, .badType p, rfl, rfl⟩

/-- An integer is out of range for an optional text, behind an integer that is bound. -/
theorem fault_of_optional_text :
    StopsAt ["7", "9223372036854775808"] [⟨.long, "n", false⟩, ⟨.string, "text", true⟩] [0] 1
      "9223372036854775808" ⟨.string, "text", true⟩ ∧
    ∃ fault, (matchTokens (World.directory {}) ⟨"s", "S"⟩ ["7", "9223372036854775808"]
        [⟨.long, "n", false⟩, ⟨.string, "text", true⟩]).result = .error (.parse fault) ∧
      fault.failure = Failure.make .parsing
        "Bad argument format for long integer parameter text, value is out of range"
        (.text "text") [] := by
  have hstops : StopsAt ["7", "9223372036854775808"]
      [⟨.long, "n", false⟩, ⟨.string, "text", true⟩] [0] 1 "9223372036854775808"
      ⟨.string, "text", true⟩ :=
    stopsAt_iff_walk.mpr ⟨[⟨.long, "n", false⟩], [], [], rfl, rfl,
      .bind (by decide) (by decide) .stay, .inl (by decide)⟩
  obtain ⟨-, hfault⟩ := fault_iff_stopsAt (World.directory {}) ⟨"s", "S"⟩
    ["7", "9223372036854775808"] [⟨.long, "n", false⟩, ⟨.string, "text", true⟩]
  obtain ⟨-, -, hrange, -⟩ := hfault _ _ _ _ hstops
  exact ⟨hstops, hrange (by decide) (by decide)⟩

/-! ## too few arguments -/

/-- Too few arguments are all tokens, bound. -/
theorem exists_walk_of_shortage {f : MatchFault} (hnames : (ps.map Parameter.name).Nodup)
    (hresult : (matchTokens directory server ts ps).result = .error f)
    (hf : f.isShortage = true) :
    f = .parse (.tooFew (Schema.requiredCount ps) ps.length ts.length) ∧
      ts.length < Schema.requiredCount ps ∧
      ∃ places ps', Walk ts ps places [] ps' ∧ places.length = ts.length := by
  obtain ⟨places, ts', ps', hw, hend⟩ := exists_walk_atEnd ts ps
  rcases hend.out_or_stops with hout | ⟨t, ts'', p, ps'', rfl, rfl, hstops⟩
  · rw [matchTokens_of_out directory server hnames hw hout] at hresult
    split at hresult
    · next hfew =>
      obtain rfl := Except.error.inj hresult
      have hrequired := hw.requiredCount_le
      -- without parameters left, all that is required would be bound
      have hne : ps' ≠ [] := by
        rintro rfl
        exact absurd hrequired (Nat.not_le.mpr hfew)
      obtain rfl := hout.resolve_right hne
      have hlength : ts.length = places.length := hw.length_eq
      rw [hlength]
      exact ⟨rfl, hfew, places, ps', hw, rfl⟩
    · cases hresult
  · rw [matchTokens_of_stops directory server hw hend] at hresult
    obtain rfl := Except.error.inj hresult
    rw [isShortage_stopFault] at hf
    contradiction

/-- **Too few arguments**: with distinct names, matching never fails for too few arguments if there
are as many tokens as required parameters, and never returns a bag if there are fewer.  If it fails
so, all tokens are bound and none is left over, there are fewer of them than required parameters,
and the message and the details give their number and what is accepted. -/
theorem shortage_decided_by_count (directory : Directory) (server : Server) (tokens : List String)
    (parameters : List Parameter) (hnames : (parameters.map Parameter.name).Nodup) :
    (Schema.requiredCount parameters ≤ tokens.length → ∀ f,
      (matchTokens directory server tokens parameters).result = .error f →
        f.isShortage = false) ∧
    (tokens.length < Schema.requiredCount parameters → ∀ bag,
      (matchTokens directory server tokens parameters).result ≠ .ok bag) ∧
    ∀ f, (matchTokens directory server tokens parameters).result = .error f →
      f.isShortage = true →
      tokens.length < Schema.requiredCount parameters ∧
      (∃ places, Greedy tokens parameters places ∧ places.length = tokens.length) ∧
      (align directory server tokens parameters).surplus = [] ∧
      ∃ fault, f = .parse fault ∧ fault.failure = Failure.make .parsing
        ("Not enough arguments. I expected " ++
          describeArity (Schema.requiredCount parameters) parameters.length ++ " but you gave " ++
          toString tokens.length ++ ".") .null
        [("expected", .text (describeArity (Schema.requiredCount parameters) parameters.length)),
          ("given", .integer tokens.length)] := by
  refine ⟨fun hcount f hresult => ?_, fun hfew bag hbag => ?_, fun f hresult hf => ?_⟩
  · rw [← Bool.not_eq_true]
    intro hf
    obtain ⟨-, hfew, -⟩ := exists_walk_of_shortage hnames hresult hf
    exact absurd hcount (Nat.not_le.mpr hfew)
  · obtain ⟨places, ts', ps', hw, -, hcount, -⟩ :=
      (matchTokens_eq_ok_iff directory server hnames).mp hbag
    have hlength := hw.length_eq
    omega
  · obtain ⟨rfl, hfew, places, ps', hw, hlength⟩ := exists_walk_of_shortage hnames hresult hf
    refine ⟨hfew, ⟨places, greedy_iff_walk.mpr ⟨[], ps', hw, .inl rfl⟩, hlength⟩, ?_, _, rfl, rfl⟩
    rw [(hw.align directory server).2.2, align_of_out directory server (.inl rfl)]

/-- One text in place of two required arguments. -/
theorem shortage_of_one_text :
    (([⟨.long, "n", true⟩, ⟨.string, "text", false⟩, ⟨.user, "who", false⟩] :
      List Parameter).map Parameter.name).Nodup ∧
    ∃ f, (matchTokens (World.directory {}) ⟨"s", "S"⟩ ["hi"]
        [⟨.long, "n", true⟩, ⟨.string, "text", false⟩, ⟨.user, "who", false⟩]).result = .error f ∧
      f.isShortage = true ∧ ∃ fault, f = .parse fault ∧
      fault.failure = Failure.make .parsing
        "Not enough arguments. I expected 2 or 3 but you gave 1." .null
        [("expected", .text "2 or 3"), ("given", .integer 1)] := by
  have hnames : (([⟨.long, "n", true⟩, ⟨.string, "text", false⟩, ⟨.user, "who", false⟩] :
    List Parameter).map Parameter.name).Nodup := by decide
  have hw : Walk ["hi"] [⟨.long, "n", true⟩, ⟨.string, "text", false⟩, ⟨.user, "who", false⟩] [1]
      [] [⟨.user, "who", false⟩] :=
    .pass (by decide) (by decide) rfl (.bind (by decide) (by decide) .stay)
  have hresult := matchTokens_of_out (World.directory {}) ⟨"s", "S"⟩ hnames hw (.inl rfl)
  rw [if_pos (by decide)] at hresult
  obtain ⟨-, -, hshortage⟩ := shortage_decided_by_count (World.directory {}) ⟨"s", "S"⟩ ["hi"]
    [⟨.long, "n", true⟩, ⟨.string, "text", false⟩, ⟨.user, "who", false⟩] hnames
  obtain ⟨-, -, -, hfailure⟩ := hshortage _ hresult rfl
  exact ⟨hnames, _, hresult, rfl, hfailure⟩

end ChatCommands
