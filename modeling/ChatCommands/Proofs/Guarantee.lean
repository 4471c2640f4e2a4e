import ChatCommands.Proofs.Walk
import ChatCommands.World

/-!
# ChatCommands.Proofs.Guarantee

Which parameter lists guarantee that a match binds all required parameters.

The number of bound arguments is all that is compared with the number of
required parameters, so an optional parameter that is bound can stand in for a
required one that is not.  This happens exactly if the parameters have a front
and a back part such that

1. a required parameter stands in the back part;
2. every required parameter of the front part can be bound at all;
3. the front part has as many optional parameters that can be bound as the
   back part has required ones (`StandsIn`).

One direction counts what a walk can bind of the front part; the other one
gives every parameter of the front part a token that it takes.
-/

namespace ChatCommands

/-- Every match binds all required parameters. -/
def Guarantees (parameters : List Parameter) : Prop :=
  ∀ (directory : Directory) (server : Server) (tokens : List String) (bag : Bag),
    (matchTokens directory server tokens parameters).result = .ok bag →
    ∀ p ∈ parameters, p.optional = false → bag.contains p.name = true

/-- The number of optional parameters that a token can be bound to. -/
def standInCount (ps : List Parameter) : Nat := ps.countP fun p => p.optional && p.kind != .bool

/-- The optional parameters of a front part can be bound in place of the required ones behind
it. -/
structure StandsIn (front back : List Parameter) : Prop where
  /-- Something is required behind. -/
  required : ∃ p ∈ back, p.optional = false
  /-- What is required in front can be bound. -/
  bindable : ∀ p ∈ front, p.optional = false → p.kind ≠ .bool
  /-- What is optional in front suffices for what is required behind. -/
  enough : Schema.requiredCount back ≤ standInCount front

variable {ts ts' : List String} {ps ps' front back : List Parameter} {places : List Nat}

theorem standInCount_cons (p : Parameter) :
    standInCount (p :: ps) =
      standInCount ps + if p.optional && p.kind != .bool then 1 else 0 := List.countP_cons

/-! ## what a walk can bind -/

namespace Walk

variable (directory : Directory) (server : Server)

/-- A walk binds all required parameters that it leaves behind, and not more parameters than are
required or can stand in. -/
theorem exists_front_bound (h : Walk ts ps places ts' ps') : ∃ front, ps = front ++ ps' ∧
    (∀ p ∈ front, p.optional = false → p.kind ≠ .bool ∧
      p.name ∈ (boundArguments directory server ts ps places).map Argument.name) ∧
    places.length ≤ Schema.requiredCount front + standInCount front := by
  induction h with
  | stay => exact ⟨[], rfl, by simp, by simp⟩
  | @bind t p ts ts' ps ps' places hbad haccepts hw ih =>
      obtain ⟨front, rfl, hbound, hlength⟩ := ih
      have hkind := haccepts.kind_ne_bool
      refine ⟨p :: front, rfl, fun q hq hrequired => ?_, ?_⟩
      · rw [boundArguments_bind, List.map_cons]
        rcases List.mem_cons.mp hq with rfl | hq
        · exact ⟨hkind, List.mem_cons_self⟩
        · obtain ⟨hkind', hmem⟩ := hbound q hq hrequired
          exact ⟨hkind', List.mem_cons_of_mem _ hmem⟩
      · rw [List.length_cons, List.length_map, Schema.requiredCount_cons, standInCount_cons]
        cases hoptional : p.optional <;> simp [hkind] <;> omega
  | @pass t p ts ts' ps ps' places hbad hrefuses hoptional hw ih =>
      obtain ⟨front, rfl, hbound, hlength⟩ := ih
      refine ⟨p :: front, rfl, fun q hq hrequired => ?_, ?_⟩
      · rw [boundArguments_pass]
        rcases List.mem_cons.mp hq with rfl | hq
        · rw [hoptional] at hrequired
          contradiction
        · exact hbound q hq hrequired
      · rw [List.length_map, Schema.requiredCount_cons, standInCount_cons]
        omega

end Walk

/-- No front part stands in: every match binds what is required. -/
theorem guarantees_of_not_standsIn (hnames : (ps.map Parameter.name).Nodup)
    (h : ¬∃ front back, ps = front ++ back ∧ StandsIn front back) : Guarantees ps := by
  intro directory server tokens bag hbag p hp hrequired
  obtain ⟨places, ts', ps', hw, -, hcount, hentries⟩ :=
    (matchTokens_eq_ok_iff directory server hnames).mp hbag
  obtain ⟨front, rfl, hbound, hlength⟩ := hw.exists_front_bound directory server
  rcases List.mem_append.mp hp with hp | hp
  · exact (Bag.contains_iff_mem_names hentries).mpr (hbound p hp hrequired).2
  · -- the walk has ended in front of a required parameter and still has bound enough
    refine absurd ⟨front, ps', rfl, ⟨p, hp, hrequired⟩, fun q hq hr => (hbound q hq hr).1, ?_⟩ h
    rw [Schema.requiredCount_append] at hcount
    omega

/-! ## what can be bound -/

/-- A token that every parameter of a kind takes, truth values apart. -/
def Kind.sample : Kind → String
  | channel => "<#1>"
  | _ => "1"

/-- A token for every parameter that can be bound. -/
def samples (ps : List Parameter) : List String :=
  (ps.filter fun p => p.kind != .bool).map fun p => p.kind.sample

theorem Kind.not_badInteger_sample (kind : Kind) : ¬BadInteger kind.sample := by
  cases kind <;> decide

theorem Parameter.accepts_sample {p : Parameter} (h : p.kind ≠ .bool) :
    p.Accepts p.kind.sample := by
  unfold Parameter.Accepts
  cases hkind : p.kind with
  | bool => exact absurd hkind h
  | long => decide
  | double => decide
  | string => decide
  | user => decide
  | channel => decide

theorem not_badInteger_of_mem_samples {t : String} (h : t ∈ samples ps) : ¬BadInteger t := by
  obtain ⟨p, -, rfl⟩ := List.mem_map.mp h
  exact p.kind.not_badInteger_sample

/-- If all that is required can be bound, there are samples for all that is required or can stand
in. -/
theorem length_samples (h : ∀ p ∈ ps, p.optional = false → p.kind ≠ .bool) :
    (samples ps).length = Schema.requiredCount ps + standInCount ps := by
  induction ps with
  | nil => rfl
  | cons p ps ih =>
      have hrest := ih fun q hq => h q (List.mem_cons_of_mem p hq)
      have hfirst := h p List.mem_cons_self
      rw [samples, List.length_map] at hrest ⊢
      rw [Schema.requiredCount_cons, standInCount_cons, List.filter_cons]
      cases hoptional : p.optional with
      | false => simp [hfirst hoptional, hrest]; omega
      | true => by_cases hkind : p.kind = .bool <;> simp [hkind, hrest]; omega

/-- The samples are bound, one at each parameter that can be bound; some optional parameters may
be left. -/
theorem exists_walk_samples (h : ∀ p ∈ ps, p.optional = false → p.kind ≠ .bool) :
    ∃ places rest, Walk (samples ps) ps places [] rest ∧
      places.length = (samples ps).length := by
  induction ps with
  | nil => exact ⟨[], [], .stay, rfl⟩
  | cons p ps ih =>
      obtain ⟨places, rest, hw, hlength⟩ := ih fun q hq => h q (List.mem_cons_of_mem p hq)
      by_cases hkind : p.kind = .bool
      · have hsamples : samples (p :: ps) = samples ps := by simp [samples, hkind]
        have hoptional : p.optional = true := by
          cases ho : p.optional with
          | true => rfl
          | false => exact absurd hkind (h p List.mem_cons_self ho)
        rw [hsamples]
        cases hts : samples ps with
        | nil => exact ⟨[], p :: ps, .stay, rfl⟩
        | cons t ts =>
            rw [hts] at hw hlength
            have hbad : ¬BadInteger t := not_badInteger_of_mem_samples (hts ▸ List.mem_cons_self)
            have hrefuses : ¬p.Accepts t := fun ha => ha.kind_ne_bool hkind
            exact ⟨_, rest, .pass hbad hrefuses hoptional hw, by simpa using hlength⟩
      · have hsamples : samples (p :: ps) = p.kind.sample :: samples ps := by
          simp [samples, hkind]
        rw [hsamples]
        exact ⟨_, rest, .bind p.kind.not_badInteger_sample (p.accepts_sample hkind) hw,
          by simpa using hlength⟩

/-- The samples of a front part that stands in make a bag without the required parameters behind
it. -/
theorem StandsIn.not_guarantees (h : StandsIn front back)
    (hnames : ((front ++ back).map Parameter.name).Nodup) : ¬Guarantees (front ++ back) := by
  intro hguarantees
  obtain ⟨places, rest, hw, hlength⟩ := exists_walk_samples h.bindable
  have hw := hw.append_right back
  have hcount : Schema.requiredCount (front ++ back) ≤ places.length := by
    rw [hlength, length_samples h.bindable, Schema.requiredCount_append]
    exact Nat.add_le_add_left h.enough _
  obtain ⟨bag, hbag, hentries⟩ :=
    hw.exists_bag (World.directory {}) ⟨"", ""⟩ hnames (.inl rfl) hcount
  obtain ⟨p, hp, hrequired⟩ := h.required
  have hbound := (Bag.contains_iff_mem_names hentries).mp
    (hguarantees _ _ _ bag hbag p (List.mem_append_right front hp) hrequired)
  -- what is bound stands in front of what the walk leaves, and the parameter is left
  obtain ⟨front', hfront', -, hsub⟩ := hw.exists_front (World.directory {}) ⟨"", ""⟩
  rw [hfront', List.map_append] at hnames
  have hleft : p.name ∈ (rest ++ back).map Parameter.name :=
    List.mem_map_of_mem (List.mem_append_right rest hp)
  exact (List.nodup_append.mp hnames).2.2 _ (hsub.subset hbound) _ hleft rfl

/-! ## the guarantee -/

theorem guarantees_iff_not_standsIn (hnames : (ps.map Parameter.name).Nodup) :
    Guarantees ps ↔ ¬∃ front back, ps = front ++ back ∧ StandsIn front back := by
  constructor
  · rintro h ⟨front, back, rfl, hstands⟩
    exact hstands.not_guarantees hnames h
  · exact guarantees_of_not_standsIn hnames

/-- Nothing stands in for what is required if nothing optional stands in front of it. -/
theorem not_standsIn_of_pairwise
    (h : ps.Pairwise fun p q => p.optional = true → q.optional = true) :
    ¬∃ front back, ps = front ++ back ∧ StandsIn front back := by
  intro h
  obtain ⟨front, back, rfl, hstands⟩ := h
  obtain ⟨q, hq, hrequired⟩ := hstands.required
  have hnone : standInCount front = 0 := by
    rw [standInCount, List.countP_eq_zero]
    intro p hp hstandIn
    have hoptional : p.optional = true := (Bool.and_eq_true _ _ ▸ hstandIn).1
    have := (List.pairwise_append.mp h).2.2 p hp q hq hoptional
    rw [hrequired] at this
    contradiction
  have hsome : 0 < Schema.requiredCount back :=
    List.countP_pos_iff.mpr ⟨q, hq, by simp [hrequired]⟩
  have := hstands.enough
  omega

/-- **The guarantee**: with distinct names, every match binds all required parameters exactly if no
front part of the parameters stands in for a back part.  So it does if no optional parameter
stands in front of a required one, and it does not for an optional integer and a required one. -/
theorem guarantees_iff_no_standIn (parameters : List Parameter)
    (hnames : (parameters.map Parameter.name).Nodup) :
    (Guarantees parameters ↔
      ¬∃ front back, parameters = front ++ back ∧
        (∃ p ∈ back, p.optional = false) ∧
        (∀ p ∈ front, p.optional = false → p.kind ≠ .bool) ∧
        back.countP (fun p => !p.optional) ≤
          front.countP fun p => p.optional && p.kind != .bool) ∧
    (parameters.Pairwise (fun p q => p.optional = true → q.optional = true) →
      Guarantees parameters) ∧
    ∀ n m : String, n ≠ m → ¬Guarantees [⟨.long, n, true⟩, ⟨.long, m, false⟩] := by
  have hiff := guarantees_iff_not_standsIn hnames
  refine ⟨hiff.trans (not_congr ?_), fun h => hiff.mpr (not_standsIn_of_pairwise h), ?_⟩
  · constructor
    · intro h
      obtain ⟨front, back, hps, h⟩ := h
      exact ⟨front, back, hps, h.required, h.bindable, h.enough⟩
    · intro h
      obtain ⟨front, back, hps, hrequired, hbindable, henough⟩ := h
      exact ⟨front, back, hps, hrequired, hbindable, henough⟩
  · intro n m hne
    have hstands : StandsIn [⟨.long, n, true⟩] [⟨.long, m, false⟩] :=
      ⟨by simp, by simp, by simp [Schema.requiredCount, standInCount]⟩
    exact hstands.not_guarantees (by simpa using hne)

/-- An optional truth value in front of a required integer does no harm, as nothing is bound to
it. -/
theorem guarantees_after_bool :
    (([⟨.bool, "b", true⟩, ⟨.long, "n", false⟩] : List Parameter).map Parameter.name).Nodup ∧
    Guarantees [⟨.bool, "b", true⟩, ⟨.long, "n", false⟩] := by
  have hnames : (([⟨.bool, "b", true⟩, ⟨.long, "n", false⟩] : List Parameter).map
    Parameter.name).Nodup := by decide
  refine ⟨hnames, (guarantees_iff_no_standIn _ hnames).1.mpr ?_⟩
  intro h
  obtain ⟨front, back, hps, ⟨p, hp, -⟩, -, hcount⟩ := h
  rcases front with _ | ⟨b, _ | ⟨n, front⟩⟩
  · obtain rfl : _ = back := hps
    exact absurd hcount (by decide)
  · obtain ⟨rfl, rfl⟩ : _ = b ∧ _ = back := by simpa using hps
    exact absurd hcount (by decide)
  · obtain ⟨-, -, -, rfl⟩ : _ = b ∧ _ = n ∧ front = [] ∧ back = [] := by simpa using hps
    exact absurd hp (by simp)

end ChatCommands
