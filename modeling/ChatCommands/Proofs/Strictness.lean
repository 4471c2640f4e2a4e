import ChatCommands.Proofs.Gate

/-!
# ChatCommands.Proofs.Strictness

Requirements that are stricter than others.  One is not stricter than another one
if it has the same special restrictions, asks for no further capability and has
no further bit (`Requirement.NoStricter`).  Then it admits every user whom the
other one admits (`Permission.allowed_of_noStricter`), also where its bits are
at most the administrator's one and those of the other one are not, so that
different rules apply to them.

The bits of the other requirement have to be a natural number.  A negative
number has bits without end, and any of them is enough as it is a moderator's.
-/

namespace ChatCommands

open Bits

/-- A requirement asks for nothing that another one does not ask for. -/
structure Requirement.NoStricter (lax strict : Requirement) : Prop where
  /-- The special restrictions are the same. -/
  restrictions : ∀ r, r ∈ lax.restrictions ↔ r ∈ strict.restrictions
  /-- The other one asks for all the capabilities. -/
  capabilities : ∀ c ∈ lax.capabilities, c ∈ strict.capabilities
  /-- It has all the bits. -/
  bits : Bits.and lax.bits strict.bits = lax.bits

namespace Permission

variable {host : Host} {lax strict : Requirement} {part whole userBits : Int} {server : Server}
  {user : User}

/-! ## bits -/

/-- A moderator's requirement that is no negative number has one bit at most. -/
theorem hasBit_unique_of_le_two (hnonneg : 0 ≤ whole) (hceiling : whole ≤ 2) {i j : Nat}
    (hi : HasBit whole i) (hj : HasBit whole j) : i = j := by
  obtain rfl | rfl | rfl : whole = 0 ∨ whole = 1 ∨ whole = 2 := by omega
  · exact absurd hi (not_hasBit_zero i)
  · exact (hasBit_one.mp hi).trans (hasBit_one.mp hj).symm
  · exact (hasBit_two.mp hi).trans (hasBit_two.mp hj).symm

/-- So every part of it that is not empty is all of it. -/
theorem eq_of_le_two (hnonneg : 0 ≤ whole) (hceiling : whole ≤ 2)
    (hbits : ∀ i, HasBit part i → HasBit whole i) (hne : part ≠ 0) : part = whole := by
  obtain ⟨j, hj⟩ := ne_zero_iff.mp hne
  refine eq_of_hasBit_iff fun i => ⟨hbits i, fun hi => ?_⟩
  obtain rfl := hasBit_unique_of_le_two hnonneg hceiling hi (hbits j hj)
  exact hj

/-- What is enough for a requirement is enough for every part of it. -/
theorem BitsSuffice.of_part (h : BitsSuffice whole userBits) (hnonneg : 0 ≤ whole)
    (hpart : Bits.and part whole = part) (hne : part ≠ 0) : BitsSuffice part userBits := by
  have hbits := and_eq_left_iff.mp hpart
  by_cases hceiling : whole ≤ 2
  · rw [eq_of_le_two hnonneg hceiling hbits hne]
    exact h
  · rw [BitsSuffice, if_neg hceiling] at h
    rw [BitsSuffice]
    split
    · -- the part is a moderator's, so any of its bits will do, and the user has them all
      obtain ⟨i, hi⟩ := ne_zero_iff.mp hne
      exact ⟨i, h i (hbits i hi), .inr hi⟩
    · exact fun i hi => h i (hbits i hi)

/-! ## requirements -/

theorem Satisfies.of_noStricter (h : Satisfies host strict server user)
    (hstrict : lax.NoStricter strict) (hnonneg : 0 ≤ strict.bits) :
    Satisfies host lax server user := by
  have hsome : lax.restrictions = [] ↔ strict.restrictions = [] := by
    simp only [List.eq_nil_iff_forall_not_mem, hstrict.restrictions]
  unfold Satisfies at h ⊢
  simp only [ne_eq, hsome, hstrict.restrictions] at h ⊢
  split at h
  · next hrestricted =>
    rw [if_pos hrestricted]
    exact h
  · next hunrestricted =>
    rw [if_neg hunrestricted]
    obtain ⟨hcapabilities, hbits⟩ := h
    refine ⟨fun c hc => hcapabilities c (hstrict.capabilities c hc), ?_⟩
    by_cases hzero : lax.bits = 0
    · exact .inl hzero
    · rcases hbits with hnothing | hnone | ⟨supply, hsupply, hsuffice⟩
      · -- what has no bit has no part with a bit
        obtain ⟨i, hi⟩ := ne_zero_iff.mp hzero
        have hbit := and_eq_left_iff.mp hstrict.bits i hi
        exact absurd hbit (hnothing ▸ not_hasBit_zero i)
      · exact .inr (.inl hnone)
      · exact .inr (.inr ⟨supply, hsupply, hsuffice.of_part hnonneg hstrict.bits hzero⟩)

/-- **Strictness**: a requirement that is not stricter than another one, whose bits are no negative
number, admits every user whom that one admits, in any surroundings. -/
theorem allowed_of_noStricter (host : Host) (lax strict : Requirement) (server : Server)
    (user : User) (hstrict : lax.NoStricter strict) (hnonneg : 0 ≤ strict.bits)
    (h : (check host strict server user).allowed = true) :
    (check host lax server user).allowed = true :=
  allowed_check_iff.mpr ((allowed_check_iff.mp h).of_noStricter hstrict hnonneg)

/-- Two bits that the user has beside two capabilities, and one of each. -/
theorem allowed_of_half :
    ({ capabilities := ["ban"], bits := 1 } : Requirement).NoStricter
      { capabilities := ["kick", "ban"], bits := 5 } ∧
    (0 : Int) ≤ 5 ∧
    (check promotedHost { capabilities := ["kick", "ban"], bits := 5 } { id := "s" }
      { id := "u" }).allowed = true ∧
    (check promotedHost { capabilities := ["ban"], bits := 1 } { id := "s" }
      { id := "u" }).allowed = true := by
  have hstrict : ({ capabilities := ["ban"], bits := 1 } : Requirement).NoStricter
      { capabilities := ["kick", "ban"], bits := 5 } :=
    ⟨by simp, by decide, by decide⟩
  have hallowed : (check promotedHost { capabilities := ["kick", "ban"], bits := 5 }
      { id := "s" } { id := "u" }).allowed = true := by decide +kernel
  exact ⟨hstrict, by decide, hallowed,
    allowed_of_noStricter _ _ _ _ _ hstrict (by decide) hallowed⟩

/-- For a negative number any of its bits is enough, and so more than for one of them alone. -/
example : bitsPass (-3) 8 = true ∧ Bits.and 4 (-3) = 4 ∧ bitsPass 4 8 = false := by decide

end Permission

end ChatCommands
