import ChatCommands.Permission.Bits
import Mathlib.Algebra.Order.Ring.Int
import Mathlib.Tactic.Positivity

/-!
# ChatCommands.Proofs.Bits

Integers as infinite rows of bits.  A bit is read off by floor division
(`HasBit`), so a negative number has a one at every place from some place on.
An integer is given by its bits (`eq_of_hasBit_iff`), and the operations on bit
fields work place by place; so whether two fields have a bit in common
(`and_ne_zero_iff`) and whether one has all bits of the other
(`and_eq_left_iff`) can be asked of the places.
-/

namespace ChatCommands.Bits

/-- The integer has a one at this place of its infinite two's complement. -/
def HasBit (z : Int) (i : Nat) : Prop := z / 2 ^ i % 2 = 1

instance (z : Int) (i : Nat) : Decidable (HasBit z i) :=
  inferInstanceAs (Decidable (z / 2 ^ i % 2 = 1))

variable {a b : Int} {i : Nat}

/-- The place read off by floor division is the bit that the operations test. -/
theorem hasBit_iff_testBit : HasBit a i ↔ testBit a i = true := by
  have hpos : (0 : Int) < 2 ^ i := by positivity
  have hcast (n : Nat) : (n : Int) / 2 ^ i = ((n / 2 ^ i : Nat) : Int) := by norm_cast
  cases a with
  | ofNat n =>
      rw [HasBit, testBit, Nat.testBit_eq_decide_div_mod_eq, decide_eq_true_iff,
        Int.ofNat_eq_natCast, hcast]
      omega
  | negSucc n =>
      -- the floor of a negative quotient flips every bit
      have hfloor : Int.negSucc n / 2 ^ i = -(((n / 2 ^ i : Nat) : Int) + 1) := by
        rw [← hcast]
        exact Int.negSucc_ediv n hpos
      rw [HasBit, testBit, Nat.testBit_eq_decide_div_mod_eq, hfloor]
      simp only [Bool.not_eq_true', decide_eq_false_iff_not]
      omega

/-! ## an integer is given by its bits -/

/-- Far enough to the left, natural numbers have zeros and negative ones have ones. -/
theorem exists_testBit_ne (m n : Nat) : ∃ i, testBit (.ofNat m) i ≠ testBit (.negSucc n) i := by
  have hzero {k : Nat} (hk : k ≤ m + n) : k.testBit (m + n) = false :=
    Nat.testBit_lt_two_pow (hk.trans_lt Nat.lt_two_pow_self)
  refine ⟨m + n, ?_⟩
  rw [testBit, testBit, hzero (Nat.le_add_right m n), hzero (Nat.le_add_left n m)]
  decide

/-- Two integers with the same bits are equal; one of each sign differ far enough to the left. -/
theorem eq_of_testBit_eq (h : ∀ i, testBit a i = testBit b i) : a = b := by
  cases a with
  | ofNat m =>
      cases b with
      | ofNat n => exact congrArg Int.ofNat (Nat.eq_of_testBit_eq h)
      | negSucc n =>
          obtain ⟨i, hi⟩ := exists_testBit_ne m n
          exact absurd (h i) hi
  | negSucc m =>
      cases b with
      | ofNat n =>
          obtain ⟨i, hi⟩ := exists_testBit_ne n m
          exact absurd (h i).symm hi
      | negSucc n =>
          have hsame (i : Nat) : m.testBit i = n.testBit i := by simpa [testBit] using h i
          rw [Nat.eq_of_testBit_eq hsame]

/-- **An integer is its bits.** -/
theorem eq_of_hasBit_iff (h : ∀ i, HasBit a i ↔ HasBit b i) : a = b := by
  refine eq_of_testBit_eq fun i => ?_
  rw [Bool.eq_iff_iff, ← hasBit_iff_testBit, ← hasBit_iff_testBit]
  exact h i

/-! ## bits of bit fields -/

/-- A common bit is a bit of both. -/
@[simp] theorem hasBit_and : HasBit (and a b) i ↔ HasBit a i ∧ HasBit b i := by
  simp [hasBit_iff_testBit, testBit_and]

/-- A bit of the union is a bit of one of the two. -/
@[simp] theorem hasBit_or : HasBit (or a b) i ↔ HasBit a i ∨ HasBit b i := by
  simp [hasBit_iff_testBit, testBit_or]

@[simp] theorem not_hasBit_zero (i : Nat) : ¬HasBit 0 i := by
  simp [HasBit]

@[simp] theorem hasBit_one : HasBit 1 i ↔ i = 0 := by
  have hone : testBit 1 i = Nat.testBit (2 ^ 0) i := rfl
  rw [hasBit_iff_testBit, hone, Nat.testBit_two_pow]
  simp [eq_comm]

@[simp] theorem hasBit_two : HasBit 2 i ↔ i = 1 := by
  have htwo : testBit 2 i = Nat.testBit (2 ^ 1) i := rfl
  rw [hasBit_iff_testBit, htwo, Nat.testBit_two_pow]
  simp [eq_comm]

/-- An integer other than zero has a bit, also if it is negative. -/
theorem ne_zero_iff : a ≠ 0 ↔ ∃ i, HasBit a i := by
  constructor
  · intro hne
    by_contra hnone
    refine hne (eq_of_hasBit_iff fun i => ?_)
    simp [not_exists.mp hnone i]
  · rintro ⟨i, hi⟩ rfl
    exact not_hasBit_zero i hi

/-- Two fields overlap exactly if they have a bit in common. -/
theorem and_ne_zero_iff : and a b ≠ 0 ↔ ∃ i, HasBit a i ∧ HasBit b i := by
  simp only [ne_zero_iff, hasBit_and]

/-- A field is left as it is exactly if the other one has all its bits. -/
theorem and_eq_left_iff : and a b = a ↔ ∀ i, HasBit a i → HasBit b i := by
  constructor
  · intro h i hi
    rw [← h] at hi
    exact (hasBit_and.mp hi).2
  · intro h
    refine eq_of_hasBit_iff fun i => ?_
    rw [hasBit_and]
    exact and_iff_left_of_imp (h i)

/-- The same for the second field. -/
theorem and_eq_right_iff : and a b = b ↔ ∀ i, HasBit b i → HasBit a i := by
  have hcomm : and a b = and b a := eq_of_hasBit_iff fun i => by simp [and_comm]
  rw [hcomm, and_eq_left_iff]

end ChatCommands.Bits
