/-!
# ChatCommands.Permission.Bits

Bit fields of any size. An integer is read as an infinite row of bits: a
natural number has zeros from some place on, and a negative number has ones
(`-1` has a one at every place). `testBit_and` and `testBit_or` say that the
operations work place by place.
-/

namespace ChatCommands.Bits

/-- The bit of an integer at a place. -/
def testBit : Int → Nat → Bool
  | .ofNat n, i => n.testBit i
  | .negSucc n, i => !n.testBit i

/-- The bits of the first number that are not bits of the second. -/
def less (m n : Nat) : Nat := m ^^^ (m &&& n)

/-- The bits that two integers have in common. -/
def and : Int → Int → Int
  | .ofNat m, .ofNat n => .ofNat (m &&& n)
  | .ofNat m, .negSucc n => .ofNat (less m n)
  | .negSucc m, .ofNat n => .ofNat (less n m)
  | .negSucc m, .negSucc n => .negSucc (m ||| n)

/-- The bits that at least one of two integers has. -/
def or : Int → Int → Int
  | .ofNat m, .ofNat n => .ofNat (m ||| n)
  | .ofNat m, .negSucc n => .negSucc (less n m)
  | .negSucc m, .ofNat n => .negSucc (less m n)
  | .negSucc m, .negSucc n => .negSucc (m &&& n)

/-- What is left of a number has the bits that the other one lacks. -/
theorem testBit_less (m n i : Nat) : (less m n).testBit i = (m.testBit i && !n.testBit i) := by
  rw [less, Nat.testBit_xor, Nat.testBit_and]
  cases m.testBit i <;> cases n.testBit i <;> rfl

/-- Intersection goes bit by bit, for all four pairs of signs. -/
theorem testBit_and (a b : Int) (i : Nat) : testBit (and a b) i = (testBit a i && testBit b i) := by
  cases a <;> cases b <;> simp [and, testBit, testBit_less, Bool.and_comm]

/-- Union goes bit by bit, for all four pairs of signs. -/
theorem testBit_or (a b : Int) (i : Nat) : testBit (or a b) i = (testBit a i || testBit b i) := by
  cases a <;> cases b <;> simp [or, testBit, testBit_less, Bool.or_comm]

end ChatCommands.Bits
