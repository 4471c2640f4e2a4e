import ChatCommands.Proofs.Shape

/-!
# ChatCommands.Proofs.Offer

What a parameter says to a token, by the form of the token:

* an integer with too many digits, or outside the 64-bit range, is a fault
  whatever the kind of the parameter is;
* any other token is taken if the kind stands in the table of its form
  (`Form.kinds`), and refused if not.

`Kind.offer_spec` is the one lemma on `Kind.offer`; what is taken has the value
`Kind.reading` and makes the directory be asked `Kind.question?`, both of which are
read off the text of the token.
-/

namespace ChatCommands

open ChatCommands.Text

/-! ## what is read from a token -/

/-- The digits of a text. -/
def digitsOf (cs : List Char) : List Char := cs.filter Char.isDigit

/-- Whether a text starts with a minus sign. -/
def isNegative (cs : List Char) : Bool := cs.head? == some '-'

/-- What stands behind the point of a text. -/
def fractionOf (cs : List Char) : List Char := (cs.dropWhile (· != '.')).drop 1

/-- The value of an integer. -/
def integerOf (cs : List Char) : Int :=
  Numeral.signed (isNegative cs) (Numeral.ofDigits (digitsOf cs))

/-- The value that a parameter of a kind reads from a token that it takes. A user is looked up
by the text of an integer, by the id in a mention, and by name otherwise. -/
def Kind.reading (directory : Directory) (server : Server) (kind : Kind) (token : String) :
    Value :=
  let cs := token.toList
  match kind with
  | .long => .long (integerOf cs)
  | .double =>
    .double <| match Form.of cs with
      | .integer => Binary64.ofInt (integerOf cs)
      | _ => Binary64.ofDecimal (isNegative cs) (Numeral.ofDigits (digitsOf cs))
          (-(fractionOf cs).length)
  | .bool => .bool false
  | .string => .string token
  | .user =>
    .user <| match Form.of cs with
      | .integer => directory.userById server token
      | .userMention => directory.userById server (String.ofList (digitsOf cs))
      | _ => (directory.usersByName server token).head?
  | .channel => .channel (directory.channelById server (String.ofList (digitsOf cs)))

/-- What the directory is asked when a parameter of a kind takes a token. A user is asked for by
the text of an integer, by the id in a mention, and by name otherwise. -/
def Kind.question? (server : Server) (kind : Kind) (token : String) : Option Lookup :=
  let cs := token.toList
  match kind with
  | .user =>
    some <| match Form.of cs with
      | .integer => .userById server token
      | .userMention => .userById server (String.ofList (digitsOf cs))
      | _ => .usersByName server token
  | .channel => some (.channelById server (String.ofList (digitsOf cs)))
  | _ => none

theorem digitsOf_eq_self {digits : List Char} (h : Numeral.isDigitRun digits = true) :
    digitsOf digits = digits :=
  List.filter_eq_self.mpr (isDigitRun_iff.mp h).2

theorem digitsOf_minus_append (negative : Bool) (cs : List Char) :
    digitsOf (minus negative ++ cs) = digitsOf cs := by
  cases negative <;> rfl

theorem isNegative_minus_append {digits : List Char} (rest : List Char) (negative : Bool)
    (h : Numeral.isDigitRun digits = true) :
    isNegative (minus negative ++ (digits ++ rest)) = negative := by
  cases negative with
  | true => rfl
  | false =>
    have hhead := head?_isDigitRun_append_ne (c := '-') rest h rfl
    simpa [isNegative, minus] using hhead

/-- The sign and the digits of an integer are read off its text. -/
theorem IsInteger.parts {cs : List Char} {negative : Bool} {digits : List Char}
    (h : IsInteger cs negative digits) : isNegative cs = negative ∧ digitsOf cs = digits := by
  obtain ⟨hrun, rfl⟩ := h
  have hneg := isNegative_minus_append [] negative hrun
  rw [List.append_nil] at hneg
  exact ⟨hneg, by rw [digitsOf_minus_append, digitsOf_eq_self hrun]⟩

/-- A point is found behind the sign and the whole part of a decimal. -/
theorem fractionOf_append {digits : List Char} (rest : List Char) (negative : Bool)
    (h : Numeral.isDigitRun digits = true) :
    fractionOf (minus negative ++ (digits ++ rest)) = fractionOf rest := by
  have hpoint : ∀ c ∈ minus negative ++ digits, (c != '.') = true := by
    intro c hc
    rcases List.mem_append.mp hc with hc | hc
    · cases negative <;> simp [minus] at hc
      rw [hc]; rfl
    · have hdigit := (isDigitRun_iff.mp h).2 c hc
      rw [bne_iff_ne]
      intro h
      subst h
      exact absurd hdigit (by decide)
  rw [← List.append_assoc, fractionOf, List.dropWhile_append_of_pos hpoint, ← fractionOf]

/-- The sign, the digits and the fraction of a decimal are read off its text. -/
theorem IsDecimal.parts {cs : List Char} {negative : Bool} {whole fraction : List Char}
    (h : IsDecimal cs negative whole fraction) :
    isNegative cs = negative ∧ digitsOf cs = whole ++ fraction ∧ fractionOf cs = fraction := by
  obtain ⟨hrun, -, ⟨rfl, rfl⟩ | ⟨hfraction, rfl⟩⟩ := h
  · have hneg := isNegative_minus_append [] negative hrun
    have hfrac := fractionOf_append [] negative hrun
    rw [List.append_nil] at hneg hfrac
    refine ⟨hneg, ?_, hfrac⟩
    rw [digitsOf_minus_append, digitsOf_eq_self hrun, List.append_nil]
  · rw [List.append_assoc]
    refine ⟨isNegative_minus_append _ negative hrun, ?_, ?_⟩
    · have hdot : digitsOf ('.' :: fraction) = fraction := digitsOf_eq_self hfraction
      rw [digitsOf_minus_append, digitsOf, List.filter_append]
      exact congr (congrArg _ (digitsOf_eq_self hrun)) hdot
    · rw [fractionOf_append _ negative hrun]; rfl

/-- The id of a mention is read off its text. -/
theorem IsMention.digits {sigil : Char} {cs id : List Char} (hs : sigil.isDigit = false)
    (h : IsMention sigil cs id) : digitsOf cs = id := by
  obtain ⟨hrun, rfl | rfl⟩ := h
  · simp [digitsOf, hs, List.filter_append]
    exact (isDigitRun_iff.mp hrun).2
  · simp [digitsOf, hs, List.filter_append]
    exact (isDigitRun_iff.mp hrun).2

/-! ## bad integers -/

/-- An integer with too many digits to be read. -/
def Overlong (token : String) : Prop :=
  Form.of token.toList = .integer ∧ 4300 < (digitsOf token.toList).length

/-- An integer below `-2^63` or above `2^63 - 1`. -/
def OutOfRange (token : String) : Prop :=
  Form.of token.toList = .integer ∧
    ¬(-9223372036854775808 ≤ integerOf token.toList ∧
      integerOf token.toList ≤ 9223372036854775807)

/-- An integer that no parameter can be bound to. -/
def BadInteger (token : String) : Prop := Overlong token ∨ OutOfRange token

instance (token : String) : Decidable (Overlong token) := inferInstanceAs (Decidable (_ ∧ _))

instance (token : String) : Decidable (OutOfRange token) := inferInstanceAs (Decidable (_ ∧ _))

instance (token : String) : Decidable (BadInteger token) := inferInstanceAs (Decidable (_ ∨ _))

/-- Only integers are bad. -/
theorem form_of_badInteger {token : String} (h : BadInteger token) :
    Form.of token.toList = .integer := h.elim And.left And.left

/-- A token that a parameter takes: its kind is one that takes the form of the token. -/
def Parameter.Accepts (p : Parameter) (token : String) : Prop :=
  p.kind ∈ (Form.of token.toList).kinds

instance (p : Parameter) (token : String) : Decidable (p.Accepts token) :=
  decidable_of_iff ((Form.of token.toList).kinds.contains p.kind = true) List.contains_iff_mem

/-- What a parameter takes is no truth value. -/
theorem Parameter.Accepts.kind_ne_bool {p : Parameter} {token : String} (h : p.Accepts token) :
    p.kind ≠ .bool := by
  intro heq
  rw [Parameter.Accepts, heq] at h
  exact Form.bool_not_mem_kinds _ h

/-! ## offers -/

/-- The range of a count of 64 bits. -/
theorem isLong_iff {i : Int} :
    Offer.isLong i = true ↔ -9223372036854775808 ≤ i ∧ i ≤ 9223372036854775807 := by
  simp [Offer.isLong]

theorem offer_integer {kind : Kind} {token : String} {negative : Bool} {digits : List Char}
    (hform : Form.of token.toList = .integer) (h : IsInteger token.toList negative digits) :
    Offer.ofShape kind token (.integer negative digits) =
      if Overlong token then .overlong
      else if OutOfRange token then .outOfRange
      else Offer.ofInteger kind token (integerOf token.toList) := by
  obtain ⟨rfl, rfl⟩ := h.parts
  have hlong : Overlong token ↔ ¬(digitsOf token.toList).length ≤ Numeral.maxDigits := by
    simp [Overlong, hform, Numeral.maxDigits]
  have hrange : OutOfRange token ↔ ¬Offer.isLong (integerOf token.toList) = true := by
    rw [isLong_iff]
    simp [OutOfRange, hform]
  simp only [Offer.ofShape, Numeral.ofDigits?, hlong, hrange, integerOf]
  by_cases hl : (digitsOf token.toList).length ≤ Numeral.maxDigits
  · by_cases hr : Offer.isLong
        (Numeral.signed (isNegative token.toList) (Numeral.ofDigits (digitsOf token.toList))) = true
    · simp [hl, hr]
    · simp [hl, hr]
  · simp [hl]

/-- **Offers**: an overlong integer, an integer out of range, a token of a form that the kind
does not take and one that it takes have four answers, and the last has the value and the question
that are read off the token. -/
theorem Kind.offer_spec (kind : Kind) (token : String) :
    (Overlong token ∧ kind.offer token = .overlong) ∨
    (¬Overlong token ∧ OutOfRange token ∧ kind.offer token = .outOfRange) ∨
    (¬BadInteger token ∧ kind ∉ (Form.of token.toList).kinds ∧ kind.offer token = .refused) ∨
    (¬BadInteger token ∧ kind ∈ (Form.of token.toList).kinds ∧ ∃ source,
      kind.offer token = .accepted source ∧
      (∀ directory server,
        source.value directory server = kind.reading directory server token) ∧
      ∀ server, source.lookups server = (kind.question? server token).toList) := by
  have hspec := Shape.of_spec token.toList
  unfold Kind.offer
  cases hshape : Shape.of token.toList with
  | integer negative digits =>
    rw [hshape] at hspec
    obtain ⟨hform, hint⟩ := hspec
    rw [offer_integer hform hint]
    by_cases hl : Overlong token
    · exact .inl ⟨hl, if_pos hl⟩
    · by_cases hr : OutOfRange token
      · exact .inr (.inl ⟨hl, hr, by rw [if_neg hl, if_pos hr]⟩)
      · have hbad : ¬BadInteger token := not_or.mpr ⟨hl, hr⟩
        rw [if_neg hl, if_neg hr, hform]
        cases kind <;>
          simp [hbad, Form.kinds, Offer.ofInteger, Source.value, Source.lookups, Kind.reading,
            Kind.question?, hform]
  | decimal negative whole fraction =>
    rw [hshape] at hspec
    obtain ⟨hform, hdec⟩ := hspec
    have hbad : ¬BadInteger token := fun h => by simp [form_of_badInteger h] at hform
    obtain ⟨hneg, hdigits, hfraction⟩ := hdec.parts
    rw [hform]
    cases kind <;>
      simp [hbad, Form.kinds, Offer.ofShape, Source.value, Source.lookups, Kind.reading,
        Kind.question?, hform, hneg, hdigits, hfraction]
  | userMention id =>
    rw [hshape] at hspec
    obtain ⟨hform, hmention⟩ := hspec
    have hbad : ¬BadInteger token := fun h => by simp [form_of_badInteger h] at hform
    have hid := hmention.digits rfl
    rw [hform]
    cases kind <;>
      simp [hbad, Form.kinds, Offer.ofShape, Source.value, Source.lookups, Kind.reading,
        Kind.question?, hform, hid]
  | channelMention id =>
    rw [hshape] at hspec
    obtain ⟨hform, hmention⟩ := hspec
    have hbad : ¬BadInteger token := fun h => by simp [form_of_badInteger h] at hform
    have hid := hmention.digits rfl
    rw [hform]
    cases kind <;>
      simp [hbad, Form.kinds, Offer.ofShape, Source.value, Source.lookups, Kind.reading,
        Kind.question?, hform, hid]
  | plain =>
    rw [hshape] at hspec
    have hbad : ¬BadInteger token := fun h => by
      rcases hspec with hform | hform <;> simp [form_of_badInteger h] at hform
    rcases hspec with hform | hform <;> rw [hform] <;> cases kind <;>
      simp [hbad, Form.kinds, Offer.ofShape, Source.value, Source.lookups, Kind.reading,
        Kind.question?, hform]

/-! ### the answers one by one -/

/-- An overlong integer is a fault whatever the kind of the parameter is. -/
theorem offer_of_overlong {token : String} (kind : Kind) (h : Overlong token) :
    kind.offer token = .overlong := by
  rcases kind.offer_spec token with h' | h' | h' | h'
  · exact h'.2
  · exact absurd h h'.1
  · exact absurd (.inl h) h'.1
  · exact absurd (.inl h) h'.1

/-- So is an integer outside the range. -/
theorem offer_of_outOfRange {token : String} (kind : Kind) (hl : ¬Overlong token)
    (hr : OutOfRange token) : kind.offer token = .outOfRange := by
  rcases kind.offer_spec token with h' | h' | h' | h'
  · exact absurd h'.1 hl
  · exact h'.2.2
  · exact absurd (.inr hr) h'.1
  · exact absurd (.inr hr) h'.1

/-- Any other token is refused unless the kind stands in the table of its form. -/
theorem offer_of_not_accepts {p : Parameter} {token : String} (hb : ¬BadInteger token)
    (ha : ¬p.Accepts token) : p.kind.offer token = .refused := by
  rcases p.kind.offer_spec token with h' | h' | h' | h'
  · exact absurd (.inl h'.1) hb
  · exact absurd (.inr h'.2.1) hb
  · exact h'.2.2
  · exact absurd h'.2.1 ha

/-- A token is taken with the value that is read from it, and with the question for that. -/
theorem offer_of_accepts {p : Parameter} {token : String} (hb : ¬BadInteger token)
    (ha : p.Accepts token) :
    ∃ source, p.kind.offer token = .accepted source ∧
      (∀ directory server,
        source.value directory server = p.kind.reading directory server token) ∧
      ∀ server, source.lookups server = (p.kind.question? server token).toList := by
  rcases p.kind.offer_spec token with h' | h' | h' | h'
  · exact absurd (.inl h'.1) hb
  · exact absurd (.inr h'.2.1) hb
  · exact absurd ha h'.2.1
  · exact h'.2.2

end ChatCommands
