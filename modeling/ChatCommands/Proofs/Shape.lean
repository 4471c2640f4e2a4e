import ChatCommands.Matching.Shape

/-!
# ChatCommands.Proofs.Shape

What the shapes of tokens are, as patterns.

1. an integer is an optional minus sign and a run of digits;
2. a decimal is an optional minus sign, a whole part without a leading zero
   and perhaps a point with a run of digits;
3. a mention is `<`, a sigil, perhaps `!`, a run of digits and `>`.

`Form.of` puts every token under the first of six patterns that it fits, and
`Form.kinds` is the table of the kinds that take it.  The patterns say nothing
about how a token is recognised; the recognisers of
`ChatCommands.Matching.Shape` are proved to find exactly these
(`Shape.of_spec`).
-/

namespace ChatCommands

open ChatCommands.Text

/-! ## patterns -/

/-- A minus sign, or nothing. -/
def minus (negative : Bool) : List Char := if negative then ['-'] else []

/-- The text is an integer with this sign and these digits. -/
def IsInteger (cs : List Char) (negative : Bool) (digits : List Char) : Prop :=
  Numeral.isDigitRun digits = true ∧ cs = minus negative ++ digits

/-- The text is a decimal with this sign, this whole part and this fraction. -/
def IsDecimal (cs : List Char) (negative : Bool) (whole fraction : List Char) : Prop :=
  Numeral.isDigitRun whole = true ∧ (whole = ['0'] ∨ whole.head? ≠ some '0') ∧
    (fraction = [] ∧ cs = minus negative ++ whole ∨
      Numeral.isDigitRun fraction = true ∧ cs = minus negative ++ whole ++ '.' :: fraction)

/-- The text is a mention with this sigil and this id. -/
def IsMention (sigil : Char) (cs id : List Char) : Prop :=
  Numeral.isDigitRun id = true ∧
    (cs = '<' :: sigil :: id ++ ['>'] ∨ cs = '<' :: sigil :: '!' :: id ++ ['>'])

/-! ## digit runs -/

theorem isDigitRun_iff {cs : List Char} :
    Numeral.isDigitRun cs = true ↔ cs ≠ [] ∧ ∀ c ∈ cs, c.isDigit = true := by
  simp [Numeral.isDigitRun]

/-- Taking digits off the front stops at the first character that is none. -/
theorem takeWhile_isDigit_append {digits : List Char} (rest : List Char)
    (hd : ∀ c ∈ digits, c.isDigit = true) (hr : ∀ c ∈ rest.head?, c.isDigit = false) :
    (digits ++ rest).takeWhile Char.isDigit = digits := by
  rw [List.takeWhile_append_of_pos hd]
  cases rest with
  | nil => simp
  | cons c rest => simp [hr c (by simp)]

/-- What stands behind the digits is left. -/
theorem dropWhile_isDigit_append {digits : List Char} (rest : List Char)
    (hd : ∀ c ∈ digits, c.isDigit = true) (hr : ∀ c ∈ rest.head?, c.isDigit = false) :
    (digits ++ rest).dropWhile Char.isDigit = rest := by
  rw [List.dropWhile_append_of_pos hd]
  cases rest with
  | nil => simp
  | cons c rest => simp [hr c (by simp)]

theorem isDigit_of_mem_takeWhile {cs : List Char} :
    ∀ c ∈ cs.takeWhile Char.isDigit, c.isDigit = true :=
  List.all_eq_true.mp List.all_takeWhile

theorem isBlank_of_isDigit {c : Char} (h : c.isDigit = true) : isBlank c = false := by
  have hrange : 48 ≤ c.toNat ∧ c.toNat ≤ 57 := by
    simpa [Char.isDigit, UInt32.le_iff_toNat_le] using h
  simp only [isBlank]
  grind

/-- Cutting a minus sign off and putting it back gives the text. -/
theorem minus_append_cutMinus (cs : List Char) :
    minus (Numeral.cutMinus cs).1 ++ (Numeral.cutMinus cs).2 = cs := by
  unfold Numeral.cutMinus minus
  split <;> simp

/-- A minus sign in front of a text that starts otherwise is cut off. -/
theorem cutMinus_minus_append {cs : List Char} (negative : Bool) (h : cs.head? ≠ some '-') :
    Numeral.cutMinus (minus negative ++ cs) = (negative, cs) := by
  cases negative with
  | true => rfl
  | false =>
    cases cs with
    | nil => rfl
    | cons c cs =>
      have hc : c ≠ '-' := by simpa using h
      unfold Numeral.cutMinus minus
      split
      · next heq => simp_all
      · rfl

/-- A text that starts with a digit run starts with no other character. -/
theorem head?_isDigitRun_append_ne {digits : List Char} {c : Char} (rest : List Char)
    (h : Numeral.isDigitRun digits = true) (hc : c.isDigit = false) :
    (digits ++ rest).head? ≠ some c := by
  obtain ⟨hne, hd⟩ := isDigitRun_iff.mp h
  cases digits with
  | nil => exact absurd rfl hne
  | cons d ds =>
    have hdigit : d.isDigit = true := hd d List.mem_cons_self
    intro heq
    have : d = c := by simpa using heq
    rw [this, hc] at hdigit
    exact absurd hdigit Bool.false_ne_true

/-! ## the recognisers find the patterns -/

/-- The recogniser of integers finds exactly the sign and the digits of an integer. -/
theorem integerParts?_eq_some_iff {cs : List Char} {negative : Bool} {digits : List Char} :
    integerParts? cs = some (negative, digits) ↔ IsInteger cs negative digits := by
  constructor
  · intro h
    simp only [integerParts?, Option.ite_none_right_eq_some, Option.some.injEq, Prod.mk.injEq] at h
    obtain ⟨hrun, rfl, rfl⟩ := h
    exact ⟨hrun, (minus_append_cutMinus cs).symm⟩
  · intro h
    obtain ⟨hrun, rfl⟩ := h
    have hhead := head?_isDigitRun_append_ne (c := '-') [] hrun rfl
    rw [List.append_nil] at hhead
    simp [integerParts?, cutMinus_minus_append negative hhead, hrun]

/-- The whole part of a decimal, as the recogniser tests it. -/
theorem whole_iff {whole : List Char} (h : ∀ c ∈ whole, c.isDigit = true) :
    (whole = ['0'] ∨ whole ≠ [] ∧ whole.head? ≠ some '0') ↔
      Numeral.isDigitRun whole = true ∧ (whole = ['0'] ∨ whole.head? ≠ some '0') := by
  rw [isDigitRun_iff]
  constructor
  · intro hwhole
    rcases hwhole with rfl | ⟨hne, hhead⟩
    · exact ⟨⟨by simp, h⟩, .inl rfl⟩
    · exact ⟨⟨hne, h⟩, .inr hhead⟩
  · intro hwhole
    rcases hwhole with ⟨⟨hne, -⟩, hzero | hhead⟩
    · exact .inl hzero
    · exact .inr ⟨hne, hhead⟩

/-- The recogniser of decimals finds exactly the sign and the parts of a decimal. -/
theorem decimalParts?_eq_some_iff {cs : List Char} {negative : Bool} {whole fraction : List Char} :
    decimalParts? cs = some (negative, whole, fraction) ↔
      IsDecimal cs negative whole fraction := by
  constructor
  · intro h
    have hcs := minus_append_cutMinus cs
    have hrest := List.takeWhile_append_dropWhile (p := Char.isDigit) (l := (Numeral.cutMinus cs).2)
    simp only [decimalParts?, whole_iff isDigit_of_mem_takeWhile,
      Option.ite_none_right_eq_some] at h
    obtain ⟨⟨hrun, hzero⟩, h⟩ := h
    split at h
    · next hnil =>
      obtain ⟨rfl, rfl, rfl⟩ : _ ∧ _ ∧ _ := by simpa using h
      rw [hnil, List.append_nil] at hrest
      exact ⟨hrun, hzero, .inl ⟨rfl, by rw [hrest, hcs]⟩⟩
    · next rest hdot =>
      simp only [Option.ite_none_right_eq_some, Option.some.injEq, Prod.mk.injEq] at h
      obtain ⟨hfraction, rfl, rfl, rfl⟩ := h
      rw [hdot] at hrest
      exact ⟨hrun, hzero, .inr ⟨hfraction, by rw [List.append_assoc, hrest, hcs]⟩⟩
    · exact absurd h (by simp)
  · intro h
    obtain ⟨hrun, hzero, h⟩ := h
    have hd := (isDigitRun_iff.mp hrun).2
    have hwhole := (whole_iff hd).mpr ⟨hrun, hzero⟩
    rcases h with ⟨rfl, rfl⟩ | ⟨hfraction, rfl⟩
    · have hcut := cutMinus_minus_append negative (head?_isDigitRun_append_ne [] hrun rfl)
      have htake := takeWhile_isDigit_append [] hd (by simp)
      have hdrop := dropWhile_isDigit_append [] hd (by simp)
      rw [List.append_nil] at hcut htake hdrop
      simp only [decimalParts?, hcut, htake, hdrop, if_pos hwhole]
    · have hcut := cutMinus_minus_append negative
        (head?_isDigitRun_append_ne ('.' :: fraction) hrun rfl)
      have htake := takeWhile_isDigit_append ('.' :: fraction) hd (by simp)
      have hdrop := dropWhile_isDigit_append ('.' :: fraction) hd (by simp)
      rw [List.append_assoc]
      simp only [decimalParts?, hcut, htake, hdrop, if_pos hwhole, if_pos hfraction]

/-- Reading the id of a mention stops at the closing mark. -/
theorem mention_body_iff {body id : List Char} :
    (body.takeWhile Char.isDigit ≠ [] ∧ body.dropWhile Char.isDigit = ['>'] ∧
      body.takeWhile Char.isDigit = id) ↔
      Numeral.isDigitRun id = true ∧ body = id ++ ['>'] := by
  rw [isDigitRun_iff]
  constructor
  · intro h
    obtain ⟨hne, hdrop, rfl⟩ := h
    refine ⟨⟨hne, isDigit_of_mem_takeWhile⟩, ?_⟩
    rw [← hdrop, List.takeWhile_append_dropWhile]
  · intro h
    obtain ⟨⟨hne, hd⟩, rfl⟩ := h
    have htake := takeWhile_isDigit_append ['>'] hd (by simp)
    have hdrop := dropWhile_isDigit_append ['>'] hd (by simp)
    rw [htake]
    exact ⟨hne, hdrop, rfl⟩

/-- The recogniser of mentions finds exactly the id in a mention. -/
theorem mentionedId?_eq_some_iff {sigil : Char} {cs id : List Char} :
    mentionedId? sigil cs = some id ↔ IsMention sigil cs id := by
  unfold IsMention mentionedId?
  split
  · next c rest =>
    simp only [Option.ite_none_right_eq_some, Option.some.injEq, and_assoc]
    rw [mention_body_iff]
    split
    · next body =>
      constructor
      · intro h
        obtain ⟨rfl, hrun, rfl⟩ := h
        exact ⟨hrun, .inr rfl⟩
      · intro h
        rcases h with ⟨hrun, h | h⟩
        · have hhead := head?_isDigitRun_append_ne (c := '!') ['>'] hrun rfl
          have : '!' :: body = id ++ ['>'] := by simpa using (List.cons.inj (List.cons.inj h).2).2
          exact absurd (by rw [← this]; rfl) hhead
        · have : c = sigil ∧ body = id ++ ['>'] := by simpa using h
          exact ⟨this.1, hrun, this.2⟩
    · next hbang =>
      constructor
      · intro h
        obtain ⟨rfl, hrun, rfl⟩ := h
        exact ⟨hrun, .inl rfl⟩
      · intro h
        rcases h with ⟨hrun, h | h⟩
        · have : c = sigil ∧ rest = id ++ ['>'] := by simpa using h
          exact ⟨this.1, hrun, this.2⟩
        · have : c = sigil ∧ rest = '!' :: (id ++ ['>']) := by simpa using h
          exact absurd this.2 (hbang _)
  · next hne =>
    constructor
    · intro h
      exact absurd h (by simp)
    · rintro ⟨-, rfl | rfl⟩ <;> exact absurd rfl (hne _ _)

/-! ## forms -/

/-- The forms of tokens, in the order in which they are tried. -/
inductive Form where
  /-- An integer. -/
  | integer
  /-- A decimal that is no integer. -/
  | decimal
  /-- A mention of a user. -/
  | userMention
  /-- A mention of a channel. -/
  | channelMention
  /-- A text with white space. -/
  | spaced
  /-- Any other text. -/
  | word
deriving DecidableEq, Repr

namespace Form

/-- Whether a text fits the pattern of a form. -/
def Fits (cs : List Char) : Form → Prop
  | integer => ∃ negative digits, IsInteger cs negative digits
  | decimal => ∃ negative whole fraction, IsDecimal cs negative whole fraction
  | userMention => ∃ id, IsMention '@' cs id
  | channelMention => ∃ id, IsMention '#' cs id
  | spaced => ∃ c ∈ cs, isBlank c = true
  | word => True

theorem fits_integer_iff {cs : List Char} :
    Fits cs integer ↔ (integerParts? cs).isSome = true := by
  simp only [Fits, Option.isSome_iff_exists, Prod.exists, integerParts?_eq_some_iff]

theorem fits_decimal_iff {cs : List Char} :
    Fits cs decimal ↔ (decimalParts? cs).isSome = true := by
  simp only [Fits, Option.isSome_iff_exists, Prod.exists, decimalParts?_eq_some_iff]

theorem fits_userMention_iff {cs : List Char} :
    Fits cs userMention ↔ (mentionedId? '@' cs).isSome = true := by
  simp only [Fits, Option.isSome_iff_exists, mentionedId?_eq_some_iff]

theorem fits_channelMention_iff {cs : List Char} :
    Fits cs channelMention ↔ (mentionedId? '#' cs).isSome = true := by
  simp only [Fits, Option.isSome_iff_exists, mentionedId?_eq_some_iff]

instance (cs : List Char) : (f : Form) → Decidable (Fits cs f)
  | integer => decidable_of_iff _ fits_integer_iff.symm
  | decimal => decidable_of_iff _ fits_decimal_iff.symm
  | userMention => decidable_of_iff _ fits_userMention_iff.symm
  | channelMention => decidable_of_iff _ fits_channelMention_iff.symm
  | spaced => decidable_of_iff (cs.any isBlank = true) List.any_eq_true
  | word => .isTrue trivial

/-- The form of a text: the first one that it fits. -/
def of (cs : List Char) : Form :=
  if Fits cs integer then integer
  else if Fits cs decimal then decimal
  else if Fits cs userMention then userMention
  else if Fits cs channelMention then channelMention
  else if Fits cs spaced then spaced
  else word

/-- The kinds of parameters that take texts of a form. -/
def kinds : Form → List Kind
  | integer => [.long, .double, .user, .string]
  | decimal => [.double, .string]
  | userMention => [.user]
  | channelMention => [.channel]
  | spaced => [.user, .string]
  | word => [.user, .string]

/-- No form of text is taken as a truth value. -/
theorem bool_not_mem_kinds (f : Form) : Kind.bool ∉ f.kinds := by cases f <;> decide

end Form

/-- The shape of a text tells its form, and its parts are those of the pattern. -/
theorem Shape.of_spec (cs : List Char) :
    match Shape.of cs with
    | .integer negative digits => Form.of cs = .integer ∧ IsInteger cs negative digits
    | .decimal negative whole fraction =>
      Form.of cs = .decimal ∧ IsDecimal cs negative whole fraction
    | .userMention id => Form.of cs = .userMention ∧ IsMention '@' cs id
    | .channelMention id => Form.of cs = .channelMention ∧ IsMention '#' cs id
    | .plain => Form.of cs = .spaced ∨ Form.of cs = .word := by
  simp only [Form.of, Form.fits_integer_iff, Form.fits_decimal_iff, Form.fits_userMention_iff,
    Form.fits_channelMention_iff, Shape.of]
  cases hi : integerParts? cs with
  | some parts => simpa using integerParts?_eq_some_iff.mp hi
  | none =>
    cases hd : decimalParts? cs with
    | some parts => simpa using decimalParts?_eq_some_iff.mp hd
    | none =>
      cases hu : mentionedId? '@' cs with
      | some id => simpa using mentionedId?_eq_some_iff.mp hu
      | none =>
        cases hc : mentionedId? '#' cs with
        | some id => simpa using mentionedId?_eq_some_iff.mp hc
        | none => by_cases hs : Form.Fits cs .spaced <;> simp [hs]

end ChatCommands
