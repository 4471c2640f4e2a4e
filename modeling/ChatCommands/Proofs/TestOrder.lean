import ChatCommands.Proofs.Offer
import ChatCommands.Proofs.Segmentation
import Mathlib.Data.List.Basic

/-!
# ChatCommands.Proofs.TestOrder

The order in which a token is put to the tests for its form.

Numbers are made of digits, minus signs and points, mentions start with `<` and
a sigil, and neither have white space in them, so a token passes at most one test
(`Form.of_eq_of_passes`).  Only integers fit two patterns, their own and that of
decimals.  So the first test that a token passes is the same in every order in
which integers are tested before decimals (`Kind.offerInOrder_eq`).
-/

namespace ChatCommands

open ChatCommands.Text

/-! ## tests -/

namespace Form

/-- The forms that are tested for. A token that passes no test is a word. -/
def tests : List Form := [integer, decimal, userMention, channelMention, spaced]

/-- Every form but a word is tested for. -/
theorem mem_tests_iff {f : Form} : f ∈ tests ↔ f ≠ word := by
  cases f <;> simp [tests]

/-- The text is of a form by its pattern alone; a decimal is no integer. -/
def Passes (cs : List Char) : Form → Prop
  | decimal => Fits cs decimal ∧ ¬Fits cs integer
  | f => Fits cs f

theorem passes_iff {cs : List Char} {f : Form} :
    Passes cs f ↔ Fits cs f ∧ (f = decimal → ¬Fits cs integer) := by
  cases f <;> simp [Passes]

/-- The shape that a test finds in a text, if it finds any. -/
def shape? (cs : List Char) : Form → Option Shape
  | integer => (integerParts? cs).map fun (negative, digits) => .integer negative digits
  | decimal =>
    (decimalParts? cs).map fun (negative, whole, fraction) => .decimal negative whole fraction
  | userMention => (mentionedId? '@' cs).map .userMention
  | channelMention => (mentionedId? '#' cs).map .channelMention
  | spaced => if cs.any isBlank then some .plain else none
  | word => some .plain

end Form

/-- What a kind of parameter says to a token that is put to tests in a certain order: the first
test that finds a shape decides, and a token in which none finds a shape is a word. -/
def Kind.offerInOrder (order : List Form) (kind : Kind) (token : String) : Offer :=
  Offer.ofShape kind token ((order.findSome? (Form.shape? token.toList)).getD .plain)

/-! ## what the patterns are made of -/

variable {cs : List Char} {c : Char}

theorem mem_minus {negative : Bool} (h : c ∈ minus negative) : c = '-' := by
  cases negative with
  | true => simpa [minus] using h
  | false => simp [minus] at h

theorem IsInteger.mem {negative : Bool} {digits : List Char} (h : IsInteger cs negative digits)
    (hc : c ∈ cs) : c = '-' ∨ c = '.' ∨ c.isDigit = true := by
  obtain ⟨hrun, rfl⟩ := h
  have hdigits := (isDigitRun_iff.mp hrun).2
  rcases List.mem_append.mp hc with hc | hc
  · exact .inl (mem_minus hc)
  · exact .inr (.inr (hdigits c hc))

theorem IsDecimal.mem {negative : Bool} {whole fraction : List Char}
    (h : IsDecimal cs negative whole fraction) (hc : c ∈ cs) :
    c = '-' ∨ c = '.' ∨ c.isDigit = true := by
  obtain ⟨hrun, -, ⟨-, rfl⟩ | ⟨hfraction, rfl⟩⟩ := h
  · exact IsInteger.mem ⟨hrun, rfl⟩ hc
  · rcases List.mem_append.mp hc with hc | hc
    · exact IsInteger.mem ⟨hrun, rfl⟩ hc
    · have hdigits := (isDigitRun_iff.mp hfraction).2
      rcases List.mem_cons.mp hc with rfl | hc
      · exact .inr (.inl rfl)
      · exact .inr (.inr (hdigits c hc))

theorem IsMention.exists_cons {sigil : Char} {id : List Char} (h : IsMention sigil cs id) :
    ∃ rest, cs = '<' :: sigil :: rest := by
  obtain ⟨-, rfl | rfl⟩ := h
  · exact ⟨_, rfl⟩
  · exact ⟨_, rfl⟩

/-- A mention is made of its sigil, digits and three more characters. -/
theorem IsMention.mem {sigil : Char} {id : List Char} (h : IsMention sigil cs id) (hc : c ∈ cs) :
    c = '<' ∨ c = sigil ∨ c = '!' ∨ c = '>' ∨ c.isDigit = true := by
  obtain ⟨hrun, rfl | rfl⟩ := h <;> have hdigits := (isDigitRun_iff.mp hrun).2 c <;> grind

namespace Form

/-- Numbers have neither white space nor an opening mark in them. -/
theorem not_mem_of_number (h : Fits cs integer ∨ Fits cs decimal) (hc : c ∈ cs) :
    isBlank c = false ∧ c ≠ '<' := by
  have hmem : c = '-' ∨ c = '.' ∨ c.isDigit = true := by
    rcases h with ⟨negative, digits, h⟩ | ⟨negative, whole, fraction, h⟩
    · exact h.mem hc
    · exact h.mem hc
  rcases hmem with rfl | rfl | hdigit
  · decide
  · decide
  · refine ⟨isBlank_of_isDigit hdigit, ?_⟩
    rintro rfl
    exact absurd hdigit (by decide)

/-- A mention is no number: numbers do not start with `<`. -/
theorem not_number_of_mention {sigil : Char} {id : List Char} (h : IsMention sigil cs id) :
    ¬Fits cs integer ∧ ¬Fits cs decimal := by
  obtain ⟨rest, rfl⟩ := h.exists_cons
  have hmark : '<' ∈ '<' :: sigil :: rest := List.mem_cons_self
  exact ⟨fun h => (not_mem_of_number (.inl h) hmark).2 rfl,
    fun h => (not_mem_of_number (.inr h) hmark).2 rfl⟩

theorem not_spaced_of_mention {sigil : Char} {id : List Char} (hs : isBlank sigil = false)
    (h : IsMention sigil cs id) : ¬Fits cs spaced := by
  rintro ⟨c, hc, hblank⟩
  rcases h.mem hc with rfl | rfl | rfl | rfl | hdigit
  · exact absurd hblank (by decide)
  · simp [hs] at hblank
  · exact absurd hblank (by decide)
  · exact absurd hblank (by decide)
  · simp [isBlank_of_isDigit hdigit] at hblank

/-- A mention of a user mentions no channel. -/
theorem not_channelMention_of_userMention (h : Fits cs userMention) : ¬Fits cs channelMention := by
  obtain ⟨id, h⟩ := h
  rintro ⟨id', h'⟩
  obtain ⟨rest, rfl⟩ := h.exists_cons
  obtain ⟨rest', heq⟩ := h'.exists_cons
  simp at heq

/-! ## at most one test -/

/-- A text that passes a test is of that form. -/
theorem of_eq_of_passes {f : Form} (hf : f ∈ tests) (h : Passes cs f) : Form.of cs = f := by
  cases f with
  | integer =>
    have hfits : Fits cs integer := h
    simp [Form.of, hfits]
  | decimal =>
    obtain ⟨hfits, hinteger⟩ := h
    simp [Form.of, hfits, hinteger]
  | userMention =>
    have hfits : Fits cs userMention := h
    obtain ⟨id, hmention⟩ := h
    obtain ⟨hinteger, hdecimal⟩ := not_number_of_mention hmention
    simp [Form.of, hfits, hinteger, hdecimal]
  | channelMention =>
    have hfits : Fits cs channelMention := h
    obtain ⟨id, hmention⟩ := h
    obtain ⟨hinteger, hdecimal⟩ := not_number_of_mention hmention
    have huser : ¬Fits cs userMention := fun huser => not_channelMention_of_userMention huser hfits
    simp [Form.of, hfits, hinteger, hdecimal, huser]
  | spaced =>
    have hfits : Fits cs spaced := h
    obtain ⟨c, hc, hblank⟩ := h
    have hnumber : ¬(Fits cs integer ∨ Fits cs decimal) := by
      intro hnumber
      simp [(not_mem_of_number hnumber hc).1] at hblank
    have huser : ¬Fits cs userMention := by
      rintro ⟨id, hmention⟩
      exact not_spaced_of_mention rfl hmention hfits
    have hchannel : ¬Fits cs channelMention := by
      rintro ⟨id, hmention⟩
      exact not_spaced_of_mention rfl hmention hfits
    rw [not_or] at hnumber
    simp [Form.of, hfits, hnumber, huser, hchannel]
  | word => simp [tests] at hf

/-- Only integers fit two patterns: they are decimals, too. -/
theorem of_eq_or_of_fits {f : Form} (hf : f ∈ tests) (h : Fits cs f) :
    Form.of cs = f ∨ f = decimal ∧ Form.of cs = integer := by
  by_cases hboth : f = decimal ∧ Fits cs integer
  · exact .inr ⟨hboth.1, of_eq_of_passes (by decide) hboth.2⟩
  · exact .inl (of_eq_of_passes hf (passes_iff.mpr ⟨h, not_and.mp hboth⟩))

theorem shape?_eq_none_iff {f : Form} : shape? cs f = none ↔ ¬Fits cs f := by
  cases f with
  | integer => simp [shape?, fits_integer_iff]
  | decimal => simp [shape?, fits_decimal_iff]
  | userMention => simp [shape?, fits_userMention_iff]
  | channelMention => simp [shape?, fits_channelMention_iff]
  | spaced => simp [shape?, Fits]
  | word => simp [shape?, Fits]

/-- The test for the form of a text finds its shape. -/
theorem shape?_of (cs : List Char) : shape? cs (Form.of cs) = some (Shape.of cs) := by
  simp only [Form.of, fits_integer_iff, fits_decimal_iff, fits_userMention_iff,
    fits_channelMention_iff, Shape.of]
  cases hi : integerParts? cs with
  | some parts => simp [shape?, hi]
  | none =>
    cases hd : decimalParts? cs with
    | some parts => simp [shape?, hd]
    | none =>
      cases hu : mentionedId? '@' cs with
      | some id => simp [shape?, hu]
      | none =>
        cases hc : mentionedId? '#' cs with
        | some id => simp [shape?, hc]
        | none =>
          by_cases hs : Fits cs spaced
          · have hany : cs.any isBlank = true := List.any_eq_true.mpr hs
            simp [shape?, hs, hany]
          · simp [shape?, hs]

/-- A text passes the test for its form. -/
theorem passes_of (cs : List Char) : Passes cs (Form.of cs) := by
  have hfits : Fits cs (Form.of cs) := by
    have hfound := shape?_of cs
    by_contra hnot
    rw [shape?_eq_none_iff.mpr hnot] at hfound
    contradiction
  refine passes_iff.mpr ⟨hfits, fun hdecimal hinteger => ?_⟩
  have hof : Form.of cs = integer := of_eq_of_passes (by decide) hinteger
  simp [hdecimal] at hof

end Form

/-! ## any order -/

/-- Of an order in which integers are tested before decimals, the test for the form of a text is
the first one that finds a shape. -/
theorem Form.findSome?_shape? {order : List Form} (hperm : order.Perm Form.tests)
    (hfirst : order.idxOf .integer < order.idxOf .decimal) (cs : List Char) :
    (order.findSome? (Form.shape? cs)).getD .plain = Shape.of cs := by
  have hof := Form.shape?_of cs
  by_cases hmem : Form.of cs ∈ order
  · obtain ⟨front, back, horder, hfront⟩ := List.eq_append_cons_of_mem hmem
    have hnone : ∀ f ∈ front, Form.shape? cs f = none := by
      intro f hf
      rw [Form.shape?_eq_none_iff]
      intro hfits
      have htests : f ∈ Form.tests := hperm.subset (horder ▸ List.mem_append_left _ hf)
      obtain heq | ⟨rfl, heq⟩ := Form.of_eq_or_of_fits htests hfits
      · exact hfront (heq ▸ hf)
      · -- the text is an integer, and decimals are not tested for before that
        rw [heq] at horder hfront
        rw [horder, List.idxOf_append_of_notMem hfront, List.idxOf_append_of_mem hf] at hfirst
        have hlt := List.idxOf_lt_length_of_mem hf
        omega
    rw [List.findSome?_eq_some_iff.mpr ⟨front, Form.of cs, back, horder, hof, hnone⟩]
    rfl
  · have hword : Form.of cs = .word := by
      have hnot : Form.of cs ∉ Form.tests := fun h => hmem (hperm.symm.subset h)
      simpa [Form.mem_tests_iff] using hnot
    have hnone : order.findSome? (Form.shape? cs) = none := by
      rw [List.findSome?_eq_none_iff]
      intro f hf
      rw [Form.shape?_eq_none_iff]
      intro hfits
      obtain heq | ⟨-, heq⟩ := Form.of_eq_or_of_fits (hperm.subset hf) hfits
      · exact hmem (heq ▸ hf)
      · simp [heq] at hword
    have hplain : Shape.plain = Shape.of cs := by simpa [hword, Form.shape?] using hof
    rw [hnone, hplain]
    rfl

/-- A parameter says the same to a token whatever the order of the tests, as long as integers are
tested for before decimals. -/
theorem Kind.offerInOrder_eq {order : List Form} (hperm : order.Perm Form.tests)
    (hfirst : order.idxOf .integer < order.idxOf .decimal) (kind : Kind) (token : String) :
    kind.offerInOrder order token = kind.offer token := by
  rw [Kind.offerInOrder, Form.findSome?_shape? hperm hfirst, Kind.offer]

/-- A token that fits no number and no mention is a word, whether it has white space in it or
not. -/
theorem offer_of_word {token : String} (kind : Kind)
    (h : Form.of token.toList = .spaced ∨ Form.of token.toList = .word) :
    kind.offer token = Offer.ofShape kind token .plain := by
  have hplain : Shape.of token.toList = .plain := by
    have hspec := Shape.of_spec token.toList
    cases hshape : Shape.of token.toList with
    | plain => rfl
    | _ => rcases h with h | h <;> simp [hshape, h] at hspec
  rw [Kind.offer, hplain]

/-- White space gets into a token only between quote marks. -/
theorem Piece.exists_quoted_of_mem_scan {cs : List Char} {p : Piece} (hp : p ∈ scan 0 cs)
    (hblank : ∃ c ∈ p.content, isBlank c = true) : ∃ content, p = .quoted content := by
  obtain ⟨d, hd⟩ := Segmentation.exists_cuts cs
  rw [hd.scan_eq] at hp
  obtain ⟨⟨gap, q⟩, hmem, rfl⟩ := List.mem_map.mp hp
  exact hd.exists_quoted hmem (.inr hblank)

/-- **Tests in any order**: a token passes at most one test, so every parameter says the same to it
in whatever order it is tested, as long as integers are tested before decimals.  A token with white
space in it comes from a quoted span, and is taken as a token that passes no test. -/
theorem tests_in_any_order (token : String) :
    (∀ f ∈ Form.tests, ∀ g ∈ Form.tests, Form.Passes token.toList f →
      Form.Passes token.toList g → f = g) ∧
    (∀ order : List Form, order.Perm Form.tests →
      order.idxOf .integer < order.idxOf .decimal →
      ∀ p : Parameter, p.kind.offerInOrder order token = p.kind.offer token) ∧
    (Form.Passes token.toList .spaced ∨ (∀ f ∈ Form.tests, ¬Form.Passes token.toList f) →
      ∀ p : Parameter, p.kind.offer token = Offer.ofShape p.kind token .plain) ∧
    ∀ (text : String), ∀ piece ∈ Piece.scan 0 text.toList, String.ofList piece.content = token →
      Form.Passes token.toList .spaced → ∃ content, piece = .quoted content := by
  refine ⟨?_, ?_, ?_, ?_⟩
  · intro f hf g hg hpassF hpassG
    have hof : Form.of token.toList = f := Form.of_eq_of_passes hf hpassF
    rw [← hof, Form.of_eq_of_passes hg hpassG]
  · intro order hperm hfirst p
    exact Kind.offerInOrder_eq hperm hfirst p.kind token
  · intro h p
    refine offer_of_word p.kind ?_
    rcases h with hspaced | hnone
    · exact .inl (Form.of_eq_of_passes (by decide) hspaced)
    · refine .inr (by_contra fun hword => ?_)
      exact hnone _ (Form.mem_tests_iff.mpr hword) (Form.passes_of token.toList)
  · intro text piece hpiece heq hspaced
    refine Piece.exists_quoted_of_mem_scan hpiece ?_
    have hcontent : piece.content = token.toList := by simp [← heq]
    rw [hcontent]
    exact hspaced

/-- Read as a decimal first, an integer is none; white space in a mention makes it a name. -/
theorem order_of_integer_and_mention :
    Kind.offerInOrder [.spaced, .channelMention, .integer, .userMention, .decimal] .long "-07" =
      Kind.offer .long "-07" ∧
    Kind.offerInOrder [.decimal, .integer, .userMention, .channelMention, .spaced] .long "7" ≠
      Kind.offer .long "7" ∧
    ¬Form.Passes "<@ 4>".toList .userMention ∧
    Kind.offer .user "<@ 4>" = .accepted (.userByName "<@ 4>") ∧
    (∀ piece ∈ Piece.scan 0 "!a \"<@ 4>\"".toList, String.ofList piece.content = "<@ 4>" →
      ∃ content, piece = .quoted content) := by
  obtain ⟨-, hinteger, -, -⟩ := tests_in_any_order "-07"
  obtain ⟨hone, -, hspaced, hquoted⟩ := tests_in_any_order "<@ 4>"
  have hblank : Form.Passes "<@ 4>".toList .spaced := ⟨' ', by decide, by decide⟩
  refine ⟨?_, by decide, ?_, ?_, ?_⟩
  · exact hinteger [.spaced, .channelMention, .integer, .userMention, .decimal] (by decide)
      (by decide) ⟨.long, "n", false⟩
  · intro huser
    have heq : Form.spaced = .userMention := hone _ (by decide) _ (by decide) hblank huser
    contradiction
  · exact hspaced (.inl hblank) ⟨.user, "u", false⟩
  · exact fun piece hpiece heq => hquoted "!a \"<@ 4>\"" piece hpiece heq hblank

end ChatCommands
