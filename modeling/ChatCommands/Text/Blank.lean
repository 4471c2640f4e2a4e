/-!
# ChatCommands.Text.Blank

White space. Words, tokens, macro templates and settings are all cut at the
same twenty-nine characters, so the class is decided here once. It is wider
than the ASCII blanks (it has the separators U+001C to U+001F, the next-line
character and the spaces of the general punctuation block) and it leaves out
the zero-width characters U+200B and U+FEFF, which belong to words.
-/

namespace ChatCommands.Text

/-! ## the class -/

/-- Whether a character is white space. -/
def isBlank (c : Char) : Bool :=
  let n := c.toNat
  (0x09 ≤ n && n ≤ 0x0d) || (0x1c ≤ n && n ≤ 0x20) || n == 0x85 || n == 0xa0 || n == 0x1680 ||
    (0x2000 ≤ n && n ≤ 0x200a) || n == 0x2028 || n == 0x2029 || n == 0x202f || n == 0x205f ||
    n == 0x3000

/-! ## words and margins -/

/-- The characters up to the first blank. -/
def word (cs : List Char) : List Char := cs.takeWhile fun c => !isBlank c

/-- Whether some character is a blank. -/
def hasBlank (s : String) : Bool := s.toList.any isBlank

/-- A text without the blanks in front of it. -/
def stripStart (cs : List Char) : List Char := cs.dropWhile isBlank

/-- A text without the blanks at its end. -/
def stripEnd (cs : List Char) : List Char := (cs.reverse.dropWhile isBlank).reverse

/-- A text without the blanks around it. -/
def strip (cs : List Char) : List Char := stripEnd (stripStart cs)

/-- The part before the first blank and the part from it on make up the text. -/
theorem word_append_dropWhile (cs : List Char) :
    word cs ++ cs.dropWhile (fun c => !isBlank c) = cs :=
  List.takeWhile_append_dropWhile

/-- A word has no blank in it. -/
theorem isBlank_of_mem_word {cs : List Char} {c : Char} (h : c ∈ word cs) : isBlank c = false := by
  have := List.all_takeWhile (l := cs) (p := fun c => !isBlank c)
  simpa using List.all_eq_true.mp this c h

/-- A word ends where a blank follows, or the text ends. -/
theorem word_append {w : List Char} (rest : List Char) (hw : ∀ c ∈ w, isBlank c = false)
    (hrest : ∀ c ∈ rest.head?, isBlank c = true) : word (w ++ rest) = w := by
  have hpos : ∀ c ∈ w, (!isBlank c) = true := fun c hc => by rw [hw c hc]; rfl
  rw [word, List.takeWhile_append_of_pos hpos]
  cases rest with
  | nil => simp
  | cons c rest => simp [hrest c (by simp)]

/-- Behind a longest run of characters, none of its kind follows. -/
theorem eq_false_of_mem_head?_dropWhile (p : Char → Bool) (cs : List Char) :
    ∀ c ∈ (cs.dropWhile p).head?, p c = false := by
  intro c hc
  have h := List.head?_dropWhile_not p cs
  rw [Option.mem_def.mp hc] at h
  exact h

/-- Behind the first word a blank follows, or the text ends. -/
theorem isBlank_of_mem_head?_dropWhile (cs : List Char) :
    ∀ c ∈ (cs.dropWhile fun c => !isBlank c).head?, isBlank c = true := by
  intro c hc
  simpa using eq_false_of_mem_head?_dropWhile _ cs c hc

/-! ## stripping -/

/-- Blanks are taken off in front of a character that is none. -/
theorem stripStart_append_cons {c : Char} (front back : List Char) (hc : isBlank c = false) :
    stripStart (front ++ c :: back) = stripStart front ++ c :: back := by
  rw [stripStart, stripStart, List.dropWhile_append]
  split
  · next h =>
    rw [List.isEmpty_iff.mp h]
    simp [hc]
  · rfl

/-- Blanks are taken off behind a character that is none. -/
theorem stripEnd_append_cons {c : Char} (front back : List Char) (hc : isBlank c = false) :
    stripEnd (front ++ c :: back) = front ++ c :: stripEnd back := by
  have h := stripStart_append_cons back.reverse front.reverse hc
  rw [stripStart, stripStart] at h
  rw [stripEnd, stripEnd, List.reverse_append, List.reverse_cons, List.append_assoc,
    List.singleton_append, h]
  simp

/-- Only blanks are taken off a text. -/
theorem exists_append_strip (cs : List Char) : ∃ front back, cs = front ++ strip cs ++ back ∧
    (∀ c ∈ front, isBlank c = true) ∧ ∀ c ∈ back, isBlank c = true := by
  refine ⟨cs.takeWhile isBlank, ((stripStart cs).reverse.takeWhile isBlank).reverse, ?_,
    List.all_eq_true.mp List.all_takeWhile, fun c hc => ?_⟩
  · rw [List.append_assoc, strip, stripEnd, ← List.reverse_append,
      List.takeWhile_append_dropWhile, List.reverse_reverse, stripStart,
      List.takeWhile_append_dropWhile]
  · exact List.all_eq_true.mp List.all_takeWhile c (List.mem_reverse.mp hc)

/-- Nothing is left of a text exactly if it is blank. -/
theorem strip_eq_nil_iff {cs : List Char} : strip cs = [] ↔ ∀ c ∈ cs, isBlank c = true := by
  constructor
  · intro h
    obtain ⟨front, back, heq, hfront, hback⟩ := exists_append_strip cs
    intro c hc
    rw [heq, h, List.append_nil] at hc
    exact (List.mem_append.mp hc).elim (hfront c) (hback c)
  · intro h
    have hstart : stripStart cs = [] := by
      have hall : (cs ++ []).dropWhile isBlank = [].dropWhile isBlank :=
        List.dropWhile_append_of_pos h
      simpa [stripStart] using hall
    rw [strip, hstart]
    rfl

/-- Nothing is taken off a text that neither starts nor ends with a blank. -/
theorem strip_eq_self {cs : List Char} (hfirst : ∀ c ∈ cs.head?, isBlank c = false)
    (hlast : ∀ c ∈ cs.getLast?, isBlank c = false) : strip cs = cs := by
  have hstart : stripStart cs = cs := by
    cases cs with
    | nil => rfl
    | cons c cs => simp [stripStart, hfirst c (by simp)]
  cases hcs : cs.getLast? with
  | none =>
    rw [List.getLast?_eq_none_iff.mp hcs]
    rfl
  | some c =>
    obtain ⟨front, rfl⟩ := List.getLast?_eq_some_iff.mp hcs
    rw [strip, hstart, stripEnd_append_cons front [] (hlast c hcs)]
    rfl

end ChatCommands.Text
