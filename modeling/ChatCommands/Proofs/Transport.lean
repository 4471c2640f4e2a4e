import ChatCommands.Proofs.Segmentation
import ChatCommands.Proofs.Substitution

/-!
# ChatCommands.Proofs.Transport

Arguments that are handed on by a macro.  A template that names arguments by
placeholders in quote marks stands for the command that has these arguments in
quote marks (`Macro.expand?_handingOn`), whatever they are: what is put in is
not cut again.  The command is cut, though, when it is dispatched, and then an
argument is read back exactly if it has no quote mark of its own
(`Token.arguments_withQuoted_iff`).
-/

namespace ChatCommands

open ChatCommands.Text

namespace Macro

variable {head : String} {arguments : List String}

/-! ## placeholders -/

/-- A placeholder for one of some arguments. -/
structure Placeholder (arguments : List String) where
  /-- Where the argument stands. -/
  place : Fin arguments.length
  /-- A numeral for it. -/
  digits : List Char
  /-- The numeral has digits only. -/
  isDigitRun : Numeral.isDigitRun digits = true
  /-- It is not too long to be read. -/
  length_le : digits.length ≤ 4300
  /-- Arguments are counted from one. -/
  value : Numeral.ofDigits digits = place.val + 1

namespace Placeholder

/-- A placeholder as it stands in a template. -/
def text (p : Placeholder arguments) : String := String.ofList ('$' :: p.digits)

/-- The argument that it stands for. -/
def argument (p : Placeholder arguments) : String := arguments.get p.place

/-- Every place has a placeholder, unless its number in decimal is too long. -/
theorem exists_of_length_le (i : Fin arguments.length)
    (h : (Nat.toDigits 10 (i.val + 1)).length ≤ 4300) :
    ∃ p : Placeholder arguments, p.place = i ∧ p.digits = Nat.toDigits 10 (i.val + 1) := by
  have hrun : Numeral.isDigitRun (Nat.toDigits 10 (i.val + 1)) = true := by
    rw [isDigitRun_iff]
    exact ⟨Nat.toDigits_ne_nil, fun c hc =>
      Nat.isDigit_of_mem_toDigits (by decide) (by decide) hc⟩
  have hvalue : Numeral.ofDigits (Nat.toDigits 10 (i.val + 1)) = i.val + 1 := by
    rw [Numeral.ofDigits, Numeral.ofValues, List.foldl_map]
    exact Nat.ofDigitChars_toDigits (by decide) (by decide)
  exact ⟨⟨i, _, hrun, h, hvalue⟩, rfl, rfl⟩

theorem replacement_eq (p : Placeholder arguments) (userId : String) :
    (Part.argument p.digits).replacement arguments userId = p.argument.toList := by
  have hplace : 1 ≤ p.place.val + 1 ∧ p.place.val + 1 ≤ arguments.length :=
    ⟨Nat.le_add_left .., p.place.isLt⟩
  simp only [Part.replacement, p.value, dif_pos hplace]
  rfl

end Placeholder

/-! ## templates with placeholders in quote marks -/

/-- A head can stand in a template as it is. -/
structure PlainHead (head : String) : Prop where
  /-- It is not empty. -/
  ne_empty : head ≠ ""
  /-- It has no white space in it. -/
  no_blank : ∀ c ∈ head.toList, isBlank c = false
  /-- It has no quote mark in it. -/
  no_quote : '"' ∉ head.toList
  /-- It ends no template. -/
  no_separator : ';' ∉ head.toList
  /-- It has no placeholder in it. -/
  no_dollar : '$' ∉ head.toList

/-- The template that hands arguments on to a command. -/
def handingOn (head : String) (placeholders : List (Placeholder arguments)) : String :=
  Token.withQuoted head (placeholders.map Placeholder.text)

variable {placeholders : List (Placeholder arguments)}

theorem toList_handingOn : (handingOn head placeholders).toList =
    head.toList ++ placeholders.flatMap fun p => ' ' :: '"' :: '$' :: (p.digits ++ ['"']) := by
  simp [handingOn, Token.withQuoted, Piece.source, Placeholder.text, List.flatMap_map]

theorem separator_not_mem_handingOn (h : PlainHead head) :
    ';' ∉ (handingOn head placeholders).toList := by
  have hdigits (p : Placeholder arguments) : ';' ∉ p.digits := by
    intro hmem
    have hdigit := (isDigitRun_iff.mp p.isDigitRun).2 _ hmem
    contradiction
  simp [toList_handingOn, h.no_separator, hdigits]

/-- The template neither starts nor ends with a blank. -/
theorem strip_handingOn (h : PlainHead head) :
    strip (handingOn head placeholders).toList = (handingOn head placeholders).toList := by
  have hne : head.toList ≠ [] := by simpa using h.ne_empty
  have hfirst : ∀ c ∈ (handingOn head placeholders).toList.head?, isBlank c = false := by
    rw [toList_handingOn, List.head?_append_of_ne_nil _ hne]
    exact fun c hc => h.no_blank c (List.mem_of_mem_head? hc)
  have hlast : ∀ c ∈ (handingOn head placeholders).toList.getLast?, isBlank c = false := by
    rw [toList_handingOn]
    rcases List.eq_nil_or_concat' placeholders with rfl | ⟨front, p, rfl⟩
    · rw [List.flatMap_nil, List.append_nil]
      exact fun c hc => h.no_blank c (List.mem_of_mem_getLast? hc)
    · have hmark : isBlank '"' = false := rfl
      simp [List.getLast?_cons, hmark]
  exact strip_eq_self hfirst hlast

theorem templates_handingOn (h : PlainHead head) :
    templates (handingOn head placeholders) = [(handingOn head placeholders).toList] := by
  have hne : (handingOn head placeholders).toList ≠ [] := by
    have := h.ne_empty
    simp [toList_handingOn, this]
  rw [templates, splitAt_of_not_mem (separator_not_mem_handingOn h), List.map_singleton,
    strip_handingOn h]
  simpa using hne

/-- The parts of the template behind its head. -/
theorem scan_placeholders :
    Part.scan 0 (placeholders.flatMap fun p => ' ' :: '"' :: '$' :: (p.digits ++ ['"'])) =
      placeholders.flatMap fun p => [.literal ' ', .literal '"', .argument p.digits, .literal '"']
    := by
  induction placeholders with
  | nil => rfl
  | cons p placeholders ih =>
      simp only [List.flatMap_cons, List.cons_append, List.append_assoc, List.nil_append]
      rw [Part.scan_literal _ (by decide), Part.scan_literal _ (by decide),
        Part.scan_argument p.isDigitRun (by simp), Part.scan_literal _ (by decide), ih]

theorem scan_handingOn (h : PlainHead head) :
    Part.scan 0 (handingOn head placeholders).toList = head.toList.map .literal ++
      placeholders.flatMap fun p => [.literal ' ', .literal '"', .argument p.digits, .literal '"']
    := by
  have hplain : ¬HasPlaceholder head.toList := by
    rintro ⟨front, back, heq, -⟩
    exact h.no_dollar (by simp [heq])
  have hends : ∀ c ∈ (placeholders.flatMap fun p =>
      ' ' :: '"' :: '$' :: (p.digits ++ ['"'])).head?, Part.Ends c := by
    cases placeholders with
    | nil => simp
    | cons p placeholders => simp [Part.Ends]
  rw [toList_handingOn, scan_append hends, ← (cuts_map_literal_iff.mpr hplain).eq_scan,
    scan_placeholders]

/-- **Handing on**: the template stands for the command with the arguments in its placeholders'
stead. -/
theorem expand?_handingOn (h : PlainHead head) (userId : String) :
    expand? (handingOn head placeholders) arguments userId =
      some [Token.withQuoted head (placeholders.map Placeholder.argument)] := by
  have hfill : expand? (handingOn head placeholders) arguments userId ≠ none := by
    rw [ne_eq, expand?_eq_none_iff, templates_handingOn h]
    simp only [List.mem_singleton, exists_eq_left, overlongPlaceholder_iff, scan_handingOn h]
    rintro ⟨digits, hmem, hlong⟩
    obtain ⟨p, -, rfl⟩ : ∃ p ∈ placeholders, digits = p.digits := by simpa using hmem
    exact absurd p.length_le (Nat.not_le.mpr hlong)
  obtain ⟨commands, hcommands⟩ := Option.ne_none_iff_exists'.mp hfill
  have hreplaced (p : Placeholder arguments) :
      [Part.literal ' ', .literal '"', .argument p.digits, .literal '"'].flatMap
        (Part.replacement arguments userId) = ' ' :: (Piece.quoted p.argument.toList).source := by
    have hliteral (c : Char) : (Part.literal c).replacement arguments userId = [c] := rfl
    simp [hliteral, p.replacement_eq, Piece.source]
  rw [hcommands, eq_of_expand? hcommands, templates_handingOn h, List.map_singleton, fillParts,
    scan_handingOn h, List.flatMap_append, flatMap_map_literal fun _ => rfl, List.flatMap_assoc]
  simp only [hreplaced, Token.withQuoted, List.flatMap_map]

/-! ## transport -/

theorem arguments_handedOn_iff (h : PlainHead head) :
    Token.arguments (Token.withQuoted head (placeholders.map Placeholder.argument)) =
        placeholders.map Placeholder.argument ↔
      ∀ p ∈ placeholders, '"' ∉ p.argument.toList := by
  have hquote : head.toList.head? ≠ some '"' := fun hhead =>
    h.no_quote (List.mem_of_mem_head? hhead)
  rw [Token.arguments_withQuoted_iff h.ne_empty h.no_blank hquote, List.forall_mem_map]

/-- **Transport**: a template hands arguments on by placeholders in quote marks; each place has one
with its number in decimal.  The template stands for one command, and the tokens of that command
are the arguments exactly if none of these has a quote mark in it.  So they are if the arguments
are those of a text in which each of them is a quoted span, whatever stands in the spans. -/
theorem handed_on_iff_quote_free (h : PlainHead head) :
    (∀ (arguments : List String) (i : Fin arguments.length),
      (Nat.toDigits 10 (i.val + 1)).length ≤ 4300 →
        ∃ p : Placeholder arguments, p.place = i ∧ p.digits = Nat.toDigits 10 (i.val + 1)) ∧
    (∀ (arguments : List String) (placeholders : List (Placeholder arguments)) (userId : String),
      ∃ command, expand? (handingOn head placeholders) arguments userId = some [command] ∧
        (Token.arguments command = placeholders.map Placeholder.argument ↔
          ∀ p ∈ placeholders, '"' ∉ p.argument.toList)) ∧
    ∀ (text : String) (d : Segmentation), d.Cuts text.toList →
      ∀ (placeholders : List (Placeholder (Token.arguments text))) (userId : String),
        (∀ p ∈ placeholders, ∃ gap content,
          d.pieces[p.place.val + 1]? = some (gap, .quoted content)) →
        ∃ command,
          expand? (handingOn head placeholders) (Token.arguments text) userId = some [command] ∧
          Token.arguments command = placeholders.map Placeholder.argument := by
  refine ⟨fun _ => Placeholder.exists_of_length_le, fun arguments placeholders userId => ?_,
    fun text d hd placeholders userId hspans => ?_⟩
  · exact ⟨_, expand?_handingOn h userId, arguments_handedOn_iff h⟩
  · refine ⟨_, expand?_handingOn h userId, (arguments_handedOn_iff h).mpr ?_⟩
    intro p hp
    obtain ⟨gap, content, hspan⟩ := hspans p hp
    obtain ⟨hget, hquote⟩ := Token.getElem?_arguments_of_quoted hd hspan
    have hargument : (Token.arguments text)[p.place.val]? = some p.argument :=
      List.getElem?_eq_getElem p.place.isLt
    rw [Option.some.inj (hargument.symm.trans hget), String.toList_ofList]
    exact hquote

/-- A macro that is called with a span, which has a separator and a placeholder in it, and with a
word that has a quote mark in it. -/
def spanAndWord : String := "!m \"a; $user\" x\"y"

/-- A placeholder for the span, with a leading zero. -/
def spanPlaceholder : Placeholder (Token.arguments spanAndWord) :=
  ⟨⟨0, by decide +kernel⟩, ['0', '1'], rfl, by decide, rfl⟩

/-- A placeholder for the word. -/
def wordPlaceholder : Placeholder (Token.arguments spanAndWord) :=
  ⟨⟨1, by decide +kernel⟩, ['2'], rfl, by decide, rfl⟩

/-- The span is handed on twice, and the word is not. -/
theorem handing_on_of_spanAndWord :
    PlainHead "!say" ∧
    handingOn "!say" [spanPlaceholder, wordPlaceholder] = "!say \"$01\" \"$2\"" ∧
    (∃ command, expand? (handingOn "!say" [spanPlaceholder, spanPlaceholder])
        (Token.arguments spanAndWord) "42" = some [command] ∧
      Token.arguments command = ["a; $user", "a; $user"]) ∧
    ∃ command, expand? (handingOn "!say" [wordPlaceholder])
        (Token.arguments spanAndWord) "42" = some [command] ∧
      Token.arguments command ≠ ["x\"y"] := by
  have hblank : ∀ c ∈ "!say".toList, isBlank c = false := by simp; decide
  have hhead : PlainHead "!say" := ⟨by decide, hblank, by decide, by decide, by decide⟩
  have hcuts : Segmentation.Cuts ⟨[([], .bare ['!', 'm']), ([' '], .quoted "a; $user".toList),
      ([' '], .bare ['x', '"', 'y'])], []⟩ spanAndWord.toList :=
    Segmentation.cuts_cons_iff.mpr ⟨List.forall_mem_nil _, _, rfl, by decide,
      Segmentation.cuts_cons_iff.mpr ⟨List.forall_mem_singleton.mpr rfl, _, rfl, by decide,
        Segmentation.cuts_cons_iff.mpr ⟨List.forall_mem_singleton.mpr rfl, _, rfl, by decide,
          Segmentation.cuts_nil_iff.mpr ⟨rfl, List.forall_mem_nil _⟩⟩⟩⟩
  obtain ⟨-, htransport, hspans⟩ := handed_on_iff_quote_free hhead
  obtain ⟨command, hcommand, htokens⟩ :=
    hspans spanAndWord _ hcuts [spanPlaceholder, spanPlaceholder] "42"
      (by simp [spanPlaceholder])
  obtain ⟨command', hcommand', hword⟩ :=
    htransport (Token.arguments spanAndWord) [wordPlaceholder] "42"
  exact ⟨hhead, by decide, ⟨command, hcommand, htokens⟩, command', hcommand',
    mt hword.mp (by decide +kernel)⟩

end Macro

end ChatCommands
