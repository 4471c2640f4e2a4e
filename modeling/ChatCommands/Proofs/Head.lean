import ChatCommands.CommandName
import ChatCommands.Marker
import ChatCommands.Matching
import ChatCommands.Proofs.Registration
import ChatCommands.Proofs.Segmentation
import ChatCommands.World

/-!
# ChatCommands.Proofs.Head

The head of a command text, which is read three times:

1. the name is the word behind the marker;
2. the arguments are the tokens behind the first one;
3. a raw argument starts behind as many characters as the marker, the name of
   the command and one more.

`Head` says where the head ends, without reading anything.  A marker is one
character, and neither white space nor a quote mark, so the first token is the
marker and the name; and a command is registered under its own name, so the
raw argument starts there too.
-/

namespace ChatCommands

open ChatCommands.Text

/-! ## markers -/

theorem Marker.exists_of_fault?_eq_none {marker : String} (h : fault? (.text marker) = none) :
    ∃ c, marker.toList = [c] ∧ isBlank c = false ∧ c ≠ '"' := by
  have htext : textFault? marker = none := h
  unfold textFault? at htext
  split at htext
  · contradiction
  · next c hc =>
    unfold charFault? at htext
    exact ⟨c, hc, by grind⟩
  · contradiction

/-! ## heads -/

/-- The text is the marker, a name and a rest that does not belong to the name. -/
structure Head (marker name rest text : String) : Prop where
  /-- The three make up the text. -/
  text_eq : text = marker ++ name ++ rest
  /-- The name is not empty. -/
  name_ne : name ≠ ""
  /-- The name has no white space in it. -/
  name_blank : ∀ c ∈ name.toList, isBlank c = false
  /-- The name ends where white space follows, or the text ends. -/
  rest_blank : ∀ c ∈ rest.toList.head?, isBlank c = true

variable {marker name rest text : String}

/-- **The name** is the one that the text has a head with. -/
theorem commandName?_eq_some_iff :
    commandName? text marker = some name ↔ ∃ rest, Head marker name rest text := by
  unfold commandName?
  constructor
  · intro h
    split at h
    · contradiction
    · next cs hcs =>
      have htext := afterStart?_eq_some_iff.mp hcs
      split at h
      · contradiction
      · next hne =>
        obtain rfl : String.ofList (word cs) = name := Option.some.inj h
        refine ⟨String.ofList (cs.dropWhile fun c => !isBlank c), ?_, ?_, ?_, ?_⟩
        · rw [← String.toList_inj]
          simp [htext, word_append_dropWhile]
        · simpa using hne
        · simpa using fun c => isBlank_of_mem_word
        · rw [String.toList_ofList]
          exact isBlank_of_mem_head?_dropWhile cs
  · rintro ⟨rest, rfl, hne, hblank, hrest⟩
    have hafter : afterStart? marker.toList (marker ++ name ++ rest).toList =
        some (name.toList ++ rest.toList) := by
      rw [afterStart?_eq_some_iff]
      simp
    rw [hafter]
    simp only [word_append rest.toList hblank hrest]
    simp [hne]

/-- The name is decided by the first word, whatever stands behind it. -/
theorem commandName?_ofList_append {w tail : List Char}
    (hmarker : Marker.fault? (.text marker) = none) (hw : ∀ c ∈ w, isBlank c = false)
    (htail : ∀ c ∈ tail.head?, isBlank c = true) :
    commandName? (String.ofList (w ++ tail)) marker = commandName? (String.ofList w) marker := by
  obtain ⟨m, hm, hblank, -⟩ := Marker.exists_of_fault?_eq_none hmarker
  unfold commandName?
  rw [hm, String.toList_ofList, String.toList_ofList]
  cases w with
  | nil =>
      cases tail with
      | nil => rfl
      | cons c tail =>
          have hne : m ≠ c := by
            rintro rfl
            simp [hblank] at htail
          simp [afterStart?, hne]
  | cons c w =>
      obtain ⟨-, hw⟩ := List.forall_mem_cons.mp hw
      have hword : word w = w := by
        have := word_append [] hw (by simp)
        rwa [List.append_nil] at this
      by_cases hmc : m = c
      · simp only [List.cons_append, afterStart?, if_pos hmc, word_append tail hw htail, hword]
      · simp only [List.cons_append, afterStart?, if_neg hmc]

namespace Head

/-- The tokens are the marker with the name, and those of the rest. -/
theorem tokens_eq (h : Head marker name rest text) (hmarker : Marker.fault? (.text marker) = none) :
    Token.all text = (marker ++ name) :: Token.all rest := by
  obtain ⟨c, hc, hblank, hquote⟩ := Marker.exists_of_fault?_eq_none hmarker
  have hfits : (Piece.bare (marker ++ name).toList).Fits rest.toList := by
    refine ⟨by simp [hc], ?_, h.rest_blank, by simp [hc, hquote]⟩
    simpa [hc, hblank] using h.name_blank
  have hsource : text.toList = (Piece.bare (marker ++ name).toList).source ++ rest.toList := by
    rw [h.text_eq, String.toList_append, Piece.source]
  rw [Token.all, hsource, Piece.scan_of_fits hfits, List.map_cons, Piece.content,
    String.ofList_toList, Token.all]

theorem drop_eq (h : Head marker name rest text) :
    String.ofList (text.toList.drop (marker.length + name.length)) = rest := by
  rw [h.text_eq, String.toList_append (s := marker ++ name), ← String.length_append,
    ← String.length_toList, List.drop_left, String.ofList_toList]

theorem eq_append_iff (h : Head marker name rest text) (other : String) :
    text = marker ++ name ++ other ↔ rest = other := by
  rw [h.text_eq, String.append_right_inj]

/-- The raw argument is the rest but for its first character. -/
theorem matchRaw_eq (h : Head marker name rest text) : matchRaw name text marker =
    if rest = "" then .empty
    else Bag.ofArguments [⟨rawName, .string (String.ofList (rest.toList.drop 1))⟩] := by
  have hlength : text.length = marker.length + name.length + rest.length := by
    rw [h.text_eq, String.length_append, String.length_append]
  have hdrop : text.toList.drop (marker.length + name.length + 1) = rest.toList.drop 1 := by
    rw [← List.drop_drop, ← String.toList_ofList (l := List.drop _ text.toList), h.drop_eq]
  have hempty : text.length < marker.length + name.length + 1 ↔ rest = "" := by
    rw [hlength, ← String.toList_eq_nil_iff, ← List.length_eq_zero_iff, String.length_toList]
    omega
  simp only [matchRaw, hdrop, hempty]

/-- There is a raw argument exactly behind one white-space character. -/
theorem entries_matchRaw (h : Head marker name rest text) (argument : String) :
    (matchRaw name text marker).entries = [(rawName, ⟨rawName, .string argument⟩)] ↔
      ∃! w : Char, isBlank w = true ∧ text = marker ++ name ++ String.singleton w ++ argument := by
  have hrest (w : Char) : text = marker ++ name ++ String.singleton w ++ argument ↔
      rest.toList = w :: argument.toList := by
    rw [String.append_assoc, h.eq_append_iff, ← String.toList_inj]
    simp
  simp only [hrest, h.matchRaw_eq]
  cases hcs : rest.toList with
  | nil =>
      rw [if_pos (String.toList_eq_nil_iff.mp hcs)]
      simp [OrderedMap.empty]
  | cons c cs =>
      have hne : rest ≠ "" := by simp [← String.toList_eq_nil_iff, hcs]
      have hblank : isBlank c = true := h.rest_blank c (by simp [hcs])
      have hentries : (Bag.ofArguments [⟨rawName, .string (String.ofList cs)⟩]).entries =
          [(rawName, ⟨rawName, .string (String.ofList cs)⟩)] := rfl
      rw [if_neg hne, List.drop_one, List.tail_cons, hentries]
      constructor
      · intro heq
        obtain rfl : String.ofList cs = argument := by simpa using heq
        exact ⟨c, ⟨hblank, by simp⟩, fun w hw => by simpa [eq_comm] using hw.2⟩
      · rintro ⟨w, ⟨-, hw⟩, -⟩
        obtain ⟨-, rfl⟩ := List.cons_eq_cons.mp hw
        rw [String.ofList_toList]

/-- There is none exactly if the text ends with its head. -/
theorem entries_matchRaw_eq_nil (h : Head marker name rest text) :
    (matchRaw name text marker).entries = [] ↔ text = marker ++ name := by
  have hempty : text = marker ++ name ↔ rest = "" := by
    simpa using h.eq_append_iff ""
  rw [h.matchRaw_eq, hempty]
  by_cases hrest : rest = ""
  · simp [hrest, OrderedMap.empty]
  · have hentries (a : Argument) : (Bag.ofArguments [a]).entries = [(a.name, a)] := rfl
    simp [hrest, hentries]

end Head

/-- **One head**: if a text calls a command that is registered, all three readings of its head
agree.  The token that is dropped is the marker with the name, and the arguments are all tokens of
what is behind them.  A raw command always has its arguments matched; it gets what is behind the
marker, the name and one white-space character, and nothing if the text ends with the name. -/
theorem head_readings_agree {τ : Type} {r : Registry τ} {schema : Schema τ} (hr : r.Reachable)
    (hmarker : Marker.fault? (.text marker) = none) (hname : commandName? text marker = some name)
    (hget : r.get? name = some schema) :
    (Token.all text = (marker ++ name) :: Token.arguments text ∧
      Token.arguments text =
        Token.all (String.ofList (text.toList.drop (marker.length + name.length)))) ∧
    (schema.raw = true → ∀ directory server, ∃ bag,
      (matchText directory server schema text marker).result = .ok bag ∧
      (∀ argument, bag.entries = [(rawName, ⟨rawName, .string argument⟩)] ↔
        ∃! w : Char, isBlank w = true ∧
          text = marker ++ name ++ String.singleton w ++ argument) ∧
      (bag.entries = [] ↔ text = marker ++ name)) := by
  obtain ⟨rest, hhead⟩ := commandName?_eq_some_iff.mp hname
  have htokens := hhead.tokens_eq hmarker
  have harguments : Token.arguments text = Token.all rest := by
    rw [Token.arguments, htokens, List.drop_one, List.tail_cons]
  refine ⟨⟨?_, ?_⟩, fun hraw directory server => ?_⟩
  · rw [htokens, harguments]
  · rw [harguments, hhead.drop_eq]
  · have hown : schema.name = name := hr.filedByName name schema hget
    refine ⟨matchRaw name text marker, ?_, hhead.entries_matchRaw, hhead.entries_matchRaw_eq_nil⟩
    rw [matchText, if_pos hraw, hown, MatchOutcome.ofBag]

/-- A raw command with a quote mark in its name. -/
def quotedSchema : Schema Unit := { name := "s\"y", raw := true, task := () }

/-- Neither the quote mark in the name nor the one behind it starts a quoted span, and both stay
where they are. -/
theorem head_of_quoted_name :
    (Registry.after [.activate, .register quotedSchema]).Reachable ∧
    Marker.fault? (.text "!") = none ∧ commandName? "!s\"y\t\"x z" "!" = some "s\"y" ∧
    Token.all "!s\"y\t\"x z" = ["!s\"y", "\"x", "z"] ∧
    Token.arguments "!s\"y\t\"x z" = Token.all "\t\"x z" ∧
    ∃ bag, (matchText (World.directory {}) { id := "s" } quotedSchema "!s\"y\t\"x z" "!").result =
        .ok bag ∧ bag.entries = [(rawName, ⟨rawName, .string "\"x z"⟩)] ∧ bag.entries ≠ [] := by
  have hreachable : (Registry.after [.activate, .register quotedSchema]).Reachable := ⟨_, rfl⟩
  have hmarker : Marker.fault? (.text "!") = none := by decide
  have hname : commandName? "!s\"y\t\"x z" "!" = some "s\"y" := by decide
  have hget : (Registry.after [.activate, .register quotedSchema]).get? "s\"y" =
      some quotedSchema := rfl
  obtain ⟨⟨htokens, harguments⟩, hraw⟩ := head_readings_agree hreachable hmarker hname hget
  obtain ⟨bag, hbag, hentries, hnil⟩ := hraw rfl (World.directory {}) { id := "s" }
  have hone : ∃! w : Char, isBlank w = true ∧
      "!s\"y\t\"x z" = "!" ++ "s\"y" ++ String.singleton w ++ "\"x z" := by
    refine ⟨'\t', ⟨by decide, by decide⟩, fun w hw => ?_⟩
    have := congrArg String.toList hw.2
    simpa [eq_comm] using this
  exact ⟨hreachable, hmarker, hname, htokens, harguments, bag, hbag,
    (hentries "\"x z").mpr hone, mt hnil.mp (by decide)⟩

end ChatCommands
