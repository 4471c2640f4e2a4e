import ChatCommands.Proofs.Placeholder
import Mathlib.Data.List.Forall2

/-!
# ChatCommands.Proofs.Substitution

What a macro body is expanded to.  The commands are the cuts of its templates
with every part replaced (`eq_of_expand?`).  As a cut is one of the template
alone, what is put in is never cut itself, and neither the failure nor the
number of commands depends on it.
-/

namespace ChatCommands

namespace Macro

open ChatCommands.Text

variable {α β : Type} {cs : List Char} {body : String} {arguments : List String} {userId : String}

/-! ## replacements -/

namespace Part

/-- What stands in a command for a part of its template. -/
def replacement (arguments : List String) (userId : String) : Part → List Char
  | argument digits =>
    let n := Numeral.ofDigits digits
    if h : 1 ≤ n ∧ n ≤ arguments.length then
      (arguments.get ⟨n - 1, Nat.sub_one_lt_of_le h.1 h.2⟩).toList
    else '$' :: digits
  | invoker => userId.toList
  | literal c => [c]

/-- If a part can be filled at all, it is filled with its replacement. -/
theorem eq_replacement_of_fill? {p : Part} {filling : List Char}
    (h : p.fill? arguments userId = some filling) : filling = p.replacement arguments userId := by
  cases p with
  | literal c =>
      obtain rfl : [c] = filling := by simpa [fill?] using h
      rfl
  | invoker =>
      obtain rfl : userId.toList = filling := by simpa [fill?] using h
      rfl
  | argument digits =>
      rw [fill?] at h
      obtain ⟨n, hn, h⟩ := Option.bind_eq_some_iff.mp h
      obtain rfl : Numeral.ofDigits digits = n := by
        rw [Numeral.ofDigits?] at hn
        split at hn
        · exact Option.some.inj hn
        · contradiction
      rw [replacement]
      grind [source]

end Part

theorem eq_map_of_mapM_eq_some {f : α → Option β} {g : α → β} {xs : List α} {ys : List β}
    (hfg : ∀ x y, f x = some y → y = g x) (h : xs.mapM f = some ys) : ys = xs.map g := by
  induction xs generalizing ys with
  | nil => simpa using h.symm
  | cons x xs ih =>
      rw [List.mapM_cons] at h
      obtain ⟨y, hy, h⟩ := Option.bind_eq_some_iff.mp h
      obtain ⟨zs, hzs, h⟩ := Option.bind_eq_some_iff.mp h
      obtain rfl : y :: zs = ys := by simpa using h
      rw [List.map_cons, ← hfg x y hy, ← ih hzs]

/-- The command that parts make. -/
def fillParts (arguments : List String) (userId : String) (parts : List Part) : String :=
  String.ofList (parts.flatMap (Part.replacement arguments userId))

/-- The commands of a body are its templates with every part replaced. -/
theorem eq_of_expand? {commands : List String}
    (h : expand? body arguments userId = some commands) :
    commands = (templates body).map fun t => fillParts arguments userId (Part.scan 0 t) := by
  refine eq_map_of_mapM_eq_some (fun template command h => ?_) h
  obtain ⟨fillings, hfill, h⟩ := Option.bind_eq_some_iff.mp h
  obtain rfl : String.ofList fillings.flatten = command := by simpa using h
  rw [eq_map_of_mapM_eq_some (fun _ _ => Part.eq_replacement_of_fill?) hfill, fillParts,
    List.flatMap_def]

/-- There is one command for each template. -/
theorem length_of_expand? {commands : List String}
    (h : expand? body arguments userId = some commands) :
    commands.length = (templates body).length := by
  rw [eq_of_expand? h, List.length_map]

/-! ## pieces -/

/-- The number of a placeholder may be taken to be all the digits behind its `$`. -/
theorem overlongPlaceholder_iff_maximal :
    OverlongPlaceholder cs ↔ ∃ front digits back, cs = front ++ '$' :: (digits ++ back) ∧
      (∀ c ∈ digits, c.isDigit = true) ∧ (∀ c ∈ back.head?, c.isDigit = false) ∧
      4300 < digits.length := by
  constructor
  · intro h
    obtain ⟨digits, hmem, hlong⟩ := overlongPlaceholder_iff.mp h
    obtain ⟨front, back, rfl, hrun, hend⟩ := argument_mem_scan_iff.mp hmem
    exact ⟨front, digits, back, rfl, (isDigitRun_iff.mp hrun).2, hend, hlong⟩
  · intro h
    obtain ⟨front, digits, back, rfl, hd, -, hlong⟩ := h
    exact ⟨front, digits, back, rfl, hd, hlong⟩

/-- As a placeholder starts and ends with characters that are not blank, it stands in a piece
exactly if it stands in its template. -/
theorem overlongPlaceholder_strip_iff :
    OverlongPlaceholder (strip cs) ↔ OverlongPlaceholder cs := by
  constructor
  · intro h
    obtain ⟨front, digits, back, heq, hd, hlong⟩ := h
    obtain ⟨left, right, hcs, -, -⟩ := exists_append_strip cs
    refine ⟨left ++ front, digits, back ++ right, ?_, hd, hlong⟩
    rw [hcs, heq]
    simp
  · intro h
    obtain ⟨front, digits, back, rfl, hd, hlong⟩ := h
    have hne : digits ≠ [] := List.ne_nil_of_length_pos (Nat.lt_trans (by decide) hlong)
    obtain ⟨ds, d, rfl⟩ := (List.eq_nil_or_concat' digits).resolve_left hne
    -- stripping stops at the `$` from the left and at the last digit from the right
    have hlast : isBlank d = false := isBlank_of_isDigit (hd d (by simp))
    have hsplit : stripStart front ++ '$' :: (ds ++ [d] ++ back) =
        (stripStart front ++ '$' :: ds) ++ d :: back := by simp
    refine ⟨stripStart front, ds ++ [d], stripEnd back, ?_, hd, hlong⟩
    rw [strip, stripStart_append_cons front _ (by decide), hsplit, stripEnd_append_cons _ _ hlast]
    simp

/-- The templates are the pieces that are not blank, stripped. -/
theorem templates_eq_map_strip (body : String) : templates body =
    ((splitAt ';' body.toList).filter fun piece => strip piece ≠ []).map strip := by
  rw [templates, List.filter_map]
  refine congrArg (List.map strip) (List.filter_congr fun piece _ => ?_)
  cases hpiece : strip piece <;> simp [hpiece]

theorem expand?_eq_none_iff_exists_piece : expand? body arguments userId = none ↔
    ∃ piece ∈ splitAt ';' body.toList, (∃ c ∈ piece, isBlank c = false) ∧
      OverlongPlaceholder piece := by
  rw [expand?_eq_none_iff, templates_eq_map_strip]
  simp [overlongPlaceholder_strip_iff, strip_eq_nil_iff, and_assoc]

/-- The number of commands, if there are any, is the same for all arguments and invokers. -/
theorem map_length_expand? (arguments arguments' : List String) (userId userId' : String) :
    (expand? body arguments' userId').map List.length =
      (expand? body arguments userId).map List.length := by
  have hboth : expand? body arguments' userId' = none ↔ expand? body arguments userId = none :=
    expand?_eq_none_iff.trans expand?_eq_none_iff.symm
  cases h : expand? body arguments userId with
  | none => rw [hboth.mpr h]
  | some commands =>
      obtain ⟨commands', h'⟩ := Option.ne_none_iff_exists'.mp
        (mt hboth.mp (Option.ne_none_iff_exists'.mpr ⟨commands, h⟩))
      simp [h', length_of_expand? h, length_of_expand? h']

/-- **Substitution**: a body consists of pieces with `;` between them, and every piece that is
not blank has, stripped, exactly one cut.  A body cannot be expanded exactly if a piece of it has
`$` and more than 4300 digits behind it; otherwise its commands are the cuts with their parts
replaced, in order.  Pieces and cuts are found before the arguments and the invoker are known, so
neither the failure nor the number of commands depends on those. -/
theorem expansion_eq_substitution (body : String) :
    ∃ (pieces : List (List Char)) (cuts : List (List Part)),
      (pieces ≠ [] ∧ joinWith ';' pieces = body.toList ∧ ∀ piece ∈ pieces, ';' ∉ piece) ∧
      List.Forall₂ (fun parts piece => ∀ parts', Cuts parts' (strip piece) ↔ parts' = parts) cuts
        (pieces.filter fun piece => strip piece ≠ []) ∧
      ∀ (arguments : List String) (userId : String),
        (expand? body arguments userId = none ↔
          ∃ piece ∈ pieces, (∃ c ∈ piece, isBlank c = false) ∧
            ∃ front digits back, piece = front ++ '$' :: (digits ++ back) ∧
              (∀ c ∈ digits, c.isDigit = true) ∧ (∀ c ∈ back.head?, c.isDigit = false) ∧
              4300 < digits.length) ∧
        (expand? body arguments userId ≠ none →
          expand? body arguments userId = some (cuts.map (fillParts arguments userId))) ∧
        ∀ (arguments' : List String) (userId' : String),
          (expand? body arguments' userId').map List.length =
            (expand? body arguments userId).map List.length := by
  refine ⟨splitAt ';' body.toList, (templates body).map (Part.scan 0),
    ⟨splitAt_ne_nil _ _, joinWith_splitAt _ _, fun _ => separator_not_mem_of_mem_splitAt⟩, ?_,
    fun arguments userId => ⟨?_, ?_, fun _ _ => map_length_expand? _ _ _ _⟩⟩
  · rw [templates_eq_map_strip, List.map_map, List.forall₂_map_left_iff]
    exact List.forall₂_same.mpr fun piece _ parts => cuts_iff
  · simp only [expand?_eq_none_iff_exists_piece, overlongPlaceholder_iff_maximal]
  · intro hne
    obtain ⟨commands, hcommands⟩ := Option.ne_none_iff_exists'.mp hne
    rw [hcommands, eq_of_expand? hcommands, List.map_map]
    rfl

/-- A body with a blank piece, a number without an argument, a zero, a leading zero, a letter
right behind `$user` and a `$` in front of another one. -/
def mixedBody : String := "!say $1 $user ; ;!ping $10 $02$0$usery;$$1"

/-- Arguments with a separator and placeholders in them are put in as they are. -/
theorem substitution_of_mixed_body :
    expand? mixedBody ["; $1", "$user"] "42" =
        some ["!say ; $1 42", "!ping $10 $user$042y", "$; $1"] ∧
      (expand? mixedBody [] "").map List.length = some 3 ∧
      ∃ cuts : List (List Part), cuts.length = 3 ∧
        expand? mixedBody ["; $1", "$user"] "42" =
          some (cuts.map (fillParts ["; $1", "$user"] "42")) := by
  have hrun : expand? mixedBody ["; $1", "$user"] "42" =
      some ["!say ; $1 42", "!ping $10 $user$042y", "$; $1"] := by decide +kernel
  obtain ⟨pieces, cuts, -, -, h⟩ := expansion_eq_substitution mixedBody
  obtain ⟨-, heq, hlength⟩ := h ["; $1", "$user"] "42"
  have hcuts := heq (by simp [hrun])
  refine ⟨hrun, by rw [hlength, hrun]; rfl, cuts, ?_, hcuts⟩
  rw [hrun] at hcuts
  simpa using (congrArg List.length (Option.some.inj hcuts)).symm

end Macro

end ChatCommands
