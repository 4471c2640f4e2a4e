import ChatCommands.Token
import Mathlib.Logic.ExistsUnique

/-!
# ChatCommands.Proofs.Segmentation

How command text falls into pieces.  A segmentation writes a text as pieces
with gaps in front of them and a gap at the end, such that

1. gaps are white space, and may be empty;
2. a quoted span has no quote mark between its two;
3. a word is not empty, has no white space in it, and ends at white space or
   at the end of the text;
4. a word starts with a quote mark only if no other one follows anywhere.

The scanner finds the pieces of a segmentation wherever they stand
(`Piece.scan_of_fits`), and every text has exactly one segmentation
(`Segmentation.exists_cuts`, `Segmentation.Cuts.unique`).  So the tokens are
the contents of its pieces, and what is said about segmentations holds of
tokens (`Token.arguments_eq_contents`).
-/

namespace ChatCommands

open ChatCommands.Text

/-! ## pieces -/

namespace Piece

/-- The piece may stand in front of this rest of a text. -/
def Fits (rest : List Char) : Piece → Prop
  | quoted content => '"' ∉ content
  | bare word => word ≠ [] ∧ (∀ c ∈ word, isBlank c = false) ∧
      (∀ c ∈ rest.head?, isBlank c = true) ∧ (word.head? = some '"' → '"' ∉ word.tail ++ rest)

instance (rest : List Char) : (p : Piece) → Decidable (p.Fits rest)
  | quoted content => inferInstanceAs (Decidable ('"' ∉ content))
  | bare word => decidable_of_iff
      (word ≠ [] ∧ (word.all fun c => !isBlank c) = true ∧ rest.head?.all isBlank = true ∧
        (word.head? = some '"' → '"' ∉ word.tail ++ rest))
      (by simp [Fits, Option.all_eq_true])

variable {p : Piece} {gap cs rest : List Char} {c : Char}

/-- No piece starts with white space. -/
theorem Fits.exists_cons (h : p.Fits rest) : ∃ c cs, p.source = c :: cs ∧ isBlank c = false := by
  cases p with
  | quoted content => exact ⟨'"', content ++ ['"'], rfl, rfl⟩
  | bare word =>
      obtain ⟨hne, hblank, -, -⟩ := h
      obtain ⟨c, cs, rfl⟩ := List.exists_cons_of_ne_nil hne
      exact ⟨c, cs, rfl, hblank c List.mem_cons_self⟩

/-- At a character that is not white space, a piece starts. -/
theorem exists_fits (cs : List Char) (hc : isBlank c = false) :
    ∃ (p : Piece) (rest : List Char), c :: cs = p.source ++ rest ∧ p.Fits rest := by
  by_cases hquote : c = '"' ∧ '"' ∈ cs
  · obtain ⟨rfl, hmem⟩ := hquote
    obtain ⟨content, rest, rfl, hcontent⟩ := List.eq_append_cons_of_mem hmem
    exact ⟨quoted content, rest, by simp [source], hcontent⟩
  · refine ⟨bare (c :: word cs), cs.dropWhile fun c => !isBlank c, ?_, by simp, ?_,
      isBlank_of_mem_head?_dropWhile cs, ?_⟩
    · rw [source, List.cons_append, word_append_dropWhile]
    · exact List.forall_mem_cons.mpr ⟨hc, fun _ => isBlank_of_mem_word⟩
    · rw [List.tail_cons, word_append_dropWhile]
      intro hhead hmem
      exact hquote ⟨by simpa using hhead, hmem⟩

/-! ## scanning -/

/-- White space is skipped. -/
theorem scan_of_blank (cs : List Char) (h : ∀ c ∈ gap, isBlank c = true) :
    scan 0 (gap ++ cs) = scan 0 cs := by
  induction gap with
  | nil => rfl
  | cons c gap ih =>
      obtain ⟨hc, hgap⟩ := List.forall_mem_cons.mp h
      rw [List.cons_append, scan, if_pos hc, ih hgap]

/-- A piece is found where it stands, and the scan goes on behind it. -/
theorem scan_of_fits (h : p.Fits rest) : scan 0 (p.source ++ rest) = p :: scan 0 rest := by
  cases p with
  | quoted content =>
      have hinner : (content ++ '"' :: rest).takeWhile (· ≠ '"') = content := by
        have hne : ∀ c ∈ content, decide (c ≠ '"') = true := fun c hc =>
          decide_eq_true fun heq => h (heq ▸ hc)
        rw [List.takeWhile_append_of_pos hne]
        simp
      have hdrop : (content ++ '"' :: rest).drop (content.length + 1) = rest := by simp
      have hsource : (quoted content).source ++ rest = '"' :: (content ++ '"' :: rest) := by
        simp [source]
      rw [hsource, scan, if_neg (by decide), if_pos ⟨rfl, by simp⟩]
      simp only [hinner]
      rw [scan_eq_scan_drop, hdrop]
  | bare word =>
      obtain ⟨hne, hblank, hend, hquote⟩ := h
      obtain ⟨c, w, rfl⟩ := List.exists_cons_of_ne_nil hne
      obtain ⟨hc, hw⟩ := List.forall_mem_cons.mp hblank
      have hbare : ¬(c = '"' ∧ '"' ∈ w ++ rest) := by
        intro h
        exact hquote (by rw [h.1]; rfl) h.2
      rw [source, List.cons_append, scan, if_neg (by simp [hc]), if_neg hbare,
        word_append rest hw hend, scan_eq_scan_drop, List.drop_left]

end Piece

/-! ## segmentations -/

/-- Pieces with gaps around them. -/
structure Segmentation where
  /-- The pieces, each with the gap in front of it. -/
  pieces : List (List Char × Piece)
  /-- The gap at the end. -/
  last : List Char
deriving DecidableEq

namespace Segmentation

/-- The text that pieces and gaps make up. -/
def text (d : Segmentation) : List Char := (d.pieces.flatMap fun x => x.1 ++ x.2.source) ++ d.last

/-- The tokens that the pieces make. -/
def contents (d : Segmentation) : List String := d.pieces.map fun x => String.ofList x.2.content

/-- It is a segmentation of the text. -/
structure Cuts (d : Segmentation) (cs : List Char) : Prop where
  /-- Gaps and pieces make up the text. -/
  text_eq : d.text = cs
  /-- The gaps in front of pieces are white space. -/
  gaps : ∀ x ∈ d.pieces, ∀ c ∈ x.1, isBlank c = true
  /-- So is the gap at the end. -/
  last : ∀ c ∈ d.last, isBlank c = true
  /-- Every piece fits where it stands. -/
  fits : ∀ (front back : List (List Char × Piece)) (gap : List Char) (p : Piece),
    d.pieces = front ++ (gap, p) :: back → p.Fits (text ⟨back, d.last⟩)

/-- The piece of this number takes up the character at this position. -/
def Covers (d : Segmentation) (k i : Nat) : Prop :=
  ∃ gap p, d.pieces[k]? = some (gap, p) ∧ (text ⟨d.pieces.take k, gap⟩).length ≤ i ∧
    i < (text ⟨d.pieces.take k, gap⟩).length + p.source.length

variable {d d' : Segmentation} {pieces : List (List Char × Piece)} {p : Piece}
  {gap last cs : List Char} {c : Char} {i k : Nat}

theorem text_cons :
    text ⟨(gap, p) :: pieces, last⟩ = gap ++ (p.source ++ text ⟨pieces, last⟩) := by
  simp [text]

theorem cuts_nil_iff : Cuts ⟨[], last⟩ cs ↔ last = cs ∧ ∀ c ∈ cs, isBlank c = true := by
  constructor
  · intro h
    obtain rfl : last = cs := h.text_eq
    exact ⟨rfl, h.last⟩
  · intro h
    obtain ⟨rfl, hblank⟩ := h
    exact ⟨rfl, by simp, hblank, by simp⟩

/-- Behind its first piece, a segmentation is one of the rest of the text. -/
theorem cuts_cons_iff :
    Cuts ⟨(gap, p) :: pieces, last⟩ cs ↔ (∀ c ∈ gap, isBlank c = true) ∧
      ∃ rest, cs = gap ++ (p.source ++ rest) ∧ p.Fits rest ∧ Cuts ⟨pieces, last⟩ rest := by
  constructor
  · intro h
    obtain ⟨hgap, hgaps⟩ := List.forall_mem_cons.mp h.gaps
    refine ⟨hgap, text ⟨pieces, last⟩, h.text_eq.symm.trans text_cons,
      h.fits [] pieces gap p rfl, rfl, hgaps, h.last, ?_⟩
    intro front back gap' p' heq
    exact h.fits ((gap, p) :: front) back gap' p' (congrArg (List.cons (gap, p)) heq)
  · intro h
    obtain ⟨hgap, rest, rfl, hp, hrest⟩ := h
    obtain rfl : text ⟨pieces, last⟩ = rest := hrest.text_eq
    refine ⟨text_cons, List.forall_mem_cons.mpr ⟨hgap, hrest.gaps⟩, hrest.last, ?_⟩
    intro front back gap' p' heq
    cases front with
    | nil =>
        obtain ⟨⟨rfl, rfl⟩, rfl⟩ : (gap = gap' ∧ p = p') ∧ pieces = back := by simpa using heq
        exact hp
    | cons x front =>
        obtain ⟨rfl, hpieces⟩ := List.cons_eq_cons.mp heq
        exact hrest.fits front back gap' p' hpieces

/-! ## existence and uniqueness -/

/-- Every text has a segmentation: the pieces that the scanner finds, with the gaps between them. -/
theorem exists_cuts (cs : List Char) : ∃ d : Segmentation, d.Cuts cs := by
  have hsplit : cs.takeWhile isBlank ++ cs.dropWhile isBlank = cs :=
    List.takeWhile_append_dropWhile
  have hgap : ∀ c ∈ cs.takeWhile isBlank, isBlank c = true :=
    List.all_eq_true.mp List.all_takeWhile
  cases hrest : cs.dropWhile isBlank with
  | nil =>
      rw [hrest, List.append_nil] at hsplit
      exact ⟨⟨[], cs⟩, cuts_nil_iff.mpr ⟨rfl, hsplit ▸ hgap⟩⟩
  | cons c more =>
      have hc : isBlank c = false :=
        eq_false_of_mem_head?_dropWhile isBlank cs c (by simp [hrest])
      obtain ⟨p, rest, hsource, hp⟩ := Piece.exists_fits more hc
      have hshorter : rest.length < cs.length := by
        obtain ⟨d, ds, hcons, -⟩ := hp.exists_cons
        rw [← hsplit, hrest, hsource, hcons]
        simp only [List.length_append, List.length_cons]
        omega
      obtain ⟨⟨pieces, last⟩, hd⟩ := exists_cuts rest
      refine ⟨⟨(cs.takeWhile isBlank, p) :: pieces, last⟩,
        cuts_cons_iff.mpr ⟨hgap, rest, ?_, hp, hd⟩⟩
      rw [← hsource, ← hrest, hsplit]
termination_by cs.length

/-- The pieces are those that are scanned. -/
theorem Cuts.scan_eq (h : d.Cuts cs) : Piece.scan 0 cs = d.pieces.map Prod.snd := by
  obtain ⟨pieces, last⟩ := d
  induction pieces generalizing cs with
  | nil =>
      obtain ⟨rfl, hblank⟩ := cuts_nil_iff.mp h
      have := Piece.scan_of_blank [] hblank
      rwa [List.append_nil] at this
  | cons x pieces ih =>
      obtain ⟨hgap, rest, rfl, hp, hrest⟩ := cuts_cons_iff.mp h
      rw [Piece.scan_of_blank _ hgap, Piece.scan_of_fits hp, ih hrest, List.map_cons]

/-- A gap in front of a piece is all the white space there. -/
theorem takeWhile_isBlank_of_fits {rest : List Char} (hgap : ∀ c ∈ gap, isBlank c = true)
    (hp : p.Fits rest) : (gap ++ (p.source ++ rest)).takeWhile isBlank = gap := by
  obtain ⟨c, cs, hsource, hc⟩ := hp.exists_cons
  rw [List.takeWhile_append_of_pos hgap, hsource]
  simp [hc]

/-- A text has one segmentation, as the scanner finds the pieces of any. -/
theorem Cuts.unique (h : d.Cuts cs) (h' : d'.Cuts cs) : d = d' := by
  obtain ⟨pieces, last⟩ := d
  obtain ⟨pieces', last'⟩ := d'
  have hscan : pieces.map Prod.snd = pieces'.map Prod.snd := h.scan_eq.symm.trans h'.scan_eq
  induction pieces generalizing cs pieces' with
  | nil =>
      obtain rfl : pieces' = [] := List.map_eq_nil_iff.mp hscan.symm
      obtain ⟨rfl, -⟩ := cuts_nil_iff.mp h
      obtain ⟨rfl, -⟩ := cuts_nil_iff.mp h'
      rfl
  | cons x pieces ih =>
      obtain ⟨gap, p⟩ := x
      cases pieces' with
      | nil => contradiction
      | cons x' pieces' =>
          obtain ⟨gap', p'⟩ := x'
          obtain ⟨rfl, htail⟩ : p = p' ∧ pieces.map Prod.snd = pieces'.map Prod.snd := by
            simpa using hscan
          obtain ⟨hgap, rest, rfl, hp, hrest⟩ := cuts_cons_iff.mp h
          obtain ⟨hgap', rest', heq, hp', hrest'⟩ := cuts_cons_iff.mp h'
          have hsame : gap = gap' := by
            rw [← takeWhile_isBlank_of_fits hgap hp, heq, takeWhile_isBlank_of_fits hgap' hp']
          subst hsame
          obtain rfl : rest = rest' := by simpa using heq
          obtain ⟨rfl, rfl⟩ : pieces = pieces' ∧ last = last' := by
            simpa using ih hrest pieces' hrest' htail
          rfl

/-! ## characters -/

theorem covers_zero_iff :
    Covers ⟨(gap, p) :: pieces, last⟩ 0 i ↔ gap.length ≤ i ∧ i < gap.length + p.source.length := by
  constructor
  · intro h
    obtain ⟨gap', p', hget, h⟩ := h
    obtain ⟨rfl, rfl⟩ : gap = gap' ∧ p = p' := by simpa using hget
    simpa [text] using h
  · intro h
    exact ⟨gap, p, rfl, by simpa [text] using h⟩

theorem covers_succ_iff :
    Covers ⟨(gap, p) :: pieces, last⟩ (k + 1) i ↔
      ∃ j, i = gap.length + p.source.length + j ∧ Covers ⟨pieces, last⟩ k j := by
  simp only [Covers, List.getElem?_cons_succ, List.take_succ_cons, text_cons, List.length_append]
  constructor
  · intro h
    obtain ⟨gap', p', hget, hfrom, hto⟩ := h
    exact ⟨i - (gap.length + p.source.length), by omega, gap', p', hget, by omega, by omega⟩
  · intro h
    obtain ⟨j, rfl, gap', p', hget, hfrom, hto⟩ := h
    exact ⟨gap', p', hget, by omega, by omega⟩

/-- Every character that is not white space belongs to one piece. -/
theorem Cuts.existsUnique_covers (h : d.Cuts cs) (hget : cs[i]? = some c)
    (hc : isBlank c = false) : ∃! k, d.Covers k i := by
  obtain ⟨pieces, last⟩ := d
  induction pieces generalizing cs i with
  | nil =>
      obtain ⟨rfl, hblank⟩ := cuts_nil_iff.mp h
      have := hblank c (List.mem_of_getElem? hget)
      simp [hc] at this
  | cons x pieces ih =>
      obtain ⟨gap, p⟩ := x
      obtain ⟨hgap, rest, rfl, hp, hrest⟩ := cuts_cons_iff.mp h
      rcases Nat.lt_or_ge i gap.length with hi | hi
      · rw [List.getElem?_append_left hi] at hget
        have := hgap c (List.mem_of_getElem? hget)
        simp [hc] at this
      · rw [List.getElem?_append_right hi] at hget
        rcases Nat.lt_or_ge (i - gap.length) p.source.length with hj | hj
        · -- it is one of the first piece, and the others start behind it
          refine ⟨0, covers_zero_iff.mpr ⟨hi, by omega⟩, fun k hk => ?_⟩
          cases k with
          | zero => rfl
          | succ k =>
              obtain ⟨j, rfl, -⟩ := covers_succ_iff.mp hk
              omega
        · -- it is behind the first piece
          rw [List.getElem?_append_right hj] at hget
          obtain ⟨k, hk, hunique⟩ := ih hget hrest
          refine ⟨k + 1, covers_succ_iff.mpr ⟨_, by omega, hk⟩, fun l hl => ?_⟩
          cases l with
          | zero =>
              have := covers_zero_iff.mp hl
              omega
          | succ l =>
              obtain ⟨j, heq, hj⟩ := covers_succ_iff.mp hl
              obtain rfl : i - gap.length - p.source.length = j := by omega
              rw [hunique l hj]

/-- A piece whose content is empty or has white space in it is a quoted span. -/
theorem Cuts.exists_quoted (h : d.Cuts cs) (hmem : (gap, p) ∈ d.pieces)
    (hp : p.content = [] ∨ ∃ c ∈ p.content, isBlank c = true) :
    ∃ content, p = .quoted content := by
  obtain ⟨front, back, heq⟩ := List.append_of_mem hmem
  cases p with
  | quoted content => exact ⟨content, rfl⟩
  | bare word =>
      obtain ⟨hne, hblank, -, -⟩ := h.fits front back gap (.bare word) heq
      rcases hp with hnil | ⟨c, hc, hcblank⟩
      · exact absurd hnil hne
      · have := hblank c hc
        simp [hcblank] at this

end Segmentation

/-! ## tokens -/

namespace Token

open Segmentation

/-- A command head with arguments behind it, each of them in quote marks. -/
def withQuoted (head : String) (arguments : List String) : String :=
  String.ofList
    (head.toList ++ arguments.flatMap fun a => ' ' :: (Piece.quoted a.toList).source)

/-- The tokens are the contents of the pieces, without the first one. -/
theorem arguments_eq_contents {text : String} {d : Segmentation} (h : d.Cuts text.toList) :
    arguments text = d.contents.drop 1 := by
  rw [arguments, all, h.scan_eq, contents, List.map_map]
  rfl

theorem arguments_of_blank {text : String} (h : ∀ c ∈ text.toList, isBlank c = true) :
    arguments text = [] :=
  arguments_eq_contents (cuts_nil_iff.mpr ⟨rfl, h⟩)

/-- What stands in quote marks is one token up to the first quote mark in it. -/
theorem scan_quoted {content : List Char} (rest : List Char) (h : '"' ∉ content) :
    Piece.scan 0 (' ' :: '"' :: (content ++ '"' :: rest)) =
      .quoted content :: Piece.scan 0 rest := by
  have hgap : ∀ c ∈ [' '], isBlank c = true := List.forall_mem_singleton.mpr rfl
  have hfits : (Piece.quoted content).Fits rest := h
  have hsource : ' ' :: '"' :: (content ++ '"' :: rest) =
      [' '] ++ ((Piece.quoted content).source ++ rest) := by simp [Piece.source]
  rw [hsource, Piece.scan_of_blank _ hgap, Piece.scan_of_fits hfits]

/-- Arguments in quote marks are read back exactly if none of them has a quote mark. -/
theorem contents_scan_quoted_iff {args : List String} :
    ((Piece.scan 0 (args.flatMap fun a => ' ' :: (Piece.quoted a.toList).source)).map
      fun p => String.ofList p.content) = args ↔ ∀ a ∈ args, '"' ∉ a.toList := by
  induction args with
  | nil => simp [Piece.scan]
  | cons a args ih =>
      have htext : (a :: args).flatMap (fun a => ' ' :: (Piece.quoted a.toList).source) =
          ' ' :: '"' :: (a.toList ++
            '"' :: args.flatMap fun a => ' ' :: (Piece.quoted a.toList).source) := by
        simp [Piece.source]
      have hcontent (content : List Char) : (Piece.quoted content).content = content := rfl
      rw [htext, List.forall_mem_cons]
      by_cases hquote : '"' ∈ a.toList
      · -- the span ends too early, so its token is shorter than the argument
        obtain ⟨front, back, ha, hfront⟩ := List.eq_append_cons_of_mem hquote
        have hshort : String.ofList front ≠ a := by
          intro heq
          have hlength := congrArg List.length ha
          rw [← heq] at hlength
          simp at hlength
        rw [ha, List.append_assoc, List.cons_append, scan_quoted _ hfront]
        simp [hcontent, hshort]
      · rw [scan_quoted _ hquote, List.map_cons, List.cons_eq_cons, hcontent, ih]
        simp [hquote]

/-- Behind a head, arguments in quote marks are the same as on their own.  A head starts with the
marker, which is no quote mark. -/
theorem arguments_withQuoted_iff {head : String} {args : List String} (hne : head ≠ "")
    (hblank : ∀ c ∈ head.toList, isBlank c = false) (hquote : head.toList.head? ≠ some '"') :
    arguments (withQuoted head args) = args ↔ ∀ a ∈ args, '"' ∉ a.toList := by
  have htext : (withQuoted head args).toList = (Piece.bare head.toList).source ++
      args.flatMap fun a => ' ' :: (Piece.quoted a.toList).source := String.toList_ofList
  have hfits : (Piece.bare head.toList).Fits
      (args.flatMap fun a => ' ' :: (Piece.quoted a.toList).source) := by
    refine ⟨by simpa using hne, hblank, ?_, fun h => absurd h hquote⟩
    cases args with
    | nil => simp
    | cons a args => simp; decide
  rw [arguments, all, htext, Piece.scan_of_fits hfits, List.map_cons, List.drop_one, List.tail_cons,
    contents_scan_quoted_iff]

/-- Arguments in quote marks are read back, whatever white space they have or are made of. -/
theorem arguments_withQuoted {head : String} {args : List String} (hne : head ≠ "")
    (hblank : ∀ c ∈ head.toList, isBlank c = false) (hquote : head.toList.head? ≠ some '"')
    (hargs : ∀ a ∈ args, '"' ∉ a.toList) : arguments (withQuoted head args) = args :=
  (arguments_withQuoted_iff hne hblank hquote).mpr hargs

/-- An argument that comes from a quoted span is its content, which has no quote mark. -/
theorem getElem?_arguments_of_quoted {text : String} {d : Segmentation} {i : Nat}
    {gap content : List Char} (hd : d.Cuts text.toList)
    (hspan : d.pieces[i + 1]? = some (gap, .quoted content)) :
    (arguments text)[i]? = some (String.ofList content) ∧ '"' ∉ content := by
  constructor
  · rw [arguments_eq_contents hd, List.getElem?_drop, Nat.add_comm, contents, List.getElem?_map,
      hspan]
    rfl
  · obtain ⟨front, back, hpieces⟩ := List.append_of_mem (List.mem_of_getElem? hspan)
    exact hd.fits front back gap _ hpieces

/-- **Quoting**: every text has exactly one segmentation, and its arguments are the contents of
the pieces behind the first one.  There are none if the text is white space, every other character
belongs to exactly one piece, and an argument that is empty or has white space in it comes from a
quoted span.  Arguments without quote marks are read back from quoted spans behind a head. -/
theorem existsUnique_segmentation :
    (∀ text : String, ∃ d : Segmentation, d.Cuts text.toList ∧
      (∀ d' : Segmentation, d'.Cuts text.toList → d' = d) ∧
      arguments text = d.contents.drop 1 ∧
      ((∀ c ∈ text.toList, isBlank c = true) → arguments text = []) ∧
      (∀ (i : Nat) (c : Char), text.toList[i]? = some c → isBlank c = false →
        ∃! k, d.Covers k i) ∧
      ∀ (gap : List Char) (p : Piece), (gap, p) ∈ d.pieces →
        (p.content = [] ∨ ∃ c ∈ p.content, isBlank c = true) →
        ∃ content, p = .quoted content) ∧
    ∀ (head : String) (args : List String), head ≠ "" →
      (∀ c ∈ head.toList, isBlank c = false) → head.toList.head? ≠ some '"' →
      (∀ a ∈ args, '"' ∉ a.toList) → arguments (withQuoted head args) = args := by
  refine ⟨fun text => ?_, fun head args => arguments_withQuoted⟩
  obtain ⟨d, hd⟩ := exists_cuts text.toList
  exact ⟨d, hd, fun d' hd' => hd'.unique hd, arguments_eq_contents hd, arguments_of_blank,
    fun i c => hd.existsUnique_covers, fun gap p => hd.exists_quoted⟩

/-- Spans may touch, and a quote mark that is not closed is one of a word. -/
theorem segmentation_of_touching_spans :
    Cuts ⟨[([], .bare ['!', 'a']), ([' '], .quoted ['b', ' ']), ([], .quoted []),
        ([' '], .bare ['"', 'c'])], [' ']⟩ "!a \"b \"\"\" \"c ".toList ∧
      arguments "!a \"b \"\"\" \"c " = ["b ", "", "\"c"] ∧ arguments " \t" = [] ∧
      arguments (withQuoted "!a" ["b ", ""]) = ["b ", ""] := by
  have hcuts : Cuts ⟨[([], .bare ['!', 'a']), ([' '], .quoted ['b', ' ']), ([], .quoted []),
      ([' '], .bare ['"', 'c'])], [' ']⟩ "!a \"b \"\"\" \"c ".toList :=
    cuts_cons_iff.mpr ⟨List.forall_mem_nil _, _, rfl, by decide,
      cuts_cons_iff.mpr ⟨List.forall_mem_singleton.mpr rfl, _, rfl, by decide,
        cuts_cons_iff.mpr ⟨List.forall_mem_nil _, _, rfl, by decide,
          cuts_cons_iff.mpr ⟨List.forall_mem_singleton.mpr rfl, _, rfl, by decide,
            cuts_nil_iff.mpr ⟨rfl, List.forall_mem_singleton.mpr rfl⟩⟩⟩⟩⟩
  obtain ⟨hread, hback⟩ := existsUnique_segmentation
  obtain ⟨d, -, hunique, hargs, -⟩ := hread "!a \"b \"\"\" \"c "
  obtain ⟨-, -, -, -, hblank, -⟩ := hread " \t"
  rw [← hunique _ hcuts] at hargs
  have hspaces : ∀ c ∈ " \t".toList, isBlank c = true := List.all_eq_true.mp (by decide)
  have hhead : ∀ c ∈ "!a".toList, isBlank c = false := by simp; decide
  exact ⟨hcuts, hargs, hblank hspaces,
    hback "!a" ["b ", ""] (by decide) hhead (by decide) (by decide)⟩

end Token

end ChatCommands
