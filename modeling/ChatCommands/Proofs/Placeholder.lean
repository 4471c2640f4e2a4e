import ChatCommands.Macro
import ChatCommands.Proofs.Shape

/-!
# ChatCommands.Proofs.Placeholder

How templates are cut, and which macros cannot be expanded.  A cut of a
template writes it as parts such that

1. an argument has at least one digit, and no digit stands behind it;
2. a `$` stands for itself only if neither a digit nor the word `user` stands
   behind it.

The scanner finds the parts of a cut wherever they stand (`Part.scan_of_fits`),
so every template has exactly one cut (`cuts_iff`).  A template is cut wherever
neither a run of digits nor the word `user` can go on (`Cuts.append`): at every
`$`, so that its arguments are all the places with `$` and a longest run of
digits (`argument_mem_scan_iff`), and at every blank, so that no placeholder
reaches into another word.  A run that is too long to be read makes the
expansion fail, and nothing else does (`expand?_eq_none_iff`).
-/

namespace ChatCommands

namespace Macro

open ChatCommands.Text

/-- A template in which `$` and more digits than can be read stand somewhere. -/
def OverlongPlaceholder (template : List Char) : Prop :=
  ∃ front digits back, template = front ++ '$' :: (digits ++ back) ∧
    (∀ c ∈ digits, c.isDigit = true) ∧ 4300 < digits.length

namespace Part

/-! ## parts -/

/-- The part may stand in front of this rest of a template. -/
def Fits (rest : List Char) : Part → Prop
  | argument digits => Numeral.isDigitRun digits = true ∧ ∀ c ∈ rest.head?, c.isDigit = false
  | invoker => True
  | literal c => c = '$' →
      (∀ d ∈ rest.head?, d.isDigit = false) ∧ ¬['u', 's', 'e', 'r'] <+: rest

variable {p : Part} {rest : List Char}

/-- No part is written with nothing. -/
theorem length_source_pos (p : Part) : 0 < p.source.length := by
  cases p <;> simp [source]

/-- At every character, a part starts. -/
theorem exists_fits (c : Char) (cs : List Char) :
    ∃ (p : Part) (rest : List Char), c :: cs = p.source ++ rest ∧ p.Fits rest := by
  by_cases hc : c = '$'
  · subst hc
    have hend := eq_false_of_mem_head?_dropWhile Char.isDigit cs
    by_cases hdigits : cs.takeWhile Char.isDigit = []
    · by_cases huser : ['u', 's', 'e', 'r'] <+: cs
      · obtain ⟨rest, rfl⟩ := huser
        exact ⟨invoker, rest, rfl, trivial⟩
      · -- without digits to take off, the rest is all that stands behind the `$`
        have hnone : cs.dropWhile Char.isDigit = cs := by
          have h := List.takeWhile_append_dropWhile (p := Char.isDigit) (l := cs)
          rwa [hdigits, List.nil_append] at h
        exact ⟨literal '$', cs, rfl, fun _ => ⟨hnone ▸ hend, huser⟩⟩
    · refine ⟨argument (cs.takeWhile Char.isDigit), cs.dropWhile Char.isDigit, ?_,
        isDigitRun_iff.mpr ⟨hdigits, isDigit_of_mem_takeWhile⟩, hend⟩
      rw [source, List.cons_append, List.takeWhile_append_dropWhile]
  · exact ⟨literal c, cs, rfl, fun h => absurd h hc⟩

/-- A part is found where it stands, and the scan goes on behind it. -/
theorem scan_of_fits (h : p.Fits rest) : scan 0 (p.source ++ rest) = p :: scan 0 rest := by
  cases p with
  | argument digits =>
      obtain ⟨hrun, hend⟩ := h
      obtain ⟨hne, hd⟩ := isDigitRun_iff.mp hrun
      rw [source, List.cons_append, scan, if_neg (by simp), takeWhile_isDigit_append rest hd hend,
        if_pos hne, scan_eq_scan_drop, List.drop_left]
  | invoker =>
      have hnone : (['u', 's', 'e', 'r'] ++ rest).takeWhile Char.isDigit = [] := by simp
      have hsource : invoker.source ++ rest = '$' :: (['u', 's', 'e', 'r'] ++ rest) := rfl
      rw [hsource, scan, if_neg (by simp), hnone, if_neg (by simp), if_pos (by simp),
        scan_eq_scan_drop]
      rfl
  | literal c =>
      rw [source, List.singleton_append, scan]
      by_cases hc : c = '$'
      · obtain ⟨hend, huser⟩ := h hc
        have hnone : rest.takeWhile Char.isDigit = [] :=
          takeWhile_isDigit_append rest (List.forall_mem_nil _) hend
        rw [if_neg (by simpa using hc), hnone, if_neg (by simp),
          if_neg (by simpa using huser)]
      · rw [if_pos hc]

theorem scan_literal {c : Char} (cs : List Char) (hc : c ≠ '$') :
    scan 0 (c :: cs) = literal c :: scan 0 cs :=
  scan_of_fits (p := literal c) fun h => absurd h hc

/-- A `$` with a longest run of digits behind it is cut off as an argument. -/
theorem scan_argument {digits : List Char} (hrun : Numeral.isDigitRun digits = true)
    (hend : ∀ c ∈ rest.head?, c.isDigit = false) :
    scan 0 ('$' :: (digits ++ rest)) = argument digits :: scan 0 rest :=
  scan_of_fits (p := argument digits) ⟨hrun, hend⟩

/-- No placeholder goes on with this character. -/
def Ends (c : Char) : Prop := c.isDigit = false ∧ c ∉ ['u', 's', 'e', 'r']

/-- No placeholder goes on with a blank. -/
theorem ends_of_isBlank {c : Char} (h : isBlank c = true) : Ends c := by
  constructor
  · rw [Bool.eq_false_iff]
    intro hdigit
    simp [isBlank_of_isDigit hdigit] at h
  · intro hmem
    simp only [List.mem_cons, List.not_mem_nil, or_false] at hmem
    rcases hmem with rfl | rfl | rfl | rfl <;> contradiction

/-- A part that fits in front of a rest fits there as well if more follows that no placeholder
goes on with. -/
theorem Fits.append (h : p.Fits rest) {back : List Char} (hback : ∀ c ∈ back.head?, Ends c) :
    p.Fits (rest ++ back) := by
  have hhead (h : ∀ c ∈ rest.head?, c.isDigit = false) :
      ∀ c ∈ (rest ++ back).head?, c.isDigit = false := by
    cases rest with
    | nil => exact fun c hc => (hback c hc).1
    | cons c rest => simpa using h
  cases p with
  | argument digits => exact ⟨h.1, hhead h.2⟩
  | invoker => trivial
  | literal c =>
      intro hc
      obtain ⟨hend, huser⟩ := h hc
      refine ⟨hhead hend, fun hprefix => ?_⟩
      obtain ⟨more, hmore⟩ := hprefix
      rcases List.append_eq_append_iff.mp hmore with ⟨front, rfl, -⟩ | ⟨front, hsplit, hfront⟩
      · exact huser (List.prefix_append _ _)
      · cases front with
        | nil => exact huser (List.append_nil rest ▸ hsplit ▸ List.prefix_rfl)
        | cons d front =>
            have hmem : d ∈ ['u', 's', 'e', 'r'] := by simp [hsplit]
            exact (hback d (by simp [hfront])).2 hmem

end Part

/-! ## cuts -/

/-- The parts are a cut of the template. -/
structure Cuts (parts : List Part) (template : List Char) : Prop where
  /-- The parts make up the template. -/
  text_eq : parts.flatMap Part.source = template
  /-- Every part fits where it stands. -/
  fits : ∀ (front back : List Part) (p : Part),
    parts = front ++ p :: back → p.Fits (back.flatMap Part.source)

variable {p : Part} {parts : List Part} {cs : List Char}

/-- Behind its first part, a cut is one of the rest of the template. -/
theorem cuts_cons_iff :
    Cuts (p :: parts) cs ↔ ∃ rest, cs = p.source ++ rest ∧ p.Fits rest ∧ Cuts parts rest := by
  constructor
  · intro h
    refine ⟨parts.flatMap Part.source, h.text_eq.symm, h.fits [] parts p rfl, rfl, ?_⟩
    intro front back q heq
    exact h.fits (p :: front) back q (congrArg (List.cons p) heq)
  · intro h
    obtain ⟨rest, rfl, hp, hrest⟩ := h
    obtain rfl : parts.flatMap Part.source = rest := hrest.text_eq
    refine ⟨rfl, ?_⟩
    intro front back q heq
    cases front with
    | nil =>
        obtain ⟨rfl, rfl⟩ := List.cons_eq_cons.mp heq
        exact hp
    | cons r front => exact hrest.fits front back q (List.cons_eq_cons.mp heq).2

/-- The scanner cuts every template. -/
theorem cuts_scan (cs : List Char) : Cuts (Part.scan 0 cs) cs := by
  cases cs with
  | nil => exact ⟨rfl, by simp [Part.scan]⟩
  | cons c cs =>
      obtain ⟨p, rest, heq, hp⟩ := Part.exists_fits c cs
      -- the recursion is on what the first part leaves
      have hshorter : rest.length < (c :: cs).length := by
        have hpos := p.length_source_pos
        rw [heq, List.length_append]
        omega
      rw [heq, Part.scan_of_fits hp]
      exact cuts_cons_iff.mpr ⟨rest, rfl, hp, cuts_scan rest⟩
termination_by cs.length
decreasing_by exact hshorter

/-- There is no other cut than that of the scanner. -/
theorem Cuts.eq_scan (h : Cuts parts cs) : parts = Part.scan 0 cs := by
  induction parts generalizing cs with
  | nil =>
      obtain rfl : [] = cs := h.text_eq
      rfl
  | cons p parts ih =>
      obtain ⟨rest, rfl, hp, hrest⟩ := cuts_cons_iff.mp h
      rw [Part.scan_of_fits hp, ← ih hrest]

/-- The parts that are scanned are a cut of the template, and the only one. -/
theorem cuts_iff : Cuts parts cs ↔ parts = Part.scan 0 cs := by
  constructor
  · exact Cuts.eq_scan
  · rintro rfl
    exact cuts_scan cs

/-- A template is cut wherever a character stands that no placeholder goes on with. -/
theorem Cuts.append {parts' : List Part} {back : List Char} (h : Cuts parts cs)
    (h' : Cuts parts' back) (hback : ∀ c ∈ back.head?, Part.Ends c) :
    Cuts (parts ++ parts') (cs ++ back) := by
  induction parts generalizing cs with
  | nil =>
      obtain rfl : [] = cs := h.text_eq
      exact h'
  | cons p parts ih =>
      obtain ⟨rest, rfl, hp, hrest⟩ := cuts_cons_iff.mp h
      exact cuts_cons_iff.mpr ⟨_, List.append_assoc _ _ _, hp.append hback, ih hrest⟩

/-- A template is cut in two pieces where no placeholder goes on. -/
theorem scan_append {back : List Char} (hback : ∀ c ∈ back.head?, Part.Ends c) :
    Part.scan 0 (cs ++ back) = Part.scan 0 cs ++ Part.scan 0 back :=
  (((cuts_scan cs).append (cuts_scan back) hback).eq_scan).symm

/-- The text has `$` with a digit or the word `user` behind it. -/
def HasPlaceholder (cs : List Char) : Prop :=
  ∃ front back, cs = front ++ '$' :: back ∧
    ((∃ c ∈ back.head?, c.isDigit = true) ∨ ['u', 's', 'e', 'r'] <+: back)

/-- Characters that stand for themselves write themselves. -/
theorem flatMap_map_literal {f : Part → List Char} (hf : ∀ c, f (.literal c) = [c])
    (cs : List Char) : (cs.map .literal).flatMap f = cs := by
  induction cs with
  | nil => rfl
  | cons c cs ih => rw [List.map_cons, List.flatMap_cons, hf, ih, List.singleton_append]

/-- A text is cut into its characters exactly if it has no placeholder. -/
theorem cuts_map_literal_iff : Cuts (cs.map .literal) cs ↔ ¬HasPlaceholder cs := by
  constructor
  · rintro h ⟨front, back, rfl, hback⟩
    obtain ⟨hdigit, huser⟩ := h.fits (front.map .literal) (back.map .literal) (.literal '$')
      (by simp) rfl
    rw [flatMap_map_literal fun _ => rfl] at hdigit huser
    rcases hback with ⟨d, hd, hisDigit⟩ | hprefix
    · exact absurd ((hdigit d hd).symm.trans hisDigit) Bool.false_ne_true
    · exact huser hprefix
  · intro h
    refine ⟨flatMap_map_literal (fun _ => rfl) cs, ?_⟩
    intro front back p heq
    obtain ⟨front, tail, rfl, -, htail⟩ := List.map_eq_append_iff.mp heq
    obtain ⟨c, back, rfl, rfl, rfl⟩ := List.map_eq_cons_iff.mp htail
    rw [flatMap_map_literal fun _ => rfl]
    rintro rfl
    have hdigit : ∀ d ∈ back.head?, d.isDigit = false := by
      intro d hd
      rw [Bool.eq_false_iff]
      intro hisDigit
      exact h ⟨front, back, rfl, .inl ⟨d, hd, hisDigit⟩⟩
    have huser : ¬['u', 's', 'e', 'r'] <+: back := fun hprefix =>
      h ⟨front, back, rfl, .inr hprefix⟩
    exact ⟨hdigit, huser⟩

instance (cs : List Char) : Decidable (HasPlaceholder cs) :=
  decidable_of_iff (cs.map .literal ≠ Part.scan 0 cs) <| by
    rw [ne_eq, ← cuts_iff, cuts_map_literal_iff, Classical.not_not]

/-- The arguments of a template are `$` and a longest run of digits, wherever these stand. -/
theorem argument_mem_scan_iff {digits : List Char} : .argument digits ∈ Part.scan 0 cs ↔
    ∃ front back, cs = front ++ '$' :: (digits ++ back) ∧ Numeral.isDigitRun digits = true ∧
      ∀ c ∈ back.head?, c.isDigit = false := by
  constructor
  · intro h
    obtain ⟨front, back, hparts⟩ := List.append_of_mem h
    have hcuts := cuts_scan cs
    obtain ⟨hrun, hend⟩ := hcuts.fits front back _ hparts
    refine ⟨front.flatMap Part.source, back.flatMap Part.source, ?_, hrun, hend⟩
    rw [← hcuts.text_eq, hparts]
    simp [Part.source]
  · intro h
    obtain ⟨front, back, rfl, hrun, hend⟩ := h
    rw [scan_append (by simp [Part.Ends]), Part.scan_argument hrun hend]
    simp

/-- A template has a placeholder that is too long exactly if its cut has one. -/
theorem overlongPlaceholder_iff : OverlongPlaceholder cs ↔
    ∃ digits, .argument digits ∈ Part.scan 0 cs ∧ 4300 < digits.length := by
  simp only [argument_mem_scan_iff]
  constructor
  · intro h
    obtain ⟨front, digits, back, rfl, hd, hlong⟩ := h
    -- the run goes on with all the digits that follow
    refine ⟨digits ++ back.takeWhile Char.isDigit, ⟨front, back.dropWhile Char.isDigit, ?_, ?_,
      eq_false_of_mem_head?_dropWhile _ back⟩, ?_⟩
    · rw [List.append_assoc, List.takeWhile_append_dropWhile]
    · have hne : digits ≠ [] := List.ne_nil_of_length_pos (Nat.lt_trans (by decide) hlong)
      exact isDigitRun_iff.mpr ⟨List.append_ne_nil_of_left_ne_nil hne _,
        List.forall_mem_append.mpr ⟨hd, isDigit_of_mem_takeWhile⟩⟩
    · rw [List.length_append]
      omega
  · intro h
    obtain ⟨digits, ⟨front, back, rfl, hrun, -⟩, hlong⟩ := h
    exact ⟨front, digits, back, rfl, (isDigitRun_iff.mp hrun).2, hlong⟩

/-! ## expansion -/

variable {α β : Type} {arguments : List String} {userId : String}

/-- Only the length decides whether a run of digits can be read. -/
theorem ofDigits?_eq_none_iff {digits : List Char} :
    Numeral.ofDigits? digits = none ↔ 4300 < digits.length := by
  rw [Numeral.ofDigits?]
  split
  · next h => simpa [Numeral.maxDigits] using h
  · next h => simpa [Numeral.maxDigits] using h

/-- A part cannot be filled exactly if it is an argument whose number is too long to be read. -/
theorem Part.fill?_eq_none_iff {part : Part} :
    part.fill? arguments userId = none ↔
      ∃ digits, part = .argument digits ∧ 4300 < digits.length := by
  cases part with
  | literal c => simp [Part.fill?]
  | invoker => simp [Part.fill?]
  | argument digits =>
      rw [Part.fill?]
      cases hn : Numeral.ofDigits? digits with
      | none => simp [ofDigits?_eq_none_iff.mp hn]
      | some n =>
          have hshort : ¬4300 < digits.length := fun hlong =>
            absurd (hn.symm.trans (ofDigits?_eq_none_iff.mpr hlong)) (by simp)
          rw [Option.bind_eq_bind, Option.bind_some]
          split
          · simp [hshort]
          · split <;> simp [hshort]

/-- A list cannot be worked through exactly if some element cannot. -/
theorem mapM_eq_none_iff {f : α → Option β} {xs : List α} :
    xs.mapM f = none ↔ ∃ x ∈ xs, f x = none := by
  induction xs with
  | nil => simp
  | cons x xs ih =>
      rw [List.mapM_cons]
      cases hx : f x with
      | none => simp [hx]
      | some y => cases hxs : xs.mapM f <;> simp_all

/-- A template cannot be filled exactly if it has a run of digits that is too long to be read. -/
theorem fillTemplate?_eq_none_iff {template : List Char} :
    fillTemplate? arguments userId template = none ↔ OverlongPlaceholder template := by
  have hparts : fillTemplate? arguments userId template = none ↔
      (Part.scan 0 template).mapM (Part.fill? arguments userId) = none := by
    unfold fillTemplate?
    cases (Part.scan 0 template).mapM (Part.fill? arguments userId) <;> simp
  rw [hparts, mapM_eq_none_iff, overlongPlaceholder_iff]
  simp only [Part.fill?_eq_none_iff]
  constructor
  · rintro ⟨_, hmem, digits, rfl, hlong⟩
    exact ⟨digits, hmem, hlong⟩
  · rintro ⟨digits, hmem, hlong⟩
    exact ⟨_, hmem, digits, rfl, hlong⟩

/-- **Expansion**: a body cannot be expanded exactly if a template of it has an overlong
placeholder, whatever the arguments are. -/
theorem expand?_eq_none_iff {body : String} :
    expand? body arguments userId = none ↔ ∃ template ∈ templates body,
      OverlongPlaceholder template := by
  rw [expand?, mapM_eq_none_iff]
  simp only [fillTemplate?_eq_none_iff]

end Macro

end ChatCommands
