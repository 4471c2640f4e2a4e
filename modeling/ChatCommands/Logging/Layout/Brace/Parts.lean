/-!
# ChatCommands.Logging.Layout.Brace.Parts

The parts of a text with fields in braces. A field is a name, then perhaps an
exclamation mark and the letter of a conversion, then perhaps a colon and a
presentation, which may have braces of its own. A brace that is written twice
is text; any other one that does not belong to a field is a fault.
-/

namespace ChatCommands

/-- A field in braces. -/
structure BraceField where
  /-- The name, with attributes and indexes. -/
  name : List Char
  /-- The letter of the conversion. -/
  conversion : Option Char
  /-- The presentation. -/
  spec : List Char
deriving DecidableEq, Repr

/-- A part of a layout with braces. -/
inductive BracePart where
  /-- A character of text. -/
  | char (c : Char)
  /-- A field. -/
  | field (f : BraceField)
deriving DecidableEq, Repr

namespace BraceLayout

/-- The name at the start of a field, and what follows it, from the character on that ends it. In
brackets no character does. -/
def cutName? : (inBrackets : Bool) → List Char → Option (List Char × List Char)
  | _, [] => none
  | true, c :: cs => (cutName? (c ≠ ']') cs).map fun p => (c :: p.1, p.2)
  | false, c :: cs =>
    if c = '\x7b' then none
    else if c = '\x7d' || c = ':' || c = '!' then some ([], c :: cs)
    else (cutName? (c = '[') cs).map fun p => (c :: p.1, p.2)

/-- How many braces are open behind a character. -/
def depthBehind (depth : Nat) (c : Char) : Nat :=
  if c = '\x7b' then depth + 1 else if c = '\x7d' then depth - 1 else depth

/-- The text up to the brace that closes the one before the text, and what follows it. -/
def cutSpec? : (depth : Nat) → List Char → Option (List Char × List Char)
  | _, [] => none
  | 0, '\x7d' :: cs => some ([], cs)
  | depth, c :: cs => (cutSpec? (depthBehind depth c) cs).map fun p => (c :: p.1, p.2)

/-- The letter of a conversion; the character of code zero stands for none. -/
def conversionOf (c : Char) : Option Char := if c.toNat = 0 then none else some c

/-- A field behind its brace, and what follows it. -/
def cutField? (cs : List Char) : Option (BraceField × List Char) :=
  match cutName? false cs with
  | some (name, '\x7d' :: rest) => some (⟨name, none, []⟩, rest)
  | some (name, '!' :: c :: '\x7d' :: rest) => some (⟨name, conversionOf c, []⟩, rest)
  | some (name, '!' :: c :: ':' :: rest) =>
    (cutSpec? 0 rest).map fun p => (⟨name, conversionOf c, p.1⟩, p.2)
  | some (name, ':' :: rest) => (cutSpec? 0 rest).map fun p => (⟨name, none, p.1⟩, p.2)
  | _ => none

/-! ### what is left is no longer than what was there -/

theorem exists_of_map_fst {α β γ : Type} {x : Option (α × β)} {f : α → γ} {a : γ} {b : β}
    (h : x.map (fun p => (f p.1, p.2)) = some (a, b)) : ∃ c, x = some (c, b) := by
  obtain ⟨⟨c, _⟩, hx, heq⟩ := Option.map_eq_some_iff.1 h
  simp only [Prod.mk.injEq] at heq
  exact ⟨c, heq.2 ▸ hx⟩

theorem length_cutName?_le {inBrackets : Bool} {cs name rest : List Char}
    (h : cutName? inBrackets cs = some (name, rest)) : rest.length ≤ cs.length := by
  fun_induction cutName? inBrackets cs generalizing name with
  | case1 => contradiction
  | case2 c cs ih =>
    obtain ⟨_, hcut⟩ := exists_of_map_fst h
    exact Nat.le_succ_of_le (ih hcut)
  | case3 => contradiction
  | case4 c cs _ _ =>
    simp only [Option.some.injEq, Prod.mk.injEq] at h
    exact Nat.le_of_eq (congrArg List.length h.2.symm)
  | case5 c cs _ _ ih =>
    obtain ⟨_, hcut⟩ := exists_of_map_fst h
    exact Nat.le_succ_of_le (ih hcut)

theorem length_cutSpec?_le {depth : Nat} {cs spec rest : List Char}
    (h : cutSpec? depth cs = some (spec, rest)) : rest.length ≤ cs.length := by
  fun_induction cutSpec? depth cs generalizing spec with
  | case1 => contradiction
  | case2 cs =>
    simp only [Option.some.injEq, Prod.mk.injEq] at h
    simp [h.2]
  | case3 _ _ _ _ ih =>
    obtain ⟨_, hcut⟩ := exists_of_map_fst h
    exact Nat.le_succ_of_le (ih hcut)

/-- What follows a field is no longer than the text that the field is read from. -/
theorem length_cutField?_le {cs : List Char} {f : BraceField} {rest : List Char}
    (h : cutField? cs = some (f, rest)) : rest.length ≤ cs.length := by
  unfold cutField? at h
  cases hcut : cutName? false cs with
  | none => simp [hcut] at h
  | some p =>
    have hname := length_cutName?_le hcut
    rw [hcut] at h
    split at h
    · simp_all
      omega
    · simp_all
      omega
    · obtain ⟨_, hspec⟩ := exists_of_map_fst h
      have := length_cutSpec?_le hspec
      simp_all
      omega
    · obtain ⟨_, hspec⟩ := exists_of_map_fst h
      have := length_cutSpec?_le hspec
      simp_all
      omega
    · contradiction

/-- The parts of a text; nothing if a brace has no place in it. -/
def parts? : List Char → Option (List BracePart)
  | [] => some []
  | '\x7b' :: '\x7b' :: cs => (parts? cs).map (.char '\x7b' :: ·)
  | '\x7d' :: '\x7d' :: cs => (parts? cs).map (.char '\x7d' :: ·)
  | '\x7d' :: _ => none
  | '\x7b' :: cs =>
    match h : cutField? cs with
    | none => none
    | some (f, rest) =>
      have := length_cutField?_le h
      (parts? rest).map (.field f :: ·)
  | c :: cs => (parts? cs).map (.char c :: ·)
termination_by cs => cs.length
decreasing_by
  all_goals
    simp only [List.length_cons]
    omega

end BraceLayout

end ChatCommands
