/-!
# ChatCommands.Text.Split

Cutting a text at a separator. There is one part more than there are
separators, and the parts with the separators between them make up the text
(`joinWith_splitAt`).
-/

namespace ChatCommands.Text

/-- The parts of a text between separators. -/
def splitAt (separator : Char) : List Char → List (List Char)
  | [] => [[]]
  | c :: cs =>
    if c = separator then [] :: splitAt separator cs
    else
      match splitAt separator cs with
      | [] => [[c]]
      | part :: parts => (c :: part) :: parts

/-- Parts with a separator between them. -/
def joinWith (separator : Char) : List (List Char) → List Char
  | [] => []
  | [part] => part
  | part :: parts => part ++ separator :: joinWith separator parts

/-- There is at least one part. -/
theorem splitAt_ne_nil (separator : Char) (cs : List Char) : splitAt separator cs ≠ [] := by
  cases cs with
  | nil => simp [splitAt]
  | cons c cs =>
    unfold splitAt
    split
    · simp
    · split <;> simp

/-- The parts with the separator between them make up the text. -/
theorem joinWith_splitAt (separator : Char) (cs : List Char) :
    joinWith separator (splitAt separator cs) = cs := by
  induction cs with
  | nil => rfl
  | cons c cs ih =>
    have hne := splitAt_ne_nil separator cs
    unfold splitAt
    split
    · next h =>
      subst h
      cases hs : splitAt c cs with
      | nil => exact absurd hs hne
      | cons part parts => rw [hs] at ih; simp [joinWith, ih]
    · split
      · next hs => exact absurd hs hne
      · next part parts hs =>
        rw [hs] at ih
        cases parts <;> simp_all [joinWith]

/-- No part has a separator in it. -/
theorem separator_not_mem_of_mem_splitAt {separator : Char} {cs part : List Char}
    (h : part ∈ splitAt separator cs) : separator ∉ part := by
  induction cs generalizing part with
  | nil =>
    obtain rfl : part = [] := by simpa [splitAt] using h
    simp
  | cons c cs ih =>
    unfold splitAt at h
    split at h
    · rcases List.mem_cons.mp h with rfl | h
      · simp
      · exact ih h
    · next hc =>
      split at h
      · next hs => exact absurd hs (splitAt_ne_nil separator cs)
      · next first parts hs =>
        rcases List.mem_cons.mp h with rfl | h
        · have := ih (hs ▸ List.mem_cons_self)
          simp [Ne.symm hc, this]
        · exact ih (hs ▸ List.mem_cons_of_mem _ h)

/-- A text without a separator is one part. -/
theorem splitAt_of_not_mem {separator : Char} {cs : List Char} (h : separator ∉ cs) :
    splitAt separator cs = [cs] := by
  induction cs with
  | nil => rfl
  | cons c cs ih =>
    obtain ⟨hc, hcs⟩ := List.ne_and_not_mem_of_not_mem_cons h
    rw [splitAt, if_neg hc.symm, ih hcs]

end ChatCommands.Text
