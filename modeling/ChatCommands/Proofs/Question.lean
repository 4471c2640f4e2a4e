import ChatCommands.Matching
import ChatCommands.Permission

/-!
# ChatCommands.Proofs.Question

Which questions are asked for what.  The permission gates ask about the user
and the server only, and matching asks about the users and channels that
arguments name.  So nothing that is done for a registered command asks for a
macro, and the gates ask about nothing that an argument names.
-/

namespace ChatCommands

/-- Whether a question asks for a macro. -/
def Lookup.isMacroBody : Lookup → Bool
  | macroBody .. => true
  | _ => false

variable {τ : Type} {directory : Directory} {server : Server} {user : User} {l : Lookup}

/-! ## permission -/

/-- A second gate asks only if the first one has given the answer. -/
theorem Verdict.mem_lookups_andThenIf_iff {answer : Bool} {v next : Verdict} :
    l ∈ (v.andThenIf answer next).lookups ↔
      l ∈ v.lookups ∨ v.allowed = answer ∧ l ∈ next.lookups := by
  unfold andThenIf
  split
  · next h => simp [h]
  · next h => simp [h]

namespace Permission

/-- Special restrictions ask for ownership. -/
theorem mem_lookups_specialGate {restrictions : List Restriction}
    (h : l ∈ (specialGate directory restrictions server user).lookups) :
    l = .botOwner user ∨ l = .owner server := by
  rcases Verdict.mem_lookups_andThenIf_iff.mp h with h | ⟨-, h⟩
  · split at h
    · exact .inl (List.mem_singleton.mp h)
    · contradiction
  · split at h
    · exact .inr (List.mem_singleton.mp h)
    · contradiction

/-- Capabilities are asked for if any are required. -/
theorem mem_lookups_capabilityGate_iff {capabilities : List String} :
    l ∈ (capabilityGate directory capabilities server user).lookups ↔
      capabilities ≠ [] ∧ l = .capabilities server user := by
  unfold capabilityGate
  cases capabilities with
  | nil => simp [Verdict.pass]
  | cons c capabilities => simp

/-- Bits are asked for if any are required and the host supplies them. -/
theorem mem_lookups_bitGate_iff {bits? : Option (Server → User → Int)} {required : Int} :
    l ∈ (bitGate bits? required server user).lookups ↔
      (required ≠ 0 ∧ bits? ≠ none) ∧ l = .bits server user := by
  unfold bitGate
  split
  · next h => simp [h, Verdict.pass]
  · next h =>
    cases bits? with
    | none => simp [Verdict.pass]
    | some supply => simp [h]

/-- What asks for nothing passes both later gates, so it needs no rule of its own. -/
theorem check_eq (host : Host) (requirement : Requirement) (server : Server) (user : User) :
    check host requirement server user =
      if requirement.restrictions ≠ [] then
        specialGate host.toDirectory requirement.restrictions server user
      else
        (capabilityGate host.toDirectory requirement.capabilities server user).andThenIf true
          (bitGate host.bits? requirement.bits server user) := by
  obtain ⟨restrictions, capabilities, bits⟩ := requirement
  unfold check Requirement.isUnrestricted
  cases restrictions with
  | cons r restrictions => simp
  | nil =>
      cases capabilities with
      | cons c capabilities => simp
      | nil =>
          by_cases hbits : bits = 0
          · simp [hbits, capabilityGate, bitGate, Verdict.andThenIf, Verdict.pass]
          · simp [hbits]

/-- The gates ask about the user and the owner of the server, and about nothing else. -/
theorem mem_lookups_check {host : Host} {requirement : Requirement}
    (h : l ∈ (check host requirement server user).lookups) :
    l = .botOwner user ∨ l = .owner server ∨ l = .capabilities server user ∨
      l = .bits server user := by
  rw [check_eq] at h
  split at h
  · rcases mem_lookups_specialGate h with h | h
    · exact .inl h
    · exact .inr (.inl h)
  · rcases Verdict.mem_lookups_andThenIf_iff.mp h with h | ⟨-, h⟩
    · exact .inr (.inr (.inl (mem_lookups_capabilityGate_iff.mp h).2))
    · exact .inr (.inr (.inr (mem_lookups_bitGate_iff.mp h).2))

/-- The gates ask for no macro. -/
theorem isMacroBody_of_mem_check {host : Host} {requirement : Requirement}
    (h : l ∈ (check host requirement server user).lookups) : l.isMacroBody = false := by
  rcases mem_lookups_check h with rfl | rfl | rfl | rfl <;> rfl

/-- The gates ask for nothing that an argument names. -/
theorem isReference_of_mem_check {host : Host} {requirement : Requirement}
    (h : l ∈ (check host requirement server user).lookups) : l.isReference = false := by
  rcases mem_lookups_check h with rfl | rfl | rfl | rfl <;> rfl

end Permission

/-! ## matching -/

theorem Source.isReference_of_mem_lookups {source : Source} (h : l ∈ source.lookups server) :
    l.isReference = true := by
  cases source <;> simp_all [lookups, Lookup.isReference]

/-- Binding tokens asks for what arguments name, and for nothing else. -/
theorem isReference_of_mem_align {tokens : List String} {parameters : List Parameter}
    (h : l ∈ (align directory server tokens parameters).lookups) : l.isReference = true := by
  induction tokens, parameters using align.induct with
  | case1 ps => simp [align] at h
  | case2 t ts => simp [align] at h
  | case3 t ts p ps source hoffer ih =>
      rw [align, hoffer] at h
      rcases List.mem_append.mp h with h | h
      · exact Source.isReference_of_mem_lookups h
      · exact ih h
  | case4 t ts p ps hoffer hoptional ih =>
      rw [align, hoffer] at h
      exact ih (by simpa [hoptional] using h)
  | case5 t ts p ps hoffer hoptional =>
      rw [align, hoffer] at h
      simp [hoptional, Alignment.stopped] at h
  | case6 t ts p ps hoffer =>
      rw [align, hoffer] at h
      simp [Alignment.stopped] at h
  | case7 t ts p ps hoffer =>
      rw [align, hoffer] at h
      simp [Alignment.stopped] at h

theorem lookups_matchTokens (tokens : List String) (parameters : List Parameter) :
    (matchTokens directory server tokens parameters).lookups =
      (align directory server tokens parameters).lookups := by
  unfold matchTokens
  dsimp only
  split
  · rfl
  · split <;> rfl

/-- Matching asks about the users and channels that arguments name, and about nothing else. -/
theorem isReference_of_mem_matchText {schema : Schema τ} {text marker : String}
    (h : l ∈ (matchText directory server schema text marker).lookups) : l.isReference = true := by
  unfold matchText at h
  split at h
  · contradiction
  · rw [lookups_matchTokens] at h
    exact isReference_of_mem_align h

theorem isMacroBody_of_mem_matchText {schema : Schema τ} {text marker : String}
    (h : l ∈ (matchText directory server schema text marker).lookups) :
    l.isMacroBody = false := by
  have hreference := isReference_of_mem_matchText h
  cases l <;> simp_all [Lookup.isReference, Lookup.isMacroBody]

end ChatCommands
