import ChatCommands.Proofs.Bits
import ChatCommands.Proofs.Question
import ChatCommands.World

/-!
# ChatCommands.Proofs.Gate

How a permission is decided.  `Permission.Satisfies` says what a user needs, in
terms of owners, capabilities and single bits.  The gates grant exactly this
(`Permission.allowed_check_iff`), and their order shows in what they ask and in
what cannot matter any more:

1. special restrictions decide alone, and only ownership is asked for;
2. a missing capability decides, and bits are not asked for;
3. bits are asked for if nothing has decided before, some are required and the
   host supplies any.

Whoever passes still passes with more privileges, although the rule for bits
has one form up to the administrator's bit and another one above.
-/

namespace ChatCommands

variable {host host' : Host} {directory : Directory} {requirement : Requirement}
  {restrictions : List Restriction} {capabilities : List String} {required userBits : Int}
  {server : Server} {user : User} {l : Lookup}

namespace Verdict

/-- If a gate that grants is followed by another, both have to grant. -/
theorem allowed_andThenIf_true (v next : Verdict) :
    (v.andThenIf true next).allowed = (v.allowed && next.allowed) := by
  unfold andThenIf
  cases h : v.allowed <;> simp [h]

/-- If a gate that refuses is followed by another, one of them has to grant. -/
theorem allowed_andThenIf_false (v next : Verdict) :
    (v.andThenIf false next).allowed = (v.allowed || next.allowed) := by
  unfold andThenIf
  cases h : v.allowed <;> simp [h]

end Verdict

namespace Permission

open Bits

/-! ## what a user needs -/

/-- The user's bits are enough for a requirement that is not zero. -/
def BitsSuffice (required userBits : Int) : Prop :=
  if required ≤ 2 then ∃ i, HasBit userBits i ∧ (i = 1 ∨ HasBit required i)
  else ∀ i, HasBit required i → HasBit userBits i

/-- The user has what a requirement asks for. -/
def Satisfies (host : Host) (requirement : Requirement) (server : Server) (user : User) : Prop :=
  if requirement.restrictions ≠ [] then
    (.botOwner ∈ requirement.restrictions ∧ host.isBotOwner user = true) ∨
      (.serverOwner ∈ requirement.restrictions ∧ (host.ownerOf server).id = user.id)
  else
    (∀ c ∈ requirement.capabilities, c ∈ host.capabilitiesOf server user) ∧
      (requirement.bits = 0 ∨ host.bits? = none ∨
        ∃ supply, host.bits? = some supply ∧ BitsSuffice requirement.bits (supply server user))

/-! ## the answer of each gate -/

/-- The rule for bits, up to the bit of the administrator and above it, place by place. -/
theorem bitsPass_iff : bitsPass required userBits = true ↔ BitsSuffice required userBits := by
  unfold bitsPass BitsSuffice adminCeiling adminBits
  split
  · rw [bne_iff_ne, and_ne_zero_iff]
    simp [or_comm]
  · rw [beq_iff_eq, and_eq_right_iff]

theorem allowed_specialGate_iff :
    (specialGate directory restrictions server user).allowed = true ↔
      (.botOwner ∈ restrictions ∧ directory.isBotOwner user = true) ∨
        (.serverOwner ∈ restrictions ∧ (directory.ownerOf server).id = user.id) := by
  rw [specialGate, Verdict.allowed_andThenIf_false, Bool.or_eq_true]
  refine or_congr ?_ ?_
  · by_cases h : .botOwner ∈ restrictions <;> simp [h, Verdict.deny]
  · by_cases h : .serverOwner ∈ restrictions <;> simp [h, Verdict.deny]

theorem allowed_capabilityGate_iff :
    (capabilityGate directory capabilities server user).allowed = true ↔
      ∀ c ∈ capabilities, c ∈ directory.capabilitiesOf server user := by
  cases capabilities with
  | nil => simp [capabilityGate, Verdict.pass]
  | cons c capabilities => simp [capabilityGate]

theorem allowed_bitGate_iff {bits? : Option (Server → User → Int)} :
    (bitGate bits? required server user).allowed = true ↔
      required = 0 ∨ bits? = none ∨
        ∃ supply, bits? = some supply ∧ BitsSuffice required (supply server user) := by
  unfold bitGate
  split
  · next h => simp [h, Verdict.pass]
  · next h =>
    cases bits? with
    | none => simp [Verdict.pass]
    | some supply => simp [h, bitsPass_iff]

/-- The gates let a user pass exactly if he has what is asked for. -/
theorem allowed_check_iff :
    (check host requirement server user).allowed = true ↔
      Satisfies host requirement server user := by
  rw [check_eq, Satisfies]
  split
  · exact allowed_specialGate_iff
  · rw [Verdict.allowed_andThenIf_true, Bool.and_eq_true, allowed_capabilityGate_iff,
      allowed_bitGate_iff]

/-! ## what cannot matter -/

/-- Special restrictions decide alone. -/
theorem check_of_restricted (h : requirement.restrictions ≠ []) :
    check host requirement server user =
      specialGate host.toDirectory requirement.restrictions server user := by
  rw [check_eq, if_pos h]

/-- A restriction to nobody adds nothing to another one. -/
theorem check_nobody_cons (h : requirement.restrictions ≠ []) :
    check host { requirement with restrictions := .nobody :: requirement.restrictions } server
      user = check host requirement server user := by
  have hgate : specialGate host.toDirectory (.nobody :: requirement.restrictions) server user =
      specialGate host.toDirectory requirement.restrictions server user := by
    simp [specialGate]
  rw [check_of_restricted h, ← hgate]
  exact check_of_restricted (List.cons_ne_nil _ _)

/-- Nobody may run what is restricted to nobody. -/
theorem not_satisfies_of_nobody (h : requirement.restrictions ≠ [])
    (hnobody : ∀ r ∈ requirement.restrictions, r = .nobody) :
    ¬Satisfies host requirement server user := by
  rw [Satisfies, if_pos h]
  rintro (⟨hmem, -⟩ | ⟨hmem, -⟩)
  · exact absurd (hnobody _ hmem) nofun
  · exact absurd (hnobody _ hmem) nofun

/-- Under a restriction, nothing but ownership matters. -/
theorem check_congr_of_restricted (h : requirement.restrictions ≠ [])
    (hbot : host'.isBotOwner user = host.isBotOwner user)
    (howner : host'.ownerOf server = host.ownerOf server) (capabilities : List String)
    (bits : Int) :
    check host' { requirement with capabilities := capabilities, bits := bits } server user =
      check host requirement server user := by
  have hgate : specialGate host'.toDirectory requirement.restrictions server user =
      specialGate host.toDirectory requirement.restrictions server user := by
    rw [specialGate, specialGate, hbot, howner]
  rw [check_of_restricted h, ← hgate]
  exact check_of_restricted h

/-- A capability that is missing decides, and nothing else is asked. -/
theorem check_of_missing {c : String} (h : requirement.restrictions = [])
    (hc : c ∈ requirement.capabilities) (hmissing : c ∉ host.capabilitiesOf server user) :
    check host requirement server user = ⟨false, [.capabilities server user]⟩ := by
  have hne : requirement.capabilities ≠ [] := List.ne_nil_of_mem hc
  have hheld : requirement.capabilities.all (host.capabilitiesOf server user).contains = false := by
    rw [List.all_eq_false]
    exact ⟨c, hc, by simpa using hmissing⟩
  have hgate : capabilityGate host.toDirectory requirement.capabilities server user =
      ⟨false, [.capabilities server user]⟩ := by
    rw [capabilityGate, if_neg (by simpa using hne), hheld]
  rw [check_eq, if_neg (not_not_intro h), hgate]
  rfl

/-- If a capability is missing, bits do not matter. -/
theorem check_congr_of_missing {c : String} (h : requirement.restrictions = [])
    (hc : c ∈ requirement.capabilities) (hmissing : c ∉ host.capabilitiesOf server user)
    (hsame : host'.capabilitiesOf server user = host.capabilitiesOf server user) (bits : Int) :
    check host' { requirement with bits := bits } server user =
      check host requirement server user := by
  rw [check_of_missing h hc hmissing]
  exact check_of_missing h hc (hsame ▸ hmissing)

/-! ## what is asked -/

/-- Under a restriction, only ownership is asked for. -/
theorem mem_lookups_check_of_restricted (h : requirement.restrictions ≠ [])
    (hl : l ∈ (check host requirement server user).lookups) :
    l = .botOwner user ∨ l = .owner server := by
  rw [check_of_restricted h] at hl
  exact mem_lookups_specialGate hl

/-- Bits are asked for if every gate before has let the user pass, and there is something to ask. -/
theorem bits_mem_check_iff {server' : Server} {user' : User} :
    .bits server' user' ∈ (check host requirement server user).lookups ↔
      (server' = server ∧ user' = user) ∧ requirement.restrictions = [] ∧
        (∀ c ∈ requirement.capabilities, c ∈ host.capabilitiesOf server user) ∧
        requirement.bits ≠ 0 ∧ host.bits? ≠ none := by
  by_cases h : requirement.restrictions = []
  · rw [check_eq, if_neg (not_not_intro h), Verdict.mem_lookups_andThenIf_iff,
      mem_lookups_capabilityGate_iff, mem_lookups_bitGate_iff, allowed_capabilityGate_iff]
    have hcapabilities : .bits server' user' ≠ Lookup.capabilities server user := nofun
    have hbits : .bits server' user' = Lookup.bits server user ↔
        server' = server ∧ user' = user := by simp
    rw [hbits]
    simp only [hcapabilities, h, and_false, false_or, true_and]
    tauto
  · have hnone : .bits server' user' ∉ (check host requirement server user).lookups := by
      intro hmem
      rcases mem_lookups_check_of_restricted h hmem with h | h <;> contradiction
    simp [hnone, h]

/-! ## more privileges -/

/-- The user has at least the privileges in the second surroundings that he has in the first. -/
structure NoFewerPrivileges (host host' : Host) (server : Server) (user : User) : Prop where
  /-- Either both hosts supply bits or neither does. -/
  supply : host.bits? = none ↔ host'.bits? = none
  /-- He has all the bits. -/
  bits : ∀ supply supply', host.bits? = some supply → host'.bits? = some supply' →
    Bits.and (supply server user) (supply' server user) = supply server user
  /-- He holds all the capabilities. -/
  capabilities : ∀ c ∈ host.capabilitiesOf server user, c ∈ host'.capabilitiesOf server user
  /-- He is an owner of the bot if he was one. -/
  botOwner : host.isBotOwner user = true → host'.isBotOwner user = true
  /-- He is the owner of the server if he was it. -/
  serverOwner : (host.ownerOf server).id = user.id → (host'.ownerOf server).id = user.id

/-- More bits are enough where fewer are. -/
theorem BitsSuffice.mono {userBits' : Int} (h : BitsSuffice required userBits)
    (hmore : Bits.and userBits userBits' = userBits) : BitsSuffice required userBits' := by
  have hbits := and_eq_left_iff.mp hmore
  unfold BitsSuffice at h ⊢
  split at h
  · next hceiling =>
    rw [if_pos hceiling]
    obtain ⟨i, hi, hmask⟩ := h
    exact ⟨i, hbits i hi, hmask⟩
  · next hceiling =>
    rw [if_neg hceiling]
    intro i hi
    exact hbits i (h i hi)

/-- More privileges are enough where fewer are. -/
theorem Satisfies.mono (h : Satisfies host requirement server user)
    (hmore : NoFewerPrivileges host host' server user) :
    Satisfies host' requirement server user := by
  unfold Satisfies at h ⊢
  split at h
  · next hrestricted =>
    rw [if_pos hrestricted]
    rcases h with ⟨hmem, hbot⟩ | ⟨hmem, howner⟩
    · exact .inl ⟨hmem, hmore.botOwner hbot⟩
    · exact .inr ⟨hmem, hmore.serverOwner howner⟩
  · next hunrestricted =>
    rw [if_neg hunrestricted]
    obtain ⟨hcapabilities, hbits⟩ := h
    refine ⟨fun c hc => hmore.capabilities c (hcapabilities c hc), ?_⟩
    rcases hbits with hzero | hnone | ⟨supply, hsupply, hsuffice⟩
    · exact .inl hzero
    · exact .inr (.inl (hmore.supply.mp hnone))
    · -- the other host supplies bits too, and these have all of the former ones
      have hsome : host'.bits? ≠ none := by
        rw [ne_eq, ← hmore.supply, hsupply]
        simp
      obtain ⟨supply', hsupply'⟩ := Option.ne_none_iff_exists'.mp hsome
      exact .inr (.inr ⟨supply', hsupply', hsuffice.mono (hmore.bits _ _ hsupply hsupply')⟩)

/-! ## decisions -/

/-- **Gates**: a user passes exactly if he has what the requirement asks for.  Under a restriction,
the restriction to nobody adds nothing and lets nobody pass by itself, only ownership is asked for,
and neither the answer nor a question depends on anything but ownership.  If a capability is
missing, neither depends on the bits.  Bits are asked for exactly if the user holds all
capabilities, some bits are required, and the host supplies any. -/
theorem check_decided_in_order (host : Host) (requirement : Requirement) (server : Server)
    (user : User) :
    ((check host requirement server user).allowed = true ↔
      Satisfies host requirement server user) ∧
    (requirement.restrictions ≠ [] →
      check host { requirement with restrictions := .nobody :: requirement.restrictions } server
          user = check host requirement server user ∧
      ((∀ r ∈ requirement.restrictions, r = .nobody) →
        (check host requirement server user).allowed = false) ∧
      (∀ l ∈ (check host requirement server user).lookups,
        l = .botOwner user ∨ l = .owner server) ∧
      ∀ (host' : Host) (capabilities : List String) (bits : Int),
        host'.isBotOwner user = host.isBotOwner user →
        host'.ownerOf server = host.ownerOf server →
        check host' { requirement with capabilities := capabilities, bits := bits } server user =
          check host requirement server user) ∧
    (∀ c ∈ requirement.capabilities, requirement.restrictions = [] →
      c ∉ host.capabilitiesOf server user → ∀ (host' : Host) (bits : Int),
        host'.capabilitiesOf server user = host.capabilitiesOf server user →
        check host' { requirement with bits := bits } server user =
          check host requirement server user) ∧
    ∀ (server' : Server) (user' : User),
      .bits server' user' ∈ (check host requirement server user).lookups ↔
        (server' = server ∧ user' = user) ∧ requirement.restrictions = [] ∧
          (∀ c ∈ requirement.capabilities, c ∈ host.capabilitiesOf server user) ∧
          requirement.bits ≠ 0 ∧ host.bits? ≠ none := by
  refine ⟨allowed_check_iff, fun h => ⟨check_nobody_cons h, fun hnobody => ?_,
    fun _ => mem_lookups_check_of_restricted h, fun _ capabilities bits hbot howner =>
    check_congr_of_restricted h hbot howner capabilities bits⟩,
    fun _ hc h hmissing _ bits hsame => check_congr_of_missing h hc hmissing hsame bits,
    fun _ _ => bits_mem_check_iff⟩
  rw [Bool.eq_false_iff, ne_eq, allowed_check_iff]
  exact not_satisfies_of_nobody h hnobody

/-- A server that the user does not own; he has a capability and all bits but two. -/
def guardedHost : Host := World.fullHost {
  servers := [("s", { owner := "w", capabilities := [("u", ["ban"])] })]
  bits := some [("s", [("u", -7)])] }

/-- A negative requirement is a moderator's, and one for a missing bit is refused.  A restriction to
nobody refuses even the owner of the server, and so does a missing capability the user, with and
without a supply of bits. -/
theorem decision_of_guarded :
    Satisfies guardedHost { capabilities := ["ban"], bits := -3 } { id := "s" } { id := "u" } ∧
    ¬Satisfies guardedHost { capabilities := ["ban"], bits := 4 } { id := "s" } { id := "u" } ∧
    .bits { id := "s" } { id := "u" } ∈ (check guardedHost { capabilities := ["ban"], bits := 4 }
      { id := "s" } { id := "u" }).lookups ∧
    check guardedHost { restrictions := [.nobody], bits := 4 } { id := "s" } { id := "w" } =
      ⟨false, []⟩ ∧
    check { guardedHost with bits? := none } { restrictions := [.nobody] } { id := "s" }
      { id := "w" } = ⟨false, []⟩ ∧
    check { guardedHost with bits? := none } { capabilities := ["kick"] } { id := "s" }
      { id := "u" } = ⟨false, [.capabilities { id := "s" } { id := "u" }]⟩ := by
  obtain ⟨hlow, -⟩ := check_decided_in_order guardedHost { capabilities := ["ban"], bits := -3 }
    { id := "s" } { id := "u" }
  obtain ⟨hhigh, -, -, hasked⟩ := check_decided_in_order guardedHost
    { capabilities := ["ban"], bits := 4 } { id := "s" } { id := "u" }
  obtain ⟨-, hnobody, -⟩ := check_decided_in_order guardedHost
    { restrictions := [.nobody], bits := 4 } { id := "s" } { id := "w" }
  obtain ⟨-, -, hmissing, -⟩ := check_decided_in_order guardedHost
    { capabilities := ["kick"], bits := 4 } { id := "s" } { id := "u" }
  have hdenied : check guardedHost { restrictions := [.nobody], bits := 4 } { id := "s" }
      { id := "w" } = ⟨false, []⟩ := by decide +kernel
  have hrefused : check guardedHost { capabilities := ["kick"], bits := 4 } { id := "s" }
      { id := "u" } = ⟨false, [.capabilities { id := "s" } { id := "u" }]⟩ := by decide +kernel
  obtain ⟨-, -, -, hsame⟩ := hnobody (by decide)
  refine ⟨hlow.mp (by decide +kernel), mt hhigh.mpr (by decide +kernel),
    (hasked _ _).mpr (by decide +kernel), hdenied, ?_, ?_⟩
  · rw [← hdenied]
    exact hsame { guardedHost with bits? := none } [] 0 rfl rfl
  · rw [← hrefused]
    exact hmissing "kick" (by decide) rfl (by decide +kernel)
      { guardedHost with bits? := none } 0 rfl

/-- **Privileges**: who may do something may still do it with more privileges. -/
theorem allowed_of_noFewerPrivileges (hmore : NoFewerPrivileges host host' server user)
    (h : (check host requirement server user).allowed = true) :
    (check host' requirement server user).allowed = true :=
  allowed_check_iff.mpr ((allowed_check_iff.mp h).mono hmore)

/-- The same server, with another owner and more capabilities and bits for the user. -/
def promotedHost : Host := World.fullHost {
  servers := [("s", { owner := "u", capabilities := [("u", ["kick", "ban"])] })]
  bits := some [("s", [("u", -3)])] }

/-- What the user was allowed by a bit that he keeps, he is still allowed. -/
theorem allowed_of_promoted :
    NoFewerPrivileges guardedHost promotedHost { id := "s" } { id := "u" } ∧
    (check guardedHost { capabilities := ["ban"], bits := -3 } { id := "s" }
      { id := "u" }).allowed = true ∧
    (check promotedHost { capabilities := ["ban"], bits := -3 } { id := "s" }
      { id := "u" }).allowed = true := by
  have hmore : NoFewerPrivileges guardedHost promotedHost { id := "s" } { id := "u" } := by
    refine ⟨by decide +kernel, ?_, by decide +kernel, by decide +kernel, by decide +kernel⟩
    rintro _ _ ⟨⟩ ⟨⟩
    decide +kernel
  have hallowed : (check guardedHost { capabilities := ["ban"], bits := -3 } { id := "s" }
      { id := "u" }).allowed = true := by decide +kernel
  exact ⟨hmore, hallowed, allowed_of_noFewerPrivileges hmore hallowed⟩

end Permission

end ChatCommands
