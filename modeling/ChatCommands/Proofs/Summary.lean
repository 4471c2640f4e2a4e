import ChatCommands.Help
import ChatCommands.Proofs.History
import ChatCommands.World
import Mathlib.Data.List.Sort
import Mathlib.Data.String.Basic

/-!
# ChatCommands.Proofs.Summary

The summary of all commands.  It is put together from the commands themselves,
in the order of their names; the help about one name is looked up.  They agree
(`Help.summary_eq`): every line of the summary is the help about its name.

1. The order of registration does not show, as strictly increasing names are in
   one order only.
2. A version that was replaced does not show, as it is not found any more.

So the summary depends on nothing but the latest command of every name
(`Help.summary_of_latest`).
-/

namespace ChatCommands

/-- The numbers of the characters of a text. -/
def codePoints (s : String) : List Nat := s.toList.map Char.toNat

theorem lt_iff_codePoints_lt {s t : String} : s < t ↔ codePoints s < codePoints t := by
  rw [String.lt_iff_toList_lt, codePoints, codePoints]
  generalize s.toList = cs
  generalize t.toList = ds
  induction cs generalizing ds with
  | nil => cases ds <;> simp
  | cons c cs ih =>
    cases ds with
    | nil => simp
    | cons d ds =>
      have hlt : c < d ↔ c.toNat < d.toNat := Char.lt_def.trans UInt32.lt_iff_toNat_lt
      simp [List.cons_lt_cons_iff, ih, hlt, Char.toNat_inj]

namespace Help

variable {τ : Type} {r r' : Registry τ} {name : String} {schema : Schema τ}

/-! ## names in order -/

/-- The names in the order in which the summary has them. -/
def sortedNames (r : Registry τ) : List String := r.names.mergeSort fun m n => decide (m ≤ n)

theorem mem_sortedNames_iff : name ∈ sortedNames r ↔ name ∈ r.names :=
  (List.mergeSort_perm _ _).mem_iff

/-- The names are in strictly increasing order, so that none is there twice. -/
theorem pairwise_sortedNames (r : Registry τ) : (sortedNames r).Pairwise (· < ·) := by
  have hle : (sortedNames r).Pairwise fun m n => decide (m ≤ n) :=
    List.pairwise_mergeSort (by simpa using fun a b c => le_trans) (by simpa using le_total) _
  have hne : (sortedNames r).Nodup := (List.mergeSort_perm _ _).nodup_iff.mpr r.commands.nodup
  refine (hle.and hne).imp fun {m n} h => ?_
  exact lt_of_le_of_ne (of_decide_eq_true h.1) h.2

theorem sortedNames_congr (h : ∀ name, name ∈ r'.names ↔ name ∈ r.names) :
    sortedNames r' = sortedNames r := by
  refine (pairwise_sortedNames r').eq_of_mem_iff (pairwise_sortedNames r) fun name => ?_
  rw [mem_sortedNames_iff, mem_sortedNames_iff, h]

theorem mem_names_iff : name ∈ r.names ↔ (r.get? name).isSome := Pairs.isSome_get?_iff.symm

/-! ## lines -/

/-- The help about the commands in order is that about their names. -/
theorem map_sorted (host : Host) (r : Registry τ) (server : Server) (user : User) :
    ((sorted r).map fun s => marked host server user s s.shortHelp) =
      (sortedNames r).map fun name => tooltip host r name server user := by
  have hnames : (r.commands.entries.mergeSort fun p q => decide (p.1 ≤ q.1)).map Prod.fst =
      sortedNames r := List.map_mergeSort fun _ _ _ _ => rfl
  rw [sorted, ← hnames, List.map_map, List.map_map]
  refine List.map_congr_left fun p hp => ?_
  have hmem : p ∈ r.commands.entries := (List.mergeSort_perm _ _).mem_iff.mp hp
  have hget : r.get? p.1 = some p.2 := (Pairs.get?_eq_some_iff r.commands.nodup).mpr hmem
  simp [tooltip, hget]

/-- **The summary** is the help about one name after the other, and so are the questions that it
takes. -/
theorem summary_eq (host : Host) (r : Registry τ) (server : Server) (user : User) :
    summary host r server user =
      ⟨String.intercalate "\n"
          ((sortedNames r).map fun name => (tooltip host r name server user).text),
        (sortedNames r).flatMap fun name => (tooltip host r name server user).lookups⟩ := by
  rw [summary, map_sorted]
  simp [List.map_map, List.flatMap_map, Function.comp_def]

/-- Registries with the same commands have the same summary. -/
theorem summary_congr (h : ∀ name, r'.get? name = r.get? name) (host : Host) (server : Server)
    (user : User) : summary host r' server user = summary host r server user := by
  have hnames : sortedNames r' = sortedNames r := by
    refine sortedNames_congr fun name => ?_
    rw [mem_names_iff, mem_names_iff, h]
  have hlines (name : String) :
      tooltip host r' name server user = tooltip host r name server user := by
    rw [tooltip, tooltip, h]
  simp only [summary_eq, hnames, hlines]

/-! ## histories -/

/-- **The summary depends on the latest commands only**: it has one line for every name that was
registered, which is the help about this name, in the order of the code points.  Whenever the
latest command of every name is the same, it is the same, with the questions that it takes. -/
theorem summary_of_latest (operations : List (Registry.Operation τ)) (host : Host)
    (server : Server) (user : User) :
    (∃ names : List String, names.Pairwise (fun m n => codePoints m < codePoints n) ∧
      (∀ name, name ∈ names ↔ name ∈ (Registry.registered operations).map Schema.name) ∧
      (summary host (.after operations) server user).text = String.intercalate "\n"
        (names.map fun name => (tooltip host (.after operations) name server user).text)) ∧
    ∀ operations' : List (Registry.Operation τ),
      (∀ name, Registry.latest? operations' name = Registry.latest? operations name) →
      summary host (.after operations') server user =
        summary host (.after operations) server user := by
  have hfollows := Registry.follows_after operations
  refine ⟨⟨sortedNames (.after operations), ?_, fun name => ?_, ?_⟩, fun operations' h => ?_⟩
  · exact (pairwise_sortedNames _).imp lt_iff_codePoints_lt.mp
  · rw [mem_sortedNames_iff, hfollows.names_eq, List.mem_eraseDups]
  · rw [summary_eq]
  · refine summary_congr (fun name => ?_) host server user
    rw [(Registry.follows_after operations').get?_eq, hfollows.get?_eq, h]

/-- The command `b`, registered first and then replaced by one for the owner, and two versions of
`a`. -/
def replacedOperations : List (Registry.Operation Unit) :=
  [.activate, .register { name := "b", task := () }, .register { name := "a", task := () },
    .register { name := "b", task := (), tooltip := "new",
                requirement := { restrictions := [.serverOwner] } },
    .register { name := "a", task := (), tooltip := "new" }]

/-- The latest versions only, in another order, and a command before the start. -/
def latestOperations : List (Registry.Operation Unit) :=
  [.register { name := "c", task := () }, .activate,
    .register { name := "a", task := (), tooltip := "new" },
    .register { name := "b", task := (), tooltip := "new",
                requirement := { restrictions := [.serverOwner] } }]

/-- The platform of a server with an owner. -/
def ownedHost : Host := World.fullHost { servers := [("s", { owner := "w" })] }

/-- The two give one summary, although they list the names in different orders. -/
theorem summary_of_replaced :
    (Registry.after replacedOperations).names = ["b", "a"] ∧
    (Registry.after latestOperations).names = ["a", "b"] ∧
    (∀ name, Registry.latest? latestOperations name = Registry.latest? replacedOperations name) ∧
    summary ownedHost (.after latestOperations) { id := "s" } { id := "u" } =
      summary ownedHost (.after replacedOperations) { id := "s" } { id := "u" } ∧
    (summary ownedHost (.after replacedOperations) { id := "s" } { id := "u" }).text =
      "a: new\n🚫 b: new" := by
  have hlatest (name : String) :
      Registry.latest? latestOperations name = Registry.latest? replacedOperations name := by
    by_cases ha : "a" = name
    · subst ha
      rfl
    · by_cases hb : "b" = name
      · subst hb
        rfl
      · simp [Registry.latest?, Registry.registered, replacedOperations, latestOperations,
          Registry.Operation.schema?, List.filterMap_cons, ha, hb]
  have hnames : (Registry.after latestOperations).names = ["a", "b"] := rfl
  have hsorted : sortedNames (.after latestOperations) = ["a", "b"] :=
    (pairwise_sortedNames _).eq_of_mem_iff (by decide) fun name => mem_sortedNames_iff
  obtain ⟨-, hsame⟩ := summary_of_latest replacedOperations ownedHost { id := "s" } { id := "u" }
  refine ⟨rfl, hnames, hlatest, hsame latestOperations hlatest, ?_⟩
  rw [← hsame latestOperations hlatest, summary_eq, hsorted]
  decide +kernel

end Help

end ChatCommands
