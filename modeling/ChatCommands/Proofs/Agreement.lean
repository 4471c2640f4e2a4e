import ChatCommands.Proofs.Denial
import ChatCommands.Proofs.Routing
import ChatCommands.Proofs.Summary

/-!
# ChatCommands.Proofs.Agreement

Help and dispatch agree on who may run a command.  Both ask the same gates, but
for the help the name is given, and for the dispatch it is found in a text; and
the help puts a mark in front where the dispatch notes a denial.

1. A dispatch notes a denial exactly if the gates of its command refuse the user
   (`Scene.notesDenial_iff`).
2. A help text stands behind the mark exactly if they do (`Help.marksIf_marked`).
3. The summary has the same line about a name as the help about that name, at
   its place among the others (`Help.summary_eq`).
-/

namespace ChatCommands

variable {τ : Type}

/-! ## what a dispatch notes -/

namespace Scene

variable {s : Scene τ} {text name : String} {schema : Schema τ}

/-- A dispatch goes the way of a denial, which is the only one that notes it. -/
def NotesDenial (s : Scene τ) (text : String) : Prop :=
  ∃ on, .noted (.denied on) ∈ (s.dispatch text).events

/-- A command that the user may run is not denied on account of its arguments. -/
theorem denied_not_mem_invoke (s : Scene τ) (schema : Schema τ) (text : String)
    (on other : Occasion) : .noted (.denied other) ∉ (s.invoke schema text on).events := by
  rw [invoke, Trace.asking, Trace.of_andThen]
  intro h
  rcases List.mem_append.mp h with h | h
  · simp at h
  · split at h
    · simp at h
    · simp at h
    · split at h <;> simp at h

/-- A dispatched command is denied exactly if its gates refuse the user. -/
theorem notesDenial_iff (hcalls : s.Calls text name) (hget : s.registry.get? name = some schema) :
    s.NotesDenial text ↔
      (Permission.check s.host schema.requirement s.server s.user).allowed = false := by
  constructor
  · rintro ⟨on, hmem⟩
    by_contra hallowed
    rw [Bool.not_eq_false] at hallowed
    have hcommand : s.command schema text (s.occasion name 0) =
        (Trace.asking (Permission.check s.host schema.requirement s.server s.user).lookups).andThen
          fun _ => s.invoke schema text (s.occasion name 0) := by
      simp [command, hallowed]
    rw [dispatch_eq_handled hcalls hget, handled, hcommand, Trace.asking, Trace.of_andThen,
      Trace.of_andThen] at hmem
    have hinvoke := s.denied_not_mem_invoke schema text (s.occasion name 0) on
    simp [hinvoke] at hmem
  · intro hdenied
    rw [NotesDenial, dispatch_of_denied hcalls hget hdenied]
    exact ⟨s.occasion name 0, by simp [refusal]⟩

end Scene

/-! ## what the help shows -/

namespace Help

variable {r : Registry τ} {name : String} {schema : Schema τ}

/-- A text about a command, as a reader sees it, is its help behind the mark if something holds,
and just its help if not. -/
structure MarksIf (denied : Prop) (help shown : String) : Prop where
  /-- The mark stands in front exactly if it holds. -/
  marked_iff : shown = denyMark ++ help ↔ denied
  /-- The help stands for itself exactly if it does not. -/
  plain_iff : shown = help ↔ ¬denied

/-- No text is its own with the mark in front. -/
theorem denyMark_append_ne (help : String) : denyMark ++ help ≠ help := by
  intro h
  have hlength := congrArg String.length h
  rw [String.length_append] at hlength
  have hmark : denyMark.length = 2 := by decide
  omega

/-- A help text has the mark exactly if the gates refuse the user. -/
theorem marksIf_marked (host : Host) (server : Server) (user : User) (schema : Schema τ)
    (help : String) :
    MarksIf ((Permission.check host schema.requirement server user).allowed = false) help
      (marked host server user schema help).text := by
  have hne := denyMark_append_ne help
  cases hallowed : (Permission.check host schema.requirement server user).allowed with
  | true => exact ⟨by simp [marked, hallowed, hne.symm], by simp [marked, hallowed]⟩
  | false => exact ⟨by simp [marked, hallowed], by simp [marked, hallowed, hne]⟩

theorem tooltip_of_get? (hget : r.get? name = some schema) (host : Host) (server : Server)
    (user : User) :
    tooltip host r name server user = marked host server user schema schema.shortHelp := by
  rw [tooltip, hget]

theorem full_of_get? (hget : r.get? name = some schema) (host : Host) (server : Server)
    (user : User) :
    full host r name server user = marked host server user schema schema.fullHelp := by
  rw [full, hget]

/-- The lines of the summary, each with its name. -/
def entries (host : Host) (r : Registry τ) (server : Server) (user : User) :
    List (String × String) :=
  (sortedNames r).map fun name => (name, (tooltip host r name server user).text)

/-- The summary is made of its lines. -/
theorem text_summary (host : Host) (r : Registry τ) (server : Server) (user : User) :
    (summary host r server user).text =
      String.intercalate "\n" ((entries host r server user).map Prod.snd) := by
  rw [summary_eq, entries, List.map_map]
  rfl

/-- Every registered command has its line, with the same help as by itself. -/
theorem mem_entries_of_get? (hget : r.get? name = some schema) (host : Host) (server : Server)
    (user : User) :
    (name, (tooltip host r name server user).text) ∈ entries host r server user := by
  have hname : name ∈ sortedNames r := by
    rw [mem_sortedNames_iff, mem_names_iff, hget]
    rfl
  exact List.mem_map.mpr ⟨name, hname, rfl⟩

/-- **Help and dispatch agree**: let declared commands be registered and replaced in any way, and
let the user be no automated sender.  The help about a registered name, in its short and its full
form, stands behind the mark if a text that addresses the name is denied, and otherwise for itself.
The summary consists of one line for every name, in order, and with the line of this name it is the
same. -/
theorem agrees_with_dispatch (s : Scene τ) (operations : List (Registry.Operation τ))
    (hregistry : s.registry = .after operations)
    (hdeclared : ∀ schema, .register schema ∈ operations → schema.Declared)
    (huser : s.host.isAutomated s.user = false) (name : String) (schema : Schema τ)
    (hget : s.registry.get? name = some schema) (text : String)
    (haddresses : Addresses s.settings.marker name text) :
    MarksIf (s.NotesDenial text) schema.shortHelp
      (tooltip s.host s.registry name s.server s.user).text ∧
    MarksIf (s.NotesDenial text) schema.fullHelp
      (full s.host s.registry name s.server s.user).text ∧
    ∃ lines : List (String × String),
      lines.map Prod.fst = sortedNames s.registry ∧
      (summary s.host s.registry s.server s.user).text =
        String.intercalate "\n" (lines.map Prod.snd) ∧
      ∃ line, (name, line) ∈ lines ∧ MarksIf (s.NotesDenial text) schema.shortHelp line := by
  have hlatest : Registry.latest? operations name = some schema := by
    rw [← hget, hregistry]
    exact ((Registry.follows_after operations).get?_eq name).symm
  -- A declared name is one word, so it is the name that the dispatch finds in the text.
  obtain rfl : schema.name = name := Registry.name_of_latest? hlatest
  obtain ⟨hne, hblank⟩ := (hdeclared schema (Registry.register_mem_of_latest? hlatest)).name_spec
  have hcalls : s.Calls text schema.name := Scene.calls_of_addresses huser hne hblank haddresses
  have htooltip : MarksIf (s.NotesDenial text) schema.shortHelp
      (tooltip s.host s.registry schema.name s.server s.user).text := by
    rw [Scene.notesDenial_iff hcalls hget, tooltip_of_get? hget]
    exact marksIf_marked _ _ _ _ _
  refine ⟨htooltip, ?_, entries s.host s.registry s.server s.user, ?_, text_summary _ _ _ _,
    _, mem_entries_of_get? hget _ _ _, htooltip⟩
  · rw [Scene.notesDenial_iff hcalls hget, full_of_get? hget]
    exact marksIf_marked _ _ _ _ _
  · rw [entries, List.map_map]
    exact List.map_id _

/-- A command for a bit, and one for the owner that was replaced by one for a capability. -/
def readerOperations : List (Registry.Operation Unit) :=
  [.activate,
    .register { name := "ban", task := (), requirement := { restrictions := [.serverOwner] } },
    .register { name := "ask", task := (), tooltip := "a", requirement := { bits := 4 } },
    .register { name := "ban", task := (), tooltip := "b",
                requirement := { capabilities := ["ban"] } }]

/-- A scene with these commands, whose user has the capability and another bit. -/
def readerScene : Scene Unit where
  settings := {}
  registry := .after readerOperations
  host := World.fullHost {
    servers := [("s", { capabilities := [("u", ["ban"])] })]
    bits := some [("s", [("u", 8)])] }
  user := { id := "u" }
  channel := { id := "c" }
  server := { id := "s" }

theorem declared_of_mem_readerOperations {schema : Schema Unit}
    (h : .register schema ∈ readerOperations) : schema.Declared := by
  simp only [readerOperations, List.mem_cons, Registry.Operation.register.injEq, reduceCtorEq,
    List.not_mem_nil, or_false, false_or] at h
  rcases h with rfl | rfl | rfl
  · exact ⟨.text "ban", [.runs (), .restrictSpecial .serverOwner], rfl⟩
  · exact ⟨.text "ask", [.runs (), .tip (.text "a"), .restrictInternal (.integer 4)], rfl⟩
  · exact ⟨.text "ban", [.runs (), .tip (.text "b"), .restrictExternal [.text "ban"]], rfl⟩

/-- The command for the bit is marked and denied, with any arguments; the other one is neither. -/
theorem agreement_of_reader :
    (tooltip readerScene.host readerScene.registry "ask" readerScene.server readerScene.user).text =
      "🚫 ask: a" ∧
    readerScene.NotesDenial "!ask\t\"x" ∧
    (tooltip readerScene.host readerScene.registry "ban" readerScene.server readerScene.user).text =
      "ban: b" ∧
    ¬readerScene.NotesDenial "!ban" ∧
    ∃ lines : List (String × String),
      (summary readerScene.host readerScene.registry readerScene.server readerScene.user).text =
        String.intercalate "\n" (lines.map Prod.snd) ∧ ("ask", "🚫 ask: a") ∈ lines := by
  have hask : Addresses "!" "ask" "!ask\t\"x" := by
    refine ⟨"\t\"x", rfl, fun c hc => ?_⟩
    obtain rfl : '\t' = c := Option.some.inj hc
    rfl
  have hban : Addresses "!" "ban" "!ban" := ⟨"", rfl, by simp⟩
  obtain ⟨hmarked, -, lines, -, htext, line, hline, hentry⟩ := agrees_with_dispatch readerScene
    readerOperations rfl (fun _ => declared_of_mem_readerOperations) rfl "ask" _ rfl _ hask
  obtain ⟨hplain, -, -⟩ := agrees_with_dispatch readerScene
    readerOperations rfl (fun _ => declared_of_mem_readerOperations) rfl "ban" _ rfl _ hban
  have hshown : (tooltip readerScene.host readerScene.registry "ask" readerScene.server
      readerScene.user).text = "🚫 ask: a" := by decide +kernel
  have hnotes : readerScene.NotesDenial "!ask\t\"x" := hmarked.marked_iff.mp hshown
  have hshown' : (tooltip readerScene.host readerScene.registry "ban" readerScene.server
      readerScene.user).text = "ban: b" := by decide +kernel
  obtain rfl : line = "🚫 ask: a" := hentry.marked_iff.mpr hnotes
  exact ⟨hshown, hnotes, hshown', hplain.plain_iff.mp hshown', lines, htext, hline⟩

end Help

end ChatCommands
