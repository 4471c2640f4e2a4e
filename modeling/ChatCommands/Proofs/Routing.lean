import ChatCommands.Proofs.Authorization
import ChatCommands.Proofs.Declaration
import ChatCommands.Proofs.Head
import ChatCommands.Proofs.History
import ChatCommands.Proofs.Tally

/-!
# ChatCommands.Proofs.Routing

Which command a text reaches.  A text addresses a name if it is the marker, the
name, and then nothing or white space (`Addresses`).

1. A text that addresses the name of a registered command is dispatched as that
   command, the one that was registered last under the name
   (`Scene.dispatch_eq_handled`).
2. A text that addresses no such name is passed by: its own step does not go
   through a permission gate, looks up nothing that an argument names, replies
   nothing and hands no task on (`Scene.PassedBy`).

A declared command has one word for a name, so it is the name of the texts that
address it.
-/

namespace ChatCommands

open ChatCommands.Text

variable {τ : Type}

/-- The text is the marker, the name, and then nothing or white space. -/
def Addresses (marker name text : String) : Prop :=
  ∃ rest, text = marker ++ name ++ rest ∧ ∀ c ∈ rest.toList.head?, isBlank c = true

namespace Scene

variable {s : Scene τ} {depth : Nat} {text name : String} {schema : Schema τ}

/-- The dispatch of a text that one command deals with: behind the question about the sender,
there is nothing but the gates of the command and its arguments. -/
def handled (s : Scene τ) (name : String) (schema : Schema τ) (text : String) : Trace τ :=
  (Trace.of [.step 0 text, .asked (.automated s.user)]).andThen fun _ =>
    s.command schema text (s.occasion name 0)

/-- The first step of a dispatch reaches no command. -/
structure PassedBy (s : Scene τ) (text : String) : Prop where
  /-- The dispatch is the first step and then what a macro hands on, one level deeper. -/
  dispatch_eq : s.dispatch text = (s.opening 0 text).andThen fun _ =>
    .each (s.dispatchFrom (s.settings.maxMacroDepth - 1) 1) (s.handedOn 0 text)
  /-- The first step sends nothing and hands no task on. -/
  effects_eq : (s.opening 0 text).effects = []
  /-- It asks about the sender and, if at all, for the macro of a name that is not registered. -/
  asked : ∀ l, .asked l ∈ (s.opening 0 text).events →
    l = .automated s.user ∨ ∃ name, s.registry.get? name = none ∧ l = .macroBody s.server name

/-! ## texts for a command -/

/-- Whoever is no automated sender calls the word that the text addresses. -/
theorem calls_of_addresses (huser : s.host.isAutomated s.user = false) (hne : name ≠ "")
    (hblank : ∀ c ∈ name.toList, isBlank c = false) (h : Addresses s.settings.marker name text) :
    s.Calls text name := by
  obtain ⟨rest, htext, hrest⟩ := h
  exact ⟨huser, commandName?_eq_some_iff.mpr ⟨rest, htext, hne, hblank, hrest⟩⟩

/-- A called name is addressed. -/
theorem Calls.addresses (h : s.Calls text name) : Addresses s.settings.marker name text := by
  obtain ⟨rest, hhead⟩ := commandName?_eq_some_iff.mp h.2
  exact ⟨rest, hhead.text_eq, hhead.rest_blank⟩

/-- A call of a registered command is dispatched as that command. -/
theorem dispatch_eq_handled (h : s.Calls text name) (hget : s.registry.get? name = some schema) :
    s.dispatch text = s.handled name schema text := by
  obtain ⟨next, hstep⟩ := s.exists_dispatchFrom_eq_step s.settings.maxMacroDepth 0 text
  rw [dispatch, hstep, step_of_registered 0 h hget, handled]

theorem macrosAsked_handled (s : Scene τ) (name : String) (schema : Schema τ) (text : String) :
    (s.handled name schema text).macrosAsked = [] := by
  rw [handled, Trace.macrosAsked_andThen, macrosAsked_command]
  rfl

/-- A command takes no further text up, and hands on no task but its own. -/
theorem events_command (s : Scene τ) (schema : Schema τ) (text : String) (on : Occasion) :
    stepsOf (s.command schema text on).events = [] ∧
      ∀ job, .submitted job ∈ (s.command schema text on).events → job.schema = schema := by
  obtain ⟨before, after, hbefore, hafter, heq⟩ := s.command_eq schema text on fun _ => .nil
  have hanswer (commands : List String) : s.answer schema text ≠ .expanded commands :=
    answer_ne_expanded
  obtain ⟨hsteps, hjobs⟩ := s.effect_of_not_expanded (fun _ => .nil) hanswer
  have htail (b : Bool) : Quiet (if b then [] else after) := by
    cases b with
    | true => exact quiet_nil
    | false => exact hafter
  rw [heq, Trace.of_andThen, Trace.events_andThen]
  constructor
  · rw [stepsOf_append, stepsOf_append, hbefore.stepsOf_eq_nil, hsteps]
    exact (htail _).stepsOf_eq_nil
  · intro job hmem
    rcases List.mem_append.mp hmem with hmem | hmem
    · exact absurd hmem (hbefore.submitted_not_mem job)
    · rcases List.mem_append.mp hmem with hmem | hmem
      · obtain ⟨-, bag, -, rfl⟩ := answer_eq_invoked_iff.mp (hjobs job hmem)
        rfl
      · exact absurd hmem ((htail _).submitted_not_mem job)

theorem stepsOf_handled (s : Scene τ) (name : String) (schema : Schema τ) (text : String) :
    stepsOf (s.handled name schema text).events = [(0, text)] := by
  rw [handled, Trace.of_andThen, stepsOf_append, (s.events_command _ _ _).1]
  rfl

/-- A command hands on jobs of its own only. -/
theorem schema_of_mem_handled {job : Job τ}
    (h : .submitted job ∈ (s.handled name schema text).events) : job.schema = schema := by
  rcases List.mem_append.mp h with hmem | hmem
  · simp at hmem
  · exact (s.events_command _ _ _).2 job hmem

/-! ## other texts -/

theorem asked_of_mem_expansion {next : List String → Trace τ} {l : Lookup}
    (hnext : ∀ commands, .asked l ∉ (next commands).events)
    (h : .asked l ∈ (s.expansion name text next).events) : l = .macroBody s.server name := by
  unfold expansion at h
  split at h
  · simp [Trace.nil] at h
  · rw [Trace.asking, Trace.of_andThen] at h
    rcases List.mem_append.mp h with hmem | hmem
    · simpa using hmem
    · split at hmem
      · simp [Trace.nil] at hmem
      · split at hmem
        · simp at hmem
        · rw [Trace.of_andThen] at hmem
          exact absurd (by simpa using hmem) (hnext _)

/-- A text that calls no registered command is passed by. -/
theorem passedBy_of_not_registered
    (h : ∀ name schema, s.Calls text name → s.registry.get? name ≠ some schema) :
    s.PassedBy text where
  dispatch_eq := dispatchFrom_eq_opening text (Nat.zero_add _)
  effects_eq := effects_opening_of_not_registered h
  asked l hl := by
    rw [opening] at hl
    by_cases hcalls : ∃ name, s.Calls text name
    · obtain ⟨name, hcalls⟩ := hcalls
      have hget : s.registry.get? name = none :=
        Option.eq_none_iff_forall_ne_some.mpr fun schema => h name schema hcalls
      rw [step_of_unregistered 0 hcalls hget, Trace.of_andThen] at hl
      rcases List.mem_append.mp hl with hmem | hmem
      · exact .inl (by simpa using hmem)
      · refine .inr ⟨name, hget, asked_of_mem_expansion (fun commands => ?_) hmem⟩
        split <;> simp [Trace.nil]
    · rw [step_of_not_calls 0 (not_exists.mp hcalls)] at hl
      exact .inl (by simpa using hl)

/-- **Own names only**: let declared commands be registered and replaced in any way, and let the
marker be any text.  If the user is no automated sender, a text that addresses a registered name is
dispatched as the command that was registered last under it; no macro is asked for, no other text is
taken up, and no other command's task is handed on.  A text that addresses no registered name is
passed by.  Once there was a start, every command is the latest one of its name as soon as it is
registered. -/
theorem reached_by_own_name_only (s : Scene τ) (operations : List (Registry.Operation τ))
    (hregistry : s.registry = .after operations)
    (hdeclared : ∀ schema, .register schema ∈ operations → schema.Declared) (text : String) :
    (s.host.isAutomated s.user = false → ∀ name schema,
      Registry.latest? operations name = some schema → Addresses s.settings.marker name text →
      schema.name = name ∧ s.dispatch text = s.handled name schema text ∧
      (s.dispatch text).macrosAsked = [] ∧ stepsOf (s.dispatch text).events = [(0, text)] ∧
      ∀ job, .submitted job ∈ (s.dispatch text).events → job.schema = schema) ∧
    ((∀ name schema, Registry.latest? operations name = some schema →
      ¬Addresses s.settings.marker name text) → s.PassedBy text) ∧
    (.activate ∈ operations → ∀ schema : Schema τ,
      Registry.latest? (operations ++ [.register schema]) schema.name = some schema) := by
  have hget (name : String) : s.registry.get? name = Registry.latest? operations name := by
    rw [hregistry]
    exact (Registry.follows_after operations).get?_eq name
  refine ⟨?_, ?_, ?_⟩
  · intro huser name schema hlatest haddresses
    obtain rfl : schema.name = name := Registry.name_of_latest? hlatest
    obtain ⟨hne, hblank⟩ :=
      (hdeclared schema (Registry.register_mem_of_latest? hlatest)).name_spec
    have hcalls : s.Calls text schema.name := calls_of_addresses huser hne hblank haddresses
    rw [dispatch_eq_handled hcalls ((hget schema.name).trans hlatest)]
    exact ⟨rfl, rfl, s.macrosAsked_handled _ _ _, s.stepsOf_handled _ _ _,
      fun job => schema_of_mem_handled⟩
  · intro hother
    refine passedBy_of_not_registered fun name schema hcalls hregistered => ?_
    exact hother name schema ((hget name).symm.trans hregistered) hcalls.addresses
  · intro hstarted schema
    rw [Registry.latest?_concat_register hstarted, if_pos rfl]

/-- The command `a`, registered twice, and one whose name goes on with a quote mark. -/
def namesakeOperations : List (Registry.Operation Unit) :=
  [.activate, .register { name := "a", task := (), tooltip := "old" },
    .register { name := "a\"b", task := () }, .register { name := "a", task := (), raw := true }]

/-- A scene with these commands and a macro `ab`. -/
def namesakeScene : Scene Unit where
  settings := {}
  registry := .after namesakeOperations
  host := World.fullHost { macros := some [("s", [("a", some "!ab"), ("ab", some "!a")])] }
  user := { id := "u" }
  channel := { id := "c" }
  server := { id := "s" }

theorem declared_of_mem_namesakeOperations {schema : Schema Unit}
    (h : .register schema ∈ namesakeOperations) : schema.Declared := by
  simp only [namesakeOperations, List.mem_cons, Registry.Operation.register.injEq, reduceCtorEq,
    List.not_mem_nil, or_false, false_or] at h
  rcases h with rfl | rfl | rfl
  · exact ⟨.text "a", [.runs (), .tip (.text "old")], rfl⟩
  · exact ⟨.text "a\"b", [.runs ()], rfl⟩
  · exact ⟨.text "a", [.raw, .runs ()], rfl⟩

/-- The later `a` is called, not the macro of that name; the text `!ab x` is one of a macro,
although `!a` is the beginning of it. -/
theorem routing_of_namesakes :
    (∀ schema, .register schema ∈ namesakeOperations → schema.Declared) ∧
    namesakeScene.host.isAutomated namesakeScene.user = false ∧
    Addresses "!" "a" "!a\t\"x" ∧
    (namesakeScene.dispatch "!a\t\"x").jobs.length = 1 ∧
    (∀ job, .submitted job ∈ (namesakeScene.dispatch "!a\t\"x").events → job.schema.raw = true) ∧
    (namesakeScene.dispatch "!a\t\"x").macrosAsked = [] ∧
    (∀ name schema, Registry.latest? namesakeOperations name = some schema →
      ¬Addresses "!" name "!ab x") ∧
    namesakeScene.PassedBy "!ab x" := by
  have hdeclared (schema : Schema Unit) (h : .register schema ∈ namesakeOperations) :
      schema.Declared := declared_of_mem_namesakeOperations h
  have haddresses : Addresses "!" "a" "!a\t\"x" := by
    refine ⟨"\t\"x", rfl, fun c hc => ?_⟩
    obtain rfl : '\t' = c := Option.some.inj hc
    rfl
  have hother (name : String) (schema : Schema Unit)
      (h : Registry.latest? namesakeOperations name = some schema) :
      ¬Addresses "!" name "!ab x" := by
    intro haddresses
    obtain rfl : schema.name = name := Registry.name_of_latest? h
    obtain ⟨hne, hblank⟩ := (hdeclared schema (Registry.register_mem_of_latest? h)).name_spec
    have hcalls : namesakeScene.Calls "!ab x" schema.name :=
      calls_of_addresses rfl hne hblank haddresses
    have hname : some schema.name = some "ab" := hcalls.2.symm
    rw [Option.some.inj hname] at h
    contradiction
  obtain ⟨hrouted, -, -⟩ :=
    reached_by_own_name_only namesakeScene namesakeOperations rfl hdeclared "!a\t\"x"
  obtain ⟨-, hpassed, -⟩ :=
    reached_by_own_name_only namesakeScene namesakeOperations rfl hdeclared "!ab x"
  obtain ⟨-, -, hmacros, -, hjobs⟩ :=
    hrouted rfl "a" { name := "a", task := (), raw := true } rfl haddresses
  refine ⟨hdeclared, rfl, haddresses, ?_, fun job hmem => ?_, hmacros, hother, hpassed hother⟩
  · decide +kernel
  · rw [hjobs job hmem]

end Scene

end ChatCommands
