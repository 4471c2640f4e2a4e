import ChatCommands.Proofs.Question
import ChatCommands.Proofs.Unfolding

/-!
# ChatCommands.Proofs.Denial

What a denial lets the invoker see.  A dispatch that is refused is written out
as a list of events in which the text does not occur (`Scene.refusal`):

1. the question about the sender and those of the permission gates;
2. two notices;
3. the denial, which is the same for all commands, gates, users and servers.

So two refused dispatches under the same settings look the same in a channel,
and if they differ in their arguments only, they are the same in every event
but the text itself.
-/

namespace ChatCommands

namespace Scene

variable {τ : Type} {s s' : Scene τ} {text text' name name' : String} {schema : Schema τ}

/-- The text calls a registered command that the user may not run. -/
def Refuses (s : Scene τ) (text name : String) : Prop :=
  ∃ schema, s.Calls text name ∧ s.registry.get? name = some schema ∧
    (Permission.check s.host schema.requirement s.server s.user).allowed = false

/-- What is done about a command that the user may not run. -/
def refusal (s : Scene τ) (name : String) (schema : Schema τ) : List (Event τ) :=
  .asked (.automated s.user) ::
    (Permission.check s.host schema.requirement s.server s.user).lookups.map .asked ++
      [.noted (.refused s.user.id schema.name), .noted (.denied (s.occasion name 0)),
        .sent s.channel s.settings.deniedMessage]

theorem command_of_denied (on : Occasion)
    (h : (Permission.check s.host schema.requirement s.server s.user).allowed = false) :
    s.command schema text on =
      (Trace.asking (Permission.check s.host schema.requirement s.server s.user).lookups).andThen
        fun _ => s.deny schema on := by
  simp [command, h]

/-- A refused dispatch is its refusal, whatever stands behind the name. -/
theorem dispatch_of_denied (hcalls : s.Calls text name) (hget : s.registry.get? name = some schema)
    (hdenied : (Permission.check s.host schema.requirement s.server s.user).allowed = false) :
    s.dispatch text = .of (.step 0 text :: s.refusal name schema) := by
  obtain ⟨next, hstep⟩ := s.exists_dispatchFrom_eq_step s.settings.maxMacroDepth 0 text
  rw [dispatch, hstep, step_of_registered 0 hcalls hget, command_of_denied _ hdenied]
  rfl

theorem effects_refusal (s : Scene τ) (name : String) (schema : Schema τ) :
    (s.refusal name schema).filter Event.isEffect = [.sent s.channel s.settings.deniedMessage] := by
  have hasked := (quiet_asked (τ := τ)
    (Permission.check s.host schema.requirement s.server s.user).lookups).effects_eq_nil
  simp [refusal, hasked, Event.isEffect]

/-- A refusal asks about no user and no channel that an argument could name. -/
theorem isReference_of_mem_refusal {l : Lookup} (h : .asked l ∈ s.refusal name schema) :
    l.isReference = false := by
  simp only [refusal, List.cons_append, List.mem_cons, List.mem_append, List.mem_map,
    Event.asked.injEq, reduceCtorEq, List.not_mem_nil, or_false] at h
  rcases h with rfl | ⟨l', hl, rfl⟩
  · rfl
  · exact Permission.isReference_of_mem_check hl

theorem Refuses.effects_dispatch (h : s.Refuses text name) :
    (s.dispatch text).aborted = false ∧
      (s.dispatch text).effects = [.sent s.channel s.settings.deniedMessage] := by
  obtain ⟨schema, hcalls, hget, hdenied⟩ := h
  rw [dispatch_of_denied hcalls hget hdenied]
  exact ⟨rfl, s.effects_refusal name schema⟩

/-- **Denials reveal nothing**: under the same settings and in the same channel, two refused
dispatches send the one denial and do nothing else that can be seen, whatever the users, servers,
surroundings, requirements and texts are.  If they differ only in what stands behind the name, they
are the same event by event, and none of the questions is about something that an argument names. -/
theorem denials_indistinguishable (hsettings : s'.settings = s.settings)
    (hchannel : s'.channel = s.channel) (h : s.Refuses text name) (h' : s'.Refuses text' name') :
    ((s.dispatch text).aborted = false ∧
      (s.dispatch text).effects = [.sent s.channel s.settings.deniedMessage]) ∧
    ((s'.dispatch text').aborted = false ∧
      (s'.dispatch text').effects = [.sent s.channel s.settings.deniedMessage]) ∧
    (s' = s → name' = name → ∃ es, (s.dispatch text).events = .step 0 text :: es ∧
      (s'.dispatch text').events = .step 0 text' :: es ∧
      ∀ l, .asked l ∈ es → l.isReference = false) := by
  refine ⟨h.effects_dispatch, ?_, ?_⟩
  · rw [← hsettings, ← hchannel]
    exact h'.effects_dispatch
  · rintro rfl rfl
    obtain ⟨schema, hcalls, hget, hdenied⟩ := h
    obtain ⟨schema', hcalls', hget', hdenied'⟩ := h'
    obtain rfl : schema = schema' := Option.some.inj (hget.symm.trans hget')
    refine ⟨s'.refusal name' schema, ?_, ?_, fun l => isReference_of_mem_refusal⟩
    · rw [dispatch_of_denied hcalls hget hdenied, Trace.events_of]
    · rw [dispatch_of_denied hcalls' hget hdenied, Trace.events_of]

/-- A scene with a command for the owner of the server, and one for a capability and a bit; the
user has the capability and another bit. -/
def guardedScene : Scene Unit where
  settings := {}
  registry := .after [.activate,
    .register { name := "o", task := (), requirement := { restrictions := [.serverOwner] } },
    .register { name := "b", task := (), parameters := [⟨.user, "who", false⟩],
                requirement := { capabilities := ["ban"], bits := 4 } }]
  host := World.fullHost {
    servers := [("s", { capabilities := [("u", ["ban"])] })]
    bits := some [("s", [("u", 8)])] }
  user := { id := "u" }
  channel := { id := "c" }
  server := { id := "s" }

/-- Another user on another server of another platform. -/
def strangerScene : Scene Unit :=
  { guardedScene with
    host := World.fullHost { servers := [("t", { owner := "w" })] }
    user := { id := "v" }
    server := { id := "t" } }

/-- A denial for a missing bit and one for an owner look the same, and so do one with a mention
and one with a quote mark that is not closed. -/
theorem denials_of_guarded :
    guardedScene.Refuses "!b <@7>" "b" ∧ strangerScene.Refuses "!o 1 2" "o" ∧
    guardedScene.Refuses "!b \"x" "b" ∧
    (guardedScene.dispatch "!b <@7>").effects =
      [.sent guardedScene.channel guardedScene.settings.deniedMessage] ∧
    (strangerScene.dispatch "!o 1 2").effects =
      [.sent guardedScene.channel guardedScene.settings.deniedMessage] ∧
    ∃ es, (guardedScene.dispatch "!b <@7>").events = .step 0 "!b <@7>" :: es ∧
      (guardedScene.dispatch "!b \"x").events = .step 0 "!b \"x" :: es ∧
      ∀ l, .asked l ∈ es → l.isReference = false := by
  have hmention : guardedScene.Refuses "!b <@7>" "b" := ⟨_, ⟨rfl, rfl⟩, rfl, by decide⟩
  have hquote : guardedScene.Refuses "!b \"x" "b" := ⟨_, ⟨rfl, rfl⟩, rfl, by decide⟩
  have hstranger : strangerScene.Refuses "!o 1 2" "o" := ⟨_, ⟨rfl, rfl⟩, rfl, by decide⟩
  have hsettings : strangerScene.settings = guardedScene.settings := rfl
  have hchannel : strangerScene.channel = guardedScene.channel := rfl
  obtain ⟨⟨-, heffects⟩, ⟨-, heffects'⟩, -⟩ :=
    denials_indistinguishable hsettings hchannel hmention hstranger
  obtain ⟨-, -, hsame⟩ := denials_indistinguishable rfl rfl hmention hquote
  exact ⟨hmention, hstranger, hquote, heffects, heffects', hsame rfl rfl⟩

end Scene

end ChatCommands
