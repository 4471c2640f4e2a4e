import ChatCommands.Proofs.Checks
import ChatCommands.Schema.Builder

/-!
# ChatCommands.Proofs.Declaration

Finished declarations.  What is declared step by step is looked at when the
declaration is finished, whatever its steps have been
(`Builder.build_eq_ok_iff`).  So the name of a declared command is a text that is
not empty and has no white space in it (`Schema.Declared.name_spec`), and its
parameters have distinct names (`Schema.Declared.nodup_names`).
-/

namespace ChatCommands

open ChatCommands.Text

variable {τ : Type} {b : Builder τ} {schema : Schema τ}

/-- A command that some declaration ends with. -/
def Schema.Declared (schema : Schema τ) : Prop :=
  ∃ name steps, Builder.declare name steps = .ok schema

theorem Schema.Declared.exists_build (h : schema.Declared) :
    ∃ b : Builder τ, b.build = .ok schema := by
  obtain ⟨name, steps, h⟩ := h
  unfold Builder.declare at h
  split at h
  · exact ⟨_, h⟩
  · contradiction

namespace Builder

theorem schema_eq_ok_iff {task : τ} {requirement : Requirement} :
    b.schema task requirement = .ok schema ↔
      ∃ name tooltip longHelp, b.name.readText = .ok name ∧ b.tooltip.readText = .ok tooltip ∧
        b.longHelp.readText = .ok longHelp ∧
        { name := name, parameters := b.parameters, raw := b.raw, task := task, tooltip := tooltip
          longHelp := longHelp, warnings := b.warnings, requirement := requirement } = schema := by
  simp only [Builder.schema, Checked.app_eq_ok_iff, Checked.under_eq_ok_iff]
  constructor
  · rintro ⟨_, longHelp, ⟨_, tooltip, ⟨_, name, hmake, hname, rfl⟩, htooltip, rfl⟩, hhelp, rfl⟩
    obtain rfl := Except.ok.inj hmake
    exact ⟨name, tooltip, longHelp, hname, htooltip, hhelp, rfl⟩
  · rintro ⟨name, tooltip, longHelp, hname, htooltip, hhelp, rfl⟩
    exact ⟨_, longHelp, ⟨_, tooltip, ⟨_, name, rfl, hname, rfl⟩, htooltip, rfl⟩, hhelp, rfl⟩

/-- **Finished declarations**: the name is not refused, no parameter occurs twice, there is a task,
and who may run the command and its texts can be read. -/
theorem build_eq_ok_iff :
    b.build = .ok schema ↔ nameRefused b.name = .ok false ∧
      firstRepeated? [] (b.parameters.map Parameter.name) = none ∧
      ∃ task requirement, b.task = some task ∧ b.requirement = .ok requirement ∧
        b.schema task requirement = .ok schema := by
  unfold build
  split
  · next hname => simp [hname]
  · next hname => simp [hname]
  · next hname =>
    split
    · next hrepeated => simp [hrepeated]
    · next hrepeated htask => simp [htask]
    · next task hrepeated htask =>
      split
      · next hrequirement => simp [hrequirement]
      · next requirement hrequirement =>
        split
        · next hschema => simp [hname, hrepeated, htask, hrequirement, hschema]
        · next hschema => simp [hname, hrepeated, htask, hrequirement, hschema]

theorem name_of_not_refused {name : Datum} {text : String} (htext : name.readText = .ok text)
    (h : nameRefused name = .ok false) : text ≠ "" ∧ ∀ c ∈ text.toList, isBlank c = false := by
  cases name with
  | text s =>
      obtain rfl : s = text := Except.ok.inj htext
      by_cases hempty : s = ""
      · simp [nameRefused, Datum.isGiven, hempty] at h
      · refine ⟨hempty, ?_⟩
        simpa [nameRefused, Datum.isGiven, hempty, hasBlank] using h
  | foreign x =>
      -- Bytes may be read as a text, but they have no characters to be looked at.
      cases x with
      | date s => contradiction
      | bytes bs =>
        rw [nameRefused] at h
        split at h
        · contradiction
        · exact nomatch Except.ok.inj h
  | _ => contradiction

/-- Nothing is repeated exactly if the names are distinct and none has been seen before. -/
theorem firstRepeated?_eq_none_iff {seen names : List String} :
    firstRepeated? seen names = none ↔ names.Nodup ∧ ∀ n ∈ names, n ∉ seen := by
  induction names generalizing seen with
  | nil => simp [firstRepeated?]
  | cons n names ih =>
      rw [firstRepeated?]
      split
      · next hseen => simp [hseen]
      · next hnew =>
        rw [ih, List.nodup_cons, List.forall_mem_cons]
        constructor
        · rintro ⟨hnames, hothers⟩
          refine ⟨⟨fun hmem => hothers n hmem (by simp), hnames⟩, hnew, fun m hm hseen => ?_⟩
          exact hothers m hm (List.mem_append_left _ hseen)
        · rintro ⟨⟨hn, hnames⟩, -, hothers⟩
          refine ⟨hnames, fun m hm hmem => ?_⟩
          rcases List.mem_append.mp hmem with hseen | heq
          · exact hothers m hm hseen
          · rw [List.mem_singleton] at heq
            exact hn (heq ▸ hm)

end Builder

/-- The name of a declared command is one word. -/
theorem Schema.Declared.name_spec (h : schema.Declared) :
    schema.name ≠ "" ∧ ∀ c ∈ schema.name.toList, isBlank c = false := by
  obtain ⟨b, hb⟩ := h.exists_build
  obtain ⟨hrefused, -, task, requirement, -, -, hschema⟩ := Builder.build_eq_ok_iff.mp hb
  obtain ⟨name, tooltip, longHelp, hname, -, -, rfl⟩ := Builder.schema_eq_ok_iff.mp hschema
  exact Builder.name_of_not_refused hname hrefused

/-- The parameters of a declared command have distinct names. -/
theorem Schema.Declared.nodup_names (h : schema.Declared) :
    (schema.parameters.map Parameter.name).Nodup := by
  obtain ⟨b, hb⟩ := h.exists_build
  obtain ⟨-, hrepeated, task, requirement, -, -, hschema⟩ := Builder.build_eq_ok_iff.mp hb
  obtain ⟨name, tooltip, longHelp, -, -, -, rfl⟩ := Builder.schema_eq_ok_iff.mp hschema
  exact (Builder.firstRepeated?_eq_none_iff.mp hrepeated).1

end ChatCommands
