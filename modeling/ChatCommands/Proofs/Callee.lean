import ChatCommands.Proofs.Head
import ChatCommands.Proofs.Substitution

/-!
# ChatCommands.Proofs.Callee

Which command a template calls.  Placeholders do not reach over blanks, so a
first word without placeholders stands at the start of the command as it is,
and what is filled in starts behind a blank (`Macro.exists_fillParts_eq`).  As
a name is the first word without its marker, neither the arguments nor the
invoker can change it.
-/

namespace ChatCommands

open ChatCommands.Text

namespace Macro

variable {marker body : String} {template : List Char} {arguments arguments' : List String}
  {userId userId' : String} {commands commands' : List String}

/-- Behind a first word that is filled with itself, a blank follows or nothing does. -/
theorem exists_fillParts_eq (hplain : ¬HasPlaceholder (word template)) (arguments : List String)
    (userId : String) :
    ∃ tail, fillParts arguments userId (Part.scan 0 template) =
        String.ofList (word template ++ tail) ∧ ∀ c ∈ tail.head?, isBlank c = true := by
  have hsplit := word_append_dropWhile template
  have hblank := isBlank_of_mem_head?_dropWhile template
  generalize template.dropWhile (fun c => !isBlank c) = rest at hsplit hblank
  have hscan : Part.scan 0 template = (word template).map .literal ++ Part.scan 0 rest := by
    rw [(cuts_map_literal_iff.mpr hplain).eq_scan, ← scan_append, hsplit]
    exact fun c hc => Part.ends_of_isBlank (hblank c hc)
  have hfill : fillParts arguments userId (Part.scan 0 template) = String.ofList
      (word template ++ (Part.scan 0 rest).flatMap (Part.replacement arguments userId)) := by
    rw [fillParts, hscan, List.flatMap_append, flatMap_map_literal fun _ => rfl]
  refine ⟨_, hfill, ?_⟩
  cases rest with
  | nil => simp [Part.scan]
  | cons c rest =>
      -- a blank is no `$`, so it is filled with itself
      have hc : isBlank c = true := hblank c rfl
      have hne : c ≠ '$' := by
        rintro rfl
        contradiction
      simp [Part.scan_literal rest hne, Part.replacement, hc]

/-- Whatever a template is filled with, the command has the name that the template has. -/
theorem commandName?_fillParts (hmarker : Marker.fault? (.text marker) = none)
    (hplain : ¬HasPlaceholder (word template)) (arguments : List String) (userId : String) :
    commandName? (fillParts arguments userId (Part.scan 0 template)) marker =
      commandName? (String.ofList template) marker := by
  have hword : ∀ c ∈ word template, isBlank c = false := fun _ => isBlank_of_mem_word
  obtain ⟨tail, hfill, htail⟩ := exists_fillParts_eq hplain arguments userId
  have htemplate := commandName?_ofList_append hmarker hword
    (isBlank_of_mem_head?_dropWhile template)
  rw [word_append_dropWhile] at htemplate
  rw [hfill, commandName?_ofList_append hmarker hword htail, htemplate]

theorem getElem?_of_expand? {n : Nat} (h : expand? body arguments userId = some commands)
    (htemplate : (templates body)[n]? = some template) :
    commands[n]? = some (fillParts arguments userId (Part.scan 0 template)) := by
  rw [eq_of_expand? h, List.getElem?_map, htemplate, Option.map_some]

/-- **Callee**: if the first word of a template has no placeholder, its command has the same name
in all expansions, and none if the template has none. -/
theorem callee_fixed_by_template (hmarker : Marker.fault? (.text marker) = none)
    (h : expand? body arguments userId = some commands)
    (h' : expand? body arguments' userId' = some commands') {n : Nat}
    (htemplate : (templates body)[n]? = some template)
    (hplain : ¬HasPlaceholder (word template)) :
    ∃ command command', commands[n]? = some command ∧ commands'[n]? = some command' ∧
      commandName? command marker = commandName? command' marker ∧
      commandName? command marker = commandName? (String.ofList template) marker := by
  have hname := commandName?_fillParts hmarker hplain arguments userId
  have hname' := commandName?_fillParts hmarker hplain arguments' userId'
  exact ⟨_, _, getElem?_of_expand? h htemplate, getElem?_of_expand? h' htemplate,
    hname.trans hname'.symm, hname⟩

/-- A body with a `$` at the end of a name, and with a template that is all placeholder. -/
def dollarBody : String := " ;!say$ $1 ;$1"

/-- A `$` in front of a blank is no placeholder, and what an argument brings is not joined with
it; the other template has no name of its own. -/
theorem callee_of_dollarBody :
    Marker.fault? (.text "!") = none ∧
    expand? dollarBody ["1 !ban", "x"] "7" = some ["!say$ 1 !ban", "1 !ban"] ∧
    expand? dollarBody ["", "; !ban"] "8" = some ["!say$ ", ""] ∧
    (templates dollarBody)[0]? = some "!say$ $1".toList ∧
    ¬HasPlaceholder (word "!say$ $1".toList) ∧
    ∃ command command', ["!say$ 1 !ban", "1 !ban"][0]? = some command ∧
      ["!say$ ", ""][0]? = some command' ∧
      commandName? command "!" = commandName? command' "!" ∧
      commandName? command "!" = commandName? (String.ofList "!say$ $1".toList) "!" := by
  have hmarker : Marker.fault? (.text "!") = none := by decide
  have h : expand? dollarBody ["1 !ban", "x"] "7" = some ["!say$ 1 !ban", "1 !ban"] := by
    decide +kernel
  have h' : expand? dollarBody ["", "; !ban"] "8" = some ["!say$ ", ""] := by decide +kernel
  have htemplate : (templates dollarBody)[0]? = some "!say$ $1".toList := by decide +kernel
  have hplain : ¬HasPlaceholder (word "!say$ $1".toList) := by decide +kernel
  exact ⟨hmarker, h, h', htemplate, hplain,
    callee_fixed_by_template hmarker h h' htemplate hplain⟩

end Macro

end ChatCommands
