import ChatCommands.Numeral
import ChatCommands.Text.Split

/-!
# ChatCommands.Macro

Macro bodies. A body is a list of command templates with `;` between them;
blanks around a template are dropped, and so are templates without anything
else. In a template

* `$` and a run of digits stands for the argument of that number, counted from
  one, or for itself if there is no such argument;
* `$user` stands for the id of the invoker;
* every other character stands for itself.

A template is cut once, from left to right, and what is put in is not looked
at again.
-/

namespace ChatCommands.Macro

open ChatCommands.Text

/-! ## templates -/

/-- The templates of a body. -/
def templates (body : String) : List (List Char) :=
  ((splitAt ';' body.toList).map strip).filter fun t => !t.isEmpty

/-! ## placeholders -/

/-- A part of a template. -/
inductive Part where
  /-- `$` and a run of digits. -/
  | argument (digits : List Char)
  /-- `$user`. -/
  | invoker
  /-- A character that stands for itself. -/
  | literal (c : Char)
deriving DecidableEq, Repr

namespace Part

/-- The text that a part takes up in its template. -/
def source : Part → List Char
  | argument digits => '$' :: digits
  | invoker => ['$', 'u', 's', 'e', 'r']
  | literal c => [c]

/-- The parts of a template from behind its first `skip` characters. -/
def scan : (skip : Nat) → List Char → List Part
  | _, [] => []
  | skip + 1, _ :: cs => scan skip cs
  | 0, c :: cs =>
    let digits := cs.takeWhile Char.isDigit
    if c ≠ '$' then literal c :: scan 0 cs
    else if digits ≠ [] then argument digits :: scan digits.length cs
    else if ['u', 's', 'e', 'r'].isPrefixOf cs then invoker :: scan 4 cs
    else literal c :: scan 0 cs

theorem scan_eq_scan_drop (skip : Nat) (cs : List Char) : scan skip cs = scan 0 (cs.drop skip) := by
  induction cs generalizing skip with
  | nil => simp [scan]
  | cons c cs ih =>
    cases skip with
    | zero => rfl
    | succ skip => simpa [scan] using ih skip

/-- What is put in for a part, unless the number of an argument is too long to be read. -/
def fill? (arguments : List String) (userId : String) : Part → Option (List Char)
  | argument digits => do
    let n ← Numeral.ofDigits? digits
    match n with
    | 0 => some (source (argument digits))
    | n + 1 =>
      match arguments[n]? with
      | some a => some a.toList
      | none => some (source (argument digits))
  | invoker => some userId.toList
  | literal c => some [c]

end Part

/-! ## expansion -/

/-- The command that a template stands for. -/
def fillTemplate? (arguments : List String) (userId : String) (template : List Char) :
    Option String := do
  let parts ← (Part.scan 0 template).mapM (Part.fill? arguments userId)
  some (String.ofList parts.flatten)

/-- The commands that a body stands for. Nothing if one of its placeholders has a number that
is too long to be read. -/
def expand? (body : String) (arguments : List String) (userId : String) : Option (List String) :=
  (templates body).mapM (fillTemplate? arguments userId)

end ChatCommands.Macro
