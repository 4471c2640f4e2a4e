import ChatCommands.Numeral
import ChatCommands.Template
import ChatCommands.Template.Conversion

/-!
# ChatCommands.Template.Fill

Filling the slots of a template from left to right. What goes wrong first is
what is reported.

* `fill` fills it with a list of arguments. Every slot takes one argument, and
  one more for each star; in the end none may be left over.
* `fillNamed` fills it with named values. A slot with a name has the value of
  that name as its only argument; the first slot without a name, if it comes
  before those, has all of them as one.
-/

namespace ChatCommands

/-- What slots take their values from. -/
structure Supply where
  /-- The arguments that are left, the next one first. -/
  pending : List Datum
  /-- The values that can be asked for by name, if any can. -/
  named : Option Members
deriving Repr

namespace Supply

/-- A list of arguments. -/
def ofList (args : List Datum) : Supply := ⟨args, none⟩

/-- Named values. -/
def ofMembers (members : Members) : Supply := ⟨[.record members], some members⟩

/-- The next argument. -/
def next (s : Supply) : Except TemplateFault (Datum × Supply) :=
  match s.pending with
  | [] => .error .tooFew
  | d :: ds => .ok (d, { s with pending := ds })

/-- The value of a name as the only argument. -/
def choose (s : Supply) (name : List Char) : Except TemplateFault Supply :=
  match s.named with
  | none => .error .named
  | some members =>
    match Pairs.get? members (String.ofList name) with
    | none => .error .absent
    | some d => .ok { s with pending := [d] }

/-- Whether arguments have been given in vain; named values need not be used. -/
def isLeftOver (s : Supply) : Bool := s.named.isNone && !s.pending.isEmpty

end Supply

namespace Template

/-- The greatest width. -/
def maxWidth : Nat := 0x7fffffffffffffff

/-- The greatest precision. -/
def maxPrecision : Nat := 0x7fffffff

/-- The number that a width or a precision stands for. -/
def extent? (greatest : Nat) (s : Supply) :
    Option Extent → Except TemplateFault (Option Int × Supply)
  | none => .ok (none, s)
  | some (.given digits) =>
    let n := Numeral.ofDigits digits
    if n ≤ greatest then .ok (some n, s) else .error .excessive
  | some .argument => do
    let (d, s) ← s.next
    let i ← Conversion.integer? d
    if i.natAbs ≤ greatest then .ok (some i, s) else .error .outOfRange

/-- Fills a slot. A negative width turns the value to the left; a negative precision is zero. -/
def fillSlot (slot : Slot) (s : Supply) : Except TemplateFault (List Char × Supply) := do
  let s ← match slot.name with
    | none => .ok s
    | some name => s.choose name
  let (width, s) ← extent? maxWidth s slot.width
  let (precision, s) ← extent? maxPrecision s slot.precision
  match slot.conversion with
  | none => .error .incomplete
  | some letter =>
    let (d, s) ← s.next
    match Conversion.ofLetter? letter with
    | none => .error (.unknownConversion letter)
    | some conversion =>
      let c ← conversion.apply slot.flags (precision.map Int.toNat) d
      let flags := if width.getD 0 < 0 then '-' :: slot.flags else slot.flags
      Conversion.limited (width.getD 0).natAbs
      .ok (c.padded flags (width.getD 0).natAbs, s)

/-- Fills the parts of a template. -/
def fillParts : List TemplatePart → Supply → Except TemplateFault (List Char)
  | [], s => if s.isLeftOver then .error .tooMany else .ok []
  | .char c :: ps, s => (fillParts ps s).map (c :: ·)
  | .slot slot :: ps, s =>
    match fillSlot slot s with
    | .error f => .error f
    | .ok (cs, rest) => (fillParts ps rest).map (cs ++ ·)

/-- Fills a template with arguments. -/
def fill (template : String) (args : List Datum) : Except TemplateFault String :=
  (fillParts (parts template.toList) (.ofList args)).map String.ofList

/-- Fills a template with named values. -/
def fillNamed (template : String) (members : Members) : Except TemplateFault String :=
  (fillParts (parts template.toList) (.ofMembers members)).map String.ofList

end Template

end ChatCommands
