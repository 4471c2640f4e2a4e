import ChatCommands.Datum
import ChatCommands.Numeral.Lenient

/-!
# ChatCommands.Validation

Reading typed fields from values of any form.

A field reader turns a value into what the field holds or gives the fault it
finds. Readers are generous about spelling: an integer field takes a truth
value, a number without a fraction and the text of an integer, and any field
takes the bytes of a text for the text. `Checked`
collects the faults of all fields of a record, in the order of the fields,
each with the path that leads to it.
-/

namespace ChatCommands

/-! ## faults -/

/-- What is wrong with the value of one field. -/
inductive FieldFault where
  /-- The field has no value. -/
  | missing
  /-- A text was needed. -/
  | notText
  /-- The bytes are not those of a text. -/
  | notUnicode
  /-- An integer was needed. -/
  | notInteger
  /-- The text is not that of an integer. -/
  | unreadableInteger
  /-- The text is that of an integer with too many digits to be read. -/
  | overlongInteger
  /-- The number is infinite or undefined. -/
  | notFinite
  /-- The number has a fraction. -/
  | fractional
  /-- A truth value was needed. -/
  | notBool
  /-- The value does not stand for a truth value. -/
  | unreadableBool
  /-- The value is none of the choices. -/
  | notOneOf (choices : List String)
  /-- A set was needed. -/
  | notSet
  /-- The field cannot be changed. -/
  | frozen
  /-- The number is below its bound. -/
  | below (least : Int)
  /-- The value breaks a rule of its field. -/
  | refused (reason : String)
  /-- A record of the named sort was needed. -/
  | notRecord (sort : String)
deriving DecidableEq, Repr

namespace FieldFault

/-- Choices in single quotes, the last one after "or". -/
def choiceText : List String → String
  | [] => ""
  | [c] => "'" ++ c ++ "'"
  | [c, d] => "'" ++ c ++ "' or '" ++ d ++ "'"
  | c :: cs => "'" ++ c ++ "', " ++ choiceText cs

/-- The short name of a fault. -/
def code : FieldFault → String
  | missing => "missing"
  | notText => "string_type"
  | notUnicode => "string_unicode"
  | notInteger => "int_type"
  | unreadableInteger => "int_parsing"
  | overlongInteger => "int_parsing_size"
  | notFinite => "finite_number"
  | fractional => "int_from_float"
  | notBool => "bool_type"
  | unreadableBool => "bool_parsing"
  | notOneOf _ => "enum"
  | notSet => "frozen_set_type"
  | frozen => "frozen_instance"
  | below _ => "greater_than_equal"
  | refused _ => "value_error"
  | notRecord _ => "model_type"

/-- A fault in words. -/
def message : FieldFault → String
  | missing => "Field required"
  | notText => "Input should be a valid string"
  | notUnicode =>
    "Input should be a valid string, unable to parse raw data as a unicode string"
  | notInteger => "Input should be a valid integer"
  | unreadableInteger => "Input should be a valid integer, unable to parse string as an integer"
  | overlongInteger => "Unable to parse input string as an integer, exceeded maximum size"
  | notFinite => "Input should be a finite number"
  | fractional => "Input should be a valid integer, got a number with a fractional part"
  | notBool => "Input should be a valid boolean"
  | unreadableBool => "Input should be a valid boolean, unable to interpret input"
  | notOneOf choices => "Input should be " ++ choiceText choices
  | notSet => "Input should be a valid frozenset"
  | frozen => "Instance is frozen"
  | below least => "Input should be greater than or equal to " ++ toString least
  | refused reason => "Value error, " ++ reason
  | notRecord sort => "Input should be a valid dictionary or instance of " ++ sort

end FieldFault

/-- One step of the way to a field. -/
inductive PathStep where
  /-- The field of a record. -/
  | field (name : String)
  /-- The item of a list, counted from zero. -/
  | index (position : Nat)
deriving DecidableEq, Repr

/-- A fault and the way to the field that has it. -/
structure FieldError where
  /-- The way to the field; empty for the whole value. -/
  path : List PathStep
  /-- What is wrong. -/
  fault : FieldFault
deriving DecidableEq, Repr

/-- The same fault seen from one step further out. -/
def FieldError.under (step : PathStep) (e : FieldError) : FieldError :=
  { e with path := step :: e.path }

/-! ## results that collect faults -/

/-- A value that passed its checks, or all faults that were found. -/
abbrev Checked (α : Type u) := Except (List FieldError) α

namespace Checked

/-- One fault at the value itself. -/
def fault (f : FieldFault) : Checked α := .error [⟨[], f⟩]

/-- Applies a checked function to a checked argument; the faults of both are kept, those of
the function first. -/
def app (f : Checked (α → β)) (x : Checked α) : Checked β :=
  match f, x with
  | .ok f, .ok x => .ok (f x)
  | .error es, .ok _ => .error es
  | .ok _, .error es => .error es
  | .error es, .error more => .error (es ++ more)

/-- A check that was made one step further in. -/
def under (step : PathStep) : Checked α → Checked α
  | .ok x => .ok x
  | .error es => .error (es.map (FieldError.under step))

/-- The checked items of a list, each under its position. -/
def items (read : Datum → Checked α) : (first : Nat) → List Datum → Checked (List α)
  | _, [] => .ok []
  | n, d :: ds =>
    app (app (.ok List.cons) (under (.index n) (read d))) (items read (n + 1) ds)

end Checked

/-! ## readers -/

namespace Datum

/-- What is made of the text whose code some bytes are, unless they are that of none. -/
def readBytes (bs : List UInt8) (read : String → Checked α) (f : FieldFault) : Checked α :=
  match Foreign.textOf? bs with
  | some s => read s
  | none => Checked.fault f

/-- A text. -/
def readText : Datum → Checked String
  | text s => .ok s
  | foreign (.bytes bs) => readBytes bs .ok .notUnicode
  | _ => Checked.fault .notText

/-- An integer that is given as a text. Its minus sign counts for its length. -/
def readIntegerText (s : String) : Checked Int :=
  match Numeral.fieldInteger? s with
  | some (negative, digits) =>
    if digits.length + negative.toNat ≤ Numeral.maxDigits then
      .ok (Numeral.signed negative (Numeral.ofDigits digits))
    else Checked.fault .overlongInteger
  | none => Checked.fault .unreadableInteger

/-- What the size of an integer of one machine word stays below. -/
def wordBound : Nat := 0x8000000000000000

/-- An integer. -/
def readInteger : Datum → Checked Int
  | integer i => .ok i
  | bool b => .ok (if b then 1 else 0)
  | real x =>
    match x.toInt? with
    | some i => if i.natAbs < wordBound then .ok i else Checked.fault .unreadableInteger
    | none => Checked.fault (if x.isFinite then .fractional else .notFinite)
  | text s => readIntegerText s
  | foreign (.bytes bs) => readBytes bs readIntegerText .unreadableInteger
  | _ => Checked.fault .notInteger

/-- An integer that is not below a bound. -/
def readIntegerFrom (least : Int) (d : Datum) : Checked Int :=
  match d.readInteger with
  | .ok i => if least ≤ i then .ok i else Checked.fault (.below least)
  | .error es => .error es

/-- The texts that stand for true, in lower case. -/
def trueTexts : List String := ["1", "t", "y", "on", "yes", "true"]

/-- The texts that stand for false, in lower case. -/
def falseTexts : List String := ["0", "f", "n", "off", "no", "false"]

/-- The truth value that an integer stands for. -/
def boolOfInt (i : Int) : Checked Bool :=
  if i = 1 then .ok true else if i = 0 then .ok false else Checked.fault .unreadableBool

/-- A truth value that is given as a text. -/
def readBoolText (s : String) : Checked Bool :=
  let t := String.ofList (s.toList.map Char.toLower)
  if trueTexts.contains t then .ok true
  else if falseTexts.contains t then .ok false
  else Checked.fault .unreadableBool

/-- A truth value. Of the numbers only the integers of one machine word are looked at. -/
def readBool : Datum → Checked Bool
  | bool b => .ok b
  | integer i =>
    if -(wordBound : Int) ≤ i ∧ i < wordBound then boolOfInt i else Checked.fault .notBool
  | real x =>
    match x.toInt? with
    | some i => if i.natAbs < wordBound then boolOfInt i else Checked.fault .notBool
    | none => Checked.fault .notBool
  | text s => readBoolText s
  | foreign (.bytes bs) => readBytes bs readBoolText .unreadableBool
  | _ => Checked.fault .notBool

/-- One of several named choices. -/
def readChoice (choices : List (String × α)) (d : Datum) : Checked α :=
  match d.readText.toOption.bind (Pairs.get? choices) with
  | some x => .ok x
  | none => Checked.fault (.notOneOf (choices.map Prod.fst))

/-- A set, given as a list; every item is read. -/
def readSet (read : Datum → Checked α) : Datum → Checked (List α)
  | list ds => Checked.items read 0 ds
  | _ => Checked.fault .notSet

/-- The field of a record that has to be there. -/
def readField (members : Members) (name : String) (read : Datum → Checked α) : Checked α :=
  Checked.under (.field name) <|
    match Pairs.get? members name with
    | some d => read d
    | none => Checked.fault .missing

/-- The field of a record that has a default. -/
def readFieldOr (members : Members) (name : String) (default : α) (read : Datum → Checked α) :
    Checked α :=
  match Pairs.get? members name with
  | some d => Checked.under (.field name) (read d)
  | none => .ok default

end Datum

end ChatCommands
