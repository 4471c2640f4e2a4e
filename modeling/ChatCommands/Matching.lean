import ChatCommands.Failure
import ChatCommands.Matching.Shape
import ChatCommands.Schema
import ChatCommands.Token

/-!
# ChatCommands.Matching

Binding the tokens of an invocation to the parameters of a command.

Tokens and parameters are walked together. A token is offered to the current
parameter; if that takes it, both move on. If it does not, an optional
parameter is passed over and the token offered to the next one, and a required
parameter ends the walk with a fault. Tokens that are left over when the
parameters run out are surplus and ignored. At the end the number of bound
arguments must reach the number of required parameters.
-/

namespace ChatCommands

/-! ## faults -/

/-- A range of argument counts: `3`, `2 or 3` or `2..5`. -/
def describeArity (minimum maximum : Int) : String :=
  if minimum = maximum then toString maximum
  else if maximum - minimum = 1 then toString minimum ++ " or " ++ toString maximum
  else toString minimum ++ ".." ++ toString maximum

/-- Why tokens do not fit a command; the invoker is told. -/
inductive ParseFault where
  /-- A required parameter does not take the token. -/
  | badType (parameter : Parameter)
  /-- An integer outside the 64-bit range was offered to the named parameter. -/
  | outOfRange (name : String)
  /-- Fewer arguments were bound than are required. -/
  | tooFew (minimum maximum given : Nat)
deriving DecidableEq, Repr

namespace ParseFault

/-- A fault in words. -/
def message : ParseFault → String
  | badType p =>
    "Bad argument type for non-optional parameter " ++ p.name ++ ", I expected " ++ p.kind.title
  | outOfRange name =>
    "Bad argument format for long integer parameter " ++ name ++ ", value is out of range"
  | tooFew minimum maximum given =>
    "Not enough arguments. I expected " ++ describeArity minimum maximum ++
      " but you gave " ++ toString given ++ "."

/-- A fault as an error. -/
def failure (f : ParseFault) : Failure :=
  match f with
  | badType p => Failure.make .parsing f.message (.text p.name) []
  | outOfRange name => Failure.make .parsing f.message (.text name) []
  | tooFew minimum maximum given =>
    Failure.make .parsing f.message .null
      [("expected", .text (describeArity minimum maximum)), ("given", .integer given)]

end ParseFault

/-- Why a match failed. -/
inductive MatchFault where
  /-- The tokens do not fit the command. -/
  | parse (fault : ParseFault)
  /-- An integer has too many digits to be read. -/
  | overlongNumeral
deriving DecidableEq, Repr

/-! ## the walk -/

/-- What a walk over tokens and parameters has done. -/
structure Alignment where
  /-- The bound arguments, in order. -/
  bound : List Argument
  /-- The questions asked, in order. -/
  lookups : List Lookup
  /-- The tokens that were not bound. -/
  surplus : List String
  /-- The fault that ended the walk. -/
  fault : Option MatchFault
deriving DecidableEq, Repr

namespace Alignment

/-- A walk that a fault ended before anything was bound. -/
def stopped (fault : MatchFault) : Alignment := ⟨[], [], [], some fault⟩

/-- A walk behind a first bound argument. -/
def bind (argument : Argument) (lookups : List Lookup) (a : Alignment) : Alignment :=
  { a with bound := argument :: a.bound, lookups := lookups ++ a.lookups }

end Alignment

/-- Walks over tokens and parameters. -/
def align (directory : Directory) (server : Server) : List String → List Parameter → Alignment
  | [], _ => ⟨[], [], [], none⟩
  | t :: ts, [] => ⟨[], [], t :: ts, none⟩
  | t :: ts, p :: ps =>
    match p.kind.offer t with
    | .accepted source =>
      Alignment.bind ⟨p.name, source.value directory server⟩ (source.lookups server)
        (align directory server ts ps)
    | .refused =>
      if p.optional then align directory server (t :: ts) ps
      else .stopped (.parse (.badType p))
    | .outOfRange => .stopped (.parse (.outOfRange p.name))
    | .overlong => .stopped .overlongNumeral

/-! ## matching -/

/-- The outcome of a match. -/
structure MatchOutcome where
  /-- The arguments, or why there are none. -/
  result : Except MatchFault Bag
  /-- The questions asked, in order. -/
  lookups : List Lookup
  /-- The number of tokens that a successful match ignored. -/
  surplus : Nat

namespace MatchOutcome

/-- An outcome that asked nothing. -/
def ofBag (bag : Bag) : MatchOutcome := ⟨.ok bag, [], 0⟩

end MatchOutcome

/-- Matches tokens to parameters. -/
def matchTokens (directory : Directory) (server : Server) (tokens : List String)
    (parameters : List Parameter) : MatchOutcome :=
  let a := align directory server tokens parameters
  let bag := Bag.ofArguments a.bound
  let required := Schema.requiredCount parameters
  match a.fault with
  | some f => ⟨.error f, a.lookups, 0⟩
  | none =>
    if bag.size < required then
      ⟨.error (.parse (.tooFew required parameters.length bag.size)), a.lookups, 0⟩
    else ⟨.ok bag, a.lookups, a.surplus.length⟩

/-- The name under which a raw argument is bound. -/
def rawName : String := "raw"

/-- Matches a text whose arguments are not cut: everything behind the head and one separator
is one text. A text that ends with its head has no argument. -/
def matchRaw (name text marker : String) : Bag :=
  let offset := marker.length + name.length + 1
  if text.length < offset then .empty
  else Bag.ofArguments [⟨rawName, .string (String.ofList (text.toList.drop offset))⟩]

/-- Matches the text of a command, marker and name included. -/
def matchText {τ : Type} (directory : Directory) (server : Server) (schema : Schema τ)
    (text marker : String) : MatchOutcome :=
  if schema.raw then .ofBag (matchRaw schema.name text marker)
  else matchTokens directory server (Token.arguments text) schema.parameters

end ChatCommands
