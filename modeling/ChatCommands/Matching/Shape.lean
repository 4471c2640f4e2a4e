import ChatCommands.Argument
import ChatCommands.Directory
import ChatCommands.Numeral

/-!
# ChatCommands.Matching.Shape

The shape of a token decides which kinds of parameters take it:

| shape                      | kinds                                  |
|----------------------------|----------------------------------------|
| integer, `-7`              | long, double, user (as an id), string  |
| decimal, `2.50`            | double, string                         |
| user mention, `<@!42>`     | user                                   |
| channel mention, `<#42>`   | channel                                |
| anything else              | user (as a name), string               |

No shape suits a truth value. The shapes are tried in this order, which only
matters for integers, as they are decimals too. An integer outside the 64-bit
range, or with too many digits to be read, is a fault whatever the kind.
-/

namespace ChatCommands

/-! ## recognising shapes -/

/-- The sign and the digits of an integer. -/
def integerParts? (cs : List Char) : Option (Bool × List Char) :=
  let (negative, digits) := Numeral.cutMinus cs
  if Numeral.isDigitRun digits then some (negative, digits) else none

/-- The sign, the whole part and the fraction of a decimal. The whole part has no leading zero,
and the fraction may be missing with its point. -/
def decimalParts? (cs : List Char) : Option (Bool × List Char × List Char) :=
  let (negative, rest) := Numeral.cutMinus cs
  let whole := rest.takeWhile Char.isDigit
  if whole = ['0'] ∨ (whole ≠ [] ∧ whole.head? ≠ some '0') then
    match rest.dropWhile Char.isDigit with
    | [] => some (negative, whole, [])
    | '.' :: fraction =>
      if Numeral.isDigitRun fraction then some (negative, whole, fraction) else none
    | _ => none
  else none

/-- The id in a mention with a certain sigil: `<`, the sigil, perhaps `!`, digits and `>`. -/
def mentionedId? (sigil : Char) : List Char → Option (List Char)
  | '<' :: c :: rest =>
    let body :=
      match rest with
      | '!' :: body => body
      | body => body
    let digits := body.takeWhile Char.isDigit
    if c = sigil ∧ digits ≠ [] ∧ body.dropWhile Char.isDigit = ['>'] then some digits else none
  | _ => none

/-- The shape of a token. -/
inductive Shape where
  /-- An integer. -/
  | integer (negative : Bool) (digits : List Char)
  /-- A number with a fraction. -/
  | decimal (negative : Bool) (whole fraction : List Char)
  /-- A mention of a user. -/
  | userMention (id : List Char)
  /-- A mention of a channel. -/
  | channelMention (id : List Char)
  /-- Anything else. -/
  | plain
deriving DecidableEq, Repr

/-- The shape of a token. -/
def Shape.of (token : List Char) : Shape :=
  match integerParts? token with
  | some (negative, digits) => .integer negative digits
  | none =>
    match decimalParts? token with
    | some (negative, whole, fraction) => .decimal negative whole fraction
    | none =>
      match mentionedId? '@' token with
      | some id => .userMention id
      | none =>
        match mentionedId? '#' token with
        | some id => .channelMention id
        | none => .plain

/-! ## offering a token to a parameter -/

/-- Where the value of an accepted token comes from. -/
inductive Source where
  /-- From the token itself. -/
  | given (value : Value)
  /-- From the directory, by the id of a user. -/
  | userById (id : String)
  /-- From the directory, by the name of a user. -/
  | userByName (name : String)
  /-- From the directory, by the id of a channel. -/
  | channelById (id : String)
deriving DecidableEq, Repr

namespace Source

/-- The value; of several users with a name the first is meant. -/
def value (directory : Directory) (server : Server) : Source → Value
  | given v => v
  | userById id => .user (directory.userById server id)
  | userByName name => .user (directory.usersByName server name).head?
  | channelById id => .channel (directory.channelById server id)

/-- The questions that the value takes. -/
def lookups (server : Server) : Source → List Lookup
  | given _ => []
  | userById id => [.userById server id]
  | userByName name => [.usersByName server name]
  | channelById id => [.channelById server id]

end Source

/-- What a parameter says to a token. -/
inductive Offer where
  /-- It takes the token. -/
  | accepted (source : Source)
  /-- It does not take tokens of that shape. -/
  | refused
  /-- The token is an integer outside the 64-bit range. -/
  | outOfRange
  /-- The token is an integer with too many digits to be read. -/
  | overlong
deriving DecidableEq, Repr

namespace Offer

/-- Whether an integer fits into 64 bits with a sign. -/
def isLong (i : Int) : Bool := -9223372036854775808 ≤ i && i ≤ 9223372036854775807

/-- What a kind of parameter says to an integer. -/
def ofInteger (kind : Kind) (token : String) (i : Int) : Offer :=
  match kind with
  | .long => accepted (.given (.long i))
  | .double => accepted (.given (.double (Binary64.ofInt i)))
  | .user => accepted (.userById token)
  | .string => accepted (.given (.string token))
  | _ => refused

/-- What a kind of parameter says to a token of a certain shape. -/
def ofShape (kind : Kind) (token : String) : Shape → Offer
  | .integer negative digits =>
    match Numeral.ofDigits? digits with
    | none => overlong
    | some n =>
      let i := Numeral.signed negative n
      if isLong i then ofInteger kind token i else outOfRange
  | .decimal negative whole fraction =>
    match kind with
    | .double =>
      accepted (.given (.double (Binary64.ofDecimal negative
        (Numeral.ofDigits (whole ++ fraction)) (-fraction.length))))
    | .string => accepted (.given (.string token))
    | _ => refused
  | .userMention id =>
    match kind with
    | .user => accepted (.userById (String.ofList id))
    | _ => refused
  | .channelMention id =>
    match kind with
    | .channel => accepted (.channelById (String.ofList id))
    | _ => refused
  | .plain =>
    match kind with
    | .user => accepted (.userByName token)
    | .string => accepted (.given (.string token))
    | _ => refused

end Offer

/-- What a kind of parameter says to a token. -/
def Kind.offer (kind : Kind) (token : String) : Offer :=
  Offer.ofShape kind token (Shape.of token.toList)

end ChatCommands
