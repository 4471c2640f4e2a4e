import ChatCommands.Document.Scalar

/-!
# ChatCommands.Document.Tag

Tags name what a node is to stand for. A tag is written in full between `!<` and `>`,
or behind a handle that stands for the beginning of its name; `!` alone asks
for the kind that a plain scalar would have. Directives in front of a document
may set what the handles stand for.
-/

namespace ChatCommands.Document

/-! ## tags -/

/-- A tag as it is written. -/
structure Tag where
  /-- The handle, unless the tag is written in full. -/
  handle : Option String
  /-- What stands behind the handle. -/
  suffix : String
deriving DecidableEq, Repr

/-- The tag that asks for the kind of a plain scalar. -/
def Tag.plain : String := "!"

/-- What the names of all standard tags begin with. -/
def standardTags : String := "tag:yaml.org,2002:"

/-- What the handles stand for if no directive says otherwise. -/
def standardHandles : List (String × String) := [("!", "!"), ("!!", standardTags)]

/-- The name of a tag; there is none if its handle stands for nothing. -/
def Tag.name? (handles : List (String × String)) (t : Tag) : Option String :=
  match t.handle with
  | none => some t.suffix
  | some h => (Pairs.get? handles h).map (· ++ t.suffix)

/-- The tags that give a scalar its kind, behind what they all begin with. -/
def scalarTags : List (String × ScalarKind) :=
  [("null", .null), ("bool", .bool), ("int", .integer), ("float", .real), ("timestamp", .moment),
   ("binary", .binary), ("str", .text), ("merge", .merge), ("value", .standIn)]

/-- What a collection may stand for. -/
inductive CollectionKind where
  /-- A list of its items. -/
  | list
  /-- A record of its entries. -/
  | record
  /-- A set of its keys. -/
  | set
  /-- A list of pairs. -/
  | pairs
deriving DecidableEq, Repr

/-- The tags that give a collection its kind, behind what they all begin with. -/
def collectionTags : List (String × CollectionKind) :=
  [("seq", .list), ("map", .record), ("set", .set), ("omap", .pairs), ("pairs", .pairs)]

/-- What a node is to stand for. -/
inductive NodeKind where
  /-- What a scalar may stand for. -/
  | scalar (kind : ScalarKind)
  /-- What a collection may stand for. -/
  | collection (kind : CollectionKind)
  /-- Something that no tag is known for. -/
  | unknown
deriving DecidableEq, Repr

/-- What a tag asks for. -/
def NodeKind.ofTag (tag : String) : NodeKind :=
  match scalarTags.find? fun p => standardTags ++ p.1 == tag with
  | some p => .scalar p.2
  | none =>
    match collectionTags.find? fun p => standardTags ++ p.1 == tag with
    | some p => .collection p.2
    | none => .unknown

/-! ## reading tags -/

/-- Whether a character may be in the name of a tag. -/
def isTagChar (c : Char) : Bool :=
  c.isAlphanum || "-;/?:@&=+$,_.!~*'()[]%".toList.contains c

/-- A part of a tag's name with its escapes resolved. An escape, a percent sign in front of two
hexadecimal digits, is a byte; the bytes of escapes in a row, of which `bytes` were read already,
are characters together. -/
def unescaped (bytes : List UInt8) : List Char → Except Fault String
  | '%' :: c :: d :: cs =>
    if isHexDigit c && isHexDigit d then unescaped (bytes ++ [UInt8.ofNat (ofBase 16 [c, d])]) cs
    else malformed
  | '%' :: _ => malformed
  | cs =>
    match Foreign.textOf? bytes, cs with
    | none, _ => malformed
    | some s, [] => .ok s
    | some s, c :: cs => (unescaped [] cs).map fun rest => s ++ String.singleton c ++ rest

/-- The part of a tag's name that a text begins with, which is not empty, and the rest. -/
def tagName (cs : List Char) : Except Fault (String × List Char) := do
  let name := cs.takeWhile isTagChar
  if name.isEmpty then malformed else .ok (← unescaped [] name, cs.dropWhile isTagChar)

/-- The handle that a text begins with, and the rest: name characters between two exclamation
marks. In front of a space one mark will do. -/
def tagHandle : List Char → Except Fault (String × List Char)
  | '!' :: cs =>
    if cs.head? = some ' ' then .ok ("!", cs)
    else
      let name := cs.takeWhile isNameChar
      match cs.dropWhile isNameChar with
      | '!' :: rest => .ok (String.ofList ('!' :: name ++ ['!']), rest)
      | _ => malformed
  | _ => malformed

/-- Whether a text is at a space or at the end of a line. -/
def atSpace (cs : List Char) : Bool := cs.head? == some ' ' || atLineEnd cs

/-- Whether a tag, from behind its first exclamation mark, has another one in its first word. -/
def hasHandle (cs : List Char) : Bool :=
  (cs.takeWhile fun c => !(c == ' ' || isBreak c)).contains '!'

/-- A tag, from behind its exclamation mark. -/
def readTag (cs : List Char) : Except Fault (Tag × List Char) := do
  let (tag, rest) ←
    if atGap cs then .ok (⟨none, Tag.plain⟩, cs)
    else match cs with
      | '<' :: more => do
        let (name, rest) ← tagName more
        if rest.head? = some '>' then .ok (⟨none, name⟩, rest.drop 1) else malformed
      | _ => do
        let (handle, rest) ← if hasHandle cs then tagHandle ('!' :: cs) else .ok ("!", cs)
        let (suffix, rest) ← tagName rest
        .ok (⟨some handle, suffix⟩, rest)
  if atSpace rest then .ok (tag, rest) else malformed

/-! ## directives -/

/-- What a directive in front of a document says. -/
inductive Directive where
  /-- The version of the language. -/
  | version (major : Nat)
  /-- What a tag handle stands for. -/
  | handle (handle name : String)
  /-- Nothing that matters. -/
  | other
deriving DecidableEq, Repr

/-- A version, which has two numbers; the first of them, and the rest of the text. -/
def readVersion (cs : List Char) : Except Fault (Directive × List Char) :=
  let major := cs.takeWhile Char.isDigit
  match cs.dropWhile Char.isDigit with
  | '.' :: more =>
    let minor := more.takeWhile Char.isDigit
    let rest := more.dropWhile Char.isDigit
    if major.isEmpty || minor.isEmpty || !atSpace rest then malformed
    else .ok (.version (Numeral.ofDigits major), rest)
  | _ => malformed

/-- A handle and what it stands for, and the rest of the text. -/
def readHandle (cs : List Char) : Except Fault (Directive × List Char) := do
  let (handle, rest) ← tagHandle cs
  if rest.head? = some ' ' then
    let (name, rest) ← tagName (rest.dropWhile (· = ' '))
    if atSpace rest then .ok (.handle handle name, rest) else malformed
  else malformed

/-- A directive, from behind its percent sign, and the rest of the text from the next line on. -/
def readDirective (cs : List Char) : Except Fault (Directive × List Char) := do
  let name := String.ofList (cs.takeWhile isNameChar)
  let rest := cs.dropWhile isNameChar
  let body := rest.dropWhile (· = ' ')
  if name = "" || !atSpace rest then malformed
  else
    let (directive, rest) ←
      if name = "YAML" then readVersion body
      else if name = "TAG" then readHandle body
      else .ok (.other, rest.dropWhile fun c => !isBreak c)
    let rest ← endOfLine rest
    .ok (directive, rest)

end ChatCommands.Document
