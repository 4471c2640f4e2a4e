import ChatCommands.Document.Node
import ChatCommands.Document.Symbol

/-!
# ChatCommands.Document.Grammar

How nodes are put together from symbols, up to whole documents.

* Collections come in two forms, block and flow, and their parts may be left
  out: the key or the value of a member, and an item behind a dash.
* A node may have a name of its own, by which it is mentioned behind it and
  within it.
* A text holds one document, with markers around it if it likes, and directives
  in front of the first marker.
-/

namespace ChatCommands.Document

/-! ## putting nodes together -/

/-- The state of putting nodes together. -/
structure Composition where
  /-- The symbols that are left. -/
  symbols : List Symbol
  /-- The names of nodes. -/
  names : List String := []
  /-- What the tag handles stand for. -/
  handles : List (String × String) := standardHandles

/-- A step of putting nodes together. -/
abbrev Compose := StateT Composition (Except Fault)

namespace Compose

/-- The next symbol. -/
def next? : Compose (Option Symbol) := do return (← get).symbols.head?

/-- Fails at the next symbol: with the fault of the text, if there is one. -/
def refuse {α : Type} : Compose α := do
  match ← next? with
  | some (.fault f) => throw f
  | _ => throw .malformed

/-- Leaves the next symbol behind. -/
def skip : Compose Unit := modify fun c => { c with symbols := c.symbols.drop 1 }

/-- Leaves a symbol behind, if it is the next one, and tells whether it was. -/
def accept (symbol : Symbol) : Compose Bool := do
  if (← next?) = some symbol then
    skip
    return true
  else return false

/-- Leaves a symbol behind, which has to be the next one. -/
def expect (symbol : Symbol) : Compose Unit := do
  if ← accept symbol then return () else refuse

/-- Whether the next symbol is one of several. -/
def nextIs (symbols : List Symbol) : Compose Bool := do
  match ← next? with
  | some s => return symbols.contains s
  | none => return false

/-! ### names and tags -/

/-- The name in front of a node, if there is one. -/
def anchor? : Compose (Option String) := do
  match ← next? with
  | some (.anchor name) =>
    skip
    return some name
  | _ => return none

/-- The name of the tag in front of a node, if there is one. -/
def tag? : Compose (Option String) := do
  match ← next? with
  | some (.tag t) =>
    skip
    match t.name? (← get).handles with
    | some name => return some name
    | none => throw .malformed
  | _ => return none

/-- The name and the tag in front of a node, in any order. -/
def properties : Compose (Option String × Option String) := do
  match ← anchor? with
  | some name => return (some name, ← tag?)
  | none =>
    let tag ← tag?
    if tag.isSome then return (← anchor?, tag) else return (none, none)

/-- Gives a node a name that no node has. -/
def reserve (name : Option String) : Compose Unit := do
  match name with
  | none => return ()
  | some s =>
    if (← get).names.contains s then throw .malformed
    else modify fun c => { c with names := s :: c.names }

/-- The mention of a node by a name that one has. -/
def mentioned (name : String) : Compose Node := do
  if (← get).names.contains name then return .mention name else throw .malformed

end Compose

open Compose

/-! ## nodes -/

/-- What stands in front of a collection. -/
inductive Opening where
  /-- The items of a block sequence. -/
  | blockItems
  /-- The items of a block sequence whose dashes begin in the column of the mapping around it. -/
  | bareItems
  /-- The members of a block mapping. -/
  | blockMembers
  /-- The items of a flow sequence. -/
  | flowItems
  /-- The members of a flow mapping. -/
  | flowMembers
deriving DecidableEq, Repr

/-- The collection that the next symbol opens. Block collections are not opened within flow
collections, and one without a symbol of its own only where it is allowed. -/
def opening? (inBlock allowsBare : Bool) : Compose (Option Opening) := do
  match ← next? with
  | some .flowSequence => return some .flowItems
  | some .flowMapping => return some .flowMembers
  | some .blockSequence => return if inBlock then some .blockItems else none
  | some .blockMapping => return if inBlock then some .blockMembers else none
  | some .entry => return if allowsBare then some .bareItems else none
  | _ => return none

mutual

/-- A node. -/
def node (inBlock allowsBare : Bool) : (fuel : Nat) → Compose Node
  | 0 => refuse
  | fuel + 1 => do
    match ← next? with
    | some (.mention name) =>
      skip
      mentioned name
    | _ =>
      let (name, tag) ← properties
      match ← opening? inBlock allowsBare with
      | some opening =>
        reserve name
        return .withName name (← collection opening tag fuel)
      | none =>
        let n ← match ← next? with
          | some (.scalar text isPlain) => do
            skip
            pure (.scalar tag text isPlain)
          | _ => if name.isSome || tag.isSome then pure (.scalar tag "" true) else refuse
        reserve name
        return .withName name n

/-- A collection with a tag, from the symbol on that opens it. -/
def collection : Opening → (tag : Option String) → (fuel : Nat) → Compose Node
  | _, _, 0 => refuse
  | .blockItems, tag, fuel + 1 => do
    skip
    let items ← blockItems false fuel []
    expect .blockEnd
    return .sequence tag items
  | .bareItems, tag, fuel + 1 => do return .sequence tag (← blockItems true fuel [])
  | .blockMembers, tag, fuel + 1 => do
    skip
    let entries ← blockMembers fuel []
    expect .blockEnd
    return .mapping tag entries
  | .flowItems, tag, fuel + 1 => do
    skip
    return .sequence tag (← flowItems fuel true [])
  | .flowMembers, tag, fuel + 1 => do
    skip
    return .mapping tag (← flowMembers fuel true [])

/-- A node, which is left out if one of some symbols comes next. -/
def optionalNode (inBlock allowsBare : Bool) (ends : List Symbol) :
    (fuel : Nat) → Compose Node
  | 0 => refuse
  | fuel + 1 => do
    if ← nextIs ends then return .empty else node inBlock allowsBare fuel

/-- The items of a block sequence, behind some. -/
def blockItems (isBare : Bool) : (fuel : Nat) → List Node → Compose (List Node)
  | 0, _ => refuse
  | fuel + 1, acc => do
    if ← accept .entry then
      let ends : List Symbol := if isBare then [.entry, .key, .value, .blockEnd]
        else [.entry, .blockEnd]
      let item ← optionalNode true false ends fuel
      blockItems isBare fuel (item :: acc)
    else return acc.reverse

/-- The members of a block mapping, behind some. -/
def blockMembers : (fuel : Nat) → List (Node × Node) → Compose (List (Node × Node))
  | 0, _ => refuse
  | fuel + 1, acc => do
    if ← accept .key then
      let ends : List Symbol := [.key, .value, .blockEnd]
      let key ← optionalNode true true ends fuel
      let value ← if ← accept .value then optionalNode true true ends fuel else pure .empty
      blockMembers fuel ((key, value) :: acc)
    else return acc.reverse

/-- A key of a flow collection and its value, behind the symbol in front of the key. -/
def flowMember (last : Symbol) : (fuel : Nat) → Compose (Node × Node)
  | 0 => refuse
  | fuel + 1 => do
    let key ← optionalNode false false [.value, .separator, last] fuel
    let value ← if ← accept .value then optionalNode false false [.separator, last] fuel
      else pure .empty
    return (key, value)

/-- The items of a flow sequence, behind some, to its end. An item may be a single member of a
mapping. -/
def flowItems : (fuel : Nat) → (isFirst : Bool) → List Node → Compose (List Node)
  | 0, _, _ => refuse
  | fuel + 1, isFirst, acc => do
    if ← accept .flowSequenceEnd then return acc.reverse
    else
      if !isFirst then expect .separator
      if ← accept .key then
        let entry ← flowMember .flowSequenceEnd fuel
        flowItems fuel false (.mapping none [entry] :: acc)
      else if ← accept .flowSequenceEnd then return acc.reverse
      else
        let item ← node false false fuel
        flowItems fuel false (item :: acc)

/-- The members of a flow mapping, behind some, to its end. A key may stand alone. -/
def flowMembers : (fuel : Nat) → (isFirst : Bool) → List (Node × Node) →
    Compose (List (Node × Node))
  | 0, _, _ => refuse
  | fuel + 1, isFirst, acc => do
    if ← accept .flowMappingEnd then return acc.reverse
    else
      if !isFirst then expect .separator
      if ← accept .key then
        let entry ← flowMember .flowMappingEnd fuel
        flowMembers fuel false (entry :: acc)
      else if ← accept .flowMappingEnd then return acc.reverse
      else
        let key ← node false false fuel
        flowMembers fuel false ((key, .empty) :: acc)

end

/-! ## documents -/

/-- The version of the language that documents are written in. -/
def majorVersion : Nat := 1

/-- The directives in front of a document: at most one gives the version, which has to be the
right one, and at most one each handle. -/
def directives (hasVersion : Bool) (handles : List (String × String)) :
    List Symbol → Except Fault (List (String × String) × List Symbol)
  | .directive d :: symbols =>
    match d with
    | .version major =>
      if hasVersion || major != majorVersion then malformed else directives true handles symbols
    | .handle h name =>
      if (handles.lookup h).isSome then malformed
      else directives hasVersion ((h, name) :: handles) symbols
    | .other => directives hasVersion handles symbols
  | symbols => .ok (handles, symbols)

/-- The root of a document, behind its directives and the marker in front of it. -/
def root (fuel : Nat) : Compose Node := do
  match ← next? with
  | some (.directive _) => return .empty
  | some .documentStart => return .empty
  | some .documentEnd => return .empty
  | none => return .empty
  | _ => node true false fuel

/-- A whole document and nothing behind it but markers for its end. -/
def document (fuel : Nat) : Compose Node := do
  let marked ← match ← next? with
    | some (.directive _) => pure true
    | some .documentStart => pure true
    | _ => pure false
  if marked then
    let (handles, symbols) ← directives false [] (← get).symbols
    modify fun c => { c with symbols := symbols, handles := handles ++ standardHandles }
    expect .documentStart
  let n ← if marked || (← next?).isNone then root fuel else node true false fuel
  modify fun c => { c with symbols := c.symbols.dropWhile (· = .documentEnd) }
  match ← next? with
  | none => return n
  | some _ => refuse

/-- The root of a document. Every symbol takes at most three steps, one for the entry that it is
in, one for the node and one for its collection. -/
def compose (text : String) : Except Fault Node := do
  let cs := withLineFeeds text.toList
  if !cs.all isAllowed then malformed
  else
    let symbols ← symbolsOf cs
    (document (4 * symbols.length + 4)).run' { symbols := symbols }

end ChatCommands.Document
