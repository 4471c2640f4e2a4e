/-!
# ChatCommands.Document.Node

The nodes of a document, as they are written. A node may have a name, by which
it is mentioned behind it and within it.
-/

namespace ChatCommands.Document

/-- A node of a document. Tags are given by their names. -/
inductive Node where
  /-- A scalar, plain or in some quotes. -/
  | scalar (tag : Option String) (text : String) (isPlain : Bool)
  /-- A sequence of items. -/
  | sequence (tag : Option String) (items : List Node)
  /-- A mapping, by its keys and their values. -/
  | mapping (tag : Option String) (entries : List (Node × Node))
  /-- A node with a name. -/
  | named (name : String) (node : Node)
  /-- The mention of the node that has a name. -/
  | mention (name : String)
deriving Repr

namespace Node

/-- A node that is left out. -/
def empty : Node := scalar none "" true

/-- A node with a name, if there is one for it. -/
def withName (name : Option String) (n : Node) : Node :=
  match name with
  | some s => named s n
  | none => n

mutual

/-- Whether a name is mentioned in a node. -/
def mentions (name : String) : Node → Bool
  | scalar .. => false
  | sequence _ items => itemsMention name items
  | mapping _ entries => entriesMention name entries
  | named _ n => n.mentions name
  | mention other => other == name

/-- Whether a name is mentioned in one of some items. -/
def itemsMention (name : String) : List Node → Bool
  | [] => false
  | n :: ns => n.mentions name || itemsMention name ns

/-- Whether a name is mentioned in the key or the value of one of some entries. -/
def entriesMention (name : String) : List (Node × Node) → Bool
  | [] => false
  | (key, value) :: es => key.mentions name || value.mentions name || entriesMention name es

end

end Node

end ChatCommands.Document
