import ChatCommands.Document.Grammar

/-!
# ChatCommands.Document.Construction

What the nodes of a document stand for.

1. The tag of a node says what it is made into, and what the node is written as
   whether that can be done. Without a tag, that decides both.
2. A document may have several faults. Of the faults that are least deeply
   nested the first one is reported, so that for every depth the first fault
   there is kept.
3. A mapping has the entries that it takes over from others by the key `<<` in
   front of its own. Of its members those are kept whose keys are texts, as no
   others can be asked for; of two with the same key the last one counts.
4. A mention stands for what its node has come to. A node that is mentioned
   within itself has no end; it is unfolded so far that its outer parts are
   right (`unfoldings`).

Sets and lists of pairs are lists here, as nothing that reads settings tells
them apart.
-/

namespace ChatCommands.Document

/-! ## faults by depth -/

/-- The first fault at every depth, from a certain depth on. -/
abbrev Faults := List (Option Fault)

namespace Faults

/-- A single fault. -/
def one (f : Fault) : Faults := [some f]

/-- The first faults of two nodes side by side. -/
def both : Faults → Faults → Faults
  | [], gs => gs
  | fs, [] => fs
  | f :: fs, g :: gs => f.or g :: both fs gs

/-- The faults of what is within a node, the first one of several nodes first, seen from the
node. -/
def within (fs : List Faults) : Faults := none :: fs.foldr both []

/-- The fault that is reported. -/
def first? (fs : Faults) : Option Fault := fs.findSome? id

end Faults

/-! ## nodes and what they are written as -/

/-- An entry of a mapping. -/
structure Entry where
  /-- Its key. -/
  key : Datum
  /-- Its value. -/
  value : Datum
  /-- The faults of both. -/
  faults : Faults

/-- What a node has come to. -/
structure Built where
  /-- What it stands for. -/
  value : Datum
  /-- Its own fault and those within it. -/
  faults : Faults
  /-- What it was made into. -/
  kind : NodeKind
  /-- The text that the tags of scalars go by, if there is one. -/
  text? : Option String
  /-- The entries that another mapping takes over from it. There are none to be had from a
  scalar. -/
  taken? : Option (List Entry)
  /-- Whether it is written as a mapping. -/
  isMapping : Bool
  /-- The pair that it is among others, and the faults of the pair, if it is written as a mapping
  with one entry. -/
  pair? : Option (Datum × Faults)

/-- What a node is written as. -/
inductive Form where
  /-- A scalar, plain or in some quotes. -/
  | scalar (text : String) (isPlain : Bool)
  /-- A sequence of items. -/
  | sequence (items : List Built)
  /-- A mapping, by its keys and their values. -/
  | mapping (entries : List (Built × Built))

namespace Built

/-- What a key is in a mapping, and its faults. Collections are no keys, and `=` is the text that
it is written as. -/
def asKey (b : Built) : Datum × Faults :=
  if b.kind = .scalar .standIn then
    match b.text? with
    | some s => (.text s, [])
    | none => (.null, Faults.one .malformed)
  else
    match b.value with
    | .list _ => (.null, Faults.one .malformed)
    | .record _ => (.null, Faults.one .malformed)
    | d => (d, b.faults)

/-- An entry with a key and a value. -/
def entry (key value : Built) : Entry :=
  ⟨key.asKey.1, value.value, Faults.both key.asKey.2 value.faults⟩

/-- Whether a key is the one by which entries are taken over. -/
def isMerge (key : Built) : Bool := key.kind = .scalar .merge

/-- A node without its faults. -/
def quiet (b : Built) : Built :=
  { b with
    faults := []
    taken? := b.taken?.map fun es => es.map fun e => { e with faults := [] }
    pair? := b.pair?.map fun p => (p.1, []) }

end Built

/-- The members of a record, of which those with the same name count once. -/
def Entry.members (es : List Entry) : Members :=
  es.foldl (fun ms e =>
    match e.key.text? with
    | some name => Pairs.set ms name e.value
    | none => ms) []

namespace Form

/-- What a node is made into without a tag. Only plain scalars go by what they look like, unless
they are `asPlain`. -/
def ownKind (asPlain : Bool) : Form → NodeKind
  | scalar text isPlain => .scalar (if isPlain || asPlain then .ofPlain text else .text)
  | sequence _ => .collection .list
  | mapping _ => .collection .record

/-- What a node with a tag is made into, or one without. -/
def kind (tag : Option String) (f : Form) : NodeKind :=
  match tag with
  | none => f.ownKind false
  | some t => if t = Tag.plain then f.ownKind true else .ofTag t

/-- The text that the tags of scalars go by: that of a scalar, or in a mapping that of the value
behind the key `=`. -/
def text? : Form → Option String
  | scalar text _ => some text
  | sequence _ => none
  | mapping entries => (entries.find? fun e => e.1.kind = .scalar .standIn).bind (·.2.text?)

/-- The entries of a mapping behind those that it takes over from others; there are none if one of
the others is no collection of mappings. -/
def entries? (entries : List (Built × Built)) : Option (List Entry) := do
  let taken ← (entries.filter fun e => e.1.isMerge).mapM fun e => e.2.taken?
  some (taken.flatten ++ (entries.filter fun e => !e.1.isMerge).map fun e => e.1.entry e.2)

/-- The entries that another mapping takes over. Of the mappings in a sequence the first one
counts most, so it comes last. -/
def taken? : Form → Option (List Entry)
  | scalar _ _ => none
  | sequence items =>
    if items.all Built.isMapping then
      (items.mapM Built.taken?).map fun es => es.reverse.flatten
    else none
  | mapping entries => entries? entries

/-- Whether it is a mapping. -/
def isMapping : Form → Bool
  | mapping _ => true
  | _ => false

/-- The pair that a mapping with one entry is. -/
def pair? : Form → Option (Datum × Faults)
  | mapping [(key, value)] => some (.list [key.value, value.value], key.faults.both value.faults)
  | _ => none

/-! ## making values -/

/-- A collection without parts. -/
def blank : CollectionKind → Datum
  | .record => .record []
  | _ => .list []

/-- A mapping is made into something from its entries. -/
def ofEntries (entries : List (Built × Built)) (make : List Entry → Datum) : Datum × Faults :=
  match entries? entries with
  | some es => (make es, Faults.within (es.map Entry.faults))
  | none => (make [], Faults.within [Faults.one .malformed])

/-- What a node is made into. -/
def make : NodeKind → Form → Datum × Faults
  | .scalar kind, f =>
    match f.text?.map fun s => kind.value s with
    | some (.ok d) => (d, [])
    | some (.error fault) => (.null, Faults.one fault)
    | none => (.null, Faults.one .malformed)
  | .collection .list, sequence items =>
    (.list (items.map Built.value), Faults.within (items.map Built.faults))
  | .collection .pairs, sequence items =>
    let pairs := items.map fun b => b.pair?.getD (.null, Faults.one .malformed)
    (.list (pairs.map Prod.fst), Faults.within (pairs.map Prod.snd))
  | .collection .record, mapping entries =>
    ofEntries entries fun es => .record (Entry.members es)
  | .collection .set, mapping entries => ofEntries entries fun es => .list (es.map Entry.key)
  | .collection kind, _ => (blank kind, Faults.within [Faults.one .malformed])
  | .unknown, _ => (.null, Faults.one .malformed)

/-- What a node with a tag has come to, or one without. -/
def built (tag : Option String) (f : Form) : Built where
  value := (make (f.kind tag) f).1
  faults := (make (f.kind tag) f).2
  kind := f.kind tag
  text? := f.text?
  taken? := f.taken?
  isMapping := f.isMapping
  pair? := f.pair?

end Form

/-! ## documents -/

/-- How often a node is put in place of its mentions within itself. As these are at least one level
deeper, that many levels are right, and one more; settings are not nested more deeply. -/
def unfoldings : Nat := 3

/-- A node without what is within it. -/
def Node.bare : Node → Built
  | .sequence tag _ => Form.built tag (.sequence [])
  | .mapping tag _ => Form.built tag (.mapping [])
  | _ => Form.built none (.scalar "" true)

mutual

/-- What a node has come to, where some nodes have names, and these nodes with further ones. What
is mentioned within itself has no further faults there. -/
def Node.build (named : List (String × Built)) : Node → Built × List (String × Built)
  | .scalar tag text isPlain => (Form.built tag (.scalar text isPlain), named)
  | .sequence tag items =>
    let (bs, named) := buildItems named items
    (Form.built tag (.sequence bs), named)
  | .mapping tag entries =>
    let (bs, named) := buildEntries named entries
    (Form.built tag (.mapping bs), named)
  | .named name n =>
    let unfold (b : Built) : Built := (n.build ((name, b) :: named)).1.quiet
    let within := if n.mentions name then Nat.repeat unfold unfoldings n.bare else n.bare
    let (b, named) := n.build ((name, within) :: named)
    (b, (name, b) :: named)
  | .mention name => ((Pairs.get? named name).getD Node.empty.bare, named)

/-- What the items of a sequence have come to. -/
def buildItems (named : List (String × Built)) : List Node → List Built × List (String × Built)
  | [] => ([], named)
  | n :: ns =>
    let (b, named) := n.build named
    let (bs, named) := buildItems named ns
    (b :: bs, named)

/-- What the keys and values of a mapping have come to. -/
def buildEntries (named : List (String × Built)) :
    List (Node × Node) → List (Built × Built) × List (String × Built)
  | [] => ([], named)
  | (key, value) :: es =>
    let (k, named) := key.build named
    let (v, named) := value.build named
    let (bs, named) := buildEntries named es
    ((k, v) :: bs, named)

end

/-- Reads a document. A document that holds nothing is no value. -/
def read (text : String) : Except Fault Datum := do
  let root ← compose text
  let b := (root.build []).1
  match b.faults.first? with
  | some f => .error f
  | none => .ok b.value

end ChatCommands.Document
