import ChatCommands.Datum.Merge
import ChatCommands.Document.Construction
import ChatCommands.Failure
import ChatCommands.Settings.Environment
import ChatCommands.Text.Split

/-!
# ChatCommands.Settings.Load

Settings from all sources: the defaults, a file and the environment, each laid
over the ones before. The outcome is checked as a whole, so a fault of the
file does no harm if the environment sets something else in its place.

How documents are read is left open until the end (`Settings.loadWith`); only
`Settings.load` settles it.
-/

namespace ChatCommands

/-! ## files -/

/-- A settings file that is to be read. -/
structure SettingsFile where
  /-- The path as it was given. -/
  path : String
  /-- What the file holds; nothing if there is no such file. -/
  content : Option String
deriving DecidableEq, Repr

namespace SettingsFile

/-- The parts of a path, without those that lead nowhere. -/
def parts (path : String) : List (List Char) :=
  (Text.splitAt '/' path.toList).filter fun p => p ≠ [] ∧ p ≠ ['.']

/-- A path without the parts that lead nowhere. -/
def normalPath (path : String) : String :=
  let body := Text.joinWith '/' (parts path)
  if path.toList.head? = some '/' then String.ofList ('/' :: body)
  else if body = [] then "."
  else String.ofList body

/-- The ending of a file's name: its last point and what follows, unless the point is the first
or the last character. -/
def suffix (path : String) : String :=
  let name := (parts path).getLast?.getD []
  let ending := (name.reverse.takeWhile (· ≠ '.')).reverse
  if ending.length + 1 < name.length ∧ ending ≠ [] then String.ofList ('.' :: ending) else ""

/-- Whether settings can be in a file of that name. -/
def isSupported (path : String) : Bool :=
  [".yaml", ".yml"].contains (String.ofList ((suffix path).toList.map Char.toLower))

end SettingsFile

/-! ## loading -/

/-- Why settings cannot be loaded. -/
inductive LoadError where
  /-- The file is not of a known format. -/
  | unsupported (suffix : String)
  /-- The document of the file is not a record. -/
  | notMapping (path : String)
  /-- Some settings have values that they cannot have. -/
  | invalid (errors : List FieldError)
  /-- The document of the file cannot be read. -/
  | document (fault : Document.Fault)
deriving DecidableEq, Repr

namespace LoadError

/-- The message of an error of setting up; an unreadable document is no such error. -/
def message? : LoadError → Option String
  | unsupported suffix =>
    some ("Unsupported configuration file format: " ++ suffix ++ ". Use YAML (.yaml/.yml).")
  | notMapping path => some ("Configuration file " ++ path ++ " must contain a mapping")
  | invalid _ => some "Invalid configuration"
  | document _ => none

/-- Whether an error is one of setting up. -/
def isConfiguration (e : LoadError) : Bool := e.message?.isSome

end LoadError

/-- The outcome of loading settings. -/
structure Loaded where
  /-- The settings, or why there are none. -/
  result : Except LoadError Settings
  /-- What was logged, in order. -/
  notices : List Notice

namespace Settings

/-- The members that a document sets; a document that is not given sets none. -/
def documentMembers? (d : Datum) : Option Members :=
  if d.isGiven then
    match d with
    | .record members => some members
    | _ => none
  else some []

/-- The members that a file sets, where documents are read in some way. -/
def fileMembers (read : String → Except Document.Fault Datum) (file : SettingsFile)
    (content : String) : Except LoadError Members :=
  if SettingsFile.isSupported file.path then
    match read content with
    | .error f => .error (.document f)
    | .ok d =>
      match documentMembers? d with
      | some members => .ok members
      | none => .error (.notMapping (SettingsFile.normalPath file.path))
  else .error (.unsupported (SettingsFile.suffix file.path))

/-- What all sources together set. -/
def layered (file : Members) (env : Environment) : Members :=
  Datum.merge (Datum.merge Settings.default.toRecord file) env.members

/-- Settings from the members of a file and the environment. -/
def combine (file : Members) (env : Environment) : Loaded :=
  match readMembers (layered file env) with
  | .ok s => ⟨.ok s, env.notices⟩
  | .error es => ⟨.error (.invalid es), env.notices ++ [.invalidSettings]⟩

/-- Loads settings from a file, if one is named, and the environment, where documents are read in
some way. A file that is not there is reported and left out. -/
def loadWith (read : String → Except Document.Fault Datum) (file : Option SettingsFile)
    (env : Environment) : Loaded :=
  match file.filter fun f => f.path ≠ "" with
  | none => combine [] env
  | some f =>
    match f.content with
    | none =>
      let rest := combine [] env
      { rest with notices := .fileMissing f.path :: rest.notices }
    | some content =>
      match fileMembers read f content with
      | .ok members => combine members env
      | .error e => ⟨.error e, []⟩

/-- Loads settings from a file, if one is named, and the environment. -/
def load (file : Option SettingsFile) (env : Environment) : Loaded :=
  loadWith Document.read file env

end Settings

end ChatCommands
