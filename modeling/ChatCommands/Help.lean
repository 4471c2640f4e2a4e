import ChatCommands.Permission
import ChatCommands.Registry

/-!
# ChatCommands.Help

Help texts. The short form is `name: tooltip` with the glyphs of the warnings
right behind it; the long form is `name (kind name, kind name?): tooltip` with
the detailed help on the next line and one line for each warning. For a reader
who may not run the command a glyph stands in front.
-/

namespace ChatCommands

namespace Schema

variable {τ : Type}

/-- The line of help about a command. -/
def shortHelp (s : Schema τ) : String :=
  s.name ++ ": " ++ s.tooltip ++ String.intercalate " " (s.warnings.map Warning.glyph)

/-- The detailed help about a command. -/
def fullHelp (s : Schema τ) : String :=
  let parameters := String.intercalate ", " (s.parameters.map Parameter.describe)
  let lines := s.warnings.map fun w => "\n" ++ w.glyph ++ " " ++ w.message
  s.name ++ " (" ++ parameters ++ "): " ++ s.tooltip ++ "\n" ++ s.longHelp ++ String.join lines

end Schema

/-- A text with the questions that it took. -/
structure HelpText where
  /-- The text. -/
  text : String
  /-- The questions, in order. -/
  lookups : List Lookup
deriving DecidableEq, Repr

namespace Help

variable {τ : Type}

/-- What stands in front of a command that the reader may not run. -/
def denyMark : String := "🚫 "

/-- The answer about a name that is not registered. -/
def unknown : HelpText := ⟨"Unknown command", []⟩

/-- A help text as a certain reader sees it. -/
def marked (host : Host) (server : Server) (user : User) (schema : Schema τ) (text : String) :
    HelpText :=
  let v := Permission.check host schema.requirement server user
  ⟨if v.allowed then text else denyMark ++ text, v.lookups⟩

/-- The line of help about a name. -/
def tooltip (host : Host) (registry : Registry τ) (name : String) (server : Server)
    (user : User) : HelpText :=
  match registry.get? name with
  | none => unknown
  | some s => marked host server user s s.shortHelp

/-- The detailed help about a name. -/
def full (host : Host) (registry : Registry τ) (name : String) (server : Server) (user : User) :
    HelpText :=
  match registry.get? name with
  | none => unknown
  | some s => marked host server user s s.fullHelp

/-- The commands in the order of their names. -/
def sorted (registry : Registry τ) : List (Schema τ) :=
  (registry.commands.entries.mergeSort fun p q => decide (p.1 ≤ q.1)).map Prod.snd

/-- One line of help for every command, in the order of their names. -/
def summary (host : Host) (registry : Registry τ) (server : Server) (user : User) : HelpText :=
  let lines := (sorted registry).map fun s => marked host server user s s.shortHelp
  ⟨String.intercalate "\n" (lines.map HelpText.text), lines.flatMap HelpText.lookups⟩

end Help

end ChatCommands
