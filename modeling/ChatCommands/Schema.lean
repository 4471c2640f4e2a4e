import ChatCommands.Parameter
import ChatCommands.Permission

/-!
# ChatCommands.Schema

Declared commands: their parameters, their help, who may run them and the task
that they run. What a task is, the host decides; `τ` is its type throughout.
-/

namespace ChatCommands

/-! ## warnings -/

/-- A badge that help shows next to a command. -/
inductive Warning where
  /-- Other users may be mentioned. -/
  | mightMention
  /-- The command may take long. -/
  | timeConsuming
  /-- Changes may be irreversible. -/
  | destructive
deriving DecidableEq, Repr

namespace Warning

/-- All warnings. -/
def all : List Warning := [mightMention, timeConsuming, destructive]

/-- The name of a warning in declarations. -/
def name : Warning → String
  | mightMention => "MIGHT_MENTION"
  | timeConsuming => "TIME_CONSUMING"
  | destructive => "DESTRUCTIVE"

/-- The glyph of a warning. -/
def glyph : Warning → String
  | mightMention => "🗯"
  | timeConsuming => "🕗"
  | destructive => "⚠"

/-- A warning in words. -/
def message : Warning → String
  | mightMention => "Might mention other users."
  | timeConsuming => "Might run for a long time."
  | destructive => "Might perform irreversible changes."

/-- The warnings by their names. -/
def byName : List (String × Warning) := all.map fun w => (w.name, w)

end Warning

/-! ## commands -/

/-- The tooltip of a command that declares none. -/
def defaultTooltip : String := "No tooltip"

/-- The long help of a command that declares none. -/
def defaultLongHelp : String := "No help"

/-- A command that can be registered. -/
structure Schema (τ : Type) where
  /-- The name that it is called by. -/
  name : String
  /-- The parameters, in order. -/
  parameters : List Parameter := []
  /-- Whether everything behind the name is one argument. -/
  raw : Bool := false
  /-- What it runs. -/
  task : τ
  /-- The line of help. -/
  tooltip : String := defaultTooltip
  /-- The detailed help. -/
  longHelp : String := defaultLongHelp
  /-- The badges, in order. -/
  warnings : List Warning := []
  /-- Who may run it. -/
  requirement : Requirement := {}
deriving DecidableEq, Repr

namespace Schema

/-- The number of arguments that have to be given. -/
def requiredCount (ps : List Parameter) : Nat := ps.countP fun p => !p.optional

theorem requiredCount_append (front back : List Parameter) :
    requiredCount (front ++ back) = requiredCount front + requiredCount back := List.countP_append

theorem requiredCount_cons (p : Parameter) (ps : List Parameter) :
    requiredCount (p :: ps) = requiredCount ps + if !p.optional then 1 else 0 := List.countP_cons

/-- A command as a log line shows it. -/
def literal {τ : Type} (s : Schema τ) : String := "<CommandSchema name=\"" ++ s.name ++ "\">"

end Schema

end ChatCommands
