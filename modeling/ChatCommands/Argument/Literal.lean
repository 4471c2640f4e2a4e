import ChatCommands.Argument
import ChatCommands.Datum.Literal

/-!
# ChatCommands.Argument.Literal

How references, arguments and bags are shown in log lines: a reference by its
sort and its id, an argument by its sort, its name and its value, and a bag as
the record of its arguments.
-/

namespace ChatCommands

/-- A thing by its sort and one of its fields, which is not escaped. -/
def tagged (sort field value : String) : String :=
  "<" ++ sort ++ " " ++ field ++ "=\"" ++ value ++ "\">"

/-- The sort under which users are shown. -/
def User.sort : String := "UserRef"

/-- The sort under which channels are shown. -/
def Channel.sort : String := "ChannelRef"

/-- The sort under which servers are shown. -/
def Server.sort : String := "ServerRef"

/-- A user as a log line shows it. -/
def User.literal (u : User) : String := tagged User.sort "id" u.id

/-- A channel as a log line shows it. -/
def Channel.literal (c : Channel) : String := tagged Channel.sort "id" c.id

/-- A server as a log line shows it. -/
def Server.literal (s : Server) : String := tagged Server.sort "id" s.id

/-- A parameter as a log line shows it. -/
def Parameter.literal (p : Parameter) : String := tagged "ParameterSpec" "name" p.name

/-- The sort under which the arguments of a kind are shown. -/
def Kind.argumentSort : Kind → String
  | .long => "LongArgument"
  | .double => "DoubleArgument"
  | .bool => "BoolArgument"
  | .string => "StringArgument"
  | .user => "UserArgument"
  | .channel => "ChannelArgument"

/-- A value as a log line shows it. -/
def Value.literal : Value → String
  | .long i => (Datum.integer i).literal
  | .double x => (Datum.real x).literal
  | .bool b => (Datum.bool b).literal
  | .string s => (Datum.text s).literal
  | .user u => (u.map User.literal).getD Datum.nullWord
  | .channel c => (c.map Channel.literal).getD Datum.nullWord

/-- An argument as a log line shows it. -/
def Argument.literal (a : Argument) : String :=
  a.value.kind.argumentSort ++ "(name=" ++ Text.quoted a.name ++ ", value=" ++
    a.value.literal ++ ")"

/-- A bag as a log line shows it. -/
def Bag.literal (b : Bag) : String :=
  let parts := b.entries.map fun p => Text.quoted p.1 ++ ": " ++ p.2.literal
  "ArgumentBag(" ++ Datum.inBraces parts ++ ")"

end ChatCommands
