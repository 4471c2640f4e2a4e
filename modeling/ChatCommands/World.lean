import ChatCommands.Directory
import ChatCommands.OrderedMap

/-!
# ChatCommands.World

A chat platform that is held in memory: servers with their members, channels
and owners, and what the host supplies about permission bits and macros. Every
question about something that is not there has an answer all the same.
-/

namespace ChatCommands

/-- What is known about one server. -/
structure ServerRecord where
  /-- The members. -/
  users : List User := []
  /-- The channels. -/
  channels : List Channel := []
  /-- The id of the owner. -/
  owner : String := ""
  /-- The permissions that members hold, by their ids. -/
  capabilities : List (String × List String) := []

/-- What is known about a platform. -/
structure World where
  /-- The servers by their ids. -/
  servers : List (String × ServerRecord) := []
  /-- The ids of automated senders. -/
  automated : List String := []
  /-- The ids of the owners of the bot. -/
  botOwners : List String := []
  /-- The permission bits of members by server and member, if the host supplies any. -/
  bits : Option (List (String × List (String × Int))) := none
  /-- The macros by server and name, if the host supplies any. -/
  macros : Option (List (String × List (String × Option String))) := none

namespace World

/-- What is known about a server; nothing about an unknown one. -/
def server (w : World) (s : Server) : ServerRecord := (Pairs.get? w.servers s.id).getD {}

/-- A name with its ASCII letters in lower case. -/
def foldName (name : String) : String := name.map Char.toLower

/-- The directory of a world. Names match if they are equal but for the case of ASCII
letters. -/
def directory (w : World) : Directory where
  userById s id := (w.server s).users.find? fun u => u.id == id
  usersByName s name := (w.server s).users.filter fun u => foldName u.name == foldName name
  channelById s id := (w.server s).channels.find? fun c => c.id == id
  capabilitiesOf s u := (Pairs.get? (w.server s).capabilities u.id).getD []
  isAutomated u := w.automated.contains u.id
  isBotOwner u := w.botOwners.contains u.id
  ownerOf s := { id := (w.server s).owner }

/-- The permission bits of a member, none by default. -/
def bitsOf (w : World) (s : Server) (u : User) : Int :=
  ((w.bits.bind fun t => Pairs.get? t s.id).bind fun t => Pairs.get? t u.id).getD 0

/-- The body of a macro. -/
def macroOf (w : World) (s : Server) (name : String) : Option String :=
  (w.macros.bind fun t => Pairs.get? t s.id).bind fun t => (Pairs.get? t name).join

/-- A host in a world, with or without the two services. -/
def host (w : World) (suppliesBits suppliesMacros : Bool) : Host :=
  { w.directory with
    bits? := if suppliesBits then some w.bitsOf else none
    macros? := if suppliesMacros then some w.macroOf else none }

/-- A host in a world, with the services that the world has. -/
def fullHost (w : World) : Host := w.host w.bits.isSome w.macros.isSome

end World

end ChatCommands
