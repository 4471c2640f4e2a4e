import ChatCommands.Reference

/-!
# ChatCommands.Directory

What the interpreter asks its surroundings for. A `Directory` answers
questions about the users and channels of a platform; a `Host` adds the two
services that are optional, permission bits and macros. Both are plain
functions of what is asked.

The order in which questions are asked can be observed, so everything that
asks says which questions it asked, as a list of `Lookup`s.
-/

namespace ChatCommands

/-- The users and channels of a chat platform. -/
structure Directory where
  /-- The member of a server with an id. -/
  userById : Server → String → Option User
  /-- The members of a server whose name matches, best match first. -/
  usersByName : Server → String → List User
  /-- The channel of a server with an id. -/
  channelById : Server → String → Option Channel
  /-- The platform permissions that a user holds on a server. -/
  capabilitiesOf : Server → User → List String
  /-- Whether a user is a bot or another automated sender. -/
  isAutomated : User → Bool
  /-- Whether a user owns this bot. -/
  isBotOwner : User → Bool
  /-- The owner of a server. -/
  ownerOf : Server → User

/-- A directory and the optional services of the host. -/
structure Host extends Directory where
  /-- The permission bits of a user on a server. -/
  bits? : Option (Server → User → Int) := none
  /-- The macro body of a name on a server. -/
  macros? : Option (Server → String → Option String) := none

/-- A question that was asked. -/
inductive Lookup where
  /-- Which member has this id? -/
  | userById (server : Server) (id : String)
  /-- Which members have this name? -/
  | usersByName (server : Server) (name : String)
  /-- Which channel has this id? -/
  | channelById (server : Server) (id : String)
  /-- Which permissions does this user hold? -/
  | capabilities (server : Server) (user : User)
  /-- Is this user an automated sender? -/
  | automated (user : User)
  /-- Does this user own the bot? -/
  | botOwner (user : User)
  /-- Who owns this server? -/
  | owner (server : Server)
  /-- Which permission bits does this user have? -/
  | bits (server : Server) (user : User)
  /-- Which macro has this name? -/
  | macroBody (server : Server) (name : String)
deriving DecidableEq, Repr

/-- Whether a question is about the user or channel that an argument names. -/
def Lookup.isReference : Lookup → Bool
  | userById .. => true
  | usersByName .. => true
  | channelById .. => true
  | _ => false

end ChatCommands
