/-!
# ChatCommands.Reference

Handles of the users, channels and servers of a chat platform. The platform
owns them; here they are told apart by their ids and carried along.
-/

namespace ChatCommands

/-- A participant. -/
structure User where
  /-- The platform's id. -/
  id : String
  /-- The name that is displayed. -/
  name : String := ""
deriving DecidableEq, Repr

/-- A channel that messages can be sent to. -/
structure Channel where
  /-- The platform's id. -/
  id : String
  /-- The name that is displayed. -/
  name : String := ""
deriving DecidableEq, Repr

/-- A server, which has users, channels and macros of its own. -/
structure Server where
  /-- The platform's id. -/
  id : String
  /-- The name that is displayed. -/
  name : String := ""
deriving DecidableEq, Repr

end ChatCommands
