import ChatCommands.Effect.Lookup

set_option autoImplicit false

/-!
# Directories

A directory answers every question about entities. One directory is never available; another one is
made of a roster, in which a later entry takes the place of an earlier one with the same identifier.
-/

namespace ChatCommands

/-- Answers to all questions. -/
abbrev Directory : Type := (q : Query) → q.Answer

/-- The roles that a member holds in a guild. -/
structure Membership where
  guild : GuildId
  user : UserId
  roles : List RoleId
  deriving DecidableEq, Repr

/-- The entities of a directory. -/
structure Roster where
  guilds : List Guild := []
  channels : List Channel := []
  users : List User := []
  roles : List Role := []
  members : List Membership := []
  deriving DecidableEq, Repr

namespace Directory

/-- The error of a directory that is not available. -/
def unavailableError (what : String) : Failing :=
  .error (.ofText ("entity resolution unavailable for " ++ what))

/-- The directory that is never available. -/
def unavailable : Directory
  | .guild id => .error (unavailableError ("guild " ++ toString id))
  | .channel id => .error (unavailableError ("channel " ++ toString id))
  | .user id => .error (unavailableError ("user " ++ toString id))
  | .role guild id =>
    .error (unavailableError ("role " ++ toString id ++ " in guild " ++ toString guild))
  | .message channel id =>
    .error (unavailableError ("message " ++ toString id ++ " in channel " ++ toString channel))
  | .memberRoles guild user =>
    .error (unavailableError ("member " ++ toString user ++ " of guild " ++ toString guild))
  | .applicationOwner => .error (.error (.ofText "application info unavailable"))
  | .note _ => ()

/-- The last entry that a test admits. -/
def last? {α : Type} (entries : List α) (test : α → Bool) : Option α := entries.reverse.find? test

/-- The directory of a roster. It knows no messages, and a role only under its own guild. -/
def ofRoster (owner : Option UserId) (r : Roster) : Directory
  | .guild id => .ok (last? r.guilds (·.id == id))
  | .channel id => .ok (last? r.channels (·.id == id))
  | .user id => .ok (last? r.users (·.id == id))
  | .role guild id => .ok ((last? r.roles (·.id == id)).filter (·.guild == guild))
  | .message _ _ => .ok none
  | .memberRoles guild user =>
    .ok (((last? r.members fun m => m.guild == guild && m.user == user).map (·.roles)).getD [])
  | .applicationOwner =>
    match owner with
    | some id => .ok id
    | none => .error (.error (.ofText "application owner is not configured"))
  | .note _ => ()

end Directory

end ChatCommands
