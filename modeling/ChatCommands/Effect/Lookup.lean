import ChatCommands.Effect.Program
import ChatCommands.Domain.Entity
import ChatCommands.Argument.Error
import ChatCommands.Json.Basic

set_option autoImplicit false

/-!
# Lookups

A lookup is a program of questions to the directory of entities. A question can be answered, fail
with an error, or break off; a lookup ends in the same three ways.
-/

namespace ChatCommands

/-- A question to the directory. -/
inductive Query where
  | guild (id : GuildId)
  | channel (id : ChannelId)
  | user (id : UserId)
  | role (guild : GuildId) (id : RoleId)
  | message (channel : ChannelId) (id : MessageId)
  | memberRoles (guild : GuildId) (user : UserId)
  | applicationOwner
  /-- No question: a line for the log. -/
  | note (line : Json)

/-- What answers a question; an entity that does not exist is answered by nothing. -/
def Query.Answer : Query → Type
  | .guild _ => Except Failing (Option Guild)
  | .channel _ => Except Failing (Option Channel)
  | .user _ => Except Failing (Option User)
  | .role _ _ => Except Failing (Option Role)
  | .message _ _ => Except Failing (Option Message)
  | .memberRoles _ _ => Except Failing (List RoleId)
  | .applicationOwner => Except Failing UserId
  | .note _ => Unit

/-- A program of questions to the directory. -/
abbrev Lookup (α : Type) : Type := ExceptT Failing (Program Query Query.Answer) α

namespace Lookup

/-- The guild with an identifier. -/
def guild (id : GuildId) : Lookup (Option Guild) := ExceptT.mk (.question (Query.guild id))

/-- The channel with an identifier. -/
def channel (id : ChannelId) : Lookup (Option Channel) := ExceptT.mk (.question (Query.channel id))

/-- The user with an identifier. -/
def user (id : UserId) : Lookup (Option User) := ExceptT.mk (.question (Query.user id))

/-- The role of a guild with an identifier. -/
def role (guild : GuildId) (id : RoleId) : Lookup (Option Role) :=
  ExceptT.mk (.question (Query.role guild id))

/-- The message of a channel with an identifier. -/
def message (channel : ChannelId) (id : MessageId) : Lookup (Option Message) :=
  ExceptT.mk (.question (Query.message channel id))

/-- The roles of a member of a guild. -/
def memberRoles (guild : GuildId) (user : UserId) : Lookup (List RoleId) :=
  ExceptT.mk (.question (Query.memberRoles guild user))

/-- The owner of the application. -/
def applicationOwner : Lookup UserId := ExceptT.mk (.question Query.applicationOwner)

/-- A line for the log. -/
def note (line : Json) : Lookup Unit := ExceptT.lift (.question (Query.note line))

/-- An error ends the lookup. -/
def fail {α : Type} (cause : Cause) : Lookup α := throw (.error cause)

/-- The lookup with its error as a value; it breaks off as before. -/
def attempt {α : Type} (p : Lookup α) : Lookup (Except Cause α) :=
  tryCatch (do return .ok (← p)) fun
    | .error cause => return .error cause
    | .breakdown b => throw (.breakdown b)

end Lookup

end ChatCommands
