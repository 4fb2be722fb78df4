import ChatCommands.Directory.Basic
import ChatCommands.Effect.Platform

set_option autoImplicit false

/-!
# Rehearsals

A platform for trying commands out: entities in lists, the first match counts, a log of everything
that is asked of it, and on demand failures, delays and replies that are refused. A rehearsal tells
which requests a pipeline makes and in which order.
-/

namespace ChatCommands

/-- The sorts of questions to a directory. -/
inductive QuerySort where
  | guild
  | channel
  | user
  | role
  | message
  | memberRoles
  | applicationOwner
  deriving DecidableEq, Repr

/-- The name of a sort of questions. -/
def QuerySort.name : QuerySort → String
  | .guild => "guild"
  | .channel => "channel"
  | .user => "user"
  | .role => "role"
  | .message => "message"
  | .memberRoles => "member_roles"
  | .applicationOwner => "application_owner"

/-- The operations on replies. -/
inductive ReplyOperation where
  | send
  | edit
  | delete
  | react
  deriving DecidableEq, Repr

/-- The name of an operation on replies. -/
def ReplyOperation.name : ReplyOperation → String
  | .send => "send"
  | .edit => "edit"
  | .delete => "delete"
  | .react => "react"

/-- What was asked of a platform. -/
inductive LogEntry where
  | asked (query : Query)
  | accessOpened (guild : Option GuildId) (channel : ChannelId) (caller : UserId)
  | sent (channel : ChannelId) (recipient : UserId) (reference : Option MessageId)
      (spec : ReplySpec)
  | edited (reply : SentReply) (spec : ReplySpec)
  | deleted (reply : SentReply)
  | reacted (channel : ChannelId) (message : MessageId) (reaction : String)
  | recorded (stage : Stage) (tags : Tags)

/-- The set of a rehearsal: the entities, and what goes wrong. -/
structure Rehearsal where
  roster : Roster := {}
  messages : List Message := []
  owner : UserId := ⟨2⟩
  /-- No directory is available, and questions leave no trace. -/
  isUnavailable : Bool := false
  failing : List QuerySort := []
  breaking : List QuerySort := []
  userDelay : Nat := 0
  failingReplies : List ReplyOperation := []
  refusedSends : List Nat := []
  privateChannel : Option ChannelId := none
  isObserved : Bool := false

/-- What has become of a rehearsal: the sends that were not failing, and the log, latest first. -/
structure RehearsalState where
  sends : Nat := 0
  log : List LogEntry := []

namespace RehearsalState

/-- One more entry. -/
def note (entry : LogEntry) (s : RehearsalState) : RehearsalState :=
  { s with log := entry :: s.log }

/-- The entries in order, those before a number of them left out. -/
def entriesFrom (count : Nat) (s : RehearsalState) : List LogEntry := s.log.reverse.drop count

end RehearsalState

namespace Rehearsal

/-- The answer to a question of a sort, unless that sort is to break off or to fail. -/
def guarded {α : Type} (r : Rehearsal) (sort : QuerySort) (answer : α) : Except Failing α :=
  if r.breaking.contains sort then .error (.breakdown ⟨some "resolver panicked"⟩)
  else if r.failing.contains sort then
    .error (.error ((Cause.ofText "resolver offline").context (sort.name ++ " call")))
  else .ok answer

/-- The directory of a rehearsal. -/
def directory (r : Rehearsal) : Directory
  | .guild id => r.guarded .guild (r.roster.guilds.find? (·.id == id))
  | .channel id => r.guarded .channel (r.roster.channels.find? (·.id == id))
  | .user id => r.guarded .user (r.roster.users.find? (·.id == id))
  | .role guild id =>
    r.guarded .role (r.roster.roles.find? fun x => x.guild == guild && x.id == id)
  | .message channel id =>
    r.guarded .message (r.messages.find? fun m => m.channel == channel && m.id == id)
  | .memberRoles guild user =>
    r.guarded .memberRoles
      (((r.roster.members.find? fun m => m.guild == guild && m.user == user).map (·.roles)).getD [])
  | .applicationOwner => r.guarded .applicationOwner r.owner
  | .note _ => ()

/-- The time that a question takes. Only users take any, and only when the question
does not fail. -/
def delay (r : Rehearsal) : Query → Nat
  | .user _ =>
    if r.breaking.contains .user || r.failing.contains .user then 0 else r.userDelay
  | _ => 0

/-- A question put: it is logged, unless the directory is unavailable. -/
def hear (r : Rehearsal) (q : Query) (s : RehearsalState) : RehearsalState :=
  match q with
  | .note _ => s.note (.asked q)
  | _ => if r.isUnavailable then s else s.note (.asked q)

/-- The answer of a reply operation, unless that is to fail. -/
def replied {α : Type} (r : Rehearsal) (operation : ReplyOperation) (answer : α) : Except Cause α :=
  if r.failingReplies.contains operation then
    .error ((Cause.ofText "transport offline").context (operation.name ++ " call"))
  else .ok answer

/-- A reply sent. Sends that do not fail are counted, and some of them are refused. -/
def send (r : Rehearsal) (channel : ChannelId) (recipient : UserId) (reference : Option MessageId)
    (spec : ReplySpec) (s : RehearsalState) : Except Cause SentReply × RehearsalState :=
  let s := s.note (.sent channel recipient reference spec)
  if r.failingReplies.contains .send then (r.replied .send ⟨channel, ⟨0⟩⟩, s)
  else
    let count := s.sends
    let s := { s with sends := count + 1 }
    if r.refusedSends.contains count then
      (.error (.ofText ("send " ++ toString count ++ " refused")), s)
    else
      let place := if spec.isPrivate then r.privateChannel.getD channel else channel
      (.ok ⟨place, ⟨(1000 + count).toUInt64⟩⟩, s)

/-- The platform of a rehearsal. -/
def platform (r : Rehearsal) : Platform RehearsalState where
  answer q :=
    if r.isUnavailable then (0, Directory.unavailable q) else (r.delay q, r.directory q)
  hear := r.hear
  openAccess guild channel caller s := s.note (.accessOpened guild channel caller)
  send := r.send
  edit reply spec s := (r.replied .edit (), s.note (.edited reply spec))
  delete reply s := (r.replied .delete (), s.note (.deleted reply))
  react channel message reaction s :=
    (r.replied .react (), s.note (.reacted channel message reaction))
  record stage tags s := if r.isObserved then s.note (.recorded stage tags) else s

end Rehearsal

end ChatCommands
