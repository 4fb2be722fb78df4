import ChatCommands.Argument.Parsing
import ChatCommands.Domain.ReplySpec
import ChatCommands.Observation

set_option autoImplicit false

/-!
# Requests

What the processing of an event asks of the world around it: lookups, replies, records and time. A
program of requests is all that processing does; who answers it decides what happens.
-/

namespace ChatCommands

/-- A request to the world around. -/
inductive Request where
  | lookup (query : Query)
  /-- Lookups side by side, given up after a number of milliseconds when one is set. -/
  | gather (lookups : List (Lookup ParameterEnd)) (limit : Option Nat)
  /-- The access to be decided for a caller at a place. -/
  | openAccess (guild : Option GuildId) (channel : ChannelId) (caller : UserId)
  | send (channel : ChannelId) (recipient : UserId) (reference : Option MessageId)
      (spec : ReplySpec)
  | edit (reply : SentReply) (spec : ReplySpec)
  | delete (reply : SentReply)
  | react (channel : ChannelId) (message : MessageId) (reaction : String)
  | record (stage : Stage) (tags : Tags)
  /-- Nothing, for a number of milliseconds. -/
  | sleep (ms : Nat)

/-- What answers a request. Lookups given up are answered by nothing. -/
def Request.Answer : Request → Type
  | .lookup q => q.Answer
  | .gather _ _ => Except Failing (Option (List ParameterEnd))
  | .openAccess _ _ _ => Unit
  | .send _ _ _ _ => Except Cause SentReply
  | .edit _ _ => Except Cause Unit
  | .delete _ => Except Cause Unit
  | .react _ _ _ => Except Cause Unit
  | .record _ _ => Unit
  | .sleep _ => Unit

/-- A program of requests. -/
abbrev Requests (α : Type) : Type := Program Request Request.Answer α

/-- The program of a single request. -/
def Request.put (r : Request) : Requests r.Answer := .question r

/-- A lookup as a program of requests. -/
def Requests.ofLookup {α : Type} (p : Lookup α) : Requests (Except Failing α) :=
  Program.translate Request.lookup (fun _ r => r) p.run

end ChatCommands
