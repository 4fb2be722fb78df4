import ChatCommands.Effect.Request

set_option autoImplicit false

/-!
# Reply chains

The replies to one invocation form a chain. Each public reply refers to the latest reply in the same
channel, the first to the message that triggered the invocation. Replies keep their index for ever.
-/

namespace ChatCommands

/-- The replies sent so far, and what is needed to send more. -/
structure ReplyChain where
  channel : ChannelId
  caller : UserId
  origin : Option MessageId
  replies : List SentReply
  deriving DecidableEq, Repr

namespace ReplyChain

/-- The chain without replies. -/
def start (channel : ChannelId) (caller : UserId) (origin : Option MessageId) : ReplyChain :=
  ⟨channel, caller, origin, []⟩

/-- The message that the next reply refers to. -/
def reference? (c : ReplyChain) (spec : ReplySpec) : Option MessageId :=
  if spec.isPrivate then none
  else ((c.replies.reverse.find? (·.channel == c.channel)).map (·.message)).or c.origin

/-- The chain after one more reply; it is unchanged when the reply could not be sent. -/
def add (c : ReplyChain) (spec : ReplySpec) : Requests (Except Cause SentReply × ReplyChain) := do
  let sent ← Request.send c.channel c.caller (c.reference? spec) spec |>.put
  match sent with
  | .ok reply => return (.ok reply, { c with replies := c.replies ++ [reply] })
  | .error cause => return (.error cause, c)

/-- The first reply; refused when there is one already. -/
def reply (c : ReplyChain) (spec : ReplySpec) : Requests (Except Cause SentReply × ReplyChain) :=
  if c.replies = [] then c.add spec
  else return (.error (.ofText "a reply was already sent for this invocation"), c)

/-- The error of an index without reply. -/
def noReply (index : Nat) : Cause := .ofText ("no reply at index " ++ toString index)

/-- The reply at an index changed. -/
def edit (c : ReplyChain) (index : Nat) (spec : ReplySpec) : Requests (Except Cause Unit) :=
  match c.replies[index]? with
  | some reply => (Request.edit reply spec).put
  | none => return .error (noReply index)

/-- The reply at an index deleted; the others keep their indices. -/
def delete (c : ReplyChain) (index : Nat) : Requests (Except Cause Unit) :=
  match c.replies[index]? with
  | some reply => (Request.delete reply).put
  | none => return .error (noReply index)

/-- A reaction to the triggering message; false when there is none. -/
def reactToOrigin (c : ReplyChain) (reaction : String) : Requests (Except Cause Bool) := do
  match c.origin with
  | none => return .ok false
  | some origin =>
    let reacted ← Request.react c.channel origin reaction |>.put
    return reacted.map fun _ => true

/-- A copy of the chain that goes on by itself, for replies after the invocation has ended. -/
def longTerm (c : ReplyChain) : ReplyChain := c

end ReplyChain

end ChatCommands
