import ChatCommands.Pipeline.Feed
import ChatCommands.Pipeline.Retry
import ChatCommands.Pipeline.Process

set_option autoImplicit false

/-!
# Reception

Reception is the part of a run that deals with the source of events: it listens to a feed, pauses
after a fault that passes and subscribes again, waits for the events in flight when a feed is over,
and ends. It looks at events only to leave out those of bots.
-/

namespace ChatCommands

/-- How a run ends. -/
inductive RunEnd where
  /-- The source is over, or the run was told to stop. -/
  | finished
  | sourceFailed (fault : SourceFault)
  | retriesExhausted (attempts : UInt32) (last : SourceFault)
  | matchViolation (violation : MatchViolation)
  /-- The run broke off: its subscription did, or a number outgrew its word. -/
  | broken
  deriving DecidableEq, Repr

/-- The wording of a violated match. -/
def MatchViolation.message (v : MatchViolation) : String :=
  "command " ++ v.command ++ " has unmatched trailing input " ++ "`" ++ v.leftover ++ "`"

/-- The wording of an error that ends a run. -/
def RunEnd.error? : RunEnd → Option String
  | .finished => none
  | .sourceFailed fault => some ("event source failed: " ++ fault.describe)
  | .retriesExhausted attempts last =>
    some ("gave up after " ++ toString attempts ++ " attempts: " ++ last.describe)
  | .matchViolation v => some v.message
  | .broken => none

/-- What reception is about. -/
inductive Phase where
  /-- Listening to a feed that is quiet before an instant. -/
  | listening (wake : Nat) (feed : Feed)
  /-- Pausing until an instant. -/
  | pausing (wake : Nat)
  /-- Waiting for the events in flight. -/
  | draining
  | ended (instant : Nat) (result : RunEnd)

/-- The state of reception: what is being done, how often the source has been subscribed to, and the
feeds of later subscriptions. Subscriptions beyond those get a silent feed. -/
structure Reception where
  retry : Retry
  phase : Phase
  subscriptions : Nat
  upcoming : List Feed

/-- The source wants the event processed. -/
def Event.isInteresting (e : Event) : Bool := !e.caller.bot

namespace Phase

/-- What follows a fault at an instant, with the retries counted. -/
def afterFault (s : RetrySettings) (now : Nat) (retry : Retry) (fault : SourceFault) :
    Retry × Phase :=
  if !fault.isTransient then (retry, .ended now (.sourceFailed fault))
  else
    match retry.counted? with
    | none => (retry, .ended now .broken)
    | some retry =>
      if retry.isExhausted s then (retry, .ended now (.retriesExhausted retry.attempts fault))
      else (retry, .pausing (now + retry.pauseMs now))

/-- A feed listened to at an instant: the events, and what is done then. -/
def listen (s : RetrySettings) (now : Nat) (retry : Retry) (feed : Feed) :
    List Event × Retry × Phase :=
  let (events, rest) := Feed.receive now feed.isOpen feed.items
  let retry := if events.isEmpty then retry else Retry.fresh s
  match rest with
  | .quiet wake feed => (events, retry, .listening wake feed)
  | .over => (events, retry, .draining)
  | .fault fault => (events, afterFault s now retry fault)
  | .breakdown => (events, retry, .ended now .broken)

/-- The next instant at which reception has something to do by itself. -/
def wake? : Phase → Option Nat
  | .listening wake feed => if feed.items.isEmpty && feed.isOpen then none else some wake
  | .pausing wake => some wake
  | _ => none

end Phase

namespace Reception

/-- A new subscription, once the pause before it is over; pauses of no length are over at once. -/
def resume (s : RetrySettings) (now : Nat) (retry : Retry) (wake subscriptions : Nat) :
    List Feed → List Event × Reception
  | [] =>
    if now < wake then ([], ⟨retry, .pausing wake, subscriptions, []⟩)
    else
      match retry.paused? s with
      | none => ([], ⟨retry, .ended now .broken, subscriptions, []⟩)
      | some retry => ([], ⟨retry, .listening now .silent, subscriptions + 1, []⟩)
  | feed :: feeds =>
    if now < wake then ([], ⟨retry, .pausing wake, subscriptions, feed :: feeds⟩)
    else
      match retry.paused? s with
      | none => ([], ⟨retry, .ended now .broken, subscriptions, feed :: feeds⟩)
      | some retry =>
        let (events, retry, phase) := Phase.listen s now retry feed
        match phase with
        | .pausing wake =>
          let (more, r) := resume s now retry wake (subscriptions + 1) feeds
          (events ++ more, r)
        | phase => (events, ⟨retry, phase, subscriptions + 1, feeds⟩)

/-- Reception at an instant: the events that have come, and the state then. -/
def poll (s : RetrySettings) (now : Nat) (r : Reception) : List Event × Reception :=
  match r.phase with
  | .listening wake feed =>
    if now < wake then ([], r)
    else
      let (events, retry, phase) := Phase.listen s now r.retry feed
      match phase with
      | .pausing wake =>
        let (more, r) := resume s now retry wake r.subscriptions r.upcoming
        (events ++ more, r)
      | phase => (events, { r with retry := retry, phase := phase })
  | .pausing wake => resume s now r.retry wake r.subscriptions r.upcoming
  | _ => ([], r)

/-- The first subscription, after a number of earlier ones. -/
def start (s : RetrySettings) (now earlier : Nat) : List Feed → Reception
  | [] => ⟨.fresh s, .listening now .silent, earlier + 1, []⟩
  | feed :: feeds => ⟨.fresh s, .listening now feed, earlier + 1, feeds⟩

end Reception

end ChatCommands
