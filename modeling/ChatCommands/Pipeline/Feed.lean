import ChatCommands.Domain.Event

set_option autoImplicit false

/-!
# Feeds

A feed is what one subscription to the source of events delivers, with the silences in between.
After its last item an open feed stays silent; others are over.
-/

namespace ChatCommands

/-- What a feed delivers. -/
inductive FeedItem where
  | event (event : Event)
  | fault (fault : SourceFault)
  /-- Nothing, for a number of milliseconds. -/
  | wait (ms : Nat)
  /-- The subscription breaks off. -/
  | breakdown

/-- The items of one subscription. -/
structure Feed where
  items : List FeedItem
  isOpen : Bool

namespace Feed

/-- The feed that stays silent. -/
def silent : Feed := ⟨[], true⟩

/-- The feed with one more item. -/
def push (f : Feed) (item : FeedItem) : Feed := { f with items := f.items ++ [item] }

/-- The feed with its end after the last item. -/
def close (f : Feed) : Feed := { f with isOpen := false }

/-- What follows the events that are there at an instant. -/
inductive Rest where
  /-- Nothing before an instant. -/
  | quiet (wake : Nat) (feed : Feed)
  | over
  | fault (fault : SourceFault)
  | breakdown

/-- The events of a feed that are there at an instant, and what follows them. -/
def receive (now : Nat) (isOpen : Bool) : List FeedItem → List Event × Rest
  | [] => ([], if isOpen then .quiet now ⟨[], true⟩ else .over)
  | .event e :: items =>
    let (events, rest) := receive now isOpen items
    (e :: events, rest)
  | .fault f :: _ => ([], .fault f)
  | .wait ms :: items =>
    if ms = 0 then receive now isOpen items else ([], .quiet (now + ms) ⟨items, isOpen⟩)
  | .breakdown :: _ => ([], .breakdown)

end Feed

end ChatCommands
