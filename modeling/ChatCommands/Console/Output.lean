import ChatCommands.Directory.Basic
import ChatCommands.Effect.Platform
import ChatCommands.Json.Writer
import ChatCommands.Wire.Reply

set_option autoImplicit false

/-!
# Lines of output

The platform of the console writes every operation on replies as one line of JSON and numbers the
replies itself. Its directory answers at once. Writing can fail, and a reply that is not written has
used up its number.
-/

namespace ChatCommands

/-- What the console has written, latest first, and the number of the next reply. -/
structure Output where
  nextReply : UInt64 := 1
  written : List ReplyEvent := []

/-- The text of an operation on replies. -/
def ReplyEvent.line (e : ReplyEvent) : String := e.toJson.render

namespace Output

/-- What has been written, in order, without the first ones. -/
def eventsFrom (count : Nat) (o : Output) : List ReplyEvent := o.written.reverse.drop count

/-- An operation written down, unless nothing can be written. -/
def emit (isBroken : Bool) (event : ReplyEvent) (o : Output) : Except Cause Unit × Output :=
  if isBroken then (.error (.ofText "sink closed"), o)
  else (.ok (), { o with written := event :: o.written })

/-- A reply written down under the next number. -/
def send (isBroken : Bool) (channel : ChannelId) (reference : Option MessageId) (spec : ReplySpec)
    (o : Output) : Except Cause SentReply × Output :=
  let reply : SentReply := ⟨channel, ⟨o.nextReply⟩⟩
  let (written, o) :=
    emit isBroken (.sent reply reference spec) { o with nextReply := o.nextReply + 1 }
  (written.map fun _ => reply, o)

end Output

/-- The platform of the console, with a directory and with lines that can be written or not. -/
def Directory.console (directory : Directory) (isBroken : Bool) : Platform Output where
  answer q := (0, directory q)
  hear _ o := o
  openAccess _ _ _ o := o
  send channel _ reference spec o := o.send isBroken channel reference spec
  edit reply spec o := o.emit isBroken (.edited reply spec)
  delete reply o := o.emit isBroken (.deleted reply)
  react channel message reaction o := o.emit isBroken (.reacted channel message reaction)
  record _ _ o := o

end ChatCommands
