import ChatCommands.Domain.Entity
import ChatCommands.Domain.Uuid
import ChatCommands.Domain.Timestamp

set_option autoImplicit false

/-!
# Events

An event is what the platform delivers: a chat message or a slash interaction, with its place and
its caller. Beside events, a source of events can deliver a fault.
-/

namespace ChatCommands

/-- The two ways of calling a command. -/
inductive Style where
  | text
  | slash
  deriving DecidableEq, Repr

/-- The written name of a style. -/
def Style.name : Style → String
  | .text => "text"
  | .slash => "slash"

/-- The written names of all styles, in order. -/
def Style.names : List String := [Style.text, .slash].map Style.name

/-- The style with a written name. -/
def Style.ofName? : String → Option Style
  | "text" => some .text
  | "slash" => some .slash
  | _ => none

/-- The value of an option of a slash interaction. -/
inductive Slot where
  | boolean (value : Bool)
  | integer (value : Int64)
  | float (value : Float)
  | text (value : String)

/-- What was called and with what. -/
inductive Payload where
  | text (message : MessageId) (content : String) (attachments : List Attachment)
  | slash (path : List String) (options : List (String × Slot))
      (attachments : List (String × Attachment))

/-- An inbound event. Its own identifier and its time of arrival are absent when the source leaves
them to the receiver. -/
structure Event where
  id : Option Uuid
  guild : Option GuildId
  channel : ChannelId
  caller : User
  receivedAt : Option Timestamp
  payload : Payload

/-- The message that triggered the event, when it came from one. -/
def Event.message? (e : Event) : Option MessageId :=
  match e.payload with
  | .text message _ _ => some message
  | .slash .. => none

/-- The style of the event. -/
def Event.style (e : Event) : Style :=
  match e.payload with
  | .text .. => .text
  | .slash .. => .slash

/-- Whether a fault of the source passes by itself. -/
inductive FaultClass where
  | transient
  | fatal
  deriving DecidableEq, Repr

/-- The written name of a class of faults. -/
def FaultClass.name : FaultClass → String
  | .transient => "transient"
  | .fatal => "fatal"

/-- The class of faults with a written name. -/
def FaultClass.ofName? : String → Option FaultClass
  | "transient" => some .transient
  | "fatal" => some .fatal
  | _ => none

/-- The title of a class of faults, as it heads a message. -/
def FaultClass.title : FaultClass → String
  | .transient => "Transient"
  | .fatal => "Fatal"

/-- A fault of the event source. -/
structure SourceFault where
  kind : FaultClass
  message : String
  deriving DecidableEq, Repr

/-- The fault in one line. -/
def SourceFault.describe (f : SourceFault) : String := f.kind.title ++ ": " ++ f.message

/-- The fault passes by itself. -/
def SourceFault.isTransient (f : SourceFault) : Bool := f.kind == .transient

end ChatCommands
