import ChatCommands.Domain.Event
import ChatCommands.Wire.Entity
import ChatCommands.Decimal.Rounding

set_option autoImplicit false

/-!
# Events in JSON

An event is a record whose payload is tagged with its style. Source faults have a record form too.
-/

namespace ChatCommands

open Json (word? bool? text? listOf? nullable? withDefault required fields? recordFields? mapOf?
  tagged? choice? nameOrPlace? optionalField ofWord)

/-- A slot from a truth value, a whole number that fits a signed word, another number or a text. -/
def Slot.ofJson? : Json → Option Slot
  | .bool b => some (.boolean b)
  | .int n =>
    if Text.fitsInt64 n then some (.integer (Int64.ofInt n))
    else some (.float (Decimal.ofInt n))
  | .float x => some (.float x)
  | .text s => some (.text s)
  | _ => none

/-- The value of a slot. -/
def Slot.toJson : Slot → Json
  | .boolean b => .bool b
  | .integer n => .int n.toInt
  | .float x => .float x
  | .text s => .text s

/-- The tagged record of a payload. -/
def Payload.toJson : Payload → Json
  | .text message content attachments =>
    .record [("type", .text "text"),
      ("payload", .record <| [("message_id", ofWord message.value), ("content", .text content)]
        ++ attachmentsField attachments)]
  | .slash path options attachments =>
    .record [("type", .text "slash"),
      ("payload", .record [("path", .list (path.map .text)),
        ("options", .record (options.map fun (k, s) => (k, s.toJson))),
        ("attachments", .record (attachments.map fun (k, a) => (k, a.toJson)))])]

/-- The payload that a tagged value describes. -/
def Payload.ofJson? (j : Json) : Option Payload := do
  let (tag, body) ← tagged? (nameOrPlace? Style.names) j
  match Style.ofName? tag with
  | some .text =>
    let [message, content, attachments] ←
      recordFields? ["message_id", "content", "attachments"] body | none
    return .text (← required MessageId.ofJson? message) (← required text? content)
      (← withDefault [] (listOf? Attachment.ofJson?) attachments)
  | some .slash =>
    let [path, options, attachments] ←
      recordFields? ["path", "options", "attachments"] body | none
    return .slash (← required (listOf? text?) path) (← withDefault [] (mapOf? Slot.ofJson?) options)
      (← withDefault [] (mapOf? Attachment.ofJson?) attachments)
  | none => none

/-- A UUID from its text. -/
def Uuid.ofJson? (j : Json) : Option Uuid := (text? j).bind fun s => Uuid.read? s.toList

/-- A timestamp from its text. -/
def Timestamp.ofJson? (j : Json) : Option Timestamp :=
  (text? j).bind fun s => Timestamp.read? s.toList

/-- The record of an event. -/
def Event.toJson (e : Event) : Json :=
  .record <| optionalField "event_id" (e.id.map fun u => .text u.toText)
    ++ optionalField "guild_id" (e.guild.map fun g => ofWord g.value)
    ++ [("channel_id", ofWord e.channel.value), ("caller", e.caller.toJson)]
    ++ optionalField "received_at" (e.receivedAt.map fun t => .text t.toText)
    ++ [("payload", e.payload.toJson)]

/-- The event that a record or list describes. -/
def Event.ofJson? (j : Json) : Option Event := do
  let [id, guild, channel, caller, receivedAt, payload] ←
    fields? ["event_id", "guild_id", "channel_id", "caller", "received_at", "payload"] j | none
  return ⟨← withDefault none (fun j => (Uuid.ofJson? j).map some) id,
    ← withDefault none (nullable? GuildId.ofJson?) guild, ← required ChannelId.ofJson? channel,
    ← required User.ofJson? caller,
    ← withDefault none (fun j => (Timestamp.ofJson? j).map some) receivedAt,
    ← required Payload.ofJson? payload⟩

/-- The record of a source fault. -/
def SourceFault.toJson (f : SourceFault) : Json :=
  .record [("class", .text f.kind.name), ("message", .text f.message)]

/-- The source fault that a record or list describes. -/
def SourceFault.ofJson? (j : Json) : Option SourceFault := do
  let [kind, message] ← fields? ["class", "message"] j | none
  let kind ← required (fun j => (choice? .direct j).bind FaultClass.ofName?) kind
  return ⟨kind, ← required text? message⟩

end ChatCommands
