import ChatCommands.Domain.ReplySpec
import ChatCommands.Wire.Entity

set_option autoImplicit false

/-!
# Replies in JSON

A reply operation is a tagged record. When the payload stands before the tag, it is set
aside until the tag is known, and the whole of it has to be sound; after the tag only the
parts that count have to be.
-/

namespace ChatCommands

open Json (Intake bool? text? nullable? withDefault required fields? recordFields? tagged? choice?
  optionalField ofWord)

/-- A color from its name. -/
def EmbedColor.ofJson? (intake : Intake) (j : Json) : Option EmbedColor :=
  (choice? intake j).bind EmbedColor.ofName?

/-- The record of an embed. -/
def Embed.toJson (e : Embed) : Json :=
  .record <| [("title", Json.ofOption .text e.title), ("description", .text e.description),
      ("color", .text e.color.name)]
    ++ optionalField "footer" (e.footer.map .text)

/-- A title may be missing from a record; a list has to begin with one. -/
def Embed.ofJson? (intake : Intake) (j : Json) : Option Embed := do
  let [title, description, color, footer] ←
    fields? ["title", "description", "color", "footer"] j | none
  return ⟨← withDefault none (nullable? text?) title, ← required text? description,
    ← required (EmbedColor.ofJson? intake) color, ← withDefault none (nullable? text?) footer⟩

/-- The record of a reply. -/
def ReplySpec.toJson (s : ReplySpec) : Json :=
  .record <| optionalField "content" (s.content.map .text)
    ++ optionalField "embed" (s.embed.map Embed.toJson)
    ++ [("private", .bool s.isPrivate)]

/-- The reply that a record or list describes. -/
def ReplySpec.ofJson? (intake : Intake) (j : Json) : Option ReplySpec := do
  let [content, embed, isPrivate] ← fields? ["content", "embed", "private"] j | none
  return ⟨← withDefault none (nullable? text?) content,
    ← withDefault none (nullable? (Embed.ofJson? intake)) embed,
    ← withDefault false bool? isPrivate⟩

/-- The fields of a place where a reply stands. -/
def SentReply.fields (r : SentReply) : List (String × Json) :=
  [("channel_id", ofWord r.channel.value), ("message_id", ofWord r.message.value)]

/-- The tagged record of a reply operation. -/
def ReplyEvent.toJson : ReplyEvent → Json
  | .sent reply reference spec =>
    .record [("type", .text "sent"), ("payload", .record <| reply.fields
      ++ optionalField "reference" (reference.map fun m => ofWord m.value)
      ++ [("spec", spec.toJson)])]
  | .edited reply spec =>
    .record [("type", .text "edited"),
      ("payload", .record (reply.fields ++ [("spec", spec.toJson)]))]
  | .deleted reply => .record [("type", .text "deleted"), ("payload", .record reply.fields)]
  | .reacted channel message reaction =>
    .record [("type", .text "reacted"),
      ("payload", .record (SentReply.fields ⟨channel, message⟩ ++ [("reaction", .text reaction)]))]

/-- The reply operation of a tag and a payload. -/
def ReplyEvent.ofTagged? (intake : Intake) (tag : String) (body : Json) : Option ReplyEvent :=
  match tag with
  | "sent" => do
    let [channel, message, reference, spec] ←
      recordFields? ["channel_id", "message_id", "reference", "spec"] body | none
    return .sent ⟨← required ChannelId.ofJson? channel, ← required MessageId.ofJson? message⟩
      (← withDefault none (nullable? MessageId.ofJson?) reference)
      (← required (ReplySpec.ofJson? intake) spec)
  | "edited" => do
    let [channel, message, spec] ← recordFields? ["channel_id", "message_id", "spec"] body | none
    return .edited ⟨← required ChannelId.ofJson? channel, ← required MessageId.ofJson? message⟩
      (← required (ReplySpec.ofJson? intake) spec)
  | "deleted" => do
    let [channel, message] ← recordFields? ["channel_id", "message_id"] body | none
    return .deleted ⟨← required ChannelId.ofJson? channel, ← required MessageId.ofJson? message⟩
  | "reacted" => do
    let [channel, message, reaction] ←
      recordFields? ["channel_id", "message_id", "reaction"] body | none
    return .reacted (← required ChannelId.ofJson? channel) (← required MessageId.ofJson? message)
      (← required text? reaction)
  | _ => none

/-- The payload of a record stands before its tag. -/
def payloadFirst : Json → Bool
  | .record fields =>
    ((fields.map (·.1)).find? fun k => k == "type" || k == "payload") == some "payload"
  | _ => false

/-- The reply operation that a tagged value describes. -/
def ReplyEvent.ofJson? (j : Json) : Option ReplyEvent := do
  let (tag, body) ← tagged? text? j
  if payloadFirst j then
    if body.isSound (Json.maxDepth - 1) then ReplyEvent.ofTagged? .setAside tag body else none
  else ReplyEvent.ofTagged? .direct tag body

end ChatCommands
