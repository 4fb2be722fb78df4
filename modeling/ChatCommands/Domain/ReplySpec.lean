import ChatCommands.Domain.Id

set_option autoImplicit false

/-!
# Replies

What a reply says, and the record of a reply operation that a transport writes down.
-/

namespace ChatCommands

/-- The color of an embed. -/
inductive EmbedColor where
  | green
  | red
  | gray
  | white
  deriving DecidableEq, Repr

/-- The written name of a color. -/
def EmbedColor.name : EmbedColor → String
  | .green => "green"
  | .red => "red"
  | .gray => "gray"
  | .white => "white"

/-- The color with a written name. -/
def EmbedColor.ofName? : String → Option EmbedColor
  | "green" => some .green
  | "red" => some .red
  | "gray" => some .gray
  | "white" => some .white
  | _ => none

/-- A framed block of text. -/
structure Embed where
  title : Option String
  description : String
  color : EmbedColor
  footer : Option String
  deriving DecidableEq, Repr

/-- What a reply says and who may see it. -/
structure ReplySpec where
  content : Option String := none
  embed : Option Embed := none
  isPrivate : Bool := false
  deriving DecidableEq, Repr

/-- A public reply of plain text. -/
def ReplySpec.ofText (content : String) : ReplySpec := { content := some content }

/-- A public reply of one embed. -/
def ReplySpec.ofEmbed (embed : Embed) : ReplySpec := { embed := some embed }

/-- The same reply for the caller alone, or for everyone. -/
def ReplySpec.privately (s : ReplySpec) (isPrivate : Bool) : ReplySpec :=
  { s with isPrivate := isPrivate }

/-- The reply that `ofText` or `ofEmbed` builds from the one part a reply has. -/
def ReplySpec.rebuilt? (s : ReplySpec) : Option ReplySpec :=
  match s.content, s.embed with
  | some content, none => some ((ReplySpec.ofText content).privately s.isPrivate)
  | none, some embed => some ((ReplySpec.ofEmbed embed).privately s.isPrivate)
  | _, _ => none

/-- Where a reply landed. -/
structure SentReply where
  channel : ChannelId
  message : MessageId
  deriving DecidableEq, Repr

/-- The record of one reply operation. -/
inductive ReplyEvent where
  | sent (reply : SentReply) (reference : Option MessageId) (spec : ReplySpec)
  | edited (reply : SentReply) (spec : ReplySpec)
  | deleted (reply : SentReply)
  | reacted (channel : ChannelId) (message : MessageId) (reaction : String)
  deriving DecidableEq, Repr

end ChatCommands
