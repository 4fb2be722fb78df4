import ChatCommands.Domain.Entity
import ChatCommands.Json.Shape

set_option autoImplicit false

/-!
# Entities in JSON

Each entity is a record. A field that may be absent is left out when it is; a list of attachments is
left out when it is empty.
-/

namespace ChatCommands

open Json (word? bool? text? listOf? nullable? withDefault required fields? choice? optionalField
  ofWord)

/-- An identifier of users from a word. -/
def UserId.ofJson? (j : Json) : Option UserId := (word? j).map UserId.mk

/-- An identifier of guilds from a word. -/
def GuildId.ofJson? (j : Json) : Option GuildId := (word? j).map GuildId.mk

/-- An identifier of channels from a word. -/
def ChannelId.ofJson? (j : Json) : Option ChannelId := (word? j).map ChannelId.mk

/-- An identifier of messages from a word. -/
def MessageId.ofJson? (j : Json) : Option MessageId := (word? j).map MessageId.mk

/-- An identifier of roles from a word. -/
def RoleId.ofJson? (j : Json) : Option RoleId := (word? j).map RoleId.mk

/-- An identifier of attachments from a word. -/
def AttachmentId.ofJson? (j : Json) : Option AttachmentId := (word? j).map AttachmentId.mk

/-- A kind of channel from its name. -/
def ChannelKind.ofJson? (j : Json) : Option ChannelKind :=
  (choice? .direct j).bind ChannelKind.ofName?

/-- The record of a user. -/
def User.toJson (u : User) : Json :=
  .record [("user_id", ofWord u.id.value), ("username", .text u.username), ("bot", .bool u.bot)]

/-- The user that a record or list describes. -/
def User.ofJson? (j : Json) : Option User := do
  let [id, username, bot] ← fields? ["user_id", "username", "bot"] j | none
  return ⟨← required UserId.ofJson? id, ← required text? username, ← withDefault false bool? bot⟩

/-- The record of a guild. -/
def Guild.toJson (g : Guild) : Json :=
  .record [("guild_id", ofWord g.id.value), ("name", .text g.name),
    ("owner_id", ofWord g.owner.value)]

/-- The guild that a record or list describes. -/
def Guild.ofJson? (j : Json) : Option Guild := do
  let [id, name, owner] ← fields? ["guild_id", "name", "owner_id"] j | none
  return ⟨← required GuildId.ofJson? id, ← required text? name, ← required UserId.ofJson? owner⟩

/-- The record of a role. -/
def Role.toJson (r : Role) : Json :=
  .record [("role_id", ofWord r.id.value), ("guild_id", ofWord r.guild.value),
    ("name", .text r.name)]

/-- The role that a record or list describes. -/
def Role.ofJson? (j : Json) : Option Role := do
  let [id, guild, name] ← fields? ["role_id", "guild_id", "name"] j | none
  return ⟨← required RoleId.ofJson? id, ← required GuildId.ofJson? guild, ← required text? name⟩

/-- The record of a channel. -/
def Channel.toJson (c : Channel) : Json :=
  .record <| [("channel_id", ofWord c.id.value)]
    ++ optionalField "guild_id" (c.guild.map fun g => ofWord g.value)
    ++ [("kind", .text c.kind.name), ("name", .text c.name),
      ("age_restricted", .bool c.ageRestricted)]

/-- The channel that a record or list describes. -/
def Channel.ofJson? (j : Json) : Option Channel := do
  let [id, guild, kind, name, restricted] ←
    fields? ["channel_id", "guild_id", "kind", "name", "age_restricted"] j | none
  return ⟨← required ChannelId.ofJson? id, ← withDefault none (nullable? GuildId.ofJson?) guild,
    ← required ChannelKind.ofJson? kind, ← required text? name,
    ← withDefault false bool? restricted⟩

/-- The record of an attachment. -/
def Attachment.toJson (a : Attachment) : Json :=
  .record <| [("attachment_id", ofWord a.id.value), ("filename", .text a.filename),
      ("size_bytes", ofWord a.size), ("url", .text a.url)]
    ++ optionalField "mime_type" (a.mimeType.map .text)

/-- The attachment that a record or list describes. -/
def Attachment.ofJson? (j : Json) : Option Attachment := do
  let [id, filename, size, url, mime] ←
    fields? ["attachment_id", "filename", "size_bytes", "url", "mime_type"] j | none
  return ⟨← required AttachmentId.ofJson? id, ← required text? filename, ← required word? size,
    ← required text? url, ← withDefault none (nullable? text?) mime⟩

/-- The field of attachments, unless there are none. -/
def attachmentsField (as : List Attachment) : List (String × Json) :=
  if as = [] then [] else [("attachments", .list (as.map Attachment.toJson))]

/-- The record of a message. -/
def Message.toJson (m : Message) : Json :=
  .record <| [("message_id", ofWord m.id.value), ("channel_id", ofWord m.channel.value)]
    ++ optionalField "guild_id" (m.guild.map fun g => ofWord g.value)
    ++ [("author", m.author.toJson), ("content", .text m.content)]
    ++ attachmentsField m.attachments

/-- The message that a record or list describes. -/
def Message.ofJson? (j : Json) : Option Message := do
  let [id, channel, guild, author, content, attachments] ←
    fields? ["message_id", "channel_id", "guild_id", "author", "content", "attachments"] j | none
  return ⟨← required MessageId.ofJson? id, ← required ChannelId.ofJson? channel,
    ← withDefault none (nullable? GuildId.ofJson?) guild, ← required User.ofJson? author,
    ← required text? content, ← withDefault [] (listOf? Attachment.ofJson?) attachments⟩

end ChatCommands
