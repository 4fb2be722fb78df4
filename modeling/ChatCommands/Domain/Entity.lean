import ChatCommands.Domain.Id

set_option autoImplicit false

/-!
# Entities

What the platform knows about: users, guilds, roles, channels, attachments and messages.
-/

namespace ChatCommands

/-- What a channel is for. -/
inductive ChannelKind where
  | text
  | voice
  | category
  | thread
  | direct
  deriving DecidableEq, Repr

/-- The words for a kind of channel in a sentence. -/
def ChannelKind.noun : ChannelKind → String
  | .text => "text channel"
  | .voice => "voice channel"
  | .category => "category"
  | .thread => "thread"
  | .direct => "direct message channel"

/-- The written name of a kind of channel. -/
def ChannelKind.name : ChannelKind → String
  | .text => "text"
  | .voice => "voice"
  | .category => "category"
  | .thread => "thread"
  | .direct => "direct"

/-- The kind of channel with a written name. -/
def ChannelKind.ofName? : String → Option ChannelKind
  | "text" => some .text
  | "voice" => some .voice
  | "category" => some .category
  | "thread" => some .thread
  | "direct" => some .direct
  | _ => none

/-- A user, human or bot. -/
structure User where
  id : UserId
  username : String
  bot : Bool
  deriving DecidableEq, Repr

/-- A guild and its owner. -/
structure Guild where
  id : GuildId
  name : String
  owner : UserId
  deriving DecidableEq, Repr

/-- A role of one guild. -/
structure Role where
  id : RoleId
  guild : GuildId
  name : String
  deriving DecidableEq, Repr

/-- A channel, of a guild or private. -/
structure Channel where
  id : ChannelId
  guild : Option GuildId
  kind : ChannelKind
  name : String
  ageRestricted : Bool
  deriving DecidableEq, Repr

/-- A file attached to a message or given to a slash command. -/
structure Attachment where
  id : AttachmentId
  filename : String
  size : UInt64
  url : String
  mimeType : Option String
  deriving DecidableEq, Repr

/-- A message in a channel. -/
structure Message where
  id : MessageId
  channel : ChannelId
  guild : Option GuildId
  author : User
  content : String
  attachments : List Attachment
  deriving DecidableEq, Repr

end ChatCommands
