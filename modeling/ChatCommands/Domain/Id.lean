set_option autoImplicit false

/-!
# Identifiers

Every kind of entity has identifiers of its own, each a word of 64 bits.
-/

namespace ChatCommands

/-- The identifier of a user. -/
structure UserId where
  value : UInt64
  deriving DecidableEq, Repr, Inhabited

/-- The identifier of a guild. -/
structure GuildId where
  value : UInt64
  deriving DecidableEq, Repr, Inhabited

/-- The identifier of a channel. -/
structure ChannelId where
  value : UInt64
  deriving DecidableEq, Repr, Inhabited

/-- The identifier of a message. -/
structure MessageId where
  value : UInt64
  deriving DecidableEq, Repr, Inhabited

/-- The identifier of a role. -/
structure RoleId where
  value : UInt64
  deriving DecidableEq, Repr, Inhabited

/-- The identifier of an attachment. -/
structure AttachmentId where
  value : UInt64
  deriving DecidableEq, Repr, Inhabited

instance : ToString UserId := ⟨fun i => toString i.value⟩
instance : ToString GuildId := ⟨fun i => toString i.value⟩
instance : ToString ChannelId := ⟨fun i => toString i.value⟩
instance : ToString MessageId := ⟨fun i => toString i.value⟩
instance : ToString RoleId := ⟨fun i => toString i.value⟩
instance : ToString AttachmentId := ⟨fun i => toString i.value⟩

end ChatCommands
