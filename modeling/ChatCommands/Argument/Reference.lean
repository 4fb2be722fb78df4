import ChatCommands.Argument.Value
import ChatCommands.Argument.Error
import ChatCommands.Text.Numeral
import ChatCommands.Url.Basic

set_option autoImplicit false

/-!
# References to entities

Users, channels, roles and messages are referred to by plain identifiers, by mentions such as
`<@3>`, or, for channels and messages, by permalinks. This module reads such references; what they
refer to is looked up elsewhere.
-/

namespace ChatCommands.Reference

open Text (trim trimStart after? before? readWord64)

/-- What a mention mentions. -/
inductive MentionKind where
  | user
  | channel
  | role
  deriving DecidableEq, Repr

/-- The word for what a mention mentions. -/
def MentionKind.noun : MentionKind → String
  | .user => "user"
  | .channel => "channel"
  | .role => "role"

/-- The identifier within a mention of this kind, without its signs. -/
def MentionKind.body? (kind : MentionKind) (inner : List Char) : Option (List Char) :=
  match kind, inner with
  | .user, '@' :: '!' :: r => some r
  | .user, '@' :: '&' :: _ => none
  | .user, '@' :: r => some r
  | .channel, '#' :: r => some r
  | .role, '@' :: '&' :: r => some r
  | _, _ => none

/-- A plain identifier. -/
def readSnowflake (raw : String) : Except ArgumentError UInt64 :=
  match readWord64 (trim raw.toList) with
  | .ok n => .ok n
  | .error _ => .error (.invalid ("Value '" ++ raw ++ "' is not a valid snowflake ID."))

/-- The text between angle brackets. -/
def inBrackets? (s : List Char) : Option (List Char) := (after? ['<'] s).bind (before? ['>'])

/-- A mention of a kind, or a plain identifier. -/
def readMention (kind : MentionKind) (raw : String) : Except ArgumentError UInt64 :=
  let s := trim raw.toList
  match inBrackets? s with
  | some inner =>
    match kind.body? inner with
    | none => .error (.invalid ("Not a " ++ kind.noun ++ " mention"))
    | some body =>
      match readWord64 body with
      | .ok n => .ok n
      | .error _ =>
        .error (.invalid
          ("Not a valid " ++ kind.noun ++ " mention: <" ++ String.ofList inner ++ ">"))
  | none => readSnowflake (String.ofList s)

/-- The hosts of permalinks. -/
def permalinkHosts : List String := ["discord.com", "ptb.discord.com", "canary.discord.com"]

/-- What a permalink points at; a private channel has no guild. -/
structure Permalink where
  guild : Option GuildId
  channel : ChannelId
  message : Option MessageId
  deriving DecidableEq, Repr

/-- The permalink of the segments of a path. -/
def permalinkOf? (segments : List (List Char)) : Option Permalink := do
  let (guild, channel, message) ← match segments with
    | [lead, guild, channel] =>
      if lead = "channels".toList then some (guild, channel, none) else none
    | [lead, guild, channel, message] =>
      if lead = "channels".toList then some (guild, channel, some message) else none
    | _ => none
  let guild ←
    if guild = "@me".toList then some none else (readWord64 guild).toOption.map (some ⟨·⟩)
  let channel ← (readWord64 channel).toOption
  let message ← match message with
    | none => some none
    | some m => (readWord64 m).toOption.map (some ⟨·⟩)
  return ⟨guild, ⟨channel⟩, message⟩

/-- The host is one of the hosts of permalinks. -/
def isPermalinkHost : Option Url.Host → Bool
  | some (.domain name) => permalinkHosts.contains name
  | _ => false

/-- A permalink. -/
def readPermalink (raw : String) : Except ArgumentError Permalink :=
  match Url.parse? (trim raw.toList) with
  | none => .error (.invalid ("Not a valid URL: " ++ raw))
  | some url =>
    if url.scheme ≠ "https" ∨ ¬ isPermalinkHost url.host then
      .error (.invalid ("Not a valid Discord URL: " ++ raw))
    else
      match permalinkOf? url.segments with
      | some link => .ok link
      | none => .error (.invalid ("Invalid channel URL: " ++ raw))

/-- The text is meant as a link. -/
def isLink (raw : String) : Bool := (after? "https://".toList (trimStart raw.toList)).isSome

/-- Where a reference is made. -/
structure Place where
  guild : Option GuildId
  channel : ChannelId
  deriving DecidableEq, Repr

/-- A reference to a channel. -/
def readChannel (raw : String) : Except ArgumentError ChannelId := do
  if isLink raw then return (← readPermalink raw).channel
  else return ⟨← readMention .channel raw⟩

/-- A reference to a message, with its channel; a plain identifier refers to the current channel. -/
def readMessage (place : Place) (raw : String) : Except ArgumentError (ChannelId × MessageId) := do
  if isLink raw then
    let link ← readPermalink raw
    match link.message with
    | some message => return (link.channel, message)
    | none => throw (.invalid ("Not a valid message URL: " ++ raw))
  else return (place.channel, ⟨← readSnowflake raw⟩)

/-- A reference to a role. The role of everyone shares the identifier of its guild. -/
def readRole (place : Place) (raw : String) : Except ArgumentError RoleId := do
  let s := String.ofList (trim raw.toList)
  if s = "@everyone" ∨ s = "@here" then
    match place.guild with
    | some guild => return ⟨guild.value⟩
    | none => throw (.invalid "Currently in a private channel, please use a URL")
  else return ⟨← readMention .role s⟩

/-- A reference to a user. -/
def readUser (raw : String) : Except ArgumentError UserId := do return ⟨← readMention .user raw⟩

/-- The identifier that a reference of a kind refers to. -/
def readId (place : Place) (kind : IdKind) (raw : String) : Except ArgumentError UInt64 := do
  match kind with
  | .any => readSnowflake raw
  | .channel => return (← readChannel raw).value
  | .message => return (← readMessage place raw).2.value
  | .role => return (← readRole place raw).value
  | .user => return (← readUser raw).value

end ChatCommands.Reference
