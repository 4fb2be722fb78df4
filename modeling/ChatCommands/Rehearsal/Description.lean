import ChatCommands.Command.Registry
import ChatCommands.Pipeline.Feed
import ChatCommands.Rehearsal.Platform
import ChatCommands.Wire.Event
import ChatCommands.Wire.Reply

set_option autoImplicit false

/-!
# Descriptions

Everything that a rehearsal is made of can be described in JSON: kinds and parameters, groups,
commands, outcomes, feeds and the platform. A field that is missing is read as null, and null stands
for the usual value. Kinds, groups and arguments may contain others, down to a number of levels.
-/

namespace ChatCommands

namespace Json

/-- The items of a list; anything else has none. -/
def items : Json → List Json
  | .list js => js
  | _ => []

/-- The item of a list at an index, or null. -/
def item (index : Nat) (j : Json) : Json := (j.items[index]?).getD .null

/-- The usual value for null. -/
def orUsual {α : Type} (usual : α) (shape : Json → Option α) : Json → Option α
  | .null => some usual
  | j => shape j

/-- A list of values of a shape; null is the empty one. -/
def listOrNone? {α : Type} (shape : Json → Option α) : Json → Option (List α) :=
  orUsual [] (listOf? shape)

/-- A number of things. -/
def count? (j : Json) : Option Nat := (word? j).map (·.toNat)

/-- A whole number of 64 bits. -/
def whole? : Json → Option Int64
  | .int n => if Text.fitsInt64 n then some (Int64.ofInt n) else none
  | _ => none

/-- A number as a float. -/
def number? : Json → Option Float
  | .int n => some (Decimal.ofInt n)
  | .float x => some x
  | _ => none

/-- A float from its bits in hexadecimal. -/
def bits? (j : Json) : Option Float := do
  let digits ← (← text? j).toList.mapM (Text.digitValue? 16)
  return Float.ofBits (digits.foldl (fun n d => n * 16 + d) 0).toUInt64

/-- The entries of a record of values of a shape; null has none. -/
def entriesOrNone? {α : Type} (shape : Json → Option α) : Json → Option (List (String × α)) :=
  orUsual [] (mapOf? shape)

end Json

open Json (text? bool? word? whole? number? count? listOf? listOrNone? nullable? orUsual)

/-- A path: a text of words, a list of names, or nothing for the root. -/
def Invocation.ofDescription? : Json → Option Invocation
  | .text s => some (.parse s)
  | .null => some .root
  | j => (listOf? text? j).map Invocation.mk

/-- A stream: a text, a list of tokens, or nothing. -/
def TokenStream.ofDescription? : Json → Option TokenStream
  | .text s => some (.ofText s)
  | .null => some .empty
  | j => (listOf? text? j).map TokenStream.ofTokens

/-- A style; usually text. -/
def Style.ofDescription? : Json → Option Style :=
  orUsual .text fun j => (text? j).bind Style.ofName?

/-- What an identifier refers to; usually anything. -/
def IdKind.ofDescription? : Json → Option IdKind
  | .null => some .any
  | .text "any" => some .any
  | .text "channel" => some .channel
  | .text "message" => some .message
  | .text "role" => some .role
  | .text "user" => some .user
  | _ => none

/-- A kind of parameters that goes a number of levels deep. -/
def Kind.ofDescription? (levels : Nat) (j : Json) : Option Kind :=
  match j.get "type" with
  | .text "string" => do
    return .string (← nullable? count? (j.get "min_len")) (← nullable? count? (j.get "max_len"))
      (← listOrNone? text? (j.get "choices")) (← orUsual false bool? (j.get "merge_remainder"))
  | .text "text" => some .freeText
  | .text "boolean" => some .boolean
  | .text "integer" => do
    return .integer (← nullable? whole? (j.get "min")) (← nullable? whole? (j.get "max"))
      (← listOrNone? whole? (j.get "choices"))
  | .text "float" => do
    return .float (← nullable? number? (j.get "min")) (← nullable? number? (j.get "max"))
      (← listOrNone? number? (j.get "choices"))
  | .text "id" => (IdKind.ofDescription? (j.get "id_kind")).map .id
  | .text "user" => some .user
  | .text "role" => some .role
  | .text "channel" => (listOrNone? ChannelKind.ofJson? (j.get "kinds")).map .channel
  | .text "message" => some .message
  | .text "attachment" => do
    return .attachment (← nullable? word? (j.get "max_size"))
      (← listOrNone? text? (j.get "extensions"))
  | .text "list" =>
    match levels with
    | 0 => none
    | n + 1 => do
      return .list (← Kind.ofDescription? n (j.get "item")) (← orUsual 1 count? (j.get "min_items"))
        (← nullable? count? (j.get "max_items"))
  | _ => none

/-- An argument that goes a number of levels deep. -/
def Argument.ofDescription? (levels : Nat) : Json → Option Argument
  | .record [("string", v)] => (text? v).map .string
  | .record [("boolean", v)] => (bool? v).map .boolean
  | .record [("integer", v)] => (whole? v).map .integer
  | .record [("float", v)] => (Json.bits? v).map .float
  | .record [("id", v)] => (word? v).map .id
  | .record [("user", v)] => (User.ofJson? v).map .user
  | .record [("role", v)] => (Role.ofJson? v).map .role
  | .record [("channel", v)] => (Channel.ofJson? v).map .channel
  | .record [("message", v)] => (Message.ofJson? v).map .message
  | .record [("attachment", v)] => (Attachment.ofJson? v).map .attachment
  | .record [("list", v)] =>
    match levels with
    | 0 => none
    | n + 1 => (listOf? (Argument.ofDescription? n) v).map .list
  | _ => none

/-- A raw argument. -/
def RawArgument.ofDescription? : Json → Option RawArgument
  | .record [("text", v)] => (text? v).map .text
  | .record [("slot", v)] => (Slot.ofJson? v).map .slot
  | .record [("attachment", v)] => (Attachment.ofJson? v).map .attachment
  | _ => none

/-- A parameter, usually required. A default makes it optional, unless it is still required. -/
def Parameter.ofDescription? (j : Json) : Option Parameter := do
  let name ← text? (j.get "name")
  let kind ← Kind.ofDescription? Json.maxDepth (j.get "kind")
  let p := if ← orUsual true bool? (j.get "required") then Parameter.ofRequired name kind
    else Parameter.ofOptional name kind
  let dflt ← nullable? (Argument.ofDescription? Json.maxDepth) (j.get "default")
  let p := (dflt.map p.withDefault).getD p
  return if ← orUsual false bool? (j.get "still_required") then { p with required := true } else p

/-- Where arguments come from. -/
def ArgumentSource.ofDescription? (j : Json) : Option ArgumentSource := do
  let slash := j.get "slash"
  if j.has "slash" then
    return .slash (← Json.entriesOrNone? Slot.ofJson? (slash.get "options"))
      (← Json.entriesOrNone? Attachment.ofJson? (slash.get "attachments"))
  else
    return .text (← TokenStream.ofDescription? (j.get "text"))
      (← listOrNone? Attachment.ofJson? (j.get "attachments"))

/-- The rule with a label in the log that always holds, never does, fails, or holds for callers
with an even identifier. -/
def labelledRule (label belongs : Json) (scope : AccessScope) : Lookup Bool := do
  Lookup.note (.list [.text "predicate", label])
  match belongs with
  | .bool b => return b
  | .record _ => Lookup.fail (.ofText ((text? (belongs.get "err")).getD ""))
  | _ => return scope.caller.id.value % 2 == 0

/-- A group that goes a number of levels deep. A group that is not named has the usual name of its
rule; null takes the name away. -/
def Group.ofDescription? (levels : Nat) (j : Json) : Option Group := do
  let basic (name : String) (rule : Rule) : Group := .basic (some name) rule
  let g ← match j.get "rule" with
    | .text "everyone" => some Group.everyone
    | .text "nobody" => some Group.nobody
    | .text "server_owner" => some Group.serverOwner
    | .text "bot_owner" => some Group.botOwner
    | .text "users" =>
      (listOrNone? UserId.ofJson? (j.get "users")).map fun us => basic "Users" (.users us)
    | .text "has_role" => (RoleId.ofJson? (j.get "role")).map fun r => basic "Role" (.hasRole r)
    | .text "custom" =>
      some (basic "Custom" (.custom (labelledRule (j.get "label") (j.get "belongs"))))
    | .text rule =>
      match levels with
      | 0 => none
      | n + 1 =>
        (listOrNone? (Group.ofDescription? n) (j.get "groups")).bind fun members =>
          if rule = "any" then some (Group.any none members)
          else if rule = "all" then some (Group.all none members)
          else none
    | _ => none
  if j.has "name" then return g.renamed (← nullable? text? (j.get "name")) else return g

/-- A group. -/
def Group.read? : Json → Option Group := Group.ofDescription? Json.maxDepth

/-- A policy; usually membership. -/
def AccessPolicy.ofDescription? : Json → Option AccessPolicy
  | .null => some .basic
  | .text "basic" => some .basic
  | .text "always_allow" => some .alwaysAllow
  | .text "always_deny" => some .alwaysDeny
  | j => (Group.read? (j.get "overridable")).map .overridable

/-- A chain of causes from its texts, the innermost first. -/
def Cause.ofDescription? (j : Json) : Option Cause := do
  match ← listOf? text? j with
  | [] => none
  | root :: outer => return outer.foldl Cause.context (.ofText root)

/-- A success with its sort. -/
def Success.ofDescription? (j : Json) : Option Success :=
  match j.get "variant" with
  | .text "ok" => some .ok
  | .text "message" => (text? (j.get "message")).map .message
  | .text "ack" => do return .ack (← text? (j.get "reaction")) (← text? (j.get "message"))
  | _ => none

/-- A failure with its sort. -/
def Failure.ofDescription? (j : Json) : Option Failure :=
  match j.get "variant" with
  | .text "fail" => some .plain
  | .text "message" => (text? (j.get "message")).map .message
  | .text "setting_denied" => (text? (j.get "message")).map .settingDenied
  | .text "argument_missing" => (text? (j.get "parameter")).map .argumentMissing
  | .text "argument_invalid" => do
    return .argumentInvalid (← text? (j.get "parameter")) (← text? (j.get "message"))
  | .text "argument_extra" => (listOrNone? text? (j.get "extra")).map .argumentExtra
  | .text "user_not_allowed" => (Group.read? (j.get "group")).map .notAllowed
  | _ => none

/-- An outcome with its sort. -/
def Outcome.ofDescription? (j : Json) : Option Outcome :=
  match j.get "kind" with
  | .text "continue" => some .proceed
  | .text "success" => (Success.ofDescription? j).map .success
  | .text "failure" => (Failure.ofDescription? j).map .failure
  | .text "error" => (text? (j.get "message")).map .ofMessage
  | .text "exception" => (Cause.ofDescription? (j.get "causes")).map .ofCause
  | _ => none

/-- The settings of a command; flags that are missing have their defaults. -/
def CommandSettings.ofDescription? (j : Json) : Option CommandSettings := do
  let d : CommandSettings := {}
  let flag (name : String) (usual : Bool) : Option Bool := orUsual usual bool? (j.get name)
  return ⟨← flag "age_restricted" d.ageRestricted, ← flag "owner_only" d.ownerOnly,
    ← flag "server_owner_only" d.serverOwnerOnly, ← flag "callable" d.callable,
    ← flag "inherit_settings" d.inheritSettings,
    ← flag "require_parent_groups" d.requireParentGroups, ← flag "invoke_parent" d.invokeParent⟩

/-- The declaration of a command with a serial number. -/
def Command.ofDescription? (serial : Nat) (j : Json) : Option Command := do
  let c := Command.ofPath (← text? (j.get "id")) (← Invocation.ofDescription? (j.get "path"))
  return { c with
    serial := serial
    scope := if text? (j.get "scope") == some "guild" then .guildOnly else .everywhere
    settings := ← CommandSettings.ofDescription? (j.get "settings")
    group := ← orUsual .everyone Group.read? (j.get "group")
    parameters := ← listOrNone? Parameter.ofDescription? (j.get "parameters")
    styles := ← orUsual c.styles (listOf? Style.ofDescription?) (j.get "styles") }

/-- The sort of questions with a name. -/
def QuerySort.ofDescription? (j : Json) : Option QuerySort := do
  let name ← text? j
  [QuerySort.guild, .channel, .user, .role, .message, .memberRoles, .applicationOwner].find?
    (·.name == name)

/-- The operation with a name. -/
def ReplyOperation.ofDescription? (j : Json) : Option ReplyOperation := do
  let name ← text? j
  [ReplyOperation.send, .edit, .delete, .react].find? (·.name == name)

/-- A membership, as a record or as the list of guild, user and roles. -/
def Membership.ofDescription? (j : Json) : Option Membership :=
  match j with
  | .list [guild, user, roles] => do
    return ⟨← GuildId.ofJson? guild, ← UserId.ofJson? user, ← listOrNone? RoleId.ofJson? roles⟩
  | j => do
    return ⟨← GuildId.ofJson? (j.get "guild_id"), ← UserId.ofJson? (j.get "user_id"),
      ← listOrNone? RoleId.ofJson? (j.get "roles")⟩

/-- A roster. -/
def Roster.ofDescription? (j : Json) : Option Roster := do
  return ⟨← listOrNone? Guild.ofJson? (j.get "guilds"),
    ← listOrNone? Channel.ofJson? (j.get "channels"),
    ← listOrNone? User.ofJson? (j.get "users"), ← listOrNone? Role.ofJson? (j.get "roles"),
    ← listOrNone? Membership.ofDescription? (j.get "members")⟩

/-- The platform of a rehearsal. -/
def Rehearsal.ofDescription? (j : Json) : Option Rehearsal := do
  let dflt : Rehearsal := {}
  return {
    roster := ← Roster.ofDescription? j
    messages := ← listOrNone? Message.ofJson? (j.get "messages")
    owner := ← orUsual dflt.owner UserId.ofJson? (j.get "owner")
    isUnavailable := text? (j.get "resolver") == some "missing"
    failing := ← listOrNone? QuerySort.ofDescription? (j.get "fail")
    breaking := ← listOrNone? QuerySort.ofDescription? (j.get "resolver_panic")
    userDelay := ← orUsual 0 count? (j.get "user_delay_ms")
    failingReplies := ← listOrNone? ReplyOperation.ofDescription? (j.get "transport_fail")
    refusedSends := ← listOrNone? count? (j.get "send_fail")
    privateChannel := ← nullable? ChannelId.ofJson? (j.get "private_channel")
    isObserved := ← orUsual false bool? (j.get "observe") }

/-- A question to the directory. -/
def Query.ofDescription? (j : Json) : Option Query := do
  match ← text? (j.item 0) with
  | "guild" => return .guild (← GuildId.ofJson? (j.item 1))
  | "channel" => return .channel (← ChannelId.ofJson? (j.item 1))
  | "user" => return .user (← UserId.ofJson? (j.item 1))
  | "role" => return .role (← GuildId.ofJson? (j.item 1)) (← RoleId.ofJson? (j.item 2))
  | "message" => return .message (← ChannelId.ofJson? (j.item 1)) (← MessageId.ofJson? (j.item 2))
  | "member_roles" =>
    return .memberRoles (← GuildId.ofJson? (j.item 1)) (← UserId.ofJson? (j.item 2))
  | "application_owner" => return .applicationOwner
  | _ => none

/-- An item of a feed. -/
def FeedItem.ofDescription? (j : Json) : Option FeedItem :=
  if j.has "event" then (Event.ofJson? (j.get "event")).map .event
  else if j.has "fault" then (SourceFault.ofJson? (j.get "fault")).map .fault
  else if j.has "wait_ms" then (count? (j.get "wait_ms")).map .wait
  else if j.has "panic" then some .breakdown
  else none

/-- A feed; what follows an item that hangs never comes. -/
def Feed.ofDescription? (j : Json) : Option Feed := do
  let items := j.items.takeWhile fun i => !i.has "hang"
  return ⟨← items.mapM FeedItem.ofDescription?, items.length < j.items.length⟩

end ChatCommands
