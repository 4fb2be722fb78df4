import ChatCommands.Argument.Primitive
import ChatCommands.Argument.Reference
import ChatCommands.Effect.Lookup
import ChatCommands.Outcome

set_option autoImplicit false

/-!
# Parsing arguments

A raw argument becomes a value as its parameter's kind says; entities are looked up. All parameters
of a command are parsed independently of each other, and the first failure in declaration order
decides how the parsing ends.
-/

namespace ChatCommands

open Reference (Place)

/-- A conversion that may look entities up and may refuse the input. -/
abbrev Parse (α : Type) : Type :=
  ExceptT ArgumentError (ExceptT Failing (Program Query Query.Answer)) α

namespace Parse

/-- A conversion without lookups. -/
def ofExcept {α : Type} : Except ArgumentError α → Parse α
  | .ok a => return a
  | .error e => throw e

/-- A lookup whose error refuses the argument. -/
def lookedUp {α : Type} (p : Lookup α) : Parse α := do
  match ← (p.attempt : Lookup (Except Cause α)) with
  | .ok a => return a
  | .error cause => throw (.lookup cause)

/-- The input is refused with a message. -/
def refuse {α : Type} (message : String) : Parse α := throw (.invalid message)

/-- What was looked up exists. -/
def found {α : Type} : Option α → Parse α
  | some a => return a
  | none => refuse "Not found."

end Parse

/-- The text of a slot: what a caller would have typed. -/
def Slot.asText : Slot → String
  | .boolean b => if b then "true" else "false"
  | .integer n => toString n.toInt
  | .float x => Decimal.ofFloat x
  | .text s => s

/-- The text of a raw argument; an attachment has none. -/
def RawArgument.asText : RawArgument → Except ArgumentError String
  | .text s => .ok s
  | .slot s => .ok s.asText
  | .attachment a => .error (.invalid ("Expected text, got attachment " ++ a.filename))

/-- The user that a text refers to. -/
def parseUser (raw : String) : Parse User := do
  let id ← Parse.ofExcept (Reference.readUser raw)
  Parse.found (← Parse.lookedUp (Lookup.user id))

/-- The role that a text refers to, within a guild. -/
def parseRole (place : Place) (raw : String) : Parse Role := do
  let id ← Parse.ofExcept (Reference.readRole place raw)
  match place.guild with
  | none => Parse.refuse "Roles can only be referenced from inside a server"
  | some guild => Parse.found (← Parse.lookedUp (Lookup.role guild id))

/-- The channel that a text refers to, of one of the kinds when there are any. -/
def parseChannel (kinds : List ChannelKind) (raw : String) : Parse Channel := do
  let id ← Parse.ofExcept (Reference.readChannel raw)
  let channel ← Parse.found (← Parse.lookedUp (Lookup.channel id))
  match kinds with
  | [] => return channel
  | kind :: _ =>
    if kinds.contains channel.kind then return channel
    else Parse.refuse ("Channel must be a " ++ kind.noun)

/-- The message that a text refers to. -/
def parseMessage (place : Place) (raw : String) : Parse Message := do
  let (channel, id) ← Parse.ofExcept (Reference.readMessage place raw)
  Parse.found (← Parse.lookedUp (Lookup.message channel id))

/-- The part of a filename after its last point. -/
def extension? (filename : String) : Option (List Char) :=
  let s := filename.toList
  if s.contains '.' then some (s.reverse.takeWhile (· ≠ '.')).reverse else none

/-- The attachment, when its size and its extension are admitted. -/
def checkAttachment (a : Attachment) (maxSize : Option UInt64) (extensions : List String) :
    Except ArgumentError Attachment :=
  match maxSize.filter (· < a.size) with
  | some max =>
    .error (.invalid
      ("Attachment is larger than the maximum size of " ++ toString max ++ " bytes"))
  | none =>
    if extensions.isEmpty
        || (extension? a.filename).any fun e =>
          extensions.any fun x => Text.sameIgnoringCase x.toList e then
      .ok a
    else .error (.invalid ("Attachment must be one of: " ++ ", ".intercalate extensions))

/-- A truth value. -/
def parseBoolean : RawArgument → Except ArgumentError Bool
  | .slot (.boolean b) => .ok b
  | raw => raw.asText.bind Primitive.readBoolean

/-- A whole number, not yet checked. -/
def parseInteger : RawArgument → Except ArgumentError Int64
  | .slot (.integer n) => .ok n
  | raw => raw.asText.bind Primitive.readInteger

/-- A float, not yet checked. -/
def parseFloat : RawArgument → Except ArgumentError Float
  | .slot (.float x) => .ok x
  | .slot (.integer n) => .ok (Decimal.ofInt n.toInt)
  | raw => raw.asText.bind Primitive.readFloat

/-- The value of a raw argument under a kind. -/
def parseValue (place : Place) : Kind → RawArgument → Parse Argument
  | .string min max choices _, raw => Parse.ofExcept do
    let text ← Primitive.checkLength (← raw.asText) min max
    return .string (← Primitive.checkChoices text choices)
  | .boolean, raw => Parse.ofExcept do return .boolean (← parseBoolean raw)
  | .integer min max choices, raw => Parse.ofExcept do
    let n ← Primitive.checkRange Primitive.integers (← parseInteger raw) min max
    return .integer (← Primitive.checkChoices n choices)
  | .float min max choices, raw => Parse.ofExcept do
    let x ← Primitive.checkRange Primitive.floats (← parseFloat raw) min max
    return .float (← Primitive.checkChoices x choices)
  | .id kind, raw => Parse.ofExcept do return .id (← Reference.readId place kind (← raw.asText))
  | .user, raw => do return .user (← parseUser (← Parse.ofExcept raw.asText))
  | .role, raw => do return .role (← parseRole place (← Parse.ofExcept raw.asText))
  | .channel kinds, raw => do return .channel (← parseChannel kinds (← Parse.ofExcept raw.asText))
  | .message, raw => do return .message (← parseMessage place (← Parse.ofExcept raw.asText))
  | .attachment maxSize extensions, raw => Parse.ofExcept do
    match raw with
    | .attachment a => return .attachment (← checkAttachment a maxSize extensions)
    | _ => throw (.invalid "Expected an attachment")
  | .list item minItems maxItems, raw => do
    let tokens := Token.allOf (Text.trimmed (← Parse.ofExcept raw.asText))
    match maxItems.filter (· < tokens.length) with
    | some max => Parse.refuse ("Too many items, must be at most " ++ toString max)
    | none =>
      let items ← tokens.mapM fun token => parseValue place item (.text token)
      if items.length < minItems then
        Parse.refuse ("Not enough items, must be at least " ++ toString minItems)
      else return .list items

/-- How the parsing of one parameter ends: with a value, with none, or with the outcome of the whole
invocation. -/
abbrev ParameterEnd : Type := Except Outcome (Option Argument)

/-- One parameter from its raw argument, or from its default without one. -/
def parseParameter (place : Place) (p : Parameter) (raw : Option RawArgument) :
    Lookup ParameterEnd := do
  match raw with
  | none =>
    if p.required then return .error (.failure (.argumentMissing p.name))
    else return .ok p.default
  | some raw =>
    match ← (parseValue place p.kind raw).run with
    | .ok value => return .ok (some value)
    | .error (.invalid reason) => return .error (.failure (.argumentInvalid p.name reason))
    | .error e => return .error (.ofCause (e.cause.context ("parsing parameter " ++ p.name)))

/-- The lookups of all parameters. A raw argument is used up by the first parameter of its name. -/
def parameterLookups (place : Place) :
    List Parameter → List (String × RawArgument) → List (Lookup ParameterEnd)
  | [], _ => []
  | p :: ps, raw =>
    parseParameter place p (valueOf? p.name raw)
      :: parameterLookups place ps (raw.filter (·.1 != p.name))

/-- The values of all parameters, or the first failure in declaration order. -/
def joinParameters : List Parameter → List ParameterEnd → Except Outcome (List (String × Argument))
  | p :: ps, r :: rs => do
    let value ← r
    let values ← joinParameters ps rs
    match value with
    | some v => return if values.any (·.1 == p.name) then values else (p.name, v) :: values
    | none => return values
  | _, _ => return []

end ChatCommands
