import ChatCommands.Domain.Event
import ChatCommands.Invocation.TokenStream

set_option autoImplicit false

/-!
# Parameters and arguments

A parameter has a kind, which says how a raw argument becomes a value and which values it admits. A
raw argument is a token of text, an option of a slash interaction, or an attachment.
-/

namespace ChatCommands

/-- What an id parameter may refer to. -/
inductive IdKind where
  | any
  | channel
  | message
  | role
  | user
  deriving DecidableEq, Repr

/-- How a raw argument becomes a value. -/
inductive Kind where
  /-- A text within limits of length; with `mergeRemainder` it takes all that is left
  of the input. -/
  | string (minLength maxLength : Option Nat) (choices : List String) (mergeRemainder : Bool)
  | boolean
  | integer (min max : Option Int64) (choices : List Int64)
  | float (min max : Option Float) (choices : List Float)
  | id (kind : IdKind)
  | user
  | role
  | channel (kinds : List ChannelKind)
  | message
  | attachment (maxSize : Option UInt64) (extensions : List String)
  | list (item : Kind) (minItems : Nat) (maxItems : Option Nat)

namespace Kind

/-- The kind of free text that takes all that is left of the input. -/
def freeText : Kind := .string none none [] true

/-- The stable name of a kind. -/
def tag : Kind → String
  | .string .. => "string"
  | .boolean => "boolean"
  | .integer .. => "integer"
  | .float .. => "float"
  | .id _ => "id"
  | .user => "user"
  | .role => "role"
  | .channel _ => "channel"
  | .message => "message"
  | .attachment .. => "attachment"
  | .list .. => "list"

/-- The kind takes an attachment. -/
def isAttachment : Kind → Bool
  | .attachment .. => true
  | _ => false

/-- As the last parameter, the kind takes all that is left of the input. -/
def merges : Kind → Bool
  | .string _ _ _ mergeRemainder => mergeRemainder
  | .list .. => true
  | _ => false

end Kind

/-- The value of an argument. -/
inductive Argument where
  | string (value : String)
  | boolean (value : Bool)
  | integer (value : Int64)
  | float (value : Float)
  | id (value : UInt64)
  | user (value : User)
  | role (value : Role)
  | channel (value : Channel)
  | message (value : Message)
  | attachment (value : Attachment)
  | list (items : List Argument)

/-- A parameter of a command. -/
structure Parameter where
  name : String
  required : Bool
  default : Option Argument
  kind : Kind

/-- A parameter that must be given. -/
def Parameter.ofRequired (name : String) (kind : Kind) : Parameter := ⟨name, true, none, kind⟩

/-- A parameter that may be left out. -/
def Parameter.ofOptional (name : String) (kind : Kind) : Parameter := ⟨name, false, none, kind⟩

/-- The parameter with a value that stands in when it is left out. -/
def Parameter.withDefault (p : Parameter) (value : Argument) : Parameter :=
  { p with required := false, default := some value }

/-- An argument before conversion. -/
inductive RawArgument where
  | text (value : String)
  | slot (value : Slot)
  | attachment (value : Attachment)

/-- Where the arguments of an invocation come from. -/
inductive ArgumentSource where
  | text (tokens : TokenStream) (attachments : List Attachment)
  | slash (options : List (String × Slot)) (attachments : List (String × Attachment))

/-- The value under a name, in a list without repeated names. -/
def valueOf? {α : Type} (name : String) (entries : List (String × α)) : Option α :=
  (entries.find? (·.1 == name)).map (·.2)

/-- The entries with a value under a name, in place of the earlier one. -/
def setValue {α : Type} (name : String) (value : α) (entries : List (String × α)) :
    List (String × α) :=
  entries.filter (·.1 != name) ++ [(name, value)]

end ChatCommands
