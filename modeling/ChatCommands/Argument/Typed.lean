import ChatCommands.Argument.Value
import ChatCommands.Decimal.Rounding

set_option autoImplicit false

/-!
# Typed arguments

A handler asks for an argument by the type that it expects. A value of another constructor is not
read, but for whole numbers, which can be read as floats.
-/

namespace ChatCommands

/-- The types by which arguments are read. -/
inductive ArgumentType where
  | string
  | boolean
  | integer
  | float
  | id
  | user
  | role
  | channel
  | message
  | attachment
  | list (item : ArgumentType)
  deriving DecidableEq, Repr

namespace ArgumentType

/-- The values of a type. -/
def Value : ArgumentType → Type
  | .string => String
  | .boolean => Bool
  | .integer => Int64
  | .float => Float
  | .id => UInt64
  | .user => User
  | .role => Role
  | .channel => Channel
  | .message => Message
  | .attachment => Attachment
  | .list item => List item.Value

/-- An argument read by a type. -/
def read? : (t : ArgumentType) → Argument → Option t.Value
  | .string, .string s => some s
  | .boolean, .boolean b => some b
  | .integer, .integer n => some n
  | .float, .float x => some x
  | .float, .integer n => some (Decimal.ofInt n.toInt)
  | .id, .id n => some n
  | .user, .user u => some u
  | .role, .role r => some r
  | .channel, .channel c => some c
  | .message, .message m => some m
  | .attachment, .attachment a => some a
  | .list item, .list items => items.mapM item.read?
  | _, _ => none

/-- The value as an argument again. -/
def argument : (t : ArgumentType) → t.Value → Argument
  | .string, s => .string s
  | .boolean, b => .boolean b
  | .integer, n => .integer n
  | .float, x => .float x
  | .id, n => .id n
  | .user, u => .user u
  | .role, r => .role r
  | .channel, c => .channel c
  | .message, m => .message m
  | .attachment, a => .attachment a
  | .list item, vs => .list (vs.map item.argument)

end ArgumentType

/-- The type by which the values of a kind are read. -/
def Kind.type : Kind → ArgumentType
  | .string .. => .string
  | .boolean => .boolean
  | .integer .. => .integer
  | .float .. => .float
  | .id _ => .id
  | .user => .user
  | .role => .role
  | .channel _ => .channel
  | .message => .message
  | .attachment .. => .attachment
  | .list item _ _ => .list item.type

end ChatCommands
