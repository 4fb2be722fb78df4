import ChatCommands.Argument.Error
import ChatCommands.Text.Blank
import ChatCommands.Text.Numeral
import ChatCommands.Decimal.Rounding
import ChatCommands.Decimal.Shortest

set_option autoImplicit false

/-!
# Primitive arguments

Text read as a truth value, a whole number or a float, and the checks of values against limits.
Whole numbers are written in decimal, in hexadecimal after `0x`, `0X` or `#`, or in octal after a
zero, with an optional sign in front.
-/

namespace ChatCommands.Primitive

open Text (trim readDigits maxWord64 sameIgnoringCase)

/-- A truth value, in either case. -/
def readBoolean (raw : String) : Except ArgumentError Bool :=
  let s := trim raw.toList
  if sameIgnoringCase s "true".toList then .ok true
  else if sameIgnoringCase s "false".toList then .ok false
  else .error (.invalid ("Not a valid boolean: " ++ raw))

/-- The radix that the beginning of an unsigned numeral announces, and the digits after it. -/
def radixOf : List Char → Nat × List Char
  | '0' :: 'x' :: r => (16, r)
  | '0' :: 'X' :: r => (16, r)
  | '#' :: r => (16, r)
  | '0' :: c :: r => (8, c :: r)
  | s => (10, s)

/-- The magnitude of an unsigned numeral, below 2^64. -/
def magnitude? (s : List Char) : Option Nat :=
  let (radix, digits) := radixOf s
  if digits = [] then none else (readDigits radix maxWord64 0 digits).toOption

/-- The whole number of a numeral with an optional sign, within 64 bits. -/
def integer? (s : List Char) : Option Int64 :=
  match s with
  | '-' :: r => (magnitude? r).bind fun n =>
    if n ≤ 0x8000000000000000 then some (Int64.ofInt (-n)) else none
  | '+' :: r => (magnitude? r).bind fun n =>
    if n < 0x8000000000000000 then some (Int64.ofInt n) else none
  | s => (magnitude? s).bind fun n => if n < 0x8000000000000000 then some (Int64.ofInt n) else none

/-- A whole number. -/
def readInteger (raw : String) : Except ArgumentError Int64 :=
  match integer? (trim raw.toList) with
  | some n => .ok n
  | none => .error (.invalid ("Not a valid integer: " ++ raw))

/-- A finite number. -/
def readFloat (raw : String) : Except ArgumentError Float :=
  match Decimal.readFinite (trim raw.toList) with
  | some x => .ok x
  | none => .error (.invalid ("Not a valid number: " ++ raw))

/-- How values of a type compare and are written in messages. -/
structure Scale (α : Type) where
  below : α → α → Bool
  text : α → String

/-- The scale of whole numbers. -/
def integers : Scale Int64 := ⟨fun a b => decide (a < b), fun a => toString a.toInt⟩

/-- The scale of floats. -/
def floats : Scale Float := ⟨fun a b => decide (a < b), Decimal.ofFloat⟩

/-- The value, when it is within the limits. -/
def checkRange {α : Type} (scale : Scale α) (value : α) (min max : Option α) :
    Except ArgumentError α :=
  match min.filter (scale.below value ·), max.filter (scale.below · value) with
  | some min, _ =>
    .error (.invalid (scale.text value ++ " is below the minimum value of " ++ scale.text min))
  | none, some max =>
    .error (.invalid (scale.text value ++ " is above the maximum value of " ++ scale.text max))
  | none, none => .ok value

/-- The value, when it is one of the choices or there are none. -/
def checkChoices {α : Type} [BEq α] (value : α) (choices : List α) : Except ArgumentError α :=
  if choices.isEmpty || choices.contains value then .ok value
  else .error (.invalid "Not a valid choice")

/-- The text, when its number of characters is within the limits. -/
def checkLength (value : String) (min max : Option Nat) : Except ArgumentError String :=
  match min.filter (value.length < ·), max.filter (· < value.length) with
  | some min, _ => .error (.invalid ("Must have at least " ++ toString min ++ " characters"))
  | none, some max => .error (.invalid ("Must have at most " ++ toString max ++ " characters"))
  | none, none => .ok value

end ChatCommands.Primitive
