set_option autoImplicit false

/-!
# Numerals

Reading of unsigned numerals in a radix, below a bound. A numeral is a non-empty run of ASCII
digits; the digit that is no digit, or the digit that carries the value over the bound, decides
the error, whichever comes first from the left.
-/

namespace ChatCommands.Text

/-- Why a text is no numeral below the bound. -/
inductive NumeralError where
  | empty
  | invalidDigit
  | tooLarge
  deriving Repr, DecidableEq

/-- The wording of a numeral error. -/
def NumeralError.message : NumeralError → String
  | .empty => "cannot parse integer from empty string"
  | .invalidDigit => "invalid digit found in string"
  | .tooLarge => "number too large to fit in target type"

/-- The value of an ASCII digit or letter as a digit, when it is below the radix. -/
def digitValue? (radix : Nat) (c : Char) : Option Nat :=
  let v? :=
    if '0' ≤ c ∧ c ≤ '9' then some (c.toNat - '0'.toNat)
    else if 'a' ≤ c ∧ c ≤ 'z' then some (c.toNat - 'a'.toNat + 10)
    else if 'A' ≤ c ∧ c ≤ 'Z' then some (c.toNat - 'A'.toNat + 10)
    else none
  v?.filter (· < radix)

/-- The value of a run of digits read after the value `acc`, as long as it stays within `bound`. -/
def readDigits (radix bound : Nat) (acc : Nat) : List Char → Except NumeralError Nat
  | [] => .ok acc
  | c :: r =>
    match digitValue? radix c with
    | none => .error .invalidDigit
    | some d =>
      if acc * radix + d > bound then .error .tooLarge
      else readDigits radix bound (acc * radix + d) r

/-- An unsigned numeral within `bound`: one optional `+`, then at least one digit. -/
def readUnsigned (radix bound : Nat) (s : List Char) : Except NumeralError Nat :=
  match s with
  | [] => .error .empty
  | ['+'] => .error .invalidDigit
  | '+' :: r => readDigits radix bound 0 r
  | s => readDigits radix bound 0 s

/-- A number in decimal digits, padded with zeros to a width. -/
def padded (width n : Nat) : String :=
  let s := toString n
  String.ofList (List.replicate (width - s.length) '0') ++ s

/-- The largest value of an unsigned word of 64 bits. -/
def maxWord64 : Nat := 0xFFFFFFFFFFFFFFFF

/-- The largest value of an unsigned word of 32 bits. -/
def maxWord32 : Nat := 0xFFFFFFFF

/-- The whole number fits a signed word of 64 bits. -/
def fitsInt64 (n : Int) : Bool := -0x8000000000000000 ≤ n && n ≤ 0x7FFFFFFFFFFFFFFF

/-- A decimal numeral that fits an unsigned word of 64 bits. -/
def readWord64 (s : List Char) : Except NumeralError UInt64 :=
  (readUnsigned 10 maxWord64 s).map Nat.toUInt64

/-- A decimal numeral that fits an unsigned word of 32 bits. -/
def readWord32 (s : List Char) : Except NumeralError UInt32 :=
  (readUnsigned 10 maxWord32 s).map Nat.toUInt32

end ChatCommands.Text
