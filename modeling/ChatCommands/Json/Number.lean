import ChatCommands.Json.Basic
import ChatCommands.Text.Numeral
import ChatCommands.Decimal.Rounding

set_option autoImplicit false

/-!
# JSON numbers

A number literal is an optional minus, a whole part without superfluous zeros, an optional
fraction and an optional exponent. A literal of digits alone is a whole number when it fits a
word of 64 bits, signed or unsigned. Every other literal is a float: as many digits as fit an
unsigned word are kept, and the word is multiplied or divided once by the power of ten. A float
beyond the range is refused.
-/

namespace ChatCommands.Json

/-- An ASCII digit. -/
def isDigit (c : Char) : Bool := '0' ≤ c && c ≤ '9'

/-- The parts of a number literal. -/
structure NumberParts where
  negative : Bool
  whole : List Char
  fraction : Option (List Char)
  exponent : Option (Bool × List Char)

/-- A whole part is `0` or a run of digits that does not start with `0`. -/
def wholePartOk : List Char → Bool
  | [] => false
  | ['0'] => true
  | '0' :: _ => false
  | _ => true

/-- The exponent after its letter: an optional sign and at least one digit, to the end. -/
def exponentPart? (s : List Char) : Option (Bool × List Char) :=
  let (below, digits) := match s with
    | '-' :: r => (true, r)
    | '+' :: r => (false, r)
    | s => (false, s)
  if digits ≠ [] ∧ digits.all isDigit then some (below, digits) else none

/-- The literal taken apart; absent when it is no number. -/
def numberParts? (s : List Char) : Option NumberParts :=
  let (negative, s) := match s with
    | '-' :: r => (true, r)
    | s => (false, s)
  let whole := s.takeWhile isDigit
  if wholePartOk whole then
    let rest := s.dropWhile isDigit
    let fractioned : Option (Option (List Char) × List Char) := match rest with
      | '.' :: r =>
        if r.takeWhile isDigit ≠ [] then some (some (r.takeWhile isDigit), r.dropWhile isDigit)
        else none
      | r => some (none, r)
    match fractioned with
    | none => none
    | some (fraction, []) => some ⟨negative, whole, fraction, none⟩
    | some (fraction, c :: r) =>
      if c = 'e' ∨ c = 'E' then
        (exponentPart? r).map fun e => ⟨negative, whole, fraction, some e⟩
      else none
  else none

/-- Digits read into an unsigned word until one does not fit; the number of digits left out. -/
def fillWord (acc : Nat) : List Char → Nat × Nat
  | [] => (acc, 0)
  | c :: r =>
    let next := acc * 10 + (c.toNat - '0'.toNat)
    if next > Text.maxWord64 then (acc, r.length + 1) else fillWord next r

/-- A word times a power of ten, by one float operation where the table of powers reaches; below the
table it is first brought nearer. Absent when the result is beyond the range. -/
def scaleWord (x : Float) (exponent : Int) (fuel : Nat) : Option Float :=
  let power (k : Nat) : Float := Decimal.toFloat false 1 k
  if exponent.natAbs ≤ 308 then
    if exponent ≥ 0 then
      let y := x * power exponent.natAbs
      if y.isInf then none else some y
    else some (x / power exponent.natAbs)
  else if x == 0 then some x
  else if exponent ≥ 0 then none
  else match fuel with
    | 0 => some 0
    | fuel + 1 => scaleWord (x / power 308) (exponent + 308) fuel

/-- The leaf of a literal with a fraction or an exponent, or of more digits than a word holds. -/
def floatLeaf (p : NumberParts) : Json :=
  let (word, dropped) := fillWord 0 p.whole
  let fraction := p.fraction.getD []
  let (word, unused) := fillWord word fraction
  let places : Int := (dropped : Int) - (fraction.length - unused : Nat)
  let written : Int := match p.exponent with
    | none => 0
    | some (below, digits) =>
      let e : Int := (Decimal.digitRun 0 0 digits).1
      if below then -e else e
  let unsigned :=
    if written ≥ 0x80000000 then (if word = 0 then some 0 else none)
    else if written ≤ -0x80000000 then some 0
    else scaleWord (Decimal.toFloat false word 0) (places + written) 4
  match unsigned with
  | some x => .float (if p.negative then -x else x)
  | none => .hugeNumber

/-- The leaf of a number literal. -/
def numberLeaf? (s : List Char) : Option Json :=
  (numberParts? s).map fun p =>
    match p.fraction, p.exponent with
    | none, none =>
      let n := (Decimal.digitRun 0 0 p.whole).1
      if p.negative then
        if n = 0 ∨ n > 0x8000000000000000 then floatLeaf p else .int (-(n : Int))
      else if n > Text.maxWord64 then floatLeaf p else .int n
    | _, _ => floatLeaf p

end ChatCommands.Json
