set_option autoImplicit false

/-!
# Decimals rounded to floats

A decimal `m · 10 ^ e` is rounded to the nearest double, ties to the even neighbour, in exact
integer arithmetic. `roundQuotient` gives the bits of the double nearest to a quotient of naturals;
`Decimal.toFloat` applies it, after setting aside the exponents whose value is zero or infinite
whatever the digits are.
-/

namespace ChatCommands.Decimal

/-- The nearest integer to `num / den`, a tie going to the even neighbour. -/
def roundHalfEven (num den : Nat) : Nat :=
  let q := num / den
  let r := num % den
  if 2 * r < den then q
  else if 2 * r > den then q + 1
  else if q % 2 = 0 then q else q + 1

/-- The bits of infinity. -/
def infinityBits : UInt64 := 0x7FF0000000000000

/-- The bits of the double nearest to `num / den`, for positive `num` and `den`. -/
def roundQuotient (num den : Nat) : UInt64 :=
  let guess : Int := (Nat.log2 num : Int) - Nat.log2 den
  -- the quotient lies in [2 ^ (guess - 1), 2 ^ (guess + 1))
  let top : Int :=
    if guess ≥ 0 then
      if num ≥ den <<< guess.toNat then guess else guess - 1
    else
      if num <<< (-guess).toNat ≥ den then guess else guess - 1
  let q : Int := max (top - 52) (-1074)
  let m :=
    if q ≥ 0 then roundHalfEven num (den <<< q.toNat)
    else roundHalfEven (num <<< (-q).toNat) den
  -- a mantissa of 2 ^ 53 carries into the exponent by itself
  let bits : Nat := (q + 1074).toNat * 0x10000000000000 + m
  if bits ≥ 0x7FF0000000000000 then infinityBits else bits.toUInt64

/-- The bits of the double nearest to `digits · 10 ^ exponent`, without sign. -/
def nearestBits (digits : Nat) (exponent : Int) : UInt64 :=
  if digits = 0 then 0
  else
    let size : Int := (Nat.log2 digits : Int) * 30103 / 100000
    if exponent + size > 400 then infinityBits
    else if exponent + size < -400 then 0
    else if exponent ≥ 0 then roundQuotient (digits * Nat.pow 10 exponent.toNat) 1
    else roundQuotient digits (Nat.pow 10 (-exponent).toNat)

/-- The double nearest to `± digits · 10 ^ exponent`; it is infinite when the value is too large. -/
def toFloat (negative : Bool) (digits : Nat) (exponent : Int) : Float :=
  let bits := nearestBits digits exponent
  Float.ofBits (if negative then bits ||| 0x8000000000000000 else bits)

/-- The double nearest to an integer. -/
def ofInt (n : Int) : Float := toFloat (n < 0) n.natAbs 0

/-- The value of a run of decimal digits read after the value `acc`, and what follows the run. -/
def digitRun (acc count : Nat) : List Char → Nat × Nat × List Char
  | [] => (acc, count, [])
  | c :: r =>
    if '0' ≤ c ∧ c ≤ '9' then digitRun (acc * 10 + (c.toNat - '0'.toNat)) (count + 1) r
    else (acc, count, c :: r)

/-- A signed run of digits as an exponent; nothing may follow it. -/
def readExponent (s : List Char) : Option Int :=
  let (negative, s) := match s with
    | '-' :: r => (true, r)
    | '+' :: r => (false, r)
    | s => (false, s)
  match digitRun 0 0 s with
  | (v, n, []) => if n = 0 then none else some (if negative then -v else v)
  | _ => none

/-- A decimal numeral without sign: digits with an optional point, at least one digit on either side
of it, and an optional exponent. The result is the digits as one number and the power of ten. -/
def readUnsignedDecimal (s : List Char) : Option (Nat × Int) :=
  let (whole, n, rest) := digitRun 0 0 s
  let (digits, places, rest) := match rest with
    | '.' :: r =>
      let (d, k, r) := digitRun whole 0 r
      (d, k, r)
    | r => (whole, 0, r)
  if n + places = 0 then none
  else match rest with
    | [] => some (digits, -(places : Int))
    | c :: r =>
      if c = 'e' ∨ c = 'E' then (readExponent r).map fun e => (digits, e - places)
      else none

/-- A finite number written as a decimal numeral with an optional sign. -/
def readFinite (s : List Char) : Option Float :=
  let (negative, s) := match s with
    | '-' :: r => (true, r)
    | '+' :: r => (false, r)
    | s => (false, s)
  match readUnsignedDecimal s with
  | none => none
  | some (digits, e) =>
    let x := toFloat negative digits e
    if x.isFinite then some x else none

end ChatCommands.Decimal
