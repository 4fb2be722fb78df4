set_option autoImplicit false

/-!
# Shortest decimals

The text of a double is the decimal of the fewest digits that reads back as the same double; of two
such decimals it is the nearer one, and of two equally near ones the larger. It is written without
exponent, and without point when it is an integer.

A double is `m · 2 ^ q`. The numbers that round to it form an interval, closed exactly when `m` is
even. On the grid of `n` digits only the two neighbours of the double can be the answer, so the
first grid with a neighbour in the interval gives the digits.
-/

namespace ChatCommands.Decimal

/-- A positive double taken apart: its value is `mantissa · 2 ^ exponent`, and `narrowBelow` says
that the next smaller double is at half the usual distance. -/
structure Parts where
  mantissa : Nat
  exponent : Int
  narrowBelow : Bool

/-- The parts of the double with these bits, sign ignored. -/
def partsOfBits (bits : UInt64) : Parts :=
  let fraction : Nat := bits.toNat % 0x10000000000000
  let biased : Nat := bits.toNat / 0x10000000000000 % 0x800
  if biased = 0 then ⟨fraction, -1074, false⟩
  else ⟨0x10000000000000 + fraction, (biased : Int) - 1075, decide (fraction = 0 ∧ biased > 1)⟩

/-- `x · 2 ^ e` and `x · 10 ^ k` as quotients over a common positive denominator. -/
structure Scaled where
  /-- Four times the double, the lower end and the upper end, all over `unit`. -/
  value : Nat
  low : Nat
  high : Nat
  /-- Four times the distance of neighbouring points of the decimal grid. -/
  step : Nat

/-- The double, the ends of its interval and the grid of spacing `10 ^ k`, on one scale. -/
def scale (p : Parts) (k : Int) : Scaled :=
  let two := Nat.pow 2 p.exponent.toNat
  let twoBelow := Nat.pow 2 (-p.exponent).toNat
  let ten := Nat.pow 10 k.toNat
  let tenBelow := Nat.pow 10 (-k).toNat
  -- value = m · two / twoBelow, spacing = ten / tenBelow; multiply both by twoBelow · tenBelow
  let unit := two * tenBelow
  { value := 4 * p.mantissa * unit
    low := (4 * p.mantissa - (if p.narrowBelow then 1 else 2)) * unit
    high := (4 * p.mantissa + 2) * unit
    step := 4 * ten * twoBelow }

/-- The grid point with this multiple reads back as the double. -/
def Scaled.hits (s : Scaled) (closed : Bool) (multiple : Nat) : Bool :=
  let x := multiple * s.step
  if closed then s.low ≤ x && x ≤ s.high else s.low < x && x < s.high

/-- The neighbour of the double on the grid of spacing `10 ^ k` that reads back, the
nearer of two. -/
def gridPoint? (p : Parts) (k : Int) : Option Nat :=
  let s := scale p k
  let closed := p.mantissa % 2 = 0
  let below := s.value / s.step
  let above := below + 1
  match s.hits closed below, s.hits closed above with
  | true, true => if 2 * (s.value - below * s.step) < s.step then some below else some above
  | true, false => some below
  | false, true => some above
  | false, false => none

/-- The first grid, from spacing `10 ^ k` downwards, that has a point which reads back. -/
def firstGrid (p : Parts) : Nat → Int → Nat × Int
  | 0, k => ((gridPoint? p k).getD 0, k)
  | fuel + 1, k =>
    match gridPoint? p k with
    | some d => if d = 0 then firstGrid p fuel (k - 1) else (d, k)
    | none => firstGrid p fuel (k - 1)

/-- The shortest digits of a positive double, as a multiple of a power of ten. -/
def shortest (p : Parts) : Nat × Int :=
  let top : Int := ((Nat.log2 p.mantissa : Int) + p.exponent + 1) * 30103 / 100000 + 2
  firstGrid p 40 top

/-- A multiple of a power of ten, written without exponent. -/
def positional (digits : Nat) (exponent : Int) : String :=
  let text := toString digits
  if exponent ≥ 0 then text ++ String.ofList (List.replicate exponent.toNat '0')
  else
    let places := (-exponent).toNat
    let padded := List.replicate (places + 1 - text.length) '0' ++ text.toList
    String.ofList (padded.take (padded.length - places)) ++ "."
      ++ String.ofList (padded.drop (padded.length - places))

/-- A multiple of a power of ten without trailing zeros in the multiple. -/
def stripZeros : Nat → Nat → Int → Nat × Int
  | 0, d, k => (d, k)
  | fuel + 1, d, k => if d % 10 = 0 ∧ d ≠ 0 then stripZeros fuel (d / 10) (k + 1) else (d, k)

/-- The text of a double: shortest digits, never an exponent, a sign also on negative zero. -/
def ofFloat (x : Float) : String :=
  if x.isNaN then "NaN"
  else
    let bits := x.toBits
    let sign := if bits ≥ 0x8000000000000000 then "-" else ""
    let magnitude := bits &&& 0x7FFFFFFFFFFFFFFF
    if magnitude = 0x7FF0000000000000 then sign ++ "inf"
    else if magnitude = 0 then sign ++ "0"
    else
      let (d, k) := shortest (partsOfBits magnitude)
      let (d, k) := stripZeros 40 d k
      sign ++ positional d k

end ChatCommands.Decimal
