import ChatCommands.Domain.Calendar
import ChatCommands.Text.Blank
import ChatCommands.Text.Numeral

set_option autoImplicit false

/-!
# Timestamps

A timestamp is a moment of UTC on the proleptic Gregorian calendar, to the nanosecond. It is read
from the Internet date format with a few liberties: blanks around the numbers, one-digit numbers, a
space for the `T`, `UTC` for `Z`. It is written with as many groups of three fraction digits as it
needs. The sixtieth second is a leap second.
-/

namespace ChatCommands

/-- A moment of UTC: seconds since the first of January 1970, nanoseconds within the second, and
whether the second is a leap second, which follows the second counted. -/
structure Timestamp where
  seconds : Int
  nanos : Nat
  leap : Bool
  deriving DecidableEq, Repr

namespace Timestamp

/-- A year: four digits, or a sign and at least four digits outside of 0 to 9999. -/
def yearText (y : Int) : String :=
  if 0 ≤ y ∧ y ≤ 9999 then Text.padded 4 y.toNat
  else (if y < 0 then "-" else "+") ++ Text.padded 4 y.natAbs

/-- The fraction of a second: none, or three, six or nine digits. -/
def fractionText (nanos : Nat) : String :=
  if nanos = 0 then ""
  else if nanos % 1000000 = 0 then "." ++ Text.padded 3 (nanos / 1000000)
  else if nanos % 1000 = 0 then "." ++ Text.padded 6 (nanos / 1000)
  else "." ++ Text.padded 9 nanos

/-- The written form. -/
def toText (t : Timestamp) : String :=
  let day := t.seconds / 86400
  let second := (t.seconds % 86400).toNat
  let (y, m, d) := Calendar.dateOf day
  yearText y ++ "-" ++ Text.padded 2 m ++ "-" ++ Text.padded 2 d ++ "T"
    ++ Text.padded 2 (second / 3600) ++ ":" ++ Text.padded 2 (second / 60 % 60) ++ ":"
    ++ Text.padded 2 (second % 60 + (if t.leap then 1 else 0))
    ++ fractionText t.nanos ++ "Z"

/-- An ASCII digit. -/
def isDigit (c : Char) : Bool := '0' ≤ c && c ≤ '9'

/-- The value of a run of digits. -/
def digitsValue (s : List Char) : Nat := s.foldl (fun n c => n * 10 + (c.toNat - '0'.toNat)) 0

/-- A number of one to `width` digits after optional blanks, and what follows it. -/
def number? (width : Nat) (s : List Char) : Option (Nat × List Char) :=
  let s := Text.trimStart s
  let digits := (s.take width).takeWhile isDigit
  if digits = [] then none else some (digitsValue digits, s.drop digits.length)

/-- A year after optional blanks: up to four digits, or any number of them after a sign. -/
def year? (s : List Char) : Option (Int × List Char) :=
  match Text.trimStart s with
  | '-' :: r =>
    let digits := r.takeWhile isDigit
    if digits = [] then none else some (-(digitsValue digits : Int), r.dropWhile isDigit)
  | '+' :: r =>
    let digits := r.takeWhile isDigit
    if digits = [] then none else some (digitsValue digits, r.dropWhile isDigit)
  | s => (number? 4 s).map fun (n, r) => ((n : Int), r)

/-- What follows one given character after optional blanks. -/
def separator? (c : Char) (s : List Char) : Option (List Char) :=
  match Text.trimStart s with
  | d :: r => if c = d then some r else none
  | [] => none

/-- The optional fraction of a second in nanoseconds; digits after the ninth are passed over. -/
def fraction? (s : List Char) : Option (Nat × List Char) :=
  match s with
  | '.' :: r =>
    let digits := r.takeWhile isDigit
    if digits = [] then none
    else
      let kept := digits.take 9
      some (digitsValue kept * Nat.pow 10 (9 - kept.length), r.dropWhile isDigit)
  | s => some (0, s)

/-- The offset from UTC in seconds, and what follows it. -/
def offset? (s : List Char) : Option (Int × List Char) :=
  if (s.take 3).map Text.lowerAscii = ['u', 't', 'c'] then some (0, s.drop 3)
  else
    let signed (sign : Int) (r : List Char) : Option (Int × List Char) :=
      match r with
      | h1 :: h2 :: r =>
        if isDigit h1 && isDigit h2 then
          match r.dropWhile fun c => c == ':' || Text.isBlank c with
          | m1 :: m2 :: r =>
            if isDigit m1 && isDigit m2 && m1 < '6' then
              some (sign * (digitsValue [h1, h2] * 3600 + digitsValue [m1, m2] * 60 : Nat), r)
            else none
          | _ => none
        else none
      | _ => none
    match s with
    | 'Z' :: r => some (0, r)
    | 'z' :: r => some (0, r)
    | '+' :: r => signed 1 r
    | '-' :: r => signed (-1) r
    | '\u2212' :: r => signed (-1) r
    | _ => none

/-- The year is within the range of the calendar. -/
def isYear (y : Int) : Bool := -262143 ≤ y && y ≤ 262142

/-- The moment of a date and time of day at an offset from UTC; absent when one of them is none, or
when the date in UTC leaves the range of the calendar. -/
def ofParts? (y : Int) (mo d h mi s nanos : Nat) (offset : Int) : Option Timestamp :=
  if isYear y ∧ 1 ≤ mo ∧ mo ≤ 12 ∧ 1 ≤ d ∧ d ≤ Calendar.daysInMonth y mo ∧ h < 24 ∧ mi < 60
      ∧ s ≤ 60 ∧ offset.natAbs < 86400 then
    let second : Nat := h * 3600 + mi * 60 + (if s = 60 then 59 else s)
    let seconds := Calendar.dayNumber y mo d * 86400 + second - offset
    if isYear (Calendar.dateOf (seconds / 86400)).1 then some ⟨seconds, nanos, s = 60⟩ else none
  else none

/-- The moment that a text spells, with nothing but blanks after it. -/
def read? (s : List Char) : Option Timestamp := do
  let (y, s) ← year? s
  let s ← separator? '-' s
  let (mo, s) ← number? 2 s
  let s ← separator? '-' s
  let (d, s) ← number? 2 s
  let s ← match s with
    | 't' :: r => some r
    | 'T' :: r => some r
    | ' ' :: r => some r
    | _ => none
  let (h, s) ← number? 2 s
  let s ← separator? ':' s
  let (mi, s) ← number? 2 s
  let s ← separator? ':' s
  let (sec, s) ← number? 2 s
  let (nanos, s) ← fraction? s
  let (offset, s) ← offset? (Text.trimStart s)
  if Text.trimStart s = [] then ofParts? y mo d h mi sec nanos offset else none

end Timestamp

end ChatCommands
