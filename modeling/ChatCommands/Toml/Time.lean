import ChatCommands.Domain.Calendar
import ChatCommands.Json.Basic
import ChatCommands.Text.Numeral

set_option autoImplicit false

/-!
# Times of TOML

A time is a date, a time of day, or both with an offset from universal time if there is one. As a
value it becomes a record of a single reserved field that holds its canonical text, in which the
fraction of a second has at most nine digits and does not end in zeros.
-/

namespace ChatCommands.Toml

/-- A day of the calendar. -/
structure Date where
  year : Nat
  month : Nat
  day : Nat
  deriving Repr, DecidableEq

/-- A time of day to the nanosecond. -/
structure TimeOfDay where
  hour : Nat
  minute : Nat
  second : Nat
  nanos : Nat
  deriving Repr, DecidableEq

/-- An offset from universal time. -/
inductive Offset where
  | universal
  | minutes (count : Int)
  deriving Repr, DecidableEq

/-- A time of day and perhaps an offset. -/
structure Clock where
  time : TimeOfDay
  offset : Option Offset
  deriving Repr, DecidableEq

/-- A date, a time of day or both. -/
inductive Time where
  | day (date : Date)
  | clock (time : TimeOfDay)
  | both (date : Date) (clock : Clock)
  deriving Repr, DecidableEq

/-! ## Reading -/

/-- A number of exactly two digits between bounds, and what follows it. -/
def pair? (low high : Nat) : List Char → Option (Nat × List Char)
  | a :: b :: r => do
    let n := (← Text.digitValue? 10 a) * 10 + (← Text.digitValue? 10 b)
    if low ≤ n ∧ n ≤ high then some (n, r) else none
  | _ => none

/-- A date, and what follows it. -/
def Date.read? (s : List Char) : Option (Date × List Char) := do
  let (century, s) ← pair? 0 99 s
  let (year, s) ← pair? 0 99 s
  let year := century * 100 + year
  let '-' :: s := s | none
  let (month, s) ← pair? 1 12 s
  let '-' :: s := s | none
  let (day, s) ← pair? 1 (Calendar.daysInMonth year month) s
  return (⟨year, month, day⟩, s)

/-- The optional fraction of a second in nanoseconds, and what follows it; digits after the
ninth are passed over. -/
def fraction? (s : List Char) : Option (Nat × List Char) :=
  match s with
  | '.' :: r =>
    let digits := r.takeWhile (·.isDigit)
    if digits = [] then none
    else
      let kept := (digits ++ List.replicate 9 '0').take 9
      (Text.readDigits 10 999999999 0 kept).toOption.map (·, r.drop digits.length)
  | s => some (0, s)

/-- A time of day, and what follows it. A minute may have a leap second. -/
def TimeOfDay.read? (s : List Char) : Option (TimeOfDay × List Char) := do
  let (hour, s) ← pair? 0 23 s
  let ':' :: s := s | none
  let (minute, s) ← pair? 0 59 s
  let ':' :: s := s | none
  let (second, s) ← pair? 0 60 s
  let (nanos, s) ← fraction? s
  return (⟨hour, minute, second, nanos⟩, s)

/-- The offset that a text spells. -/
def Offset.read? : List Char → Option Offset
  | ['Z'] => some .universal
  | ['z'] => some .universal
  | sign :: r => do
    if sign ≠ '+' ∧ sign ≠ '-' then failure
    let (hour, r) ← pair? 0 23 r
    let ':' :: r := r | failure
    let (minute, r) ← pair? 0 59 r
    if r ≠ [] then failure
    let count : Int := (hour * 60 + minute : Nat)
    return .minutes (if sign = '-' then -count else count)
  | [] => failure

/-- The time of day that a text spells, perhaps with an offset. -/
def Clock.read? (s : List Char) : Option Clock := do
  let (time, r) ← TimeOfDay.read? s
  if r = [] then return ⟨time, none⟩
  else return ⟨time, some (← Offset.read? r)⟩

/-- The date that a text spells. -/
def Date.ofText? (s : List Char) : Option Date :=
  match Date.read? s with
  | some (date, []) => some date
  | _ => none

/-- The time that a text without blanks spells. -/
def Time.read? (s : List Char) : Option Time :=
  match Date.read? s with
  | some (date, []) => some (.day date)
  | some (date, c :: r) => if c = 'T' ∨ c = 't' then (Clock.read? r).map (.both date) else none
  | none =>
    match Clock.read? s with
    | some ⟨time, none⟩ => some (.clock time)
    | _ => none

/-! ## Writing -/

/-- The text of a date. -/
def Date.toText (d : Date) : String :=
  Text.padded 4 d.year ++ "-" ++ Text.padded 2 d.month ++ "-" ++ Text.padded 2 d.day

/-- The text of a fraction of a second. -/
def fractionText (nanos : Nat) : String :=
  if nanos = 0 then ""
  else
    "." ++ String.ofList ((Text.padded 9 nanos).toList.reverse.dropWhile (· = '0')).reverse

/-- The text of a time of day. -/
def TimeOfDay.toText (t : TimeOfDay) : String :=
  Text.padded 2 t.hour ++ ":" ++ Text.padded 2 t.minute ++ ":" ++ Text.padded 2 t.second
    ++ fractionText t.nanos

/-- The text of an offset. -/
def Offset.toText : Offset → String
  | .universal => "Z"
  | .minutes count =>
    (if count < 0 then "-" else "+") ++ Text.padded 2 (count.natAbs / 60) ++ ":"
      ++ Text.padded 2 (count.natAbs % 60)

/-- The text of a time. -/
def Time.toText : Time → String
  | .day d => d.toText
  | .clock t => t.toText
  | .both d c => d.toText ++ "T" ++ c.time.toText ++ (c.offset.map Offset.toText).getD ""

/-- The reserved name of the field that holds the text of a time. -/
def timeField : String := "$__toml_private_datetime"

/-- A time as a value. -/
def Time.toJson (t : Time) : Json := .record [(timeField, .text t.toText)]

end ChatCommands.Toml
