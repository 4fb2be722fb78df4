import ChatCommands.Text.Numeral

set_option autoImplicit false

/-!
# Encoded labels

A label with characters beyond ASCII can be written in ASCII: the ASCII characters first, then,
after a hyphen, numbers that tell one by one which character is inserted where. A number is written
with the least digit first, in digits of base 36 whose thresholds follow a bias; the digit below its
threshold is the last. Every number has to stay within 32 bits.
-/

namespace ChatCommands.Url

/-- A digit of base 36: the letters come before the decimal digits. -/
def labelDigit? (c : Char) : Option Nat :=
  if 'a' ≤ c ∧ c ≤ 'z' then some (c.toNat - 'a'.toNat)
  else if '0' ≤ c ∧ c ≤ '9' then some (c.toNat - '0'.toNat + 26)
  else none

/-- The threshold of the digit at position `k`, which counts in steps of 36. -/
def labelThreshold (k bias : Nat) : Nat :=
  if k ≤ bias then 1 else if k ≥ bias + 26 then 26 else k - bias

/-- The bias that suits a number of about this size, `k` steps up. -/
def biasOf (delta k : Nat) : Nat :=
  if 455 < delta then biasOf (delta / 35) (k + 36) else k + 36 * delta / (delta + 38)
termination_by delta
decreasing_by exact Nat.div_lt_self (by omega) (by omega)

/-- The bias for the number after a number `delta`, when there are `count` characters by then. -/
def adaptedBias (delta count : Nat) (isFirst : Bool) : Nat :=
  let delta := if isFirst then delta / 700 else delta / 2
  biasOf (delta + delta / count) 0

/-- Adds one number to `acc`, and gives what follows it. -/
def labelNumber? (bias : Nat) : Nat → Nat → Nat → List Char → Option (Nat × List Char)
  | _, _, _, [] => none
  | acc, weight, k, c :: r =>
    match labelDigit? c with
    | none => none
    | some digit =>
      let acc := acc + digit * weight
      let weight' := weight * (36 - labelThreshold k bias)
      if acc > Text.maxWord32 then none
      else if digit < labelThreshold k bias then some (acc, r)
      else if weight' > Text.maxWord32 then none
      else labelNumber? bias acc weight' (k + 36) r

/-- A number has at least one digit. -/
theorem length_lt_of_labelNumber? {bias acc weight k n : Nat} {s r : List Char}
    (h : labelNumber? bias acc weight k s = some (n, r)) : r.length < s.length := by
  induction s generalizing acc weight k with
  | nil => simp [labelNumber?] at h
  | cons c s ih =>
    simp only [labelNumber?] at h
    split at h
    · simp at h
    · split at h
      · simp at h
      · split at h
        · simp only [Option.some.injEq, Prod.mk.injEq] at h
          simp [h.2]
        · split at h
          · simp at h
          · exact Nat.lt_succ_of_lt (ih h)

/-- How far the reading of an encoded label has come. -/
structure LabelState where
  /-- The number of the character that is inserted next, when no step is added to it. -/
  character : Nat
  /-- The place where it is inserted. -/
  place : Nat
  bias : Nat
  label : List Char
  deriving Repr, DecidableEq

/-- Inserts the characters that the numbers tell. -/
def LabelState.insertAll? (state : LabelState) (s : List Char) : Option (List Char) :=
  if s = [] then some state.label
  else
    match _h : labelNumber? state.bias state.place 1 36 s with
    | none => none
    | some (n, r) =>
      let count := state.label.length + 1
      let character := state.character + n / count
      let place := n % count
      if character.isValidChar then
        LabelState.insertAll?
          ⟨character, place + 1,
            adaptedBias (n - state.place) count (state.place = 0),
            state.label.insertIdx place (Char.ofNat character)⟩
          r
      else none
termination_by s.length
decreasing_by exact length_lt_of_labelNumber? _h

/-- The label that an encoded label stands for. The last hyphen divides the ASCII characters from
the numbers, unless it comes first. -/
def decodedLabel? (s : List Char) : Option (List Char) :=
  let numbers := (s.reverse.takeWhile (· ≠ '-')).reverse
  let ascii := s.take (s.length - numbers.length - 1)
  let numbers := if ascii = [] then s else numbers
  LabelState.insertAll? ⟨128, 0, 72, ascii⟩ numbers

end ChatCommands.Url
