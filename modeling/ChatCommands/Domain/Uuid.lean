import ChatCommands.Text.Blank

set_option autoImplicit false

/-!
# Universally unique identifiers

A UUID is 128 bits. It is read from 32 hexadecimal digits, from the hyphenated form, from that
form in braces and from the URN form, whose lead may be in either case; it is written
hyphenated in lower case.
-/

namespace ChatCommands

/-- A universally unique identifier, as its 32 hexadecimal digits in lower case. -/
structure Uuid where
  digits : List Char
  deriving DecidableEq, Repr

namespace Uuid

/-- A hexadecimal digit in lower case. -/
def lowerHex? (c : Char) : Option Char :=
  if ('0' ≤ c ∧ c ≤ '9') ∨ ('a' ≤ c ∧ c ≤ 'f') then some c
  else if 'A' ≤ c ∧ c ≤ 'F' then some (Char.ofNat (c.toNat + 32))
  else none

/-- The lengths of the groups of the hyphenated form. -/
def groups : List Nat := [8, 4, 4, 4, 12]

/-- The digits in groups of the given lengths, with hyphens between them. -/
def hyphenate : List Nat → List Char → List Char
  | [], _ => []
  | [_], s => s
  | n :: ns, s => s.take n ++ '-' :: hyphenate ns (s.drop n)

/-- The digits without the hyphens between groups of the given lengths. -/
def unhyphenate? : List Nat → List Char → Option (List Char)
  | [], s => if s = [] then some [] else none
  | [n], s => if s.length = n then some s else none
  | n :: ns, s =>
    match s.drop n with
    | '-' :: r => (unhyphenate? ns r).map (s.take n ++ ·)
    | _ => none

/-- The written form. -/
def toText (u : Uuid) : String := String.ofList (hyphenate groups u.digits)

/-- The UUID of 32 digits. -/
def ofDigits? (s : List Char) : Option Uuid :=
  if s.length = 32 then (s.mapM lowerHex?).map Uuid.mk else none

/-- The UUID in hyphenated form. -/
def ofHyphenated? (s : List Char) : Option Uuid := (unhyphenate? groups s).bind ofDigits?

/-- The UUID in any of its forms. -/
def read? (s : List Char) : Option Uuid :=
  match s with
  | '{' :: r => if r.getLast? = some '}' then ofHyphenated? r.dropLast else none
  | s =>
    if (s.take 9).map Text.lowerAscii = "urn:uuid:".toList then ofHyphenated? (s.drop 9)
    else if s.length = 32 then ofDigits? s
    else ofHyphenated? s

end Uuid

end ChatCommands
