import ChatCommands.Text.Utf8
import ChatCommands.Url.DomainName

set_option autoImplicit false

/-!
# Hosts of addresses

The host of a web address is a domain name, or an internet address in numbers of the fourth or the
sixth version. A domain name is first freed from percent escapes; a name whose last label is a
number has to be an address in numbers.
-/

namespace ChatCommands.Url

/-- The host of an address. A domain name is held by its labels in the form that is read,
letters beyond ASCII standing for themselves. -/
inductive Host where
  | domain (name : String)
  | fourNumbers
  | eightNumbers
  deriving DecidableEq, Repr

/-- The value of a hexadecimal digit. -/
def hexValue? (c : Char) : Option Nat := Text.digitValue? 16 c

/-- The bytes of a text with its percent escapes undone; a percent sign without two
digits stands for itself. -/
def percentDecode : List Char → List UInt8
  | [] => []
  | '%' :: a :: b :: r =>
    match hexValue? a, hexValue? b with
    | some x, some y => (x * 16 + y).toUInt8 :: percentDecode r
    | _, _ => 37 :: percentDecode (a :: b :: r)
  | c :: r => (String.singleton c).toUTF8.toList ++ percentDecode r

/-- A number of an address: absent twice over when it is none, and once when it is too large. -/
def addressNumber? (s : List Char) : Option (Option Nat) :=
  let numeral (radix : Nat) (digits : List Char) : Option (Option Nat) :=
    if digits = [] then some (some 0)
    else if digits.all fun c => (Text.digitValue? radix c).isSome then
      some (Text.readDigits radix Text.maxWord32 0 digits).toOption
    else none
  match s with
  | [] => none
  | '0' :: 'x' :: r => numeral 16 r
  | '0' :: 'X' :: r => numeral 16 r
  | '0' :: c :: r => numeral 8 (c :: r)
  | s => numeral 10 s

/-- The last label of a name is a number, so that the name has to be an address. -/
def endsInNumber (labels : List (List Char)) : Bool :=
  let last? := match labels.reverse with
    | [] :: last :: _ => some last
    | [[]] => none
    | last :: _ => some last
    | [] => none
  match last? with
  | none => false
  | some last =>
    (last ≠ [] && last.all fun c => '0' ≤ c && c ≤ '9') || (addressNumber? last).isSome

/-- The labels spell an address of up to four numbers, the last of which fills the space left. -/
def isFourNumbers (labels : List (List Char)) : Bool :=
  let labels := if labels.getLast? = some [] then labels.dropLast else labels
  if labels.length > 4 then false
  else
    match labels.mapM fun l => (addressNumber? l).join with
    | none => false
    | some numbers =>
      match numbers.reverse with
      | [] => false
      | last :: before => last < Nat.pow 256 (4 - before.length) && before.all (· ≤ 255)

/-- A decimal number up to 255 without superfluous zeros. -/
def isByteNumeral (s : List Char) : Bool :=
  (match s with
    | [] => false
    | ['0'] => true
    | '0' :: _ => false
    | _ => true)
    && (Text.readDigits 10 255 0 s).toOption.isSome

/-- How many of the eight numbers a part between colons spells; the last part may be four bytes. -/
def pieceCount? (isLast : Bool) (s : List Char) : Option Nat :=
  if s ≠ [] ∧ s.length ≤ 4 ∧ s.all fun c => (hexValue? c).isSome then some 1
  else if isLast && s.contains '.' then
    let bytes := Text.partsBetween (· == '.') s
    if bytes.length = 4 && bytes.all isByteNumeral then some 2 else none
  else none

/-- How many of the eight numbers the parts spell. -/
def piecesCount? : List (List Char) → Option Nat
  | [] => some 0
  | [s] => pieceCount? true s
  | s :: r => do return (← pieceCount? false s) + (← piecesCount? r)

/-- The text before and after the first double colon. -/
def splitAtGap? : List Char → Option (List Char × List Char)
  | [] => none
  | ':' :: ':' :: r => some ([], r)
  | c :: r => (splitAtGap? r).map fun (a, b) => (c :: a, b)

/-- The text spells eight numbers, a double colon standing for one or more zeros. -/
def isEightNumbers (s : List Char) : Bool :=
  let count? (part : List Char) (closed : Bool) : Option Nat :=
    if part = [] then some 0
    else
      let parts := Text.partsBetween (· == ':') part
      if closed then piecesCount? parts
      else
        if parts.all fun p => (pieceCount? false p).isSome then some parts.length else none
  match splitAtGap? s with
  | none => count? s true == some 8
  | some (a, b) =>
    if (splitAtGap? b).isSome then false
    else
      match count? a false, count? b true with
      | some m, some n => m + n ≤ 7
      | _, _ => false

/-- The host that a domain name or an address in numbers spells. -/
def domainHost? (s : List Char) : Option Host := do
  let decoded ← (Text.readUtf8 (percentDecode s)).toOption
  let labels ← domainLabels? decoded.toList
  if labels = [[]] then none
  else if endsInNumber labels then
    if isFourNumbers labels then some .fourNumbers else none
  else some (.domain (String.intercalate "." (labels.map String.ofList)))

/-- The host that a text spells. -/
def host? (s : List Char) : Option Host :=
  match s with
  | '[' :: r =>
    if r.getLast? = some ']' && isEightNumbers r.dropLast then some .eightNumbers else none
  | s => domainHost? s

end ChatCommands.Url
