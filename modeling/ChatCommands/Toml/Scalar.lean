import ChatCommands.Decimal.Rounding
import ChatCommands.Toml.Time

set_option autoImplicit false

/-!
# Scalars of TOML

Strings in four notations, numbers, truth values and times. A number or a time is read
as a whole run of the characters that can occur in one, since what follows it never
begins with such a character.
-/

namespace ChatCommands.Toml

/-- A blank within a line. -/
def isSpace (c : Char) : Bool := c == ' ' || c == '\t'

/-- A character that a comment may hold. -/
def isPlain (c : Char) : Bool := c == '\t' || (' ' ≤ c && c ≤ '~') || 0x80 ≤ c.toNat

/-- What follows an escape character alone. -/
def escaped? (c : Char) : Option Char :=
  match c with
  | 'b' => some '\x08'
  | 't' => some '\t'
  | 'n' => some '\n'
  | 'f' => some '\x0c'
  | 'r' => some '\r'
  | '"' => some '"'
  | '\\' => some '\\'
  | _ => none

/-- The character whose number is written in hexadecimal digits; halves of surrogate
pairs are none. -/
def numbered? (digits : List Char) : Option Char := do
  let n := (← digits.mapM (Text.digitValue? 16)).foldl (fun n d => n * 16 + d) 0
  if n.isValidChar then some (Char.ofNat n) else none

/-- A character in front of what was read. -/
def withChar (c : Char) (r : List Char × List Char) : List Char × List Char := (c :: r.1, r.2)

/-- The body of a string in double quotes, and what follows it. -/
def quotedBody : List Char → Option (List Char × List Char)
  | [] => none
  | '"' :: r => some ([], r)
  | '\\' :: 'u' :: a :: b :: c :: d :: r => do
    let x ← numbered? [a, b, c, d]
    return withChar x (← quotedBody r)
  | '\\' :: 'U' :: a :: b :: c :: d :: e :: f :: g :: h :: r => do
    let x ← numbered? [a, b, c, d, e, f, g, h]
    return withChar x (← quotedBody r)
  | '\\' :: c :: r => do
    let x ← escaped? c
    return withChar x (← quotedBody r)
  | c :: r => if isPlain c then (quotedBody r).map (withChar c) else none

/-- The body of a string in single quotes, and what follows it. -/
def literalBody : List Char → Option (List Char × List Char)
  | [] => none
  | '\'' :: r => some ([], r)
  | c :: r => if isPlain c then (literalBody r).map (withChar c) else none

/-- What the reading of a string of several lines is about. -/
inductive LineMode where
  | text
  /-- After an escape character, within blanks that a line break has to follow. -/
  | escape
  /-- After an escaped line break. -/
  | skip
  deriving DecidableEq

/-- The body of a string of several lines in double quotes. A quote or two may stand
before the end. -/
def quotedLines : LineMode → List Char → Option (List Char × List Char)
  | _, [] => none
  | mode, '\r' :: '\n' :: r =>
    if mode = .text then (quotedLines .text r).map (withChar '\n') else quotedLines .skip r
  | mode, '"' :: '"' :: '"' :: '"' :: '"' :: r =>
    if mode = .escape then none else some (['"', '"'], r)
  | mode, '"' :: '"' :: '"' :: '"' :: r => if mode = .escape then none else some (['"'], r)
  | mode, '"' :: '"' :: '"' :: r => if mode = .escape then none else some ([], r)
  | mode, '\\' :: 'u' :: a :: b :: c :: d :: r => do
    if mode = .escape then none
    let x ← numbered? [a, b, c, d]
    return withChar x (← quotedLines .text r)
  | mode, '\\' :: 'U' :: a :: b :: c :: d :: e :: f :: g :: h :: r => do
    if mode = .escape then none
    let x ← numbered? [a, b, c, d, e, f, g, h]
    return withChar x (← quotedLines .text r)
  | mode, '\\' :: '\r' :: '\n' :: r => if mode = .escape then none else quotedLines .skip r
  | mode, '\\' :: c :: r =>
    if mode = .escape then none
    else if c = '\n' then quotedLines .skip r
    else if isSpace c then quotedLines .escape r
    else (escaped? c).bind fun x => (quotedLines .text r).map (withChar x)
  | mode, c :: r =>
    if c = '\n' then
      if mode = .text then (quotedLines .text r).map (withChar c) else quotedLines .skip r
    else if isSpace c && mode ≠ .text then quotedLines mode r
    else if isPlain c && mode ≠ .escape then (quotedLines .text r).map (withChar c)
    else none

/-- The body of a string of several lines in single quotes. -/
def literalLines : List Char → Option (List Char × List Char)
  | [] => none
  | '\r' :: '\n' :: r => (literalLines r).map (withChar '\n')
  | '\'' :: '\'' :: '\'' :: '\'' :: '\'' :: r => some (['\'', '\''], r)
  | '\'' :: '\'' :: '\'' :: '\'' :: r => some (['\''], r)
  | '\'' :: '\'' :: '\'' :: r => some ([], r)
  | c :: r => if isPlain c || c = '\n' then (literalLines r).map (withChar c) else none

/-- The text without a line break at its beginning. -/
def afterBreak : List Char → List Char
  | '\n' :: r => r
  | '\r' :: '\n' :: r => r
  | s => s

/-- A string on one line. -/
def lineString? : List Char → Option (String × List Char)
  | '"' :: r => (quotedBody r).map fun (s, r) => (String.ofList s, r)
  | '\'' :: r => (literalBody r).map fun (s, r) => (String.ofList s, r)
  | _ => none

/-- A string. -/
def string? : List Char → Option (String × List Char)
  | '"' :: '"' :: '"' :: r =>
    (quotedLines .text (afterBreak r)).map fun (s, r) => (String.ofList s, r)
  | '\'' :: '\'' :: '\'' :: r =>
    (literalLines (afterBreak r)).map fun (s, r) => (String.ofList s, r)
  | s => lineString? s

/-! ## Numbers -/

/-- The digits of a run with single underscores between them, of a radix; absent for
anything else. -/
def digits? (radix : Nat) : List Char → Option (List Nat)
  | [] => none
  | [c] => (Text.digitValue? radix c).map ([·])
  | c :: '_' :: r => do return (← Text.digitValue? radix c) :: (← digits? radix r)
  | c :: r => do return (← Text.digitValue? radix c) :: (← digits? radix r)

/-- The number of digits. -/
def ofDigits (radix : Nat) (ds : List Nat) : Nat := ds.foldl (fun n d => n * radix + d) 0

/-- A sign, and what follows it. -/
def signed (s : List Char) : Bool × List Char :=
  match s with
  | '-' :: r => (true, r)
  | '+' :: r => (false, r)
  | s => (false, s)

/-- A whole number in decimal digits; only zero begins with a zero. -/
def decimal? (s : List Char) : Option Nat := do
  let ds ← digits? 10 s
  if ds.length > 1 && ds.head? == some 0 then none else some (ofDigits 10 ds)

/-- A whole number of 64 bits. -/
def integer? (s : List Char) : Option Int := do
  let n ← match s with
    | '0' :: 'x' :: r => (digits? 16 r).map fun ds => (ofDigits 16 ds : Int)
    | '0' :: 'o' :: r => (digits? 8 r).map fun ds => (ofDigits 8 ds : Int)
    | '0' :: 'b' :: r => (digits? 2 r).map fun ds => (ofDigits 2 ds : Int)
    | s =>
      let (negative, r) := signed s
      (decimal? r).map fun (n : Nat) => if negative then -(n : Int) else n
  if Text.fitsInt64 n then some n else none

/-- The character begins an exponent. -/
def isExponentMark (c : Char) : Bool := c == 'e' || c == 'E'

/-- An exponent, if there is one, is digits after an optional sign. -/
def exponentOk : List Char → Bool
  | [] => true
  | c :: r => isExponentMark c && (digits? 10 (signed r).2).isSome

/-- The notation of a float: a whole part and a fraction, an exponent or both. -/
def isFloatNotation (s : List Char) : Bool :=
  let s := (signed s).2
  let whole := s.takeWhile fun c => c != '.' && !isExponentMark c
  (decimal? whole).isSome
    && match s.drop whole.length with
      | '.' :: r =>
        let fraction := r.takeWhile fun c => !isExponentMark c
        (digits? 10 fraction).isSome && exponentOk (r.drop fraction.length)
      | [] => false
      | r => exponentOk r

/-- A float; what is too small for its range, or no number, carries no value, and what is
too large is refused. -/
def float? (s : List Char) : Option Json :=
  let (negative, r) := signed s
  if r = "inf".toList || r = "nan".toList then some .hugeNumber
  else if isFloatNotation s then
    match Decimal.readFinite (s.filter (· ≠ '_')) with
    | some x => some (.float x)
    | none => if negative then some .hugeNumber else none
  else none

/-! ## Scalars other than strings -/

/-- A character of numbers, times and truth values. -/
def isRunChar (c : Char) : Bool :=
  c.isAlphanum || c == '+' || c == '-' || c == '_' || c == '.' || c == ':'

/-- The scalar that a run of its characters spells. -/
def ofRun? (s : List Char) : Option Json :=
  if s = "true".toList then some (.bool true)
  else if s = "false".toList then some (.bool false)
  else
    match Time.read? s, integer? s with
    | some time, _ => some time.toJson
    | none, some n => some (.int n)
    | none, none => float? s

/-- A scalar other than a string. A date may be followed by a blank and a time. -/
def run? (s : List Char) : Option (Json × List Char) :=
  let first := s.takeWhile isRunChar
  let rest := s.drop first.length
  let next := (rest.drop 1).takeWhile isRunChar
  match Date.ofText? first, rest.head?, Clock.read? next with
  | some date, some ' ', some clock =>
    some ((Time.both date clock).toJson, rest.drop (next.length + 1))
  | _, _, _ => (ofRun? first).map (·, rest)

end ChatCommands.Toml
