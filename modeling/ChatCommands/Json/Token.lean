import ChatCommands.Json.Number

set_option autoImplicit false

/-!
# JSON tokens

A document is cut into tokens: brackets, commas, colons and leaves. Blanks between tokens are the
four of the format, not the wider class of `Text.isBlank`. A leaf token carries its value, so that
building the tree only has to look at the order of tokens.
-/

namespace ChatCommands.Json

/-- A token of a JSON document. -/
inductive Token where
  | openList
  | closeList
  | openRecord
  | closeRecord
  | comma
  | colon
  | leaf (value : Json)

/-- A blank of the format. -/
def isSpace (c : Char) : Bool := c == ' ' || c == '\t' || c == '\n' || c == '\r'

/-- The value of a hexadecimal digit. -/
def hexValue? (c : Char) : Option Nat :=
  if '0' ≤ c ∧ c ≤ '9' then some (c.toNat - '0'.toNat)
  else if 'a' ≤ c ∧ c ≤ 'f' then some (c.toNat - 'a'.toNat + 10)
  else if 'A' ≤ c ∧ c ≤ 'F' then some (c.toNat - 'A'.toNat + 10)
  else none

/-- The value of four hexadecimal digits. -/
def hexQuad? (a b c d : Char) : Option Nat := do
  let a ← hexValue? a
  let b ← hexValue? b
  let c ← hexValue? c
  let d ← hexValue? d
  return ((a * 16 + b) * 16 + c) * 16 + d

/-- The character that a one-letter escape stands for. -/
def escaped? (c : Char) : Option Char :=
  match c with
  | '"' => some '"'
  | '\\' => some '\\'
  | '/' => some '/'
  | 'b' => some '\x08'
  | 'f' => some '\x0c'
  | 'n' => some '\n'
  | 'r' => some '\r'
  | 't' => some '\t'
  | _ => none

/-- A unit of a text literal: a character, or half of a surrogate pair written as an escape. -/
inductive TextUnit where
  | char (c : Char)
  | half (n : Nat)

/-- The units of a text literal up to its closing quote, and what follows the quote. -/
def textUnits (acc : List TextUnit) : List Char → Option (List TextUnit × List Char)
  | [] => none
  | '"' :: r => some (acc.reverse, r)
  | '\\' :: 'u' :: a :: b :: c :: d :: r =>
    match hexQuad? a b c d with
    | some n =>
      if 0xD800 ≤ n ∧ n < 0xE000 then textUnits (.half n :: acc) r
      else textUnits (.char (Char.ofNat n) :: acc) r
    | none => none
  | '\\' :: e :: r =>
    match escaped? e with
    | some c => textUnits (.char c :: acc) r
    | none => none
  | c :: r => if c.toNat < 0x20 then none else textUnits (.char c :: acc) r

/-- The text of the units; absent when a half of a surrogate pair stands alone. -/
def joinUnits : List TextUnit → Option (List Char)
  | [] => some []
  | .char c :: us => (joinUnits us).map (c :: ·)
  | .half h :: .half l :: us =>
    if h < 0xDC00 ∧ 0xDC00 ≤ l then
      (joinUnits us).map (Char.ofNat (0x10000 + (h - 0xD800) * 0x400 + (l - 0xDC00)) :: ·)
    else none
  | .half _ :: _ => none

/-- The leaf of a text literal. -/
def textLeaf (units : List TextUnit) : Json :=
  match joinUnits units with
  | some cs => .text (String.ofList cs)
  | none => .broken

/-- A character that may stand in a number literal. -/
def isNumberChar (c : Char) : Bool :=
  ('0' ≤ c && c ≤ '9') || c == '-' || c == '+' || c == '.' || c == 'e' || c == 'E'

/-- The leaf of a word literal. -/
def wordLeaf? (s : List Char) : Option Json :=
  if s = "null".toList then some .null
  else if s = "true".toList then some (.bool true)
  else if s = "false".toList then some (.bool false)
  else none

/-- What follows a text literal is shorter than the literal. -/
theorem textUnits_length {acc units : List TextUnit} {s rest : List Char}
    (h : textUnits acc s = some (units, rest)) : rest.length < s.length := by
  fun_induction textUnits acc s with
  | case1 => simp at h
  | case2 => simp at h; simp [h.2]
  | case3 acc a b c d r n hn hs ih => have := ih h; simp; omega
  | case4 acc a b c d r n hn hs ih => have := ih h; simp; omega
  | case5 => simp at h
  | case6 acc e r hx c hc ih => have := ih h; simp; omega
  | case7 => simp at h
  | case8 => simp at h
  | case9 acc c r h1 h2 h3 hc ih => have := ih h; simp; omega

/-- What follows a run of characters is no longer than the text. -/
theorem dropWhile_length_le {α : Type} (p : α → Bool) (l : List α) :
    (l.dropWhile p).length ≤ l.length := by
  induction l with
  | nil => simp
  | cons a l ih =>
    rw [List.dropWhile_cons]
    split
    · simp; omega
    · simp

/-- The tokens of a document. -/
def tokens (s : List Char) : Option (List Token) :=
  match s with
  | [] => some []
  | c :: r =>
    if isSpace c then tokens r
    else match c with
      | '[' => (tokens r).map (.openList :: ·)
      | ']' => (tokens r).map (.closeList :: ·)
      | '{' => (tokens r).map (.openRecord :: ·)
      | '}' => (tokens r).map (.closeRecord :: ·)
      | ',' => (tokens r).map (.comma :: ·)
      | ':' => (tokens r).map (.colon :: ·)
      | '"' =>
        match _h : textUnits [] r with
        | some (units, rest) => (tokens rest).map (.leaf (textLeaf units) :: ·)
        | none => none
      | c =>
        if isNumberChar c then
          match numberLeaf? (c :: r.takeWhile isNumberChar) with
          | some j => (tokens (r.dropWhile isNumberChar)).map (.leaf j :: ·)
          | none => none
        else
          match wordLeaf? (c :: r.takeWhile Char.isAlpha) with
          | some j => (tokens (r.dropWhile Char.isAlpha)).map (.leaf j :: ·)
          | none => none
termination_by s.length
decreasing_by
  all_goals simp_wf
  · have := textUnits_length _h; omega
  · have := dropWhile_length_le isNumberChar r; omega
  · have := dropWhile_length_le Char.isAlpha r; omega

end ChatCommands.Json
