set_option autoImplicit false

/-!
# UTF-8

Bytes are read as characters by a machine that knows how many bytes are still owed to the character
under way and between which bounds the next of them must lie. What cannot be read is told by the
place where the broken sequence begins and, unless the input merely ends too early, by its length.
-/

namespace ChatCommands.Text

/-- A sequence of bytes that is no character. -/
structure BrokenUtf8 where
  index : Nat
  /-- The length of the sequence; absent when the input ends within it. -/
  length : Option Nat
  deriving DecidableEq, Repr

/-- The wording of a broken sequence. -/
def BrokenUtf8.message (e : BrokenUtf8) : String :=
  match e.length with
  | some n => "invalid utf-8 sequence of " ++ toString n ++ " bytes from index " ++ toString e.index
  | none => "incomplete utf-8 byte sequence from index " ++ toString e.index

/-- A character under way: the bytes owed, the bounds of the next one, the number so far, and how
many bytes have been taken. -/
structure Utf8State where
  owed : Nat
  low : Nat
  high : Nat
  value : Nat
  taken : Nat
  deriving DecidableEq, Repr

/-- The state after the first byte of a character of several bytes. -/
def Utf8State.ofLead? (b : Nat) : Option Utf8State :=
  if 0xC2 ≤ b ∧ b ≤ 0xDF then some ⟨1, 0x80, 0xBF, b - 0xC0, 1⟩
  else if b = 0xE0 then some ⟨2, 0xA0, 0xBF, 0, 1⟩
  else if b = 0xED then some ⟨2, 0x80, 0x9F, 13, 1⟩
  else if 0xE1 ≤ b ∧ b ≤ 0xEF then some ⟨2, 0x80, 0xBF, b - 0xE0, 1⟩
  else if b = 0xF0 then some ⟨3, 0x90, 0xBF, 0, 1⟩
  else if 0xF1 ≤ b ∧ b ≤ 0xF3 then some ⟨3, 0x80, 0xBF, b - 0xF0, 1⟩
  else if b = 0xF4 then some ⟨3, 0x80, 0x8F, 4, 1⟩
  else none

/-- The state after one more byte within the bounds. -/
def Utf8State.next (s : Utf8State) (b : Nat) : Utf8State :=
  ⟨s.owed - 1, 0x80, 0xBF, s.value * 64 + (b - 0x80), s.taken + 1⟩

/-- The characters of bytes, from an index on; `none` stands between characters. -/
def utf8From (index : Nat) : Option Utf8State → List UInt8 → Except BrokenUtf8 (List Char)
  | none, [] => .ok []
  | some _, [] => .error ⟨index, none⟩
  | none, b :: bs =>
    if b.toNat < 0x80 then (utf8From (index + 1) none bs).map (Char.ofNat b.toNat :: ·)
    else
      match Utf8State.ofLead? b.toNat with
      | some s => utf8From index (some s) bs
      | none => .error ⟨index, some 1⟩
  | some s, b :: bs =>
    if s.low ≤ b.toNat ∧ b.toNat ≤ s.high then
      let s := s.next b.toNat
      if s.owed = 0 then (utf8From (index + s.taken) none bs).map (Char.ofNat s.value :: ·)
      else utf8From index (some s) bs
    else .error ⟨index, some s.taken⟩

/-- The text of bytes. -/
def readUtf8 (bytes : List UInt8) : Except BrokenUtf8 String :=
  (utf8From 0 none bytes).map String.ofList

end ChatCommands.Text
