set_option autoImplicit false

/-!
# Blank characters

The blanks are the characters with the Unicode property `White_Space`. This module holds the
predicate `isBlank`, the three ways of trimming, and the cut of a text into blank-free words.
Texts are lists of characters here; `trimmed` and `wordsOf` are the same operations on strings.
-/

namespace ChatCommands.Text

/-- A character with the Unicode property `White_Space`. -/
def isBlank (c : Char) : Bool :=
  let n := c.toNat
  (9 ≤ n && n ≤ 13) || n == 32 || n == 0x85 || n == 0xA0 || n == 0x1680
    || (0x2000 ≤ n && n ≤ 0x200A) || n == 0x2028 || n == 0x2029 || n == 0x202F
    || n == 0x205F || n == 0x3000

/-- The text without its leading blanks. -/
def trimStart (s : List Char) : List Char := s.dropWhile isBlank

/-- The text without its trailing blanks. -/
def trimEnd (s : List Char) : List Char := (s.reverse.dropWhile isBlank).reverse

/-- The text without leading and trailing blanks. -/
def trim (s : List Char) : List Char := trimEnd (trimStart s)

/-- `trim` on strings. -/
def trimmed (s : String) : String := String.ofList (trim s.toList)

/-- What `dropWhile` leaves is no longer than the list. -/
theorem length_dropWhile_le {α : Type} (p : α → Bool) :
    ∀ l : List α, (l.dropWhile p).length ≤ l.length
  | [] => Nat.le_refl _
  | a :: l => by
    rw [List.dropWhile_cons]
    split
    · exact Nat.le_succ_of_le (length_dropWhile_le p l)
    · exact Nat.le_refl _

/-- The blank-free words of a text, in order. -/
def words (s : List Char) : List (List Char) :=
  match _h : s.dropWhile isBlank with
  | [] => []
  | c :: r => (c :: r.takeWhile (!isBlank ·)) :: words (r.dropWhile (!isBlank ·))
termination_by s.length
decreasing_by
  have h1 := length_dropWhile_le isBlank s
  have h2 := length_dropWhile_le (fun c => !isBlank c) r
  rw [_h] at h1
  simp at h1
  omega

/-- The blank-free words of a string, in order. -/
def wordsOf (s : String) : List String := (words s.toList).map String.ofList

/-- What stands after `lead`, when the text begins with it. -/
def after? (lead : List Char) (s : List Char) : Option (List Char) :=
  match lead, s with
  | [], s => some s
  | _ :: _, [] => none
  | a :: lead, c :: s => if a = c then after? lead s else none

/-- What stands before `tail`, when the text ends with it. -/
def before? (tail : List Char) (s : List Char) : Option (List Char) :=
  (after? tail.reverse s.reverse).map List.reverse

/-- The lower-case form of an ASCII letter; every other character is unchanged. -/
def lowerAscii (c : Char) : Char := if 'A' ≤ c ∧ c ≤ 'Z' then Char.ofNat (c.toNat + 32) else c

/-- Equality of texts up to the case of ASCII letters. -/
def sameIgnoringCase (s t : List Char) : Bool := s.map lowerAscii == t.map lowerAscii

end ChatCommands.Text
