import ChatCommands.Text.Blank
import ChatCommands.Text.Numeral
import ChatCommands.Text.Parts

set_option autoImplicit false

/-!
# Tables of characters

A property of characters is held as ascending runs of characters that share a value, and looked up
by halving. Tables are written as rows of words: a word is the hexadecimal number of a character,
or of the first and the last character of a run with a hyphen between them, then, after an equals
sign, the value of the run.
-/

namespace ChatCommands.Text

/-- Neighbouring characters, by their numbers, that share a value. -/
structure Run (α : Type) where
  first : Nat
  last : Nat
  value : α
  deriving Repr

/-- Runs of characters in ascending order. -/
structure RunTable (α : Type) where
  runs : Array (Run α)
  deriving Repr

/-- The number that hexadecimal digits spell. -/
def hexNumber (s : List Char) : Nat := s.foldl (fun n c => n * 16 + (digitValue? 16 c).getD 0) 0

/-- The hexadecimal numbers of a text between the occurrences of a character. -/
def numbersBetween (separator : Char) (s : List Char) : List Nat :=
  (partsBetween (· == separator) s).map hexNumber

/-- The run that a word of a table spells. -/
def Run.ofWord {α : Type} (value : List Char → α) (s : List Char) : Run α :=
  let bounds := numbersBetween '-' (s.takeWhile (· ≠ '='))
  ⟨bounds.headD 0, bounds.getLastD 0, value ((s.dropWhile (· ≠ '=')).drop 1)⟩

/-- The table that rows of words spell. -/
def RunTable.ofRows {α : Type} (value : List Char → α) (rows : List String) : RunTable α :=
  ⟨(rows.flatMap fun row => (words row.toList).map (Run.ofWord value)).toArray⟩

/-- Of the runs from `low` on and before `high`, the place of the last that begins at the number or
before it; `low` when there is none. -/
def placeOf {α : Type} (runs : Array (Run α)) (n low high : Nat) : Nat :=
  if low + 1 < high then
    let middle := (low + high) / 2
    if runs[middle]?.any (·.first ≤ n) then placeOf runs n middle high
      else placeOf runs n low middle
  else low
termination_by high - low

/-- The run that holds a character. -/
def RunTable.runOf? {α : Type} (table : RunTable α) (c : Char) : Option (Run α) :=
  table.runs[placeOf table.runs c.toNat 0 table.runs.size]?.filter fun run =>
    run.first ≤ c.toNat && c.toNat ≤ run.last

/-- The value of a character. -/
def RunTable.find? {α : Type} (table : RunTable α) (c : Char) : Option α :=
  (table.runOf? c).map Run.value

/-- A set of characters. -/
abbrev CharSet : Type := RunTable Unit

/-- The set that rows of words without values spell. -/
def CharSet.ofRows (rows : List String) : CharSet := RunTable.ofRows (fun _ => ()) rows

/-- The character is in the set. -/
def RunTable.contains {α : Type} (table : RunTable α) (c : Char) : Bool := (table.runOf? c).isSome

end ChatCommands.Text
