set_option autoImplicit false

/-!
# JSON values

The value type of the JSON format, with what reading needs to keep: whole numbers apart from
fractions, and the fields of a record in their order, repeated names included. Two constructors
stand for what is well formed and yet carries no value: a number beyond the range of doubles, and
a text with half a surrogate pair or a record with such a name. A reader may pass over them but
no decoder accepts them.
-/

namespace ChatCommands

/-- A JSON value. -/
inductive Json where
  | null
  | bool (value : Bool)
  | int (value : Int)
  | float (value : Float)
  | text (value : String)
  | list (items : List Json)
  | record (fields : List (String × Json))
  /-- A number literal beyond the range of doubles. -/
  | hugeNumber
  /-- A text literal with half a surrogate pair, or a record with such a name. -/
  | broken
  deriving Inhabited

namespace Json

mutual

/-- Every leaf carries a value, and no list or record lies more than `levels` deep. -/
def isSound (levels : Nat) : Json → Bool
  | .list items => match levels with
    | 0 => false
    | n + 1 => itemsSound n items
  | .record fields => match levels with
    | 0 => false
    | n + 1 => fieldsSound n fields
  | .hugeNumber => false
  | .broken => false
  | _ => true

/-- Every item is sound at this depth. -/
def itemsSound (levels : Nat) : List Json → Bool
  | [] => true
  | j :: js => isSound levels j && itemsSound levels js

/-- Every field is sound at this depth. -/
def fieldsSound (levels : Nat) : List (String × Json) → Bool
  | [] => true
  | (_, j) :: fs => isSound levels j && fieldsSound levels fs

end

/-- The deepest nesting a document may have. -/
def maxDepth : Nat := 127

/-- The value of the field `name`; `null` when there is none. The last one counts. -/
def get (name : String) : Json → Json
  | .record fields => ((fields.reverse.find? (·.1 == name)).map (·.2)).getD .null
  | _ => .null

/-- The record has the field `name`. -/
def has (name : String) : Json → Bool
  | .record fields => fields.any (·.1 == name)
  | _ => false

/-- A record field, unless the value is absent. -/
def optionalField (name : String) (value : Option Json) : List (String × Json) :=
  match value with
  | some j => [(name, j)]
  | none => []

/-- A whole number from a word. -/
def ofWord (n : UInt64) : Json := .int n.toNat

/-- An absent value is written as null. -/
def ofOption {α : Type} (f : α → Json) : Option α → Json
  | some a => f a
  | none => .null

end Json

end ChatCommands
