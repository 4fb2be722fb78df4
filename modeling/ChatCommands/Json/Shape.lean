import ChatCommands.Json.Basic
import ChatCommands.Text.Numeral

set_option autoImplicit false

/-!
# Shapes of JSON values

How values of a type are found in a JSON value. A structure is written as a record of its fields and
may also be written as the list of them in order; unknown fields are passed over, a known field may
stand only once. A choice between names is written as the name, or as a record of that one name with
null. A tagged value is a record or a list of a tag and a payload.
-/

namespace ChatCommands.Json

/-- The word that a value spells. -/
def word? : Json → Option UInt64
  | .int n => if 0 ≤ n ∧ n ≤ Text.maxWord64 then some n.toNat.toUInt64 else none
  | _ => none

/-- The truth value that a value spells. -/
def bool? : Json → Option Bool
  | .bool b => some b
  | _ => none

/-- The text that a value spells. -/
def text? : Json → Option String
  | .text s => some s
  | _ => none

/-- The items of a list, each of a shape. -/
def listOf? {α : Type} (item : Json → Option α) : Json → Option (List α)
  | .list js => js.mapM item
  | _ => none

/-- Nothing for null, else a value of a shape. -/
def nullable? {α : Type} (shape : Json → Option α) : Json → Option (Option α)
  | .null => some none
  | j => (shape j).map some

/-- An absent value stands for the default. -/
def withDefault {α : Type} (dflt : α) (shape : Json → Option α) : Option Json → Option α
  | none => some dflt
  | some j => shape j

/-- A value that must be there. -/
def required {α : Type} (shape : Json → Option α) : Option Json → Option α
  | none => none
  | some j => shape j

/-- The values of the field `name`, in order. -/
def valuesOf (name : String) (fields : List (String × Json)) : List Json :=
  (fields.filter (·.1 == name)).map (·.2)

/-- The value of a field that stands at most once: absent twice over when it stands more often. -/
def single? : List Json → Option (Option Json)
  | [] => some none
  | [j] => some (some j)
  | _ => none

/-- The fields with these names, in this order, out of a record. -/
def recordFields? (names : List String) : Json → Option (List (Option Json))
  | .record fields => names.mapM fun name => single? (valuesOf name fields)
  | _ => none

/-- The fields with these names, in this order, out of a record or out of the list of their values;
the last ones may be left out of the list. -/
def fields? (names : List String) : Json → Option (List (Option Json))
  | .list js =>
    if js.length ≤ names.length then
      some (js.map some ++ List.replicate (names.length - js.length) none)
    else none
  | j => recordFields? names j

/-- The entries of a map in order of first appearance; the last of equal names counts. -/
def entries (fields : List (String × Json)) : List (String × Json) :=
  fields.foldl
    (fun kept (k, j) =>
      if kept.any (·.1 == k) then kept.map fun e => if e.1 == k then (k, j) else e
      else kept ++ [(k, j)])
    []

/-- A map from names to values of a shape; every value must have the shape. -/
def mapOf? {α : Type} (shape : Json → Option α) : Json → Option (List (String × α))
  | .record fields =>
    if fields.all fun (_, j) => (shape j).isSome then
      (entries fields).mapM fun (k, j) => (shape j).map (k, ·)
    else none
  | _ => none

/-- How a value comes in. -/
inductive Intake where
  /-- Piece by piece, as it is needed. -/
  | direct
  /-- The whole of it has been set aside before. -/
  | setAside
  deriving DecidableEq, Repr

/-- The name of a choice, written plainly or as a record of that name with null; in a value that has
been set aside an empty record may stand for null. -/
def choice? (intake : Intake) : Json → Option String
  | .text s => some s
  | .record [(s, .null)] => some s
  | .record [(s, .record [])] => if intake = .setAside then some s else none
  | _ => none

/-- A name written plainly, or as its place among all names. -/
def nameOrPlace? (names : List String) : Json → Option String
  | .text s => some s
  | .int n => if 0 ≤ n then names[n.toNat]? else none
  | _ => none

/-- The tag and the payload of a tagged value: two fields of a record, where the tag is a choice, or
a list of both, where the tag is read as told. -/
def tagged? (leadingTag? : Json → Option String) : Json → Option (String × Json)
  | .list [tag, payload] => (leadingTag? tag).map (·, payload)
  | .record fields => do
    let [some tag, some payload] ← recordFields? ["type", "payload"] (.record fields) | none
    return (← choice? .direct tag, payload)
  | _ => none

end ChatCommands.Json
