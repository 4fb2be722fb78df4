import ChatCommands.Json.Token

set_option autoImplicit false

/-!
# Reading JSON

The tree is built from the tokens by a machine with a stack of unfinished lists and records; it
takes one step a token. `parse` reads a document whose every part counts, `parseLoosely` one whose
uninteresting parts may hold leaves without value and may be nested without limit.
-/

namespace ChatCommands.Json

/-- An unfinished list or record, with what it holds so far in reverse. A name may be broken. -/
inductive Frame where
  | list (done : List Json)
  | record (done : List (Option String × Json)) (key : Option String)

/-- What the machine waits for. -/
inductive Expect where
  /-- A value. -/
  | value
  /-- The first value of a list, or its end. -/
  | valueOrEnd
  /-- The name of a field. -/
  | name (done : List (Option String × Json))
  /-- The first name of a record, or its end. -/
  | nameOrEnd
  /-- The colon after a name. -/
  | colon (done : List (Option String × Json)) (key : Option String)
  /-- A comma or the end of the innermost list or record, after a value. -/
  | afterValue (value : Json)

/-- The state of the machine: the unfinished lists and records, innermost first. -/
structure Reading where
  stack : List Frame
  expect : Expect

/-- The state before the first token. -/
def Reading.start : Reading := ⟨[], .value⟩

/-- The state after a complete value or the opening of one. -/
def Reading.take (stack : List Frame) : Token → Option Reading
  | .leaf j => some ⟨stack, .afterValue j⟩
  | .openList => some ⟨.list [] :: stack, .valueOrEnd⟩
  | .openRecord => some ⟨stack, .nameOrEnd⟩
  | _ => none

/-- The name that a token spells: absent twice over when it is none, and once when it is broken. -/
def Token.name? : Token → Option (Option String)
  | .leaf (.text s) => some (some s)
  | .leaf .broken => some none
  | _ => none

/-- The record of fields; it carries no value when one of the names is broken. -/
def recordOf (fields : List (Option String × Json)) : Json :=
  match fields.mapM fun (name?, j) => name?.map (·, j) with
  | some fields => .record fields
  | none => .broken

/-- One step of the machine. -/
def Reading.step (s : Reading) (t : Token) : Option Reading :=
  match s.expect with
  | .value => Reading.take s.stack t
  | .valueOrEnd =>
    match t, s.stack with
    | .closeList, .list done :: stack => some ⟨stack, .afterValue (.list done.reverse)⟩
    | t, stack => Reading.take stack t
  | .name done => t.name?.map fun key => ⟨s.stack, .colon done key⟩
  | .nameOrEnd =>
    match t with
    | .closeRecord => some ⟨s.stack, .afterValue (.record [])⟩
    | t => t.name?.map fun key => ⟨s.stack, .colon [] key⟩
  | .colon done key =>
    match t with
    | .colon => some ⟨.record done key :: s.stack, .value⟩
    | _ => none
  | .afterValue j =>
    match t, s.stack with
    | .comma, .list done :: stack => some ⟨.list (j :: done) :: stack, .value⟩
    | .closeList, .list done :: stack => some ⟨stack, .afterValue (.list (j :: done).reverse)⟩
    | .comma, .record done key :: stack => some ⟨stack, .name ((key, j) :: done)⟩
    | .closeRecord, .record done key :: stack =>
      some ⟨stack, .afterValue (recordOf ((key, j) :: done).reverse)⟩
    | _, _ => none

/-- The machine run over all tokens. -/
def Reading.run (s : Reading) : List Token → Option Reading
  | [] => some s
  | t :: ts => (s.step t).bind fun s => s.run ts

/-- The value that the tokens spell, when they spell exactly one. -/
def ofTokens? (ts : List Token) : Option Json :=
  match Reading.start.run ts with
  | some ⟨[], .afterValue j⟩ => some j
  | _ => none

/-- A document read without regard to leaves without value and to depth. -/
def parseLoosely (s : String) : Option Json := (tokens s.toList).bind ofTokens?

/-- A document whose every part counts. -/
def parse (s : String) : Option Json := (parseLoosely s).filter (isSound maxDepth)

end ChatCommands.Json
