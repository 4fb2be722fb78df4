import ChatCommands.Toml.Value

set_option autoImplicit false

/-!
# Documents of TOML

A document is read line by line: headers open tables, other lines put values into the table opened
last. The whole document becomes a record.
-/

namespace ChatCommands.Toml

/-- What follows the end of a line: blanks, a comment and a line break, or the end of
the document. -/
def afterLine? (s : List Char) : Option (List Char) :=
  let s := match s.dropWhile isSpace with
    | '#' :: r => r.dropWhile isPlain
    | s => s
  match s with
  | [] => some []
  | '\n' :: r => some r
  | '\r' :: '\n' :: r => some r
  | _ => none

/-- A table opened by its header; it must be new, or only implied so far. -/
def openTable (path : List String) (key : String) (root : Entries) : Option Entries :=
  descend false (fun _ es =>
    alter key (fun
      | none => some (.table false false [])
      | some (.table true false es) => some (.table false false es)
      | some _ => none) es) path false root

/-- One more table of an array opened by its header. -/
def openElement (path : List String) (key : String) (root : Entries) : Option Entries :=
  descend false (fun _ es =>
    alter key (fun
      | none => some (.tables [[]])
      | some (.tables elements) => some (.tables ([] :: elements))
      | some _ => none) es) path false root

/-- A value put under dotted keys into the table at a path. -/
def putUnder (table path : List String) (key : String) (value : Json) (root : Entries) :
    Option Entries :=
  descend false (fun _ es => putDotted path key value es) table false root

/-- The lines of a document, which go to the table at a path. -/
def lines? : Nat → List String → Entries → List Char → Option Entries
  | 0, _, _, _ => none
  | fuel + 1, table, root, s =>
    match s.dropWhile isSpace with
    | [] => some root
    | '[' :: '[' :: s => do
      let (path, key, s) ← path? s
      let ']' :: ']' :: s := s | none
      lines? fuel (path ++ [key]) (← openElement path key root) (← afterLine? s)
    | '[' :: s => do
      let (path, key, s) ← path? s
      let ']' :: s := s | none
      lines? fuel (path ++ [key]) (← openTable path key root) (← afterLine? s)
    | c :: r => do
      if c = '#' || c = '\n' || c = '\r' then lines? fuel table root (← afterLine? (c :: r))
      else
        let (path, key, s) ← path? (c :: r)
        let '=' :: s := s | none
        let (j, s) ← value? (2 * s.length + 2) maxLevels (s.dropWhile isSpace)
        lines? fuel table (← putUnder table path key j root) (← afterLine? s)

/-- The text without a byte order mark. -/
def afterMark : List Char → List Char
  | '\uFEFF' :: r => r
  | s => s

/-- The record of a document. -/
def parse (text : String) : Option Json :=
  let s := afterMark text.toList
  (lines? (s.length + 1) [] [] s).map fun es => .record (entriesToFields es)

end ChatCommands.Toml
