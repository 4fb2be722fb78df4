import ChatCommands.Toml.Scalar

set_option autoImplicit false

/-!
# Values and tables of TOML

A table under construction knows how each of its entries came about, because that decides what may
still be added: a table that a longer path implied may be opened once, one made of dotted keys may
only be extended by dotted keys, a plain value never changes.
-/

namespace ChatCommands.Toml

/-- An entry of a table under construction. -/
inductive Node where
  | value (value : Json)
  | table (isImplicit isDotted : Bool) (entries : List (String × Node))
  /-- The tables of an array, the latest first. -/
  | tables (elements : List (List (String × Node)))

/-- The entries of a table. -/
abbrev Entries : Type := List (String × Node)

mutual

/-- The value of an entry. -/
def Node.toJson : Node → Json
  | .value j => j
  | .table _ _ entries => .record (entriesToFields entries)
  | .tables elements => .list (elementsToItems elements).reverse

/-- The fields of a table. -/
def entriesToFields : List (String × Node) → List (String × Json)
  | [] => []
  | (k, n) :: es => (k, n.toJson) :: entriesToFields es

/-- The values of tables. -/
def elementsToItems : List (List (String × Node)) → List Json
  | [] => []
  | e :: es => .record (entriesToFields e) :: elementsToItems es

end

/-- The entries with the one under a key changed, which may be absent before. -/
def alter (key : String) (change : Option Node → Option Node) : Entries → Option Entries
  | [] => (change none).map fun n => [(key, n)]
  | (k, n) :: es =>
    if k = key then (change (some n)).map fun n => (k, n) :: es
    else (alter key change es).map ((k, n) :: ·)

/-- The table at a path changed; tables on the way that do not exist are implied. The change is told
whether the table is made of dotted keys. Dotted keys do not enter tables that were opened. -/
def descend (dotted : Bool) (change : Bool → Entries → Option Entries) :
    List String → Bool → Entries → Option Entries
  | [], isDotted, entries => change isDotted entries
  | k :: ks, _, entries =>
    alter k (fun
      | none => (descend dotted change ks dotted []).map (.table true dotted)
      | some (.value _) => none
      | some (.tables []) => none
      | some (.tables (e :: es)) =>
        (descend dotted change ks false e).map fun e => .tables (e :: es)
      | some (.table isImplicit isDotted es) =>
        if dotted && !isImplicit then none
        else (descend dotted change ks isDotted es).map (.table isImplicit isDotted)) entries

/-- A value put under a new key. -/
def putNew (key : String) (value : Json) (entries : Entries) : Option Entries :=
  alter key (fun
    | none => some (.value value)
    | some _ => none) entries

/-- A value put under a path of dotted keys. -/
def putDotted (path : List String) (key : String) (value : Json) (entries : Entries) :
    Option Entries :=
  descend true (fun isDotted es => if isDotted == path.isEmpty then none else putNew key value es)
    path false entries

/-! ## Keys -/

/-- A character of a key without quotes. -/
def isBareChar (c : Char) : Bool := c.isAlphanum || c == '_' || c == '-'

/-- A key: quoted, or a run of plain characters. -/
def key? (s : List Char) : Option (String × List Char) :=
  match s with
  | '"' :: _ => lineString? s
  | '\'' :: _ => lineString? s
  | s =>
    let bare := s.takeWhile isBareChar
    if bare = [] then none else some (String.ofList bare, s.drop bare.length)

/-- Keys joined by points, the last one first, and what follows them and their blanks. -/
def keys? : Nat → List String → List Char → Option (List String × List Char)
  | 0, _, _ => none
  | fuel + 1, before, s => do
    let (k, s) ← key? (s.dropWhile isSpace)
    match s.dropWhile isSpace with
    | '.' :: s => keys? fuel (k :: before) s
    | s => some (k :: before, s)

/-- The deepest nesting of arrays and tables in a value, and the longest path of keys. -/
def maxLevels : Nat := 79

/-- A path of keys and its last key, and what follows. -/
def path? (s : List Char) : Option (List String × String × List Char) := do
  let (keys, s) ← keys? maxLevels [] s
  match keys with
  | [] => none
  | last :: before => some (before.reverse, last, s)

/-! ## Values -/

/-- What follows blanks, line breaks and comments. -/
def afterBlanks : Bool → List Char → Option (List Char)
  | _, [] => some []
  | inComment, c :: r =>
    if c = '\n' then afterBlanks false r
    else if c = '\r' then if r.head? = some '\n' then afterBlanks false r else none
    else if inComment then if isPlain c then afterBlanks true r else none
    else if isSpace c then afterBlanks false r
    else if c = '#' then afterBlanks true r
    else some (c :: r)

mutual

/-- A value, with nesting up to a number of levels. -/
def value? : Nat → Nat → List Char → Option (Json × List Char)
  | 0, _, _ => none
  | fuel + 1, levels, s =>
    match s with
    | '"' :: _ => (string? s).map fun (t, r) => (.text t, r)
    | '\'' :: _ => (string? s).map fun (t, r) => (.text t, r)
    | '[' :: r =>
      match levels with
      | 0 => none
      | n + 1 => (items? fuel n r).map fun (js, r) => (.list js, r)
    | '\x7b' :: r =>
      match levels with
      | 0 => none
      | n + 1 =>
        match r.dropWhile isSpace with
        | '\x7d' :: r => some (.record [], r)
        | r => (pairs? fuel n [] r).map fun (es, r) => (.record (entriesToFields es), r)
    | s => run? s

/-- The items of an array up to its end; a comma may follow the last one. -/
def items? : Nat → Nat → List Char → Option (List Json × List Char)
  | 0, _, _ => none
  | fuel + 1, levels, s => do
    match ← afterBlanks false s with
    | ']' :: r => some ([], r)
    | s =>
      let (j, s) ← value? fuel levels s
      match ← afterBlanks false s with
      | ',' :: s =>
        let (js, s) ← items? fuel levels s
        some (j :: js, s)
      | ']' :: s => some ([j], s)
      | _ => none

/-- The entries of an inline table up to its end. -/
def pairs? : Nat → Nat → Entries → List Char → Option (Entries × List Char)
  | 0, _, _, _ => none
  | fuel + 1, levels, entries, s => do
    let (path, key, s) ← path? s
    let '=' :: s := s | none
    let (j, s) ← value? fuel levels (s.dropWhile isSpace)
    let entries ← putDotted path key j entries
    match s.dropWhile isSpace with
    | ',' :: s => pairs? fuel levels entries s
    | '\x7d' :: s => some (entries, s)
    | _ => none

end

end ChatCommands.Toml
