import ChatCommands.Url.Host

set_option autoImplicit false

/-!
# Addresses

An address is read as browsers read it: blanks and control characters around it are cut off, tabs
and line ends inside are dropped, backslashes count as slashes, any number of slashes leads to the
host, user and port are passed over, and the path climbs at `..`. What this module keeps of an
address is the scheme, the host and the segments of the path.
-/

namespace ChatCommands

/-- An address: its scheme, its host when it has one, and the segments of its path. -/
structure Url where
  scheme : String
  host : Option Url.Host
  segments : List (List Char)
  deriving Repr

namespace Url

/-- The kinds of schemes, which decide what may stand in place of the host. -/
inductive SchemeKind where
  | web
  | file
  | other
  deriving DecidableEq, Repr

/-- The kind of a scheme. -/
def schemeKind (scheme : String) : SchemeKind :=
  if ["http", "https", "ws", "wss", "ftp"].contains scheme then .web
  else if scheme = "file" then .file
  else .other

/-- The address without control characters and blanks around it, tabs and line ends. -/
def cleaned (s : List Char) : List Char :=
  let outer (c : Char) : Bool := c.toNat ≤ 0x20
  let s := (s.dropWhile outer).reverse.dropWhile outer |>.reverse
  s.filter fun c => c ≠ '\t' ∧ c ≠ '\n' ∧ c ≠ '\r'

/-- An ASCII letter. -/
def isLetter (c : Char) : Bool := ('a' ≤ c && c ≤ 'z') || ('A' ≤ c && c ≤ 'Z')

/-- A character of a scheme after the first. -/
def isSchemeChar (c : Char) : Bool :=
  isLetter c || ('0' ≤ c && c ≤ '9') || c == '+' || c == '-' || c == '.'

/-- The scheme in lower case, and what follows its colon. -/
def scheme? (s : List Char) : Option (String × List Char) :=
  match s with
  | c :: _ =>
    if isLetter c then
      match s.dropWhile isSchemeChar with
      | ':' :: r => some (String.ofList ((s.takeWhile isSchemeChar).map Char.toLower), r)
      | _ => none
    else none
  | [] => none

/-- A slash, or for the schemes of the web a backslash. -/
def isSlash (web : Bool) (c : Char) : Bool := c == '/' || (web && c == '\\')

/-- The end of the host and what comes with it. -/
def endsAuthority (web : Bool) (c : Char) : Bool := isSlash web c || c == '?' || c == '#'

/-- The text after the last `@`. -/
def afterLastAt (s : List Char) : List Char := (s.reverse.takeWhile (· ≠ '@')).reverse

/-- The text before the last `@`, when there is one. -/
def userOf? (s : List Char) : Option (List Char) :=
  if s.contains '@' then some (s.take (s.length - (afterLastAt s).length - 1)) else none

/-- The user has a name or a password. -/
def isNamed (user : List Char) : Bool := user ≠ [] && user ≠ [':']

/-- The port is absent, empty or a number of 16 bits; a backslash ends it. -/
def portOk (s : List Char) : Bool :=
  match s with
  | [] => true
  | ':' :: r => (Text.readDigits 10 65535 0 (r.takeWhile (· ≠ '\\'))).toOption.isSome
  | _ => false

/-- The text of the host, and what follows it up to the path: a port. -/
def splitHost (inBrackets : Bool) : List Char → List Char × List Char
  | [] => ([], [])
  | c :: r =>
    if c = ':' ∧ ¬ inBrackets then ([], c :: r)
    else
      let inBrackets := if c = '[' then true else if c = ']' then false else inBrackets
      let (host, rest) := splitHost inBrackets r
      (c :: host, rest)

/-- A character that no host of another scheme may hold. -/
def isForbiddenInHost (c : Char) : Bool := c.toNat = 0 || " #/:<>?@[\\]^|".toList.contains c

/-- The host of another scheme is taken as it stands. -/
def opaqueHostOk (s : List Char) : Bool :=
  match s with
  | '[' :: r => r.getLast? = some ']' && isEightNumbers r.dropLast
  | s => !s.any isForbiddenInHost

/-- The segment means the one above. -/
def isDoubleDot (s : List Char) : Bool :=
  let s := s.map Char.toLower
  ["..", "%2e%2e", "%2e.", ".%2e"].any fun t => s = t.toList

/-- The segment means nothing. -/
def isSingleDot (s : List Char) : Bool :=
  let s := s.map Char.toLower
  s = ['.'] ∨ s = "%2e".toList

/-- The segment looks like the letter of a drive, which is never left upwards. -/
def isDriveLetter (s : List Char) : Bool :=
  match s with
  | [c, d] => isLetter c && (d == ':' || d == '|')
  | _ => false

/-- The segments of a path, split at slashes and freed from dots, in reverse. -/
def climb (done : List (List Char)) : List (List Char) → List (List Char)
  | [] => done
  | s :: r =>
    if isDoubleDot s then
      match done with
      | last :: above => if isDriveLetter last then climb done r else climb above r
      | [] => climb [] r
    else if isSingleDot s then climb done r
    else climb (s :: done) r

/-- The non-empty segments of a path. -/
def pathSegments (web : Bool) (s : List Char) : List (List Char) :=
  let path := s.takeWhile fun c => c ≠ '?' ∧ c ≠ '#'
  (climb [] (Text.partsBetween (isSlash web) path)).reverse.filter (· ≠ [])

/-- The address of a scheme of the web, after the slashes that lead to its host. -/
def readWeb? (scheme : String) (s : List Char) : Option Url :=
  let authority := s.takeWhile (!endsAuthority true ·)
  let path := s.dropWhile (!endsAuthority true ·)
  let (hostText, port) := splitHost false (afterLastAt authority)
  if hostText = [] ∨ ¬ portOk port then none
  else (host? hostText).map fun h => ⟨scheme, some h, pathSegments true path⟩

/-- The address of a file: the host may be missing and has no user and port. -/
def readFile? (s : List Char) : Option Url :=
  match s with
  | a :: b :: r =>
    if isSlash true a && isSlash true b then
      let hostText := r.takeWhile (!endsAuthority true ·)
      let path := r.dropWhile (!endsAuthority true ·)
      if hostText = [] || isDriveLetter hostText then some ⟨"file", none, pathSegments true path⟩
      else (host? hostText).map fun h => ⟨"file", some h, pathSegments true path⟩
    else some ⟨"file", none, pathSegments true s⟩
  | s => some ⟨"file", none, pathSegments true s⟩

/-- The address of any other scheme. Without two slashes there is no host to check; the host may be
empty where neither a user nor a port asks for one. -/
def readOther? (scheme : String) (s : List Char) : Option Url :=
  match s with
  | '/' :: '/' :: r =>
    let authority := r.takeWhile (!endsAuthority false ·)
    let path := r.dropWhile (!endsAuthority false ·)
    let user? := userOf? authority
    let (hostText, port) := splitHost false (afterLastAt authority)
    let asksForHost := port ≠ [] ∨ user?.any isNamed ∨ (user? = some [] ∧ path ≠ [])
    if ¬ opaqueHostOk hostText ∨ ¬ portOk port ∨ (hostText = [] ∧ asksForHost) then none
    else some ⟨scheme, none, pathSegments false path⟩
  | s => some ⟨scheme, none, pathSegments false s⟩

/-- The address that a text spells. -/
def parse? (s : List Char) : Option Url := do
  let (scheme, rest) ← scheme? (cleaned s)
  match schemeKind scheme with
  | .web => readWeb? scheme (rest.dropWhile (isSlash true))
  | .file => readFile? rest
  | .other => readOther? scheme rest

end Url

end ChatCommands
