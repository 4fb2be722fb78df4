import ChatCommands.Url.FoldingTable

set_option autoImplicit false

/-!
# Folding of domain names

Domain names are compared in a folded form, in which letters of other cases, widths, styles and
positions have become the plain ones, and characters without a bearing on the name are gone.
-/

namespace ChatCommands.Url

/-- What becomes of a character in a domain name. -/
inductive Folded where
  | kept
  | dropped
  | replaced (characters : List Char)
  | forbidden
  deriving Repr, DecidableEq

/-- The characters that replace a character of a run. -/
def Replacement.at? (r : Replacement) (offset : Nat) : Option (List Char) :=
  match r with
  | .text characters => some characters
  | .counting start step =>
    if offset % step = 0 then some [Char.ofNat (start + offset)] else none

/-- What becomes of a character beyond ASCII. -/
def foldedBeyondAscii (c : Char) : Folded :=
  if forbiddenInNames.contains c then .forbidden
  else if droppedFromNames.contains c then .dropped
  else
    match (replacedInNames.runOf? c).bind fun run => run.value.at? (c.toNat - run.first) with
    | some characters => .replaced characters
    | none => .kept

/-- What becomes of a character: of ASCII, only the capital letters are replaced. -/
def folded (c : Char) : Folded :=
  if c.toNat < 0x80 then
    if 'A' ≤ c ∧ c ≤ 'Z' then .replaced [Char.ofNat (c.toNat + 32)] else .kept
  else foldedBeyondAscii c

/-- The folded form of a text; absent when it holds a character that no domain name may hold. -/
def fold? : List Char → Option (List Char)
  | [] => some []
  | c :: r =>
    match folded c with
    | .kept => (fold? r).map (c :: ·)
    | .dropped => fold? r
    | .replaced characters => (fold? r).map (characters ++ ·)
    | .forbidden => none

end ChatCommands.Url
