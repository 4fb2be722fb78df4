import ChatCommands.Invocation.Basic
import ChatCommands.Invocation.TokenStream

set_option autoImplicit false

/-!
# Aliases

An alias rewrites the beginning of a token stream before a command is looked for. The longest alias
that begins the stream applies, once. The table remembers the length of its longest alias, so that
only as many tokens are looked at.
-/

namespace ChatCommands

/-- Aliases with their targets; no alias stands twice. -/
structure AliasTable where
  entries : List (Invocation × Invocation)
  longest : Nat
  deriving DecidableEq, Repr, Inhabited

namespace AliasTable

/-- The table without aliases. -/
def empty : AliasTable := ⟨[], 0⟩

/-- The table has no aliases. -/
def isEmpty (t : AliasTable) : Bool := t.entries.isEmpty

/-- The target of an alias. -/
def target? (t : AliasTable) (name : Invocation) : Option Invocation :=
  (t.entries.find? (·.1 == name)).map (·.2)

/-- The table with an alias, in place of an equal one. -/
def insert (t : AliasTable) (name target : Invocation) : AliasTable :=
  ⟨t.entries.filter (·.1 != name) ++ [(name, target)], max t.longest name.length⟩

/-- The table of aliases inserted in order. -/
def ofList (rows : List (Invocation × Invocation)) : AliasTable :=
  rows.foldl (fun t (name, target) => t.insert name target) empty

/-- The longest alias among the first `len` tokens and their shorter beginnings, with its target. -/
def longestMatch? (t : AliasTable) (upcoming : List String) :
    Nat → Option (Invocation × Invocation)
  | 0 => none
  | n + 1 =>
    match t.target? ⟨upcoming.take (n + 1)⟩ with
    | some target => some (⟨upcoming.take (n + 1)⟩, target)
    | none => t.longestMatch? upcoming n

/-- The stream with the longest alias at its beginning replaced, and the alias used. -/
def apply (t : AliasTable) (s : TokenStream) : Option Invocation × TokenStream :=
  if t.isEmpty then (none, s)
  else
    let upcoming := s.peekMany t.longest
    match t.longestMatch? upcoming upcoming.length with
    | some (name, target) => (some name, (s.skip name.length).splice target.names)
    | none => (none, s)

end AliasTable

end ChatCommands
