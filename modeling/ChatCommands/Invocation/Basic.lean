import ChatCommands.Text.Blank

set_option autoImplicit false

/-!
# Invocations

An invocation is the path of names that leads to a command, root first. A command below another one
extends the path of its parent by its own name.
-/

namespace ChatCommands

/-- A path of command names. -/
structure Invocation where
  names : List String
  deriving DecidableEq, Repr, Inhabited

namespace Invocation

/-- The empty path. -/
def root : Invocation := ⟨[]⟩

/-- The path of the words of a text. -/
def parse (text : String) : Invocation := ⟨Text.wordsOf text⟩

/-- The path with one more name. -/
def child (i : Invocation) (name : String) : Invocation := ⟨i.names ++ [name]⟩

/-- The path without its last name. -/
def parent? (i : Invocation) : Option Invocation :=
  if i.names = [] then none else some ⟨i.names.dropLast⟩

/-- The last name. -/
def name? (i : Invocation) : Option String := i.names.getLast?

/-- The path has no names. -/
def isEmpty (i : Invocation) : Bool := i.names.isEmpty

/-- The number of names. -/
def length (i : Invocation) : Nat := i.names.length

/-- The names with single spaces between them. -/
def toText (i : Invocation) : String := " ".intercalate i.names

end Invocation

end ChatCommands
