set_option autoImplicit false

/-!
# Causes of failure

An error that comes from outside is a chain of texts, the outermost first. A failed conversion of an
argument is either the fault of the input, told to the caller, or of a lookup.
-/

namespace ChatCommands

/-- An error with its causes, the outermost first. -/
structure Cause where
  top : String
  below : List String
  deriving DecidableEq, Repr, Inhabited

namespace Cause

/-- An error without further causes. -/
def ofText (text : String) : Cause := ⟨text, []⟩

/-- All texts of the chain. -/
def texts (c : Cause) : List String := c.top :: c.below

/-- The error seen from further out. -/
def context (c : Cause) (text : String) : Cause := ⟨text, c.texts⟩

/-- The whole chain in one line. -/
def describe (c : Cause) : String := ": ".intercalate c.texts

end Cause

/-- A collaborator that breaks off instead of answering; the text is absent when it left none. -/
structure Breakdown where
  message? : Option String
  deriving DecidableEq, Repr, Inhabited

/-- The text of a breakdown. -/
def Breakdown.message (b : Breakdown) : String := b.message?.getD "unknown panic"

/-- How a step can fail to give a value: by an error, which can be handled, or by breaking off. -/
inductive Failing where
  | error (cause : Cause)
  | breakdown (breakdown : Breakdown)
  deriving DecidableEq, Repr, Inhabited

/-- Why an argument could not be converted. -/
inductive ArgumentError where
  /-- The input is at fault; the text is for the caller. -/
  | invalid (message : String)
  /-- A lookup failed. -/
  | lookup (cause : Cause)
  deriving DecidableEq, Repr

/-- The chain of an argument error. The text of a failed lookup tells its whole chain, which then
follows once more. -/
def ArgumentError.cause : ArgumentError → Cause
  | .invalid message => Cause.ofText message
  | .lookup cause => ⟨"entity lookup failed: " ++ cause.describe, cause.texts⟩

/-- The text of an argument error. -/
def ArgumentError.message (e : ArgumentError) : String := e.cause.top

end ChatCommands
