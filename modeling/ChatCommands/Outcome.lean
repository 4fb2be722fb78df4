import ChatCommands.Text.Quoted
import ChatCommands.Access.Group

set_option autoImplicit false

/-!
# Outcomes

What a handler, or a stage before it, has to say about an invocation. `proceed` says that the next
handler shall run; every other outcome ends the invocation.
-/

namespace ChatCommands

/-- A good end. -/
inductive Success where
  | ok
  | message (text : String)
  | ack (reaction message : String)
  deriving DecidableEq, Repr

/-- An end that the caller has to know about. -/
inductive Failure where
  | plain
  | message (text : String)
  | settingDenied (text : String)
  | argumentMissing (parameter : String)
  | argumentInvalid (parameter reason : String)
  | argumentExtra (extra : List String)
  | notAllowed (group : Group)

/-- An end that the caller is not to blame for. The message may be shown, the cause
is for the log. -/
structure InternalError where
  message : String
  cause : Option Cause

/-- How a handler or an earlier stage ended. -/
inductive Outcome where
  | proceed
  | success (success : Success)
  | failure (failure : Failure)
  | error (error : InternalError)

/-- The text of a failure for the caller. -/
def Failure.shown? : Failure → Option String
  | .plain => none
  | .message text => some text
  | .settingDenied text => some text
  | .argumentMissing parameter => some ("Missing argument for parameter `" ++ parameter ++ "`.")
  | .argumentInvalid parameter reason =>
    some ("Invalid argument for parameter `" ++ parameter ++ "`: " ++ reason)
  | .argumentExtra extra =>
    some ("Unexpected extra arguments: "
      ++ ", ".intercalate (extra.map fun e => "`" ++ e ++ "`"))
  | .notAllowed group =>
    match group.name? with
    | some name => some ("Only users in the " ++ name ++ " group can use this command.")
    | none => some "You cannot use this command."

/-- The message of errors whose cause is not for the caller. -/
def InternalError.hiddenMessage : String :=
  "An internal error occurred while running this command."

/-- The error in one line. -/
def InternalError.sketch (e : InternalError) : String :=
  "CommandError \x7b message: " ++ Text.quoted e.message ++ ", cause: "
    ++ (match e.cause with
      | some cause => "Some(" ++ Text.quoted cause.describe ++ ")"
      | none => "None")
    ++ " \x7d"

namespace Outcome

/-- The good end without a word. -/
def ok : Outcome := .success .ok

/-- An internal error with a message and no cause. -/
def ofMessage (text : String) : Outcome := .error ⟨text, none⟩

/-- An internal error whose cause is kept from the caller. -/
def ofCause (cause : Cause) : Outcome := .error ⟨InternalError.hiddenMessage, some cause⟩

/-- The outcome ends the invocation. -/
def isTerminal : Outcome → Bool
  | .proceed => false
  | _ => true

/-- The label of an outcome in measurements. -/
def label : Outcome → String
  | .proceed => "continue"
  | .success _ => "success"
  | .failure _ => "failure"
  | .error _ => "error"

end Outcome

end ChatCommands
