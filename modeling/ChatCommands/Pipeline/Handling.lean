import ChatCommands.Pipeline.Loading
import ChatCommands.Command.Registry
import ChatCommands.Effect.Procedure

set_option autoImplicit false

/-!
# Handling

The handlers of a chain run in order until one ends the invocation. An error of a handler, and a
handler that breaks off, end it with an internal error; so does a chain whose handlers all let the
invocation proceed.
-/

namespace ChatCommands

/-- The cause of an invocation that no handler ended. -/
def incompleteHandling (command invocation : String) : Cause :=
  .ofText ("command " ++ command ++ " under invocation `" ++ invocation
    ++ "` was not completely handled")

/-- The cause of a handler that broke off. -/
def brokenHandling (command : String) (breakdown : Breakdown) : Cause :=
  .ofText ("handler of command " ++ command ++ " panicked: " ++ breakdown.message)

/-- The outcome of a handler, failures included. -/
def runHandler (ctx : Context) (command : Command) (handler : Handler) : Procedure Outcome := do
  match ← Procedure.handle command handler ctx with
  | .ok outcome => return outcome
  | .error (.error cause) => return .ofCause cause
  | .error (.breakdown b) => return .ofCause (brokenHandling command.id b)

namespace Context

/-- The outcome of the handlers in order, up to the first that ends the invocation. -/
def invokeChain (ctx : Context) (tags : Tags) : List Registration → Procedure Outcome
  | [] =>
    return .ofCause (incompleteHandling ((ctx.chain.getLast?.map (·.id)).getD "")
      ctx.invocation.toText)
  | r :: rs =>
    match r.handler with
    | none => ctx.invokeChain tags rs
    | some handler => do
      let outcome ← runHandler ctx r.command handler
      Procedure.record .handle ((tags.withCommand r.command.id).withOutcome outcome.label)
      if outcome.isTerminal then return outcome else ctx.invokeChain tags rs

end Context

end ChatCommands
