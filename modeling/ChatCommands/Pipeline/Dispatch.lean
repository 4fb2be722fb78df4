import ChatCommands.Pipeline.Loading
import ChatCommands.Effect.Procedure

set_option autoImplicit false

/-!
# Dispatch

An outcome is offered to the handlers of the invoked command in order, then to a fallback, until one
claims it. A handler that fails or breaks off does not claim. The usual fallback presents outcomes
as embeds or as a reaction.
-/

namespace ChatCommands

/-- Which handler claimed an outcome. -/
inductive Dispatch where
  | command (index : Nat)
  | fallback
  | unhandled
  deriving DecidableEq, Repr

/-- The handler claims the outcome. -/
def claims (ctx : Context) (outcome : Outcome) (handler : OutcomeHandler) : Procedure Bool := do
  match ← Procedure.present handler ctx outcome with
  | .ok claimed => return claimed
  | .error _ => return false

/-- The index of the first handler that claims the outcome, counted from `index`. -/
def firstClaim (ctx : Context) (outcome : Outcome) (index : Nat) :
    List OutcomeHandler → Procedure (Option Nat)
  | [] => return none
  | h :: hs => do
    if ← claims ctx outcome h then return some index
    else firstClaim ctx outcome (index + 1) hs

/-- Offers an outcome to handlers and to a fallback. -/
def dispatch (ctx : Context) (handlers : List OutcomeHandler) (fallback : OutcomeHandler)
    (outcome : Outcome) : Procedure Dispatch := do
  match ← firstClaim ctx outcome 0 handlers with
  | some index => return .command index
  | none => if ← claims ctx outcome fallback then return .fallback else return .unhandled

/-- A reply of one embed. -/
def embedReply (title description : String) (color : EmbedColor) : ReplySpec :=
  .ofEmbed ⟨some title, description, color, none⟩

/-- The usual presentation of outcomes: embeds for messages, a reaction for an acknowledgement, and
in place of the reaction a private reply when no message triggered the invocation. -/
def presentOutcome : OutcomeHandler := fun _ outcome => do
  match outcome with
  | .proceed => return false
  | .success .ok => return true
  | .success (.message text) =>
    let _ ← Context.reply (embedReply "Success" text .green)
    return true
  | .success (.ack reaction message) =>
    let replies ← Context.replyChain
    if ← Act.ofExcept (← Act.ofRequests (replies.reactToOrigin reaction)) then return true
    else
      let _ ← Context.reply ((ReplySpec.ofText message).privately true)
      return true
  | .failure failure =>
    match failure.shown? with
    | none => return true
    | some text =>
      let _ ← Context.reply (embedReply "Error" text .red)
      return true
  | .error e =>
    let _ ← Context.reply (embedReply "Internal Error" e.message .gray)
    return true

end ChatCommands
