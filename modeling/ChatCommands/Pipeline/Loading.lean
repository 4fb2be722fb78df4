import ChatCommands.Effect.Act
import ChatCommands.Argument.Assignment

set_option autoImplicit false

/-!
# Initializing and loading

An invocation is initialized once, which opens access and starts the chain of replies; then its
arguments are loaded once. A load that is given up before its end leaves nothing bound and may be
begun again; a finished load answers every later one.
-/

namespace ChatCommands

/-- The error of using a session before it is initialized. -/
def notInitialized : Cause := .ofText "context used before initialization"

namespace Context

/-- Opens access and starts the chain of replies, unless that has been done. -/
def begin (ctx : Context) : Act Unit := do
  let s ← Act.session
  if s.isInitialized then return ()
  else
    Act.request (.openAccess ctx.event.guild ctx.event.channel ctx.event.caller.id)
    let replies := ReplyChain.start ctx.event.channel ctx.event.caller.id ctx.event.message?
    Act.setSession { s with replies := some replies }

/-- The place of an invocation, for references. -/
def place (ctx : Context) : Reference.Place := ⟨ctx.event.guild, ctx.event.channel⟩

/-- The loading that parsed parameters lead to. -/
def bind (parameters : List Parameter) (ends : List ParameterEnd) : Loading :=
  match joinParameters parameters ends with
  | .ok arguments => .ready arguments
  | .error outcome => .ended outcome

/-- The arguments of the invoked command parsed; nothing when that was given up. -/
def parseAndBind (ctx : Context) (limit : Option Nat) : Act (Option Loading) := do
  match ctx.chain.getLast? with
  | none => return some (.ended (.ofMessage "no command to bind arguments for"))
  | some command =>
    match assign command.parameters ctx.source with
    | .error failure => return some (.ended (.failure failure))
    | .ok raw =>
      let lookups := parameterLookups ctx.place command.parameters raw
      let ends ← Act.ofEnding (Request.gather lookups limit).put
      return ends.map (bind command.parameters)

/-- How an attempt to load ends. -/
inductive LoadEnd where
  | notInitialized
  | givenUp
  | loaded
  | ended (outcome : Outcome)

/-- Loads the arguments, unless that has been done; it is given up after a number of
milliseconds when a limit is set. -/
def load (ctx : Context) (limit : Option Nat) : Act LoadEnd := do
  let s ← Act.session
  if !s.isInitialized then return .notInitialized
  else
    match s.loading with
    | .ready _ => return .loaded
    | .ended outcome => return .ended outcome
    | _ =>
      Act.setSession { s with loading := .loading }
      match ← ctx.parseAndBind limit with
      | none => return .givenUp
      | some bound =>
        Act.setSession { s with loading := bound }
        match bound with
        | .ended outcome => return .ended outcome
        | _ => return .loaded

/-- The chain of replies. -/
def replyChain : Act ReplyChain := do
  match (← Act.session).replies with
  | some c => return c
  | none => Act.fail notInitialized

/-- The chain of replies replaced; the former one is answered. -/
def replaceReplyChain (c : ReplyChain) : Act ReplyChain := do
  let former ← replyChain
  Act.setSession { ← Act.session with replies := some c }
  return former

/-- One more reply to the invocation. -/
def reply (spec : ReplySpec) : Act SentReply := do
  let c ← replyChain
  let (sent, c) ← Act.ofRequests (c.add spec)
  Act.setSession { ← Act.session with replies := some c }
  Act.ofExcept sent

/-- What decides about access to what a group may use. -/
def accessValidator (ctx : Context) : Act (Group → Lookup Bool) := do
  if (← Act.session).isInitialized then return fun group => ctx.policy.hasAccess group ctx.scope
  else Act.fail notInitialized

/-- The caller has access to what the group may use. -/
def hasAccess (ctx : Context) (group : Group) : Act Bool := do
  if (← Act.session).isInitialized then Act.lookup (ctx.policy.hasAccess group ctx.scope)
  else Act.fail notInitialized

end Context

end ChatCommands
