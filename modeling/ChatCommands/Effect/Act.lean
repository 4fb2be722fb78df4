import ChatCommands.Effect.Session
import ChatCommands.Command.Basic

set_option autoImplicit false

/-!
# Acts

An act is what a handler does: requests to the world, with the session at hand, ending with a value,
an error, or by breaking off. What the session has become is kept in every case. The context is what
a handler knows from the start.
-/

namespace ChatCommands

/-- Requests with a session at hand, which may fail. -/
abbrev Act (α : Type) : Type := ExceptT Failing (StateT Session (Program Request Request.Answer)) α

namespace Act

/-- A program of requests as an act. -/
def ofRequests {α : Type} (p : Requests α) : Act α :=
  ExceptT.lift (StateT.lift p)

/-- The end of a program of requests, as the end of the act. -/
def ofEnding {α : Type} (p : Requests (Except Failing α)) : Act α :=
  ExceptT.mk (StateT.lift p)

/-- A lookup as an act. -/
def lookup {α : Type} (p : Lookup α) : Act α := ofEnding (Requests.ofLookup p)

/-- A single request. -/
def request (r : Request) : Act r.Answer := ofRequests r.put

/-- The session. -/
def session : Act Session := ExceptT.lift StateT.get

/-- The session replaced. -/
def setSession (s : Session) : Act Unit := ExceptT.lift (StateT.set s)

/-- An error ends the act. -/
def fail {α : Type} (cause : Cause) : Act α := throw (.error cause)

/-- A value, or the error that ends the act. -/
def ofExcept {α : Type} : Except Cause α → Act α
  | .ok a => return a
  | .error cause => fail cause

/-- The act with its error as a value; it breaks off as before. -/
def attempt {α : Type} (p : Act α) : Act (Except Cause α) :=
  tryCatch (do return .ok (← p)) fun
    | .error cause => return .error cause
    | .breakdown b => throw (.breakdown b)

/-- A record of a finished stage. -/
def record (stage : Stage) (tags : Tags) : Act Unit := request (.record stage tags)

/-- The act run from a session, with what the session became. -/
def runFrom {α : Type} (p : Act α) (s : Session) : Requests (Except Failing α × Session) :=
  p.run.run s

end Act

/-- What is fixed for one invocation. -/
structure Context where
  event : Event
  invocation : Invocation
  chain : List Command
  source : ArgumentSource
  policy : AccessPolicy

/-- The caller and the place of an invocation. -/
def Context.scope (ctx : Context) : AccessScope :=
  ⟨ctx.event.guild, ctx.event.channel, ctx.event.caller⟩

/-- Runs a command. -/
abbrev Handler : Type := Context → Act Outcome

/-- Presents an outcome; true when nothing is left to do. -/
abbrev OutcomeHandler : Type := Context → Outcome → Act Bool

end ChatCommands
