import ChatCommands.Effect.Act

set_option autoImplicit false

/-!
# Procedures

A procedure is an act whose moves can be told apart: it puts requests of its own and it runs
handlers. What a handler does while it runs is no move of the procedure; the procedure goes on with
how the handler ended and with what it left of the session. Carried out, a procedure is the act in
which each run of a handler is what the handler does.
-/

namespace ChatCommands

/-- A move of a procedure. -/
inductive Move where
  | request (r : Request)
  /-- The handler of a command is run from a session. -/
  | handle (command : Command) (handler : Handler) (ctx : Context) (s : Session)
  /-- A handler of outcomes is run from a session. -/
  | present (handler : OutcomeHandler) (ctx : Context) (outcome : Outcome) (s : Session)

namespace Move

/-- What answers a move: for a run, how the handler ended and the session it left. -/
def Answer : Move → Type
  | .request r => r.Answer
  | .handle .. => Except Failing Outcome × Session
  | .present .. => Except Failing Bool × Session

/-- The requests that a move consists of. -/
def carryOut : (m : Move) → Requests m.Answer
  | .request r => r.put
  | .handle _ handler ctx s => (handler ctx).runFrom s
  | .present handler ctx outcome s => (handler ctx outcome).runFrom s

end Move

/-- Moves with a session at hand, which may fail. -/
abbrev Procedure (α : Type) : Type := ExceptT Failing (StateT Session (Program Move Move.Answer)) α

namespace Procedure

/-- The moves of a procedure from a session, with what the session became. -/
def runFrom {α : Type} (p : Procedure α) (s : Session) :
    Program Move Move.Answer (Except Failing α × Session) := p.run.run s

/-- An act as a procedure, which runs no handler. -/
def ofAct {α : Type} (p : Act α) : Procedure α :=
  ExceptT.mk fun s => (p.runFrom s).translate Move.request fun _ a => a

/-- The run of the handler of a command, with every failure as a value. -/
def handle (command : Command) (handler : Handler) (ctx : Context) :
    Procedure (Except Failing Outcome) :=
  ExceptT.lift fun s => .question (Move.handle command handler ctx s)

/-- The run of a handler of outcomes, with every failure as a value. -/
def present (handler : OutcomeHandler) (ctx : Context) (outcome : Outcome) :
    Procedure (Except Failing Bool) :=
  ExceptT.lift fun s => .question (Move.present handler ctx outcome s)

/-- A record of a finished stage. -/
def record (stage : Stage) (tags : Tags) : Procedure Unit := ofAct (Act.record stage tags)

/-- The procedure carried out. -/
def act {α : Type} (p : Procedure α) : Act α :=
  ExceptT.mk fun s => (p.runFrom s).substitute Move.carryOut

end Procedure

end ChatCommands
