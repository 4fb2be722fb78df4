import ChatCommands.Effect.Platform

set_option autoImplicit false

/-!
# Jobs

A job is a program of requests under way beside others. It runs until it has to wait,
and it is woken at the instants at which it has something to do: a question to put, or
an answer that has come.
-/

namespace ChatCommands

/-- A program of requests under way. -/
inductive Job (α : Type) where
  | ended (value : α)
  /-- Asleep: questions yet to be put with their instants, the instant at which the program goes on,
  and the program. -/
  | asleep (questions : List (Nat × Query)) (wake : Nat) (rest : Requests α)

namespace Job

variable {σ α : Type}

/-- A program that goes on at an instant, until it ends or has to wait. -/
def advance (p : Platform σ) (now : Nat) : Requests α → σ → Job α × σ
  | .done a, s => (.ended a, s)
  | .ask r k, s =>
    let (line, s) := p.respond r s
    let s := p.hearAll (line.questions.filter (·.1 = 0)) s
    if line.length = 0 then advance p now (k line.result) s
    else
      let later := line.questions.filter (·.1 ≠ 0)
      (.asleep (later.map fun (t, q) => (now + t, q)) (now + line.length) (k line.result), s)

/-- A job at an instant: what is due by then is done. -/
def poll (p : Platform σ) (now : Nat) : Job α → σ → Job α × σ
  | .ended a, s => (.ended a, s)
  | .asleep questions wake rest, s =>
    let s := p.hearAll (questions.filter (·.1 ≤ now)) s
    if wake ≤ now then advance p now rest s
    else (.asleep (questions.filter (now < ·.1)) wake rest, s)

/-- The next instant at which the job has something to do. -/
def wake? : Job α → Option Nat
  | .ended _ => none
  | .asleep [] wake _ => some wake
  | .asleep ((t, _) :: _) wake _ => some (min t wake)

/-- The value of a job that has ended. -/
def value? : Job α → Option α
  | .ended a => some a
  | .asleep .. => none

/-- Jobs at an instant, one after the other. -/
def pollAll (p : Platform σ) (now : Nat) : List (Job α) → σ → List (Job α) × σ
  | [], s => ([], s)
  | j :: js, s =>
    let (j, s) := j.poll p now s
    let (js, s) := pollAll p now js s
    (j :: js, s)

end Job

end ChatCommands
