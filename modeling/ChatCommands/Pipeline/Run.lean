import ChatCommands.Pipeline.Reception
import ChatCommands.Effect.Job

set_option autoImplicit false

/-!
# Runs

A run receives events and processes each of them as a job of its own. At every instant reception
goes first, then the jobs in the order in which they began, then the jobs that have ended are
settled: a violated match ends the run, all else leaves it alone. A run that ends by an error drops
its jobs; one that is told to stop leaves them to themselves.
-/

namespace ChatCommands

/-- The job of one event. -/
abbrev EventJob : Type := Job (Except Failing (Except MatchViolation Ending))

/-- The job's event violated a full match. -/
def EventJob.violation? (j : EventJob) : Option MatchViolation :=
  match j.value? with
  | some (.ok (.error v)) => some v
  | _ => none

/-- A run under way. -/
structure Run where
  reception : Reception
  jobs : List EventJob

namespace Run

variable {σ : Type}

/-- A run that begins at an instant, after a number of earlier subscriptions. -/
def start (s : RetrySettings) (now earlier : Nat) (feeds : List Feed) : Run :=
  ⟨.start s now earlier feeds, []⟩

/-- The instant and the result of a run that has ended. -/
def end? (r : Run) : Option (Nat × RunEnd) :=
  match r.reception.phase with
  | .ended instant result => some (instant, result)
  | _ => none

/-- The run ended at an instant, without its jobs. -/
def endedWith (now : Nat) (result : RunEnd) (r : Run) : Run :=
  ⟨{ r.reception with phase := .ended now result }, []⟩

/-- The jobs that have ended are settled. -/
def settle (now : Nat) (r : Run) : Run :=
  match r.jobs.findSome? EventJob.violation? with
  | some v => r.endedWith now (.matchViolation v)
  | none =>
    let jobs := r.jobs.filter fun j => j.value?.isNone
    match r.reception.phase with
    | .draining => if jobs.isEmpty then r.endedWith now .finished else { r with jobs := jobs }
    | _ => { r with jobs := jobs }

/-- A run at an instant. -/
def poll (p : Platform σ) (pipeline : Pipeline) (now : Nat) (r : Run) (s : σ) : Run × σ :=
  let (events, reception) := r.reception.poll pipeline.settings.retry now
  match reception.phase with
  | .ended .. => (⟨reception, []⟩, s)
  | _ =>
    let begun := (events.filter (·.isInteresting)).map fun e =>
      Job.asleep [] now (pipeline.process e)
    let (jobs, s) := Job.pollAll p now (r.jobs ++ begun) s
    (settle now ⟨reception, jobs⟩, s)

/-- The next instant at which the run has something to do. -/
def wake? (r : Run) : Option Nat :=
  r.jobs.foldl (fun w j => w.merge min j.wake?) r.reception.phase.wake?

/-- A run from one instant up to another, that one included. -/
def advance (p : Platform σ) (pipeline : Pipeline) (now horizon : Nat) (r : Run) (s : σ) :
    Run × σ :=
  let (r, s) := r.poll p pipeline now s
  match r.wake? with
  | none => (r, s)
  | some wake =>
    if now < wake ∧ wake ≤ horizon then r.advance p pipeline wake horizon s else (r, s)
termination_by horizon - now

/-- A run told to stop, with the jobs left to themselves. A run that waits for its events in flight
does not listen. -/
def stop (now : Nat) (r : Run) : Run × List EventJob :=
  match r.reception.phase with
  | .listening .. => (r.endedWith now .finished, r.jobs)
  | .pausing _ => (r.endedWith now .finished, r.jobs)
  | _ => (r, [])

end Run

/-- Jobs left to themselves from one instant up to another, that one included. -/
def Job.finishAll {σ α : Type} (p : Platform σ) (now horizon : Nat) (jobs : List (Job α)) (s : σ) :
    σ :=
  let (jobs, s) := Job.pollAll p now jobs s
  match jobs.foldl (fun w j => w.merge min j.wake?) none with
  | none => s
  | some wake =>
    if now < wake ∧ wake ≤ horizon then Job.finishAll p wake horizon jobs s else s
termination_by horizon - now

/-- What became of a run: how it ended unless it was given up, when, how often it subscribed, the
state of the platform at its end, and a minute later. -/
structure RunReport (σ : Type) where
  result : Option RunEnd
  elapsed : Nat
  subscriptions : Nat
  atEnd : σ
  minuteLater : σ

/-- Runs a pipeline on the feeds of its subscriptions. It is told to stop at an instant when one is
given, and given up at a deadline. -/
def Pipeline.run {σ : Type} (pipeline : Pipeline) (p : Platform σ) (feeds : List Feed)
    (stopAt : Option Nat) (deadline : Nat) (s : σ) : RunReport σ :=
  let first := (stopAt.map (· - 1)).getD deadline
  let (r, s) :=
    (Run.start pipeline.settings.retry 0 0 feeds).advance p pipeline 0 (min first deadline) s
  match r.end?, stopAt.filter (· ≤ deadline) with
  | some (instant, result), _ => ⟨some result, instant, r.reception.subscriptions, s, s⟩
  | none, none => ⟨none, deadline, r.reception.subscriptions, s, s⟩
  | none, some instant =>
    let (r, left) := r.stop instant
    let (r, s) := r.advance p pipeline instant deadline s
    match r.end? with
    | some (ended, result) =>
      ⟨some result, ended, r.reception.subscriptions, s,
        Job.finishAll p instant (instant + 60000) left s⟩
    | none => ⟨none, deadline, r.reception.subscriptions, s, s⟩

end ChatCommands
