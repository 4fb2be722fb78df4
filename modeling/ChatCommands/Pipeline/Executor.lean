import ChatCommands.Pipeline.Run

set_option autoImplicit false

/-!
# Executors

An executor keeps at most one run at a time: it starts one, stops it, and lets callers wait for its
end. Each operation is one step on what is registered; waiting takes two, between which anything can
happen. A run is known by its generation, so that a caller who waits takes away no later run.
-/

namespace ChatCommands

/-- A run with its generation. -/
structure Registered where
  generation : Nat
  run : Run

/-- The run is still under way. -/
def Registered.isLive (r : Registered) : Bool := r.run.end?.isNone

/-- What is registered, and the generation of the next run. -/
structure Executor where
  registered : Option Registered
  next : Nat

namespace Executor

/-- The executor before its first run. -/
def idle : Executor := ⟨none, 0⟩

/-- A run is under way. -/
def isRunning (e : Executor) : Bool := e.registered.any (·.isLive)

/-- A run is registered, unless one is under way. -/
def start (run : Run) (e : Executor) : Bool × Executor :=
  if e.isRunning then (false, e) else (true, ⟨some ⟨e.next, run⟩, e.next + 1⟩)

/-- What is registered is taken away; a run under way ends without having finished. -/
def stop (e : Executor) : Bool × Executor := (e.isRunning, { e with registered := none })

/-- The run that a wait is for; without one there is nothing to wait for. -/
def beginWait (e : Executor) : Option Nat := e.registered.map (·.generation)

/-- What a wait reports once its run is over: the result of that run if it is still
registered, which it is no longer then. A run that was taken away meanwhile counts as
finished, and so does one that broke off. -/
def endWait (generation : Nat) (e : Executor) : RunEnd × Executor :=
  match e.registered with
  | none => (.finished, e)
  | some r =>
    if r.generation = generation then
      match r.run.end? with
      | some (_, .broken) => (.finished, { e with registered := none })
      | some (_, result) => (result, { e with registered := none })
      | none => (.finished, { e with registered := none })
    else (.finished, e)

/-- The registered run goes on. -/
def proceed (f : Run → Run) (e : Executor) : Executor :=
  { e with registered := e.registered.map fun r => { r with run := f r.run } }

end Executor

/-- An executor at work: the time, what the platform has become, and the channels that feed its
subscriptions. Each subscription opens a channel; channels are known by the number of their
subscription, and those that can still be written to are listed, newest first. -/
structure Workplace (σ : Type) where
  now : Nat
  state : σ
  executor : Executor
  subscriptions : Nat
  channels : List Nat

/-- The run with its feed changed, if it listens to a channel. -/
def Run.changeFeed (channel : Option Nat) (f : Feed → Feed) (r : Run) : Run :=
  if channel = some r.reception.subscriptions then
    match r.reception.phase with
    | .listening wake feed =>
      { r with reception := { r.reception with phase := .listening wake (f feed) } }
    | _ => r
  else r

namespace Workplace

variable {σ : Type}

/-- The workplace before the first run. -/
def opening (s : σ) : Workplace σ := ⟨0, s, .idle, 0, []⟩

/-- The channels after subscriptions up to a number. -/
def subscribed (count : Nat) (w : Workplace σ) : Workplace σ :=
  let opened := (List.range (count - w.subscriptions)).map (w.subscriptions + 1 + ·)
  { w with subscriptions := max w.subscriptions count, channels := opened.reverse ++ w.channels }

/-- Everything that happens up to an instant, that one included. -/
def advance (p : Platform σ) (pipeline : Pipeline) (horizon : Nat) (w : Workplace σ) :
    Workplace σ :=
  match w.executor.registered with
  | none => { w with now := horizon }
  | some r =>
    let (run, s) := r.run.advance p pipeline w.now horizon w.state
    ({ w with now := horizon, state := s, executor := w.executor.proceed fun _ => run }).subscribed
      run.reception.subscriptions

/-- A run is started, unless one is under way. -/
def start (pipeline : Pipeline) (w : Workplace σ) : Bool × Workplace σ :=
  let run := Run.start pipeline.settings.retry w.now w.subscriptions []
  let (started, executor) := w.executor.start run
  let w := { w with executor := executor }
  (started, if started then w.subscribed run.reception.subscriptions else w)

/-- The run is stopped; its jobs go with it. -/
def stop (w : Workplace σ) : Bool × Workplace σ :=
  let (stopped, executor) := w.executor.stop
  (stopped, { w with executor := executor })

/-- The run with its feed changed, if it listens to the newest channel. -/
def changeFeed (f : Feed → Feed) (w : Workplace σ) : Workplace σ :=
  { w with executor := w.executor.proceed (Run.changeFeed w.channels.head? f) }

/-- What a channel delivers of an item. It carries events and faults; an item that is neither breaks
the subscription off. -/
def carried : FeedItem → FeedItem
  | .event e => .event e
  | .fault f => .fault f
  | .wait _ => .breakdown
  | .breakdown => .breakdown

/-- Someone holds the receiving end of the newest channel. -/
def isReceived (w : Workplace σ) : Bool :=
  w.executor.registered.any fun r =>
    r.isLive && w.channels.head? == some r.run.reception.subscriptions

/-- An item is written to the newest channel; it is lost during a pause. -/
def push (item : FeedItem) (w : Workplace σ) : Bool × Workplace σ :=
  (w.isReceived, w.changeFeed (·.push (carried item)))

/-- The newest channel is closed. -/
def close (w : Workplace σ) : Bool × Workplace σ :=
  (!w.channels.isEmpty, { w.changeFeed (·.close) with channels := w.channels.tail })

/-- Waits for the end of the run, at most up to an instant: what the wait reports, if it ends. -/
def wait (p : Platform σ) (pipeline : Pipeline) (horizon : Nat) (w : Workplace σ) :
    Option RunEnd × Workplace σ :=
  match w.executor.beginWait with
  | none => (some .finished, w)
  | some generation =>
    let began := w.now
    let w := w.advance p pipeline horizon
    match w.executor.registered.bind (·.run.end?) with
    | none => (none, w)
    | some (ended, _) =>
      let (result, executor) := w.executor.endWait generation
      (some result, { w with now := max began ended, executor := executor })

/-- The run is stopped and, if it was under way and another one is wanted, started again. -/
def stopAndStart (pipeline : Pipeline) (restart : Bool) (w : Workplace σ) :
    (Bool × Bool) × Workplace σ :=
  let (stopped, w) := w.stop
  if restart && stopped then
    let (restarted, w) := w.start pipeline
    ((stopped, restarted), w)
  else ((stopped, false), w)

/-- Someone waits while, some milliseconds later, someone else stops the run and possibly
starts another one: what the wait reports, and whether the run was stopped and started. A
run that ends at the instant of the stop does so first, and the wait, which is woken by that
end alone, goes on last. -/
def waitBeside (p : Platform σ) (pipeline : Pipeline) (ms : Nat) (restart : Bool)
    (w : Workplace σ) : RunEnd × (Bool × Bool) × Workplace σ :=
  let generation := w.executor.beginWait
  let later := w.now + ms
  let (reported, w) := w.wait p pipeline (w.now + (ms - 1))
  let (stopped, w) := (w.advance p pipeline later).stopAndStart pipeline restart
  match reported with
  | some result => (result, stopped, w)
  | none =>
    let (result, executor) := w.executor.endWait (generation.getD 0)
    (result, stopped, { w with executor := executor })

end Workplace

end ChatCommands
