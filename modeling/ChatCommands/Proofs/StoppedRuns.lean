import ChatCommands.Pipeline.Executor
import ChatCommands.Proofs.RetryLaw

set_option autoImplicit false

/-!
# Stopping a run

A stop signals the run and then aborts its task. The run that takes a turn in between hears the
signal and leaves its jobs to themselves; one that takes its next turn later is cancelled, and
its jobs with it. So the events that a run has in flight outlive the stop exactly when the run
takes a turn between the two (`Stopping.jobs_outlive_stop_iff_heard`), in whatever order the
turns of the run and of the jobs come. The stop of an executor leaves no turn in between: nothing
is done about these events any more (`Workplace.stop_freezes`), be their handlers in the middle
of their work (`stop_cuts_off_call`).
-/

namespace ChatCommands

/-- Jobs polled at one instant after the other. -/
def Job.pollTimes {σ α : Type} (p : Platform σ) (instants : List Nat) (jobs : List (Job α))
    (s : σ) : List (Job α) × σ :=
  instants.foldl (fun x now => Job.pollAll p now x.1 x.2) (jobs, s)

/-- A run that is being stopped: how far the stop has come, the run as long as its task lasts, the
jobs that are left to themselves, and what the platform has become. -/
structure Stopping (σ : Type) where
  isSignalled : Bool
  isAborted : Bool
  run? : Option Run
  loose : List EventJob
  state : σ

/-- Whose turn it is. -/
inductive StopTurn where
  | signal
  | abort
  | run (now : Nat)
  | jobs (now : Nat)

namespace StopTurn

/-- The instant at which the jobs take a turn. -/
def jobInstant? : StopTurn → Option Nat
  | .jobs now => some now
  | _ => none

/-- The turn is not one of the stop itself. -/
def IsBeside : StopTurn → Prop
  | .signal => False
  | .abort => False
  | .run _ => True
  | .jobs _ => True

end StopTurn

/-- A run that would hear a signal: it waits neither for its events in flight nor is it over. -/
def Run.IsListening (r : Run) : Prop :=
  (∃ wake feed, r.reception.phase = .listening wake feed) ∨
    ∃ wake, r.reception.phase = .pausing wake

namespace Stopping

variable {σ : Type} (p : Platform σ) (pl : Pipeline)

/-- The turn of a run: cancelled by an abort, told by a signal, or going on as ever. -/
def runTurn (now : Nat) (r : Run) (c : Stopping σ) : Stopping σ :=
  if c.isAborted then { c with run? := none }
  else
    let (r, left) := if c.isSignalled then r.stop now else (r, [])
    let (r, s) := r.poll p pl now c.state
    { c with run? := if r.end?.isSome then none else some r, loose := c.loose ++ left, state := s }

/-- One turn. -/
def turn (c : Stopping σ) : StopTurn → Stopping σ
  | .signal => { c with isSignalled := true }
  | .abort => { c with isAborted := true }
  | .run now =>
    match c.run? with
    | none => c
    | some r => c.runTurn p pl now r
  | .jobs now =>
    match c.run? with
    | none =>
      let (loose, s) := Job.pollAll p now c.loose c.state
      { c with loose := loose, state := s }
    | some r =>
      let (jobs, s) := Job.pollAll p now r.jobs c.state
      { c with run? := some { r with jobs := jobs }, state := s }

/-- Turns in their order. -/
def turns (c : Stopping σ) (ts : List StopTurn) : Stopping σ := ts.foldl (turn p pl) c

variable {c : Stopping σ} {r : Run}

/-- A run that is not told to stop before it is aborted is cancelled, with its jobs. -/
theorem turn_of_aborted (haborted : c.isAborted = true) (hrun : c.run? = some r) (now : Nat) :
    c.turn p pl (.run now) = { c with run? := none } := by
  simp only [turn, hrun, runTurn, haborted, if_true]

/-- A run that hears the signal is over, and its jobs are left to themselves. -/
theorem turn_of_signalled (hsignalled : c.isSignalled = true) (haborted : c.isAborted = false)
    (hrun : c.run? = some r) (hlistening : r.IsListening) (now : Nat) :
    c.turn p pl (.run now) = { c with run? := none, loose := c.loose ++ r.jobs } := by
  have hstop : r.stop now = (r.endedWith now .finished, r.jobs) := by
    rcases hlistening with ⟨wake, feed, hphase⟩ | ⟨wake, hphase⟩
    · simp only [Run.stop, hphase]
    · simp only [Run.stop, hphase]
  have hpoll : (r.endedWith now .finished).poll p pl now c.state =
      (r.endedWith now .finished, c.state) := Run.poll_of_ended rfl [] c.state
  simp only [turn, hrun, runTurn, haborted, hsignalled, hstop, hpoll, Bool.false_eq_true, if_false,
    if_true]
  rfl

/-- Once the run is over, the jobs that are left to themselves are polled, and that is all. -/
theorem turns_of_over (hrun : c.run? = none) (ts : List StopTurn) :
    (turns p pl c ts).run? = none ∧
      ((turns p pl c ts).loose, (turns p pl c ts).state) =
        Job.pollTimes p (ts.filterMap StopTurn.jobInstant?) c.loose c.state := by
  induction ts generalizing c with
  | nil => exact ⟨hrun, rfl⟩
  | cons t ts ih =>
    cases t with
    | signal => exact ih (c := { c with isSignalled := true }) hrun
    | abort => exact ih (c := { c with isAborted := true }) hrun
    | run now =>
      have hsame : c.turn p pl (.run now) = c := by simp only [turn, hrun]
      rw [turns, List.foldl_cons, hsame]
      exact ih hrun
    | jobs now =>
      have hpolled : c.turn p pl (.jobs now) = { c with
          loose := (Job.pollAll p now c.loose c.state).1
          state := (Job.pollAll p now c.loose c.state).2 } := by simp only [turn, hrun]
      rw [turns, List.foldl_cons, hpolled]
      exact ih (c := { c with
        loose := (Job.pollAll p now c.loose c.state).1
        state := (Job.pollAll p now c.loose c.state).2 }) hrun

/-- Turns beside a stop that has signalled the run: if the run takes one of them, its jobs
are left to themselves from then on, and otherwise they stay with it. Either way they are
polled in their turns. -/
theorem turns_of_signalled (hsignalled : c.isSignalled = true) (haborted : c.isAborted = false)
    (hrun : c.run? = some r) (hlistening : r.IsListening) (hloose : c.loose = [])
    {ts : List StopTurn} (hbeside : ∀ t ∈ ts, t.IsBeside) :
    let (jobs, s) := Job.pollTimes p (ts.filterMap StopTurn.jobInstant?) r.jobs c.state
    (turns p pl c ts).state = s ∧
      ((∃ now, .run now ∈ ts) → (turns p pl c ts).run? = none ∧ (turns p pl c ts).loose = jobs) ∧
      ((∀ now, .run now ∉ ts) →
        (turns p pl c ts).run? = some { r with jobs := jobs } ∧ (turns p pl c ts).loose = []) := by
  -- over the turns; until the run takes one, its jobs are polled where they are, so the run changes
  induction ts generalizing c r with
  | nil => exact ⟨rfl, by simp, fun _ => ⟨hrun, hloose⟩⟩
  | cons t ts ih =>
    have hlater : ∀ t ∈ ts, t.IsBeside := fun t ht => hbeside t (List.mem_cons_of_mem _ ht)
    cases t with
    | signal => exact (hbeside _ List.mem_cons_self).elim
    | abort => exact (hbeside _ List.mem_cons_self).elim
    | run now =>
      -- from here on there is no run, and its jobs are loose
      have hheard := turn_of_signalled p pl hsignalled haborted hrun hlistening now
      rw [hloose, List.nil_append] at hheard
      obtain ⟨hover, hpolled⟩ := turns_of_over p pl
        (c := { c with run? := none, loose := r.jobs }) rfl ts
      have hturns : turns p pl c (.run now :: ts) =
          turns p pl { c with run? := none, loose := r.jobs } ts := by
        rw [turns, List.foldl_cons, hheard]
        rfl
      rw [hturns]
      refine ⟨congrArg Prod.snd hpolled, fun _ => ⟨hover, congrArg Prod.fst hpolled⟩,
        fun hnone => ?_⟩
      exact absurd List.mem_cons_self (hnone now)
    | jobs now =>
      have hpolled : c.turn p pl (.jobs now) = { c with
          run? := some { r with jobs := (Job.pollAll p now r.jobs c.state).1 }
          state := (Job.pollAll p now r.jobs c.state).2 } := by simp only [turn, hrun]
      have hrest := ih (c := c.turn p pl (.jobs now))
        (r := { r with jobs := (Job.pollAll p now r.jobs c.state).1 })
        (by rw [hpolled]; exact hsignalled) (by rw [hpolled]; exact haborted) (by rw [hpolled])
        hlistening (by rw [hpolled]; exact hloose) hlater
      have hstate : (c.turn p pl (.jobs now)).state = (Job.pollAll p now r.jobs c.state).2 := by
        rw [hpolled]
      rw [hstate] at hrest
      obtain ⟨hs, hheard, hdeaf⟩ := hrest
      refine ⟨hs, fun ⟨now', hmem⟩ => hheard ⟨now', ?_⟩, fun hnone => hdeaf fun now' hmem => ?_⟩
      · exact (List.mem_cons.1 hmem).resolve_left (by simp)
      · exact hnone now' (List.mem_cons_of_mem _ hmem)

theorem turns_append (c : Stopping σ) (ts us : List StopTurn) :
    turns p pl c (ts ++ us) = turns p pl (turns p pl c ts) us := List.foldl_append

/-- Jobs of nobody are none to poll. -/
theorem pollTimes_nil (p : Platform σ) (instants : List Nat) (s : σ) :
    Job.pollTimes p instants ([] : List EventJob) s = ([], s) := by
  induction instants with
  | nil => rfl
  | cons now instants ih => exact ih

/-- A stop that signals a run and then aborts it, with turns of the run and of its jobs in between.
If the run takes one of them, whatever comes after, its jobs are polled in all their turns, before
the abort and after it, as if there had been no stop. If it takes none, its next turn is its last,
and nothing more is done about the events in flight: whatever comes after, no job is left, and the
platform stays as it is. -/
theorem jobs_outlive_stop_iff_heard (p : Platform σ) (pl : Pipeline) (r : Run)
    (hlistening : r.IsListening) (s : σ) (between : List StopTurn)
    (hbeside : ∀ t ∈ between, t.IsBeside) :
    let stopped := turns p pl ⟨false, false, some r, [], s⟩ (.signal :: between ++ [.abort])
    ((∃ now, .run now ∈ between) → ∀ after,
      let c := turns p pl stopped after
      c.run? = none ∧ (c.loose, c.state) =
        Job.pollTimes p ((between ++ after).filterMap StopTurn.jobInstant?) r.jobs s) ∧
    ((∀ now, .run now ∉ between) → ∀ now after,
      let c := turns p pl stopped (.run now :: after)
      c.run? = none ∧ c.loose = [] ∧ c.state = stopped.state) := by
  intro stopped
  let signalled : Stopping σ := turns p pl ⟨true, false, some r, [], s⟩ between
  have hstopped : stopped = { signalled with isAborted := true } := by
    show turns p pl _ ((.signal :: between) ++ [.abort]) = _
    rw [turns_append]
    rfl
  obtain ⟨hstate, hheard, hdeaf⟩ := turns_of_signalled p pl
    (c := ⟨true, false, some r, [], s⟩) (r := r) rfl rfl rfl hlistening rfl hbeside
  constructor
  · intro hturn after
    obtain ⟨hrun, hloose⟩ := hheard hturn
    have hover : stopped.run? = none := by rw [hstopped]; exact hrun
    obtain ⟨hgone, hpolled⟩ := turns_of_over p pl hover after
    refine ⟨hgone, hpolled.trans ?_⟩
    -- the jobs have been polled up to the abort, and go on from there
    have hjobs : (stopped.loose, stopped.state) =
        Job.pollTimes p (between.filterMap StopTurn.jobInstant?) r.jobs s := by
      rw [hstopped]
      exact Prod.ext hloose hstate
    rw [List.filterMap_append, Job.pollTimes, Job.pollTimes, List.foldl_append, hjobs]
    rfl
  · intro hnone now after
    obtain ⟨hrun, hloose⟩ := hdeaf hnone
    -- the run is there still, with its jobs, and its next turn finds it aborted
    have hcancelled : stopped.turn p pl (.run now) = { stopped with run? := none } := by
      refine turn_of_aborted p pl (by rw [hstopped]) (by rw [hstopped]; exact hrun) now
    obtain ⟨hgone, hpolled⟩ := turns_of_over p pl
      (c := { stopped with run? := none }) rfl after
    have hnobody : stopped.loose = [] := by rw [hstopped]; exact hloose
    have hidle :
        Job.pollTimes p (after.filterMap StopTurn.jobInstant?) stopped.loose stopped.state =
          ([], stopped.state) := by rw [hnobody, pollTimes_nil]
    have hturns : turns p pl stopped (.run now :: after) =
        turns p pl { stopped with run? := none } after := by
      rw [turns, List.foldl_cons, hcancelled]
      rfl
    rw [hturns]
    exact ⟨hgone, Prod.ext_iff.1 (hpolled.trans hidle)⟩

/-- A run that listens, with one job that sleeps for five seconds. -/
def sleepingRun : Run :=
  ⟨.start ⟨5, 1, 60⟩ 0 0 [], [.asleep [] 5000 (.done (.ok (.ok (.ignored .notCommand))))]⟩

/-- A turn of the run between the signal and the abort leaves the job to itself, so that it ends;
without one it is gone. -/
theorem sleeper_outlives_stop_if_heard :
    let console := Directory.unavailable.console false
    let stopped := fun between =>
      turns console lockPipeline ⟨false, false, some sleepingRun, [], {}⟩
        (.signal :: between ++ [.abort])
    (((turns console lockPipeline (stopped [.run 1]) [.jobs 5000]).loose.map (·.value?.isSome)) =
      [true]) ∧
    (turns console lockPipeline (stopped [.jobs 1]) [.run 2, .jobs 5000]).loose = [] := by
  intro console stopped
  have hlistening : sleepingRun.IsListening := Or.inl ⟨0, .silent, rfl⟩
  obtain ⟨hheard, -⟩ := jobs_outlive_stop_iff_heard console lockPipeline sleepingRun hlistening {}
    [.run 1] (by simp [StopTurn.IsBeside])
  obtain ⟨-, hdeaf⟩ := jobs_outlive_stop_iff_heard console lockPipeline sleepingRun hlistening {}
    [.jobs 1] (by simp [StopTurn.IsBeside])
  constructor
  · obtain ⟨-, hpolled⟩ := hheard ⟨1, by simp⟩ [.jobs 5000]
    rw [show (turns console lockPipeline (stopped [.run 1]) [.jobs 5000]).loose = _ from
      congrArg Prod.fst hpolled]
    rfl
  · exact (hdeaf (by simp) 2 [.jobs 5000]).2.1

end Stopping

/-! ## The stop of an executor -/

namespace Workplace

variable {σ : Type} {p : Platform σ} {pl : Pipeline}

/-- What may happen at a workplace without a new run: time passes, items are written to the newest
channel, it is closed, and callers stop the run or wait for it. -/
inductive Lasts (p : Platform σ) (pl : Pipeline) : Workplace σ → Workplace σ → Prop where
  | advance (w : Workplace σ) (horizon : Nat) : Lasts p pl w (w.advance p pl horizon)
  | push (w : Workplace σ) (item : FeedItem) : Lasts p pl w (w.push item).2
  | close (w : Workplace σ) : Lasts p pl w w.close.2
  | stop (w : Workplace σ) : Lasts p pl w w.stop.2
  | wait (w : Workplace σ) (horizon : Nat) : Lasts p pl w (w.wait p pl horizon).2

theorem Lasts.of_unregistered {w w' : Workplace σ} (h : Lasts p pl w w')
    (hnone : w.executor.registered = none) :
    w'.executor.registered = none ∧ w'.state = w.state := by
  have hkept : ∀ f, (w.changeFeed f).executor.registered = none := fun f => by
    simp only [changeFeed, Executor.proceed, hnone, Option.map_none]
  cases h with
  | advance horizon =>
    simp only [Workplace.advance, hnone]
    exact ⟨trivial, trivial⟩
  | push item => exact ⟨hkept _, rfl⟩
  | close => exact ⟨hkept _, rfl⟩
  | stop => exact ⟨rfl, rfl⟩
  | wait horizon =>
    have hbegin : w.executor.beginWait = none := by rw [Executor.beginWait, hnone]; rfl
    simp only [Workplace.wait, hbegin]
    exact ⟨hnone, trivial⟩

/-- After a stop the platform stays as it is until a new run is started: whatever the stopped run
had under way, nothing of it is done. -/
theorem stop_freezes {w w' : Workplace σ}
    (h : Relation.ReflTransGen (Lasts p pl) w.stop.2 w') : w'.state = w.state := by
  have hkept : w'.executor.registered = none ∧ w'.state = w.state := by
    induction h with
    | refl => exact ⟨rfl, rfl⟩
    | tail _ hlasts ih =>
      obtain ⟨hnone, hstate⟩ := hlasts.of_unregistered ih.1
      exact ⟨hnone, hstate.trans ih.2⟩
  exact hkept.2

end Workplace

/-- A platform whose directory fails after five seconds. -/
def slowlyFailing : Platform Output :=
  let console := Directory.unavailable.console false
  { console with answer := fun q => (5000, (console.answer q).2) }

/-- A call has just been taken from the source, and waits for the directory. -/
def callUnderWay : Workplace Output :=
  (((Workplace.opening {}).start lockPipeline).2.push (.event lockEvent)).2.advance slowlyFailing
    lockPipeline 1

/-- A stop cuts off an event in flight. The run is live, and left to itself its job would write the
answer to the call within six seconds; after a stop it never comes. -/
theorem stop_cuts_off_call : ∃ r, callUnderWay.executor.registered = some r ∧ r.isLive = true ∧
    (Job.finishAll slowlyFailing callUnderWay.now 6000 r.run.jobs
      callUnderWay.state).written.length = 1 ∧
    ∀ w, Relation.ReflTransGen (Workplace.Lasts slowlyFailing lockPipeline) callUnderWay.stop.2 w →
      w.state.written.length = 0 := by
  have hlater : callUnderWay.executor.registered.any (fun r => r.isLive &&
      (Job.finishAll slowlyFailing callUnderWay.now 6000 r.run.jobs
        callUnderWay.state).written.length == 1) = true := by decide +kernel
  have hbefore : callUnderWay.state.written.length = 0 := by decide +kernel
  obtain ⟨r, hr, hwritten⟩ := (Option.any_eq_true _ _).1 hlater
  rw [Bool.and_eq_true, beq_iff_eq] at hwritten
  obtain ⟨hlive, hwritten⟩ := hwritten
  refine ⟨r, hr, hlive, hwritten, fun w hlasts => ?_⟩
  rw [Workplace.stop_freezes hlasts, hbefore]

end ChatCommands
