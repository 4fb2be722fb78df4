import ChatCommands.Proofs.ExecutorHistories
import ChatCommands.Proofs.ReceptionCourse

set_option autoImplicit false

/-!
# Workplaces as shared executors

Whatever is done at a workplace is done to its executor by callers who take their turns: each
operation is a number of turns (`Workplace.Does.exists_turns`), so every workplace that
operations lead to has the executor of some history (`Workplace.exists_reachable`), and what all
histories keep holds of it.
-/

namespace ChatCommands

open Relation (ReflTransGen)

/-! ## Runs that have ended -/

/-- A run that has ended has no jobs. -/
def Run.IsTidy (r : Run) : Prop := r.result? = none ∨ r.jobs = []

namespace Run

variable {σ : Type} {p : Platform σ} {pl : Pipeline} {r : Run} {now : Nat}

/-- A run has a result iff its reception has ended. -/
theorem result?_eq_none_iff :
    r.result? = none ↔ ∀ instant result, r.reception.phase ≠ .ended instant result := by
  rw [Run.result?, Option.map_eq_none_iff, end?]
  cases r.reception.phase <;> simp

theorem isTidy_settle (hgoing : ∀ instant result, r.reception.phase ≠ .ended instant result) :
    (r.settle now).IsTidy := by
  rw [settle]
  split
  · exact Or.inr rfl
  · dsimp only
    split
    · split
      · exact Or.inr rfl
      · exact Or.inl (result?_eq_none_iff.2 hgoing)
    · exact Or.inl (result?_eq_none_iff.2 hgoing)

theorem isTidy_poll (p : Platform σ) (pl : Pipeline) (now : Nat) (r : Run) (s : σ) :
    (r.poll p pl now s).1.IsTidy := by
  rw [poll]
  dsimp only
  split
  · exact Or.inr rfl
  · rename_i hgoing
    exact isTidy_settle hgoing

theorem isTidy_advance (p : Platform σ) (pl : Pipeline) (now horizon : Nat) (r : Run) (s : σ) :
    (r.advance p pl now horizon s).1.IsTidy := by
  -- over the time that is left: each round begins at a later instant
  induction hleft : horizon - now using Nat.strong_induction_on generalizing now r s with
  | _ left ih =>
    rw [advance]
    dsimp only
    split
    · exact isTidy_poll p pl now r s
    · split
      · exact ih _ (by omega) _ _ _ rfl
      · exact isTidy_poll p pl now r s

/-- A run that has ended stays as it is. -/
theorem advance_of_result? {result : RunEnd} (hresult : r.result? = some result) (htidy : r.IsTidy)
    (now horizon : Nat) (s : σ) : (r.advance p pl now horizon s).1 = r := by
  obtain ⟨reception, jobs⟩ := r
  obtain rfl : jobs = [] := htidy.resolve_left (by rw [hresult]; simp)
  have hphase : ∃ instant, reception.phase = .ended instant result := by
    rw [Run.result?, end?] at hresult
    cases h : reception.phase with
    | ended instant result' =>
      simp only [h] at hresult
      obtain rfl := Option.some.inj hresult
      exact ⟨instant, rfl⟩
    | listening | pausing | draining => simp [h] at hresult
  obtain ⟨instant, hphase⟩ := hphase
  have hupTo : Moment.upTo p pl ⟨now, ⟨reception, []⟩, s⟩ horizon = (⟨reception, []⟩, s) :=
    Moment.upTo_of_ended hphase [] s horizon
  exact congrArg Prod.fst hupTo

/-- Nothing is taken by a run that is over. -/
theorem changeFeed_of_over {channel : Option Nat} {f : Feed → Feed} (h : r.result? ≠ none) :
    r.changeFeed channel f = r := by
  rw [changeFeed]
  split
  · split
    · rename_i hphase
      exact absurd (result?_eq_none_iff.2 (by simp [hphase])) h
    · rfl
  · rfl

theorem IsTidy.changeFeed (h : r.IsTidy) (channel : Option Nat) (f : Feed → Feed) :
    (r.changeFeed channel f).IsTidy := by
  rw [Run.changeFeed]
  split
  · split
    · exact Or.inl rfl
    · exact h
  · exact h

end Run

/-! ## Operations as turns -/

namespace Executor

variable {x : Executor} {r : Registered}

theorem proceed_of_none (h : x.registered = none) (f : Run → Run) : x.proceed f = x := by
  rw [proceed, h, Option.map_none, ← h]

theorem proceed_of_some (h : x.registered = some r) (f : Run → Run) :
    x.proceed f = { x with registered := some ⟨r.generation, f r.run⟩ } := by
  rw [proceed, h]
  rfl

end Executor

namespace SharedExecutor

variable {c c' : SharedExecutor}

/-- Turns in any number and order. -/
abbrev Turns : SharedExecutor → SharedExecutor → Prop := ReflTransGen Step

/-- Any number of turns keeps the executor and the past in agreement. -/
theorem Turns.agrees (hturns : Turns c c') (h : c.Agrees) : c'.Agrees := by
  induction hturns with
  | refl => exact h
  | tail _ hstep ih => exact hstep.agrees ih

/-- The registered run goes on if it is live; a run that is over stays as it is. -/
theorem Agrees.exists_turns_proceed (h : c.Agrees) {f : Run → Run}
    (hover : ∀ r, c.executor.registered = some r → r.run.result? ≠ none → f r.run = r.run) :
    ∃ c', Turns c c' ∧ c'.executor = c.executor.proceed f ∧ c'.waiting = c.waiting := by
  cases hr : c.executor.registered with
  | none => exact ⟨c, .refl, (Executor.proceed_of_none hr f).symm, rfl⟩
  | some r =>
    by_cases hresult : r.run.result? = none
    · have hlive := (h.isLive_iff hr).2 hresult
      refine ⟨c.goOn r.generation (f r.run), .single (.goOn c _ hlive), ?_, rfl⟩
      rw [h.goOn_of_live _ hlive, Executor.proceed_of_some hr]
    · refine ⟨c, .refl, ?_, rfl⟩
      rw [Executor.proceed_of_some hr, hover r hr hresult, ← hr]

end SharedExecutor

namespace Workplace

open SharedExecutor (Turns)

variable {σ : Type} {p : Platform σ} {pl : Pipeline} {w : Workplace σ} {c : SharedExecutor}

/-- The workplace has the executor that callers share. -/
structure Shares (c : SharedExecutor) (w : Workplace σ) : Prop where
  agrees : c.Agrees
  executor : c.executor = w.executor
  tidy : ∀ r, w.executor.registered = some r → r.run.IsTidy

theorem executor_advance (w : Workplace σ) (horizon : Nat) : (w.advance p pl horizon).executor =
    w.executor.proceed fun run => (run.advance p pl w.now horizon w.state).1 := by
  cases hr : w.executor.registered with
  | none => rw [Executor.proceed_of_none hr, advance, hr]
  | some r =>
    rw [Executor.proceed_of_some hr, advance, hr]
    exact Executor.proceed_of_some hr fun _ => (r.run.advance p pl w.now horizon w.state).1

/-- Time passes for a registered run by turns in which it goes on; no wait begins or ends. -/
theorem Shares.advance (h : Shares c w) (horizon : Nat) :
    ∃ c', Turns c c' ∧ Shares c' (w.advance p pl horizon) ∧ c'.waiting = c.waiting := by
  obtain ⟨c', hturns, hexecutor, hwaiting⟩ := h.agrees.exists_turns_proceed
    (f := fun run => (run.advance p pl w.now horizon w.state).1) (by
      intro r hr hover
      obtain ⟨result, hresult⟩ := Option.ne_none_iff_exists'.1 hover
      rw [h.executor] at hr
      exact Run.advance_of_result? hresult (h.tidy r hr) _ _ _)
  refine ⟨c', hturns, ⟨hturns.agrees h.agrees, ?_, ?_⟩, hwaiting⟩
  · rw [hexecutor, executor_advance, h.executor]
  · intro r hr
    rw [executor_advance, Executor.proceed, Option.map_eq_some_iff] at hr
    obtain ⟨r', -, rfl⟩ := hr
    exact Run.isTidy_advance p pl _ _ _ _

theorem Shares.changeFeed (h : Shares c w) (f : Feed → Feed) :
    ∃ c', Turns c c' ∧ Shares c' (w.changeFeed f) := by
  obtain ⟨c', hturns, hexecutor, -⟩ := h.agrees.exists_turns_proceed
    (f := Run.changeFeed w.channels.head? f) fun r _ => Run.changeFeed_of_over
  refine ⟨c', hturns, ⟨hturns.agrees h.agrees, by rw [hexecutor, h.executor]; rfl, ?_⟩⟩
  intro r hr
  obtain ⟨r', hr', rfl⟩ := Option.map_eq_some_iff.1 hr
  exact (h.tidy r' hr').changeFeed _ f

theorem executor_start (w : Workplace σ) : (w.start pl).2.executor =
    (w.executor.start (.start pl.settings.retry w.now w.subscriptions [])).2 := by
  rw [start]
  dsimp only
  split <;> rfl

/-- The run that a start at a workplace asks for. -/
def nextRun (pl : Pipeline) (w : Workplace σ) : Run :=
  .start pl.settings.retry w.now w.subscriptions []

theorem Shares.start (h : Shares c w) : Shares (c.start (w.nextRun pl)).2 (w.start pl).2 := by
  have hfresh : (w.nextRun pl).result? = none := rfl
  refine ⟨h.agrees.start hfresh, ?_, ?_⟩
  · rw [SharedExecutor.start, executor_start, h.executor]
    rfl
  · intro r hr
    rw [executor_start, Executor.start] at hr
    split at hr
    · exact h.tidy r hr
    · obtain rfl := Option.some.inj hr
      exact Or.inl hfresh

theorem Shares.stop (h : Shares c w) : Shares c.stop.2 w.stop.2 := by
  refine ⟨h.agrees.stop, ?_, fun r hr => by cases hr⟩
  rw [SharedExecutor.stop, Workplace.stop, h.executor]

/-- To close the channel is to change what feeds the run. -/
theorem Shares.close (h : Shares c w) : ∃ c', Turns c c' ∧ Shares c' w.close.2 := by
  obtain ⟨c', hturns, hshares⟩ := h.changeFeed Feed.close
  exact ⟨c', hturns, ⟨hshares.agrees, hshares.executor, hshares.tidy⟩⟩

/-- The second half of a wait, at an instant. -/
theorem Shares.endWait (h : Shares c w) {g : Nat} (hwaiting : g ∈ c.waiting) (hover : ¬ c.IsLive g)
    (now : Nat) : Shares (c.endWait g).2
      { w with now := now, executor := (w.executor.endWait g).2 } := by
  refine ⟨h.agrees.endWait hwaiting hover, ?_, ?_⟩
  · rw [SharedExecutor.endWait, h.executor]
  · intro r hr
    rw [Executor.endWait_snd] at hr
    exact h.tidy r (Option.mem_filter_iff.1 hr).1

theorem beginWait_advance (w : Workplace σ) (horizon : Nat) :
    (w.advance p pl horizon).executor.beginWait = w.executor.beginWait := by
  rw [executor_advance, Executor.beginWait, Executor.beginWait, Executor.proceed, Option.map_map]
  rfl

/-- A wait that ends, or that goes on beyond the horizon. -/
theorem Shares.wait (h : Shares c w) (horizon : Nat) :
    ∃ c', Turns c c' ∧ Shares c' (w.wait p pl horizon).2 ∧
      ((w.wait p pl horizon).1 = none → ∃ g, w.executor.beginWait = some g ∧ g ∈ c'.waiting) := by
  cases hbegin : w.executor.beginWait with
  | none =>
    have hwait : w.wait p pl horizon = (some .finished, w) := by rw [Workplace.wait, hbegin]
    rw [hwait]
    exact ⟨c, .refl, h, fun hnone => by cases hnone⟩
  | some g =>
    have hshares : Shares c.beginWait w := ⟨h.agrees.beginWait, h.executor, h.tidy⟩
    -- the wait begins before any time passes, and the run goes on while it waits
    have hturn := SharedExecutor.Step.beginWait c
    obtain ⟨c', hturns, hadvanced, hwaiting⟩ := hshares.advance (p := p) horizon
    have hmem : g ∈ c'.waiting := by
      rw [hwaiting, SharedExecutor.beginWait, h.executor, hbegin]
      exact List.mem_cons_self
    have hheld : (w.advance p pl horizon).executor.beginWait = some g := by
      rw [beginWait_advance, hbegin]
    rw [Workplace.wait, hbegin]
    dsimp only
    split
    · exact ⟨c', hturns.head hturn, hadvanced, fun _ => ⟨g, rfl, hmem⟩⟩
    · rename_i ended result hended
      obtain ⟨r, hr, hrended⟩ := Option.bind_eq_some_iff.1 hended
      obtain rfl : r.generation = g := by
        rw [Executor.beginWait, hr] at hheld
        exact Option.some.inj hheld
      have hover : ¬ c'.IsLive r.generation := by
        rw [hadvanced.agrees.isLive_iff (by rw [hadvanced.executor, hr]), Run.result?, hrended]
        simp
      exact ⟨_, (hturns.head hturn).tail (.endWait c' hmem hover),
        hadvanced.endWait hmem hover _, fun hnone => by cases hnone⟩

/-- The turns of a caller who stops the run and may start another one leave the waits as they are,
and no run live for which someone waited. -/
theorem Shares.stopAndStart (h : Shares c w) (restart : Bool) :
    ∃ c', Turns c c' ∧ Shares c' (w.stopAndStart pl restart).2 ∧ c'.waiting = c.waiting ∧
      ∀ g ∈ c.waiting, ¬ c'.IsLive g := by
  rw [Workplace.stopAndStart]
  dsimp only
  split
  · refine ⟨_, (ReflTransGen.single (.stop c)).tail (.start c.stop.2 rfl), h.stop.start, rfl, ?_⟩
    intro g hwaiting hlive
    -- the run that is live is the new one
    have hbefore : g < c.stop.2.executor.next := h.agrees.stop.waiting g hwaiting
    have hheld := h.stop.start.agrees.live g hlive
    rw [SharedExecutor.Agrees.start_of_idle rfl] at hheld
    obtain rfl := Option.some.inj hheld
    exact Nat.lt_irrefl _ hbefore
  · exact ⟨_, .single (.stop c), h.stop, rfl, fun g _ => h.agrees.not_isLive_stop g⟩

/-- A wait with a stop beside it is a course of turns. -/
theorem Shares.waitBeside (h : Shares c w) (ms : Nat) (restart : Bool) :
    ∃ c', Turns c c' ∧ Shares c' (w.waitBeside p pl ms restart).2.2 := by
  obtain ⟨c₁, hwaits, hwaited, hlater⟩ := h.wait (p := p) (w.now + (ms - 1))
  obtain ⟨c₂, hadvances, hadvanced, hsame⟩ := hwaited.advance (p := p) (w.now + ms)
  obtain ⟨c₃, hstops, hstopped, hkept, hover⟩ := hadvanced.stopAndStart restart
  have hturns := (hwaits.trans hadvances).trans hstops
  rw [Workplace.waitBeside]
  dsimp only
  split
  · exact ⟨c₃, hturns, hstopped⟩
  -- the run was live until the stop, and the second half of the wait comes after it
  · rename_i hnone
    obtain ⟨g, hbegin, hwaiting⟩ := hlater hnone
    rw [← hsame] at hwaiting
    have hmem : g ∈ c₃.waiting := by rwa [hkept]
    rw [hbegin]
    exact ⟨_, hturns.tail (.endWait c₃ hmem (hover g hwaiting)),
      hstopped.endWait hmem (hover g hwaiting) _⟩

/-! ## Workplaces that operations lead to -/

/-- One operation at a workplace. -/
inductive Does (p : Platform σ) (pl : Pipeline) : Workplace σ → Workplace σ → Prop where
  | advance (w : Workplace σ) (horizon : Nat) : Does p pl w (w.advance p pl horizon)
  | start (w : Workplace σ) : Does p pl w (w.start pl).2
  | stop (w : Workplace σ) : Does p pl w w.stop.2
  | push (w : Workplace σ) (item : FeedItem) : Does p pl w (w.push item).2
  | close (w : Workplace σ) : Does p pl w w.close.2
  | wait (w : Workplace σ) (horizon : Nat) : Does p pl w (w.wait p pl horizon).2
  | waitBeside (w : Workplace σ) (ms : Nat) (restart : Bool) :
      Does p pl w (w.waitBeside p pl ms restart).2.2

/-- Whatever is done at the workplace, the shared executor can do by turns. -/
theorem Does.exists_turns {w w' : Workplace σ} (hdoes : Does p pl w w') (h : Shares c w) :
    ∃ c', Turns c c' ∧ Shares c' w' := by
  cases hdoes with
  | advance horizon =>
    obtain ⟨c', hturns, hshares, -⟩ := h.advance (p := p) horizon
    exact ⟨c', hturns, hshares⟩
  | start => exact ⟨_, .single (.start c rfl), h.start⟩
  | stop => exact ⟨_, .single (.stop c), h.stop⟩
  | push item => exact h.changeFeed _
  | close => exact h.close
  | wait horizon =>
    obtain ⟨c', hturns, hshares, -⟩ := h.wait (p := p) horizon
    exact ⟨c', hturns, hshares⟩
  | waitBeside ms restart => exact h.waitBeside ms restart

/-- Operations on a workplace, in any number and order, are turns on its executor. -/
theorem exists_reachable (s : σ) (hdoes : ReflTransGen (Does p pl) (.opening s) w) :
    ∃ c : SharedExecutor, c.Reachable ∧ c.executor = w.executor := by
  have hshares : ∃ c : SharedExecutor, c.Reachable ∧ Shares c w := by
    induction hdoes with
    | refl =>
      exact ⟨.opening, .refl, SharedExecutor.agrees_opening, rfl, fun r hr => by cases hr⟩
    | tail _ hdoes ih =>
      obtain ⟨c, hreach, hshares⟩ := ih
      obtain ⟨c', hturns, hshares'⟩ := hdoes.exists_turns hshares
      exact ⟨c', hreach.trans hturns, hshares'⟩
  obtain ⟨c, hreach, hshares⟩ := hshares
  exact ⟨c, hreach, hshares.executor⟩

end Workplace

end ChatCommands
