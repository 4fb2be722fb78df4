import ChatCommands.Pipeline.Executor
import Mathlib.Logic.Relation

set_option autoImplicit false

/-!
# Histories of an executor

Any number of callers share one executor. Each operation of theirs is one step, a wait two of them:
it begins, and its second half comes once the run is over. In between other callers take their
turns, and runs go on and end by themselves (`SharedExecutor.Step`). What has happened to the runs
is kept beside the executor, which itself forgets it; so a run is live or not whatever the executor
holds (`SharedExecutor.IsLive`). Every step keeps the executor and the past in agreement
(`SharedExecutor.Step.agrees`), hence so does every history (`SharedExecutor.Reachable.agrees`).
-/

namespace ChatCommands

/-- How a run has ended, if it has. -/
def Run.result? (r : Run) : Option RunEnd := r.end?.map (·.2)

theorem Registered.isLive_iff (r : Registered) : r.isLive = true ↔ r.run.result? = none := by
  rw [isLive, Run.result?, Option.isNone_iff_eq_none, Option.map_eq_none_iff]

/-- What a wait says of a result: a run that broke off counts as finished. -/
def RunEnd.asReported : RunEnd → RunEnd
  | .broken => .finished
  | result => result

namespace Executor

variable {x : Executor} {r : Registered} {g : Nat}

/-- A wait for the registered run reports how it ended, and takes it away. -/
theorem endWait_of_registered (hr : x.registered = some r) :
    x.endWait r.generation = ((r.run.result?.map RunEnd.asReported).getD .finished,
      { x with registered := none }) := by
  simp only [endWait, hr, if_true, Run.result?]
  cases r.run.end? with
  | none => rfl
  | some ended =>
    obtain ⟨t, result⟩ := ended
    cases result <;> rfl

/-- A wait for a run that is not registered leaves the executor as it is. -/
theorem endWait_of_other (hother : ∀ r, x.registered = some r → r.generation ≠ g) :
    x.endWait g = (.finished, x) := by
  rw [endWait]
  cases hr : x.registered with
  | none => rfl
  | some r => simp only [if_neg (hother r hr)]

/-- The second half of a wait takes away the run that it was for, and no other. -/
theorem endWait_snd (g : Nat) (x : Executor) : (x.endWait g).2 =
    { x with registered := x.registered.filter (·.generation ≠ g) } := by
  by_cases hheld : ∃ r, x.registered = some r ∧ r.generation = g
  · obtain ⟨r, hr, rfl⟩ := hheld
    simp [endWait_of_registered hr, hr, Option.filter]
  · have hother : ∀ r, x.registered = some r → r.generation ≠ g :=
      fun r hr hg => hheld ⟨r, hr, hg⟩
    have hkept : x.registered.filter (·.generation ≠ g) = x.registered := by
      cases hr : x.registered with
      | none => rfl
      | some r => simp [Option.filter, hother r hr]
    rw [endWait_of_other hother, hkept]

end Executor

/-- What can happen to a run, which is known by its generation. -/
inductive RunFact where
  | started (generation : Nat)
  /-- It ended by itself. -/
  | ended (generation : Nat) (result : RunEnd)
  /-- It was stopped before it had ended. -/
  | stopped (generation : Nat)
  /-- It had ended, and a stop took it away. -/
  | cleared (generation : Nat)
  /-- A wait for it returned. -/
  | reported (generation : Nat)
  deriving DecidableEq

/-- The run to which it happened. -/
def RunFact.generation : RunFact → Nat
  | .started g => g
  | .ended g _ => g
  | .stopped g => g
  | .cleared g => g
  | .reported g => g

/-- An executor that callers share: the runs for which callers are waiting, and what has
happened, the latest first. -/
structure SharedExecutor where
  executor : Executor
  waiting : List Nat
  past : List RunFact

namespace SharedExecutor

/-- Nothing has happened yet. -/
def opening : SharedExecutor := ⟨.idle, [], []⟩

/-- The run was started, and it has neither ended by itself nor been stopped since. -/
def IsLive (c : SharedExecutor) (g : Nat) : Prop :=
  .started g ∈ c.past ∧ .stopped g ∉ c.past ∧ ∀ result, .ended g result ∉ c.past

/-- Someone has taken the run away: another wait, a stop after its end, or the start
of a newer run. -/
def IsTaken (c : SharedExecutor) (g : Nat) : Prop :=
  .reported g ∈ c.past ∨ .cleared g ∈ c.past ∨ ∃ g', g < g' ∧ .started g' ∈ c.past

/-- What has been taken away stays so. -/
theorem IsTaken.mono {c c' : SharedExecutor} {g : Nat} (h : c.IsTaken g)
    (hpast : ∀ fact ∈ c.past, fact ∈ c'.past) : c'.IsTaken g := by
  rcases h with hreported | hcleared | ⟨g', hlater, hstarted⟩
  · exact Or.inl (hpast _ hreported)
  · exact Or.inr (Or.inl (hpast _ hcleared))
  · exact Or.inr (Or.inr ⟨g', hlater, hpast _ hstarted⟩)

/-- The generation of the registered run. -/
def held (c : SharedExecutor) : Option Nat := c.executor.registered.map (·.generation)

/-! ## Turns of the callers and of the runs -/

/-- Someone asks for a run to be started. -/
def start (run : Run) (c : SharedExecutor) : Bool × SharedExecutor :=
  let (isStarted, executor) := c.executor.start run
  (isStarted, { c with
    executor := executor
    past := if isStarted then .started c.executor.next :: c.past else c.past })

/-- Someone stops the run. -/
def stop (c : SharedExecutor) : Bool × SharedExecutor :=
  let (isStopped, executor) := c.executor.stop
  let fact := if isStopped then RunFact.stopped else RunFact.cleared
  (isStopped, { c with executor := executor, past := (c.held.map fact).toList ++ c.past })

/-- Someone begins to wait; without a registered run the wait is over at once. -/
def beginWait (c : SharedExecutor) : SharedExecutor :=
  { c with waiting := c.executor.beginWait.toList ++ c.waiting }

/-- The second half of a wait for a run: what it reports, and what it leaves. -/
def endWait (g : Nat) (c : SharedExecutor) : RunEnd × SharedExecutor :=
  let (result, executor) := c.executor.endWait g
  (result, ⟨executor, c.waiting.erase g, .reported g :: c.past⟩)

/-- Someone waits no longer. -/
def giveUp (g : Nat) (c : SharedExecutor) : SharedExecutor :=
  { c with waiting := c.waiting.erase g }

/-- A run goes on to a later state of it, registered or not; it may have ended there. -/
def goOn (g : Nat) (run : Run) (c : SharedExecutor) : SharedExecutor :=
  { c with
    executor := if c.held = some g then c.executor.proceed fun _ => run else c.executor
    past := (run.result?.map (.ended g)).toList ++ c.past }

/-- One turn. A wait goes on once its run is over; a run that is over does not go on. -/
inductive Step : SharedExecutor → SharedExecutor → Prop where
  | start (c : SharedExecutor) {run : Run} (hrun : run.result? = none) : Step c (c.start run).2
  | stop (c : SharedExecutor) : Step c c.stop.2
  | beginWait (c : SharedExecutor) : Step c c.beginWait
  | endWait (c : SharedExecutor) {g : Nat} (hwaiting : g ∈ c.waiting) (hover : ¬ c.IsLive g) :
      Step c (c.endWait g).2
  | giveUp (c : SharedExecutor) (g : Nat) : Step c (c.giveUp g)
  | goOn (c : SharedExecutor) {g : Nat} (run : Run) (hlive : c.IsLive g) : Step c (c.goOn g run)

/-- Turns in any number and order lead here. -/
def Reachable : SharedExecutor → Prop := Relation.ReflTransGen Step opening

/-! ## The executor and the past -/

/-- The executor agrees with the past. The registered run is the newest, it has not been taken away,
and it has ended exactly as the past has it; a live run is registered; and a run that ended by
itself is registered still, unless someone has taken it away. -/
structure Agrees (c : SharedExecutor) : Prop where
  started_iff : ∀ g, .started g ∈ c.past ↔ g < c.executor.next
  bounded : ∀ fact ∈ c.past, fact.generation < c.executor.next
  waiting : ∀ g ∈ c.waiting, g < c.executor.next
  newest : ∀ r, c.executor.registered = some r → r.generation + 1 = c.executor.next
  untouched : ∀ g, c.held = some g →
    .stopped g ∉ c.past ∧ .cleared g ∉ c.past ∧ .reported g ∉ c.past
  ended_iff : ∀ r, c.executor.registered = some r → ∀ result,
    .ended r.generation result ∈ c.past ↔ r.run.result? = some result
  live : ∀ g, c.IsLive g → c.held = some g
  lost : ∀ g result, .ended g result ∈ c.past → c.held = some g ∨ c.IsTaken g
  apart : ∀ g, .stopped g ∈ c.past → ∀ result, .ended g result ∉ c.past

theorem agrees_opening : opening.Agrees where
  started_iff :=
    fun g => ⟨fun h => absurd h List.not_mem_nil, fun h => absurd h (Nat.not_lt_zero g)⟩
  bounded := fun _ h => absurd h List.not_mem_nil
  waiting := fun _ h => absurd h List.not_mem_nil
  newest := fun _ h => by cases h
  untouched := fun _ h => by cases h
  ended_iff := fun _ h => by cases h
  live := fun _ h => absurd h.1 List.not_mem_nil
  lost := fun _ _ h => absurd h List.not_mem_nil
  apart := fun _ h => absurd h List.not_mem_nil

namespace Agrees

variable {c : SharedExecutor}

theorem not_fact_next (h : c.Agrees) {fact : RunFact} (hfact : fact ∈ c.past) :
    fact.generation ≠ c.executor.next := Nat.ne_of_lt (h.bounded fact hfact)

theorem exists_registered {g : Nat} (h : c.held = some g) :
    ∃ r, c.executor.registered = some r ∧ r.generation = g := Option.map_eq_some_iff.1 h

/-- The registered run is live unless it has ended. -/
theorem isLive_iff (h : c.Agrees) {r : Registered} (hr : c.executor.registered = some r) :
    c.IsLive r.generation ↔ r.run.result? = none := by
  have hheld : c.held = some r.generation := by rw [held, hr]; rfl
  constructor
  · intro hlive
    cases hresult : r.run.result? with
    | none => rfl
    | some result => exact absurd ((h.ended_iff r hr result).2 hresult) (hlive.2.2 result)
  · intro hresult
    refine ⟨?_, (h.untouched _ hheld).1, fun result hended => ?_⟩
    · rw [h.started_iff, ← h.newest r hr]
      exact Nat.lt_succ_self _
    · rw [h.ended_iff r hr, hresult] at hended
      cases hended

/-- The executor says that a run is under way exactly when one is live. -/
theorem isRunning_iff (h : c.Agrees) : c.executor.isRunning = true ↔ ∃ g, c.IsLive g := by
  rw [Executor.isRunning, Option.any_eq_true]
  constructor
  · rintro ⟨r, hr, hlive⟩
    exact ⟨r.generation, (h.isLive_iff hr).2 (r.isLive_iff.1 hlive)⟩
  · rintro ⟨g, hlive⟩
    obtain ⟨r, hr, rfl⟩ := exists_registered (h.live g hlive)
    exact ⟨r, hr, r.isLive_iff.2 ((h.isLive_iff hr).1 hlive)⟩

/-! ## Every turn keeps the agreement -/

theorem start_of_running {run : Run} (hrunning : c.executor.isRunning = true) :
    c.start run = (false, c) := by
  rw [SharedExecutor.start, Executor.start, hrunning]
  rfl

/-- A run is registered in the place of whatever was registered before. -/
theorem start_of_idle {run : Run} (hidle : c.executor.isRunning = false) :
    c.start run = (true, { c with
      executor := ⟨some ⟨c.executor.next, run⟩, c.executor.next + 1⟩
      past := .started c.executor.next :: c.past }) := by
  rw [SharedExecutor.start, Executor.start, hidle]
  rfl

theorem start (h : c.Agrees) {run : Run} (hrun : run.result? = none) : (c.start run).2.Agrees := by
  by_cases hrunning : c.executor.isRunning = true
  · rwa [start_of_running hrunning]
  rw [start_of_idle (Bool.eq_false_iff.2 hrunning)]
  constructor
  case started_iff =>
    intro g
    simp only [List.mem_cons, RunFact.started.injEq, h.started_iff]
    omega
  case bounded =>
    intro fact hfact
    rcases List.mem_cons.1 hfact with rfl | hfact
    · exact Nat.lt_succ_self _
    · exact Nat.lt_succ_of_lt (h.bounded fact hfact)
  case waiting =>
    intro g hg
    exact Nat.lt_succ_of_lt (h.waiting g hg)
  case newest =>
    intro r hr
    obtain rfl := Option.some.inj hr
    rfl
  -- nothing has happened to the new run but its start
  case untouched =>
    intro g hg
    obtain rfl := Option.some.inj hg
    refine ⟨fun hmem => ?_, fun hmem => ?_, fun hmem => ?_⟩
    · exact h.not_fact_next (List.mem_of_ne_of_mem (by simp) hmem) rfl
    · exact h.not_fact_next (List.mem_of_ne_of_mem (by simp) hmem) rfl
    · exact h.not_fact_next (List.mem_of_ne_of_mem (by simp) hmem) rfl
  case ended_iff =>
    intro r hr result
    obtain rfl := Option.some.inj hr
    rw [hrun]
    constructor
    · intro hmem
      exact absurd rfl (h.not_fact_next (List.mem_of_ne_of_mem (by simp) hmem))
    · intro hresult
      cases hresult
  case live =>
    rintro g ⟨hstarted, hstopped, hended⟩
    rcases List.mem_cons.1 hstarted with hfirst | hstarted
    · rw [RunFact.started.inj hfirst]
      rfl
    -- an earlier run would have been under way
    · refine absurd (h.isRunning_iff.2 ⟨g, hstarted, fun hmem => ?_, fun result hmem => ?_⟩)
        hrunning
      · exact hstopped (List.mem_cons_of_mem _ hmem)
      · exact hended result (List.mem_cons_of_mem _ hmem)
  case lost =>
    intro g result hended
    have hbefore := h.bounded _ (List.mem_of_ne_of_mem (by simp) hended)
    exact Or.inr (Or.inr (Or.inr ⟨c.executor.next, hbefore, List.mem_cons_self⟩))
  case apart =>
    intro g hstopped result hended
    exact h.apart g (List.mem_of_ne_of_mem (by simp) hstopped) result
      (List.mem_of_ne_of_mem (by simp) hended)

/-- A fact by which the run is taken away: it is stopped while it is live, or it is over
and cleared or reported. -/
inductive TakenBy (c : SharedExecutor) (g : Nat) : RunFact → Prop where
  | stopped (hlive : c.IsLive g) : TakenBy c g (.stopped g)
  | cleared (hover : ¬ c.IsLive g) : TakenBy c g (.cleared g)
  | reported (hover : ¬ c.IsLive g) : TakenBy c g (.reported g)

namespace TakenBy

variable {g : Nat} {fact : RunFact}

theorem generation_eq (h : TakenBy c g fact) : fact.generation = g := by
  cases h <;> rfl

theorem started_mem_iff (h : TakenBy c g fact) (g' : Nat) :
    .started g' ∈ fact :: c.past ↔ .started g' ∈ c.past := by
  cases h <;> simp

theorem ended_mem_iff (h : TakenBy c g fact) (g' : Nat) (result : RunEnd) :
    .ended g' result ∈ fact :: c.past ↔ .ended g' result ∈ c.past := by
  cases h <;> simp

end TakenBy

/-- The registered run is taken away. -/
theorem taken (h : c.Agrees) {g : Nat} (hheld : c.held = some g) {fact : RunFact}
    (hfact : TakenBy c g fact) {waiting : List Nat} (hwaiting : ∀ g ∈ waiting, g ∈ c.waiting) :
    Agrees ⟨{ c.executor with registered := none }, waiting, fact :: c.past⟩ := by
  constructor
  case started_iff =>
    intro g'
    rw [hfact.started_mem_iff]
    exact h.started_iff g'
  case bounded =>
    intro fact' hmem
    rcases List.mem_cons.1 hmem with rfl | hmem
    · obtain ⟨r, hr, rfl⟩ := exists_registered hheld
      rw [hfact.generation_eq, ← h.newest r hr]
      exact Nat.lt_succ_self _
    · exact h.bounded fact' hmem
  case waiting =>
    intro g' hg'
    exact h.waiting g' (hwaiting g' hg')
  case newest => exact fun _ hnone => by cases hnone
  case untouched => exact fun _ hnone => by cases hnone
  case ended_iff => exact fun _ hnone => by cases hnone
  case live =>
    rintro g' ⟨hstarted, hstopped, hended⟩
    rw [hfact.started_mem_iff] at hstarted
    have hlive : c.IsLive g' := by
      refine ⟨hstarted, fun hmem => hstopped (List.mem_cons_of_mem _ hmem), fun result hmem => ?_⟩
      exact hended result (List.mem_cons_of_mem _ hmem)
    -- only the registered run was live, and now it is not
    obtain rfl := Option.some.inj (hheld.symm.trans (h.live g' hlive))
    cases hfact with
    | stopped => exact absurd List.mem_cons_self hstopped
    | cleared hover => exact absurd hlive hover
    | reported hover => exact absurd hlive hover
  case lost =>
    intro g' result hmem
    rw [hfact.ended_mem_iff] at hmem
    rcases h.lost g' result hmem with hg' | htaken
    · obtain rfl := Option.some.inj (hheld.symm.trans hg')
      cases hfact with
      | stopped hlive => exact absurd hmem (hlive.2.2 result)
      | cleared => exact Or.inr (Or.inr (Or.inl List.mem_cons_self))
      | reported => exact Or.inr (Or.inl List.mem_cons_self)
    · exact Or.inr (htaken.mono fun _ => List.mem_cons_of_mem _)
  case apart =>
    intro g' hstopped result hmem
    rw [hfact.ended_mem_iff] at hmem
    by_cases hnew : .stopped g' = fact
    · subst hnew
      cases hfact with
      | stopped hlive => exact hlive.2.2 result hmem
    · exact h.apart g' (List.mem_of_ne_of_mem hnew hstopped) result hmem

theorem stop (h : c.Agrees) : c.stop.2.Agrees := by
  cases hr : c.executor.registered with
  | none =>
    have hsame : c.stop.2 = c := by
      obtain ⟨⟨registered, next⟩, waiting, past⟩ := c
      obtain rfl : registered = none := hr
      rfl
    rwa [hsame]
  | some r =>
    have hheld : c.held = some r.generation := by rw [held, hr]; rfl
    have hrunning : c.executor.isRunning = r.isLive := by rw [Executor.isRunning, hr]; rfl
    have hlive : r.isLive = true ↔ c.IsLive r.generation :=
      r.isLive_iff.trans (h.isLive_iff hr).symm
    have hstop : c.stop.2 = ⟨{ c.executor with registered := none }, c.waiting,
        (if r.isLive then RunFact.stopped else RunFact.cleared) r.generation :: c.past⟩ := by
      simp only [SharedExecutor.stop, Executor.stop, hheld, hrunning]
      rfl
    rw [hstop]
    refine h.taken hheld ?_ fun _ hg => hg
    by_cases hended : r.isLive = true
    · rw [if_pos hended]
      exact .stopped (hlive.1 hended)
    · rw [if_neg hended]
      exact .cleared fun hl => hended (hlive.2 hl)

theorem not_isLive_stop (h : c.Agrees) (g : Nat) : ¬ c.stop.2.IsLive g := by
  intro hlive
  -- what is live is registered, and nothing is after a stop
  have hheld := h.stop.live g hlive
  cases hheld

theorem beginWait (h : c.Agrees) : c.beginWait.Agrees := by
  refine { h with waiting := fun g hg => ?_ }
  rcases List.mem_append.1 hg with hg | hg
  · obtain ⟨r, hr, rfl⟩ := exists_registered (Option.mem_toList.1 hg)
    have hnewest := h.newest r hr
    show r.generation < c.executor.next
    omega
  · exact h.waiting g hg

theorem endWait_of_gone {g : Nat} (hgone : c.held ≠ some g) :
    c.endWait g = (.finished, ⟨c.executor, c.waiting.erase g, .reported g :: c.past⟩) := by
  have hother : ∀ r, c.executor.registered = some r → r.generation ≠ g :=
    fun r hr hg => hgone (by rw [held, hr, ← hg]; rfl)
  rw [SharedExecutor.endWait, Executor.endWait_of_other hother]

theorem endWait_of_held {r : Registered} (hr : c.executor.registered = some r) :
    c.endWait r.generation = ((r.run.result?.map RunEnd.asReported).getD .finished,
      ⟨{ c.executor with registered := none }, c.waiting.erase r.generation,
        .reported r.generation :: c.past⟩) := by
  rw [SharedExecutor.endWait, Executor.endWait_of_registered hr]

/-- A wait that returns when its run is no longer registered is noted, and that is all. -/
theorem noted (h : c.Agrees) {g : Nat} (hwaiting : g ∈ c.waiting) (hgone : c.held ≠ some g) :
    Agrees ⟨c.executor, c.waiting.erase g, .reported g :: c.past⟩ := by
  constructor
  case started_iff => simpa using h.started_iff
  case bounded =>
    intro fact hfact
    rcases List.mem_cons.1 hfact with rfl | hfact
    · exact h.waiting g hwaiting
    · exact h.bounded fact hfact
  case waiting =>
    intro g' hg'
    exact h.waiting g' (List.mem_of_mem_erase hg')
  case newest => exact h.newest
  case untouched =>
    intro g' hg'
    obtain ⟨hstopped, hcleared, hreported⟩ := h.untouched g' hg'
    refine ⟨by simpa using hstopped, by simpa using hcleared, fun hmem => ?_⟩
    rcases List.mem_cons.1 hmem with heq | hmem
    · rw [RunFact.reported.inj heq] at hg'
      exact hgone hg'
    · exact hreported hmem
  case ended_iff => simpa using h.ended_iff
  case live =>
    rintro g' ⟨hstarted, hstopped, hended⟩
    exact h.live g' ⟨by simpa using hstarted, by simpa using hstopped, by simpa using hended⟩
  case lost =>
    intro g' result hended
    rcases h.lost g' result (List.mem_of_ne_of_mem (by simp) hended) with hg' | htaken
    · exact Or.inl hg'
    · exact Or.inr (htaken.mono fun _ => List.mem_cons_of_mem _)
  case apart => simpa using h.apart

theorem endWait (h : c.Agrees) {g : Nat} (hwaiting : g ∈ c.waiting) (hover : ¬ c.IsLive g) :
    (c.endWait g).2.Agrees := by
  by_cases hheld : c.held = some g
  · obtain ⟨r, hr, rfl⟩ := exists_registered hheld
    rw [endWait_of_held hr]
    exact h.taken hheld (.reported hover) fun _ => List.mem_of_mem_erase
  · rw [endWait_of_gone hheld]
    exact h.noted hwaiting hheld

theorem giveUp (h : c.Agrees) (g : Nat) : (c.giveUp g).Agrees :=
  { h with waiting := fun g' hg' => h.waiting g' (List.mem_of_mem_erase hg') }

/-- A live run is registered, and it goes on there. -/
theorem goOn_of_live (h : c.Agrees) {g : Nat} (run : Run) (hlive : c.IsLive g) :
    c.goOn g run = { c with
      executor := { c.executor with registered := some ⟨g, run⟩ }
      past := (run.result?.map (.ended g)).toList ++ c.past } := by
  obtain ⟨r, hr, rfl⟩ := exists_registered (h.live g hlive)
  rw [SharedExecutor.goOn, if_pos (h.live _ hlive), Executor.proceed, hr]
  rfl

/-- All that a run adds to the past when it goes on is its end, if it comes to it. -/
theorem mem_goOn_iff {g : Nat} {run : Run} {fact : RunFact} :
    fact ∈ (c.goOn g run).past ↔
      (∃ result, run.result? = some result ∧ fact = .ended g result) ∨ fact ∈ c.past := by
  rw [SharedExecutor.goOn, List.mem_append, Option.mem_toList, Option.map_eq_some_iff]
  simp only [eq_comm]

theorem mem_goOn {g : Nat} {run : Run} {fact : RunFact} (h : fact ∈ c.past) :
    fact ∈ (c.goOn g run).past :=
  mem_goOn_iff.2 (Or.inr h)

theorem mem_of_mem_goOn {g : Nat} {run : Run} {fact : RunFact}
    (hne : ∀ result, fact ≠ .ended g result) (h : fact ∈ (c.goOn g run).past) : fact ∈ c.past := by
  rcases mem_goOn_iff.1 h with ⟨result, -, rfl⟩ | hmem
  · exact absurd rfl (hne result)
  · exact hmem

/-- A run that goes on makes no other run live. -/
theorem isLive_of_goOn {g g' : Nat} {run : Run} (h : (c.goOn g run).IsLive g') : c.IsLive g' := by
  obtain ⟨hstarted, hstopped, hended⟩ := h
  exact ⟨mem_of_mem_goOn (by simp) hstarted, fun hmem => hstopped (mem_goOn hmem),
    fun result hmem => hended result (mem_goOn hmem)⟩

/-- A live run that goes on has ended iff it now has a result. -/
theorem ended_mem_goOn_iff {g : Nat} {run : Run} (hlive : c.IsLive g) {result : RunEnd} :
    .ended g result ∈ (c.goOn g run).past ↔ run.result? = some result := by
  rw [mem_goOn_iff]
  constructor
  · rintro (⟨result', hresult, heq⟩ | hmem)
    · obtain rfl := (RunFact.ended.inj heq).2
      exact hresult
    · exact absurd hmem (hlive.2.2 result)
  · intro hresult
    exact Or.inl ⟨result, hresult, rfl⟩

theorem goOn (h : c.Agrees) {g : Nat} (run : Run) (hlive : c.IsLive g) : (c.goOn g run).Agrees := by
  have hheld := h.live g hlive
  obtain ⟨r, hr, rfl⟩ := exists_registered hheld
  have hexecutor : (c.goOn r.generation run).executor =
      { c.executor with registered := some ⟨r.generation, run⟩ } := by rw [h.goOn_of_live run hlive]
  have hsame : (c.goOn r.generation run).held = c.held := by rw [hheld, held, hexecutor]; rfl
  constructor
  case started_iff =>
    intro g'
    rw [hexecutor, ← h.started_iff g']
    exact ⟨mem_of_mem_goOn (by simp), mem_goOn⟩
  case bounded =>
    intro fact hfact
    rw [hexecutor]
    rcases mem_goOn_iff.1 hfact with ⟨result, -, rfl⟩ | hfact
    · exact (h.started_iff r.generation).1 hlive.1
    · exact h.bounded fact hfact
  case waiting =>
    rw [hexecutor]
    exact h.waiting
  case newest =>
    intro r' hr'
    rw [hexecutor] at hr' ⊢
    obtain rfl := Option.some.inj hr'
    exact h.newest r hr
  case untouched =>
    intro g' hg'
    rw [hsame] at hg'
    obtain ⟨hstopped, hcleared, hreported⟩ := h.untouched g' hg'
    refine ⟨fun hmem => hstopped ?_, fun hmem => hcleared ?_, fun hmem => hreported ?_⟩
    · exact mem_of_mem_goOn (by simp) hmem
    · exact mem_of_mem_goOn (by simp) hmem
    · exact mem_of_mem_goOn (by simp) hmem
  case ended_iff =>
    intro r' hr' result
    rw [hexecutor] at hr'
    obtain rfl := Option.some.inj hr'
    exact ended_mem_goOn_iff hlive
  case live =>
    intro g' hg'
    rw [hsame]
    exact h.live g' (isLive_of_goOn hg')
  case lost =>
    intro g' result hended
    rw [hsame]
    rcases mem_goOn_iff.1 hended with ⟨_, -, heq⟩ | hmem
    · rw [(RunFact.ended.inj heq).1]
      exact Or.inl hheld
    · exact (h.lost g' result hmem).imp_right fun htaken => htaken.mono fun _ => mem_goOn
  case apart =>
    intro g' hstopped result hended
    have hbefore := mem_of_mem_goOn (by simp) hstopped
    rcases mem_goOn_iff.1 hended with ⟨_, -, heq⟩ | hmem
    · rw [(RunFact.ended.inj heq).1] at hbefore
      exact hlive.2.1 hbefore
    · exact h.apart g' hbefore result hmem

end Agrees

/-- One turn keeps the executor and the past in agreement. -/
theorem Step.agrees {c c' : SharedExecutor} (hstep : Step c c') (h : c.Agrees) : c'.Agrees := by
  cases hstep with
  | start hrun => exact h.start hrun
  | stop => exact h.stop
  | beginWait => exact h.beginWait
  | endWait hwaiting hover => exact h.endWait hwaiting hover
  | giveUp g => exact h.giveUp g
  | goOn run hlive => exact h.goOn run hlive

/-- Any turns keep the executor and the past in agreement. -/
theorem Reachable.agrees {c : SharedExecutor} (hreach : c.Reachable) : c.Agrees := by
  induction hreach with
  | refl => exact agrees_opening
  | tail _ hstep ih => exact hstep.agrees ih

end SharedExecutor

end ChatCommands
