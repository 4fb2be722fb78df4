import ChatCommands.Pipeline.Run
import ChatCommands.Proofs.JobProgress
import ChatCommands.Proofs.ProcessEndings

set_option autoImplicit false

/-!
# The course of reception

A run is polled at the instants at which its reception or one of its jobs has something to do. At
one instant reception may do several things; each of them leads to a reception that goes on from
there (`Reception.Unfolds`), and the run goes on with it (`Run.poll_of_unfolds`). Between its
instants reception stays as it is, whatever the jobs do (`Moment.comesTo_waiting`). So
`Moment.ComesTo` follows a run from one moment to another for all horizons at once. A run that only
waits for its jobs finishes (`Moment.finishes_of_draining`).
-/

namespace ChatCommands

/-- The source ended the run, be it by its faults or by their pauses; not its events. -/
def RunEnd.isOfSource : RunEnd → Bool
  | .finished => false
  | .sourceFailed _ => true
  | .retriesExhausted .. => true
  | .matchViolation _ => false
  | .broken => true

namespace Phase

theorem listen_event (s : RetrySettings) (now : Nat) (retry : Retry) (e : Event)
    (items : List FeedItem) (isOpen : Bool) :
    listen s now retry ⟨.event e :: items, isOpen⟩ =
      (e :: (listen s now (.fresh s) ⟨items, isOpen⟩).1,
        (listen s now (.fresh s) ⟨items, isOpen⟩).2) := by
  simp only [listen, Feed.receive]
  obtain ⟨events, rest⟩ := Feed.receive now isOpen items
  cases rest <;> simp

theorem listen_wait (s : RetrySettings) (now : Nat) (retry : Retry) (ms : Nat)
    (items : List FeedItem) (isOpen : Bool) :
    listen s now retry ⟨.wait ms :: items, isOpen⟩ =
      if ms = 0 then listen s now retry ⟨items, isOpen⟩
      else ([], retry, .listening (now + ms) ⟨items, isOpen⟩) := by
  by_cases hms : ms = 0
  · subst hms
    simp [listen, Feed.receive]
  · simp [listen, Feed.receive, hms]

/-- After a fault the run has ended, or it pauses. -/
theorem ended_or_pausing_afterFault (s : RetrySettings) (now : Nat) (retry : Retry)
    (fault : SourceFault) :
    (∃ result, (afterFault s now retry fault).2 = .ended now result ∧ result.isOfSource = true) ∨
      ∃ wake, (afterFault s now retry fault).2 = .pausing wake := by
  rw [afterFault]
  split
  · exact Or.inl ⟨_, rfl, rfl⟩
  · split
    · exact Or.inl ⟨_, rfl, rfl⟩
    · split
      · exact Or.inl ⟨_, rfl, rfl⟩
      · exact Or.inr ⟨_, rfl⟩

/-- Listening ends a run only by what the source does. -/
theorem isOfSource_of_listen {s : RetrySettings} {now instant : Nat} {retry : Retry} {feed : Feed}
    {result : RunEnd} (h : (listen s now retry feed).2.2 = .ended instant result) :
    result.isOfSource = true := by
  rw [listen] at h
  generalize Feed.receive now feed.isOpen feed.items = heard at h
  obtain ⟨events, rest⟩ := heard
  dsimp only at h
  split at h
  · cases h
  · cases h
  · rename_i fault
    rcases ended_or_pausing_afterFault s now (if events.isEmpty then retry else .fresh s) fault with
      ⟨result', hended, hsource⟩ | ⟨wake, hpausing⟩
    · cases hended.symm.trans h
      exact hsource
    · cases hpausing.symm.trans h
  · cases h
    rfl

end Phase

namespace Reception

variable {s : RetrySettings} {now : Nat}

/-- At the instant, polling the reception is that the events come and the other
reception is polled. -/
def Unfolds (s : RetrySettings) (now : Nat) (r : Reception) (events : List Event) (r' : Reception) :
    Prop :=
  r.poll s now = (events ++ (r'.poll s now).1, (r'.poll s now).2)

variable {retry : Retry} {items : List FeedItem} {isOpen : Bool} {n : Nat} {upcoming : List Feed}

/-- An event begins its job, and the faults in a row are forgotten. -/
theorem unfolds_event (e : Event) :
    Unfolds s now ⟨retry, .listening now ⟨.event e :: items, isOpen⟩, n, upcoming⟩ [e]
      ⟨.fresh s, .listening now ⟨items, isOpen⟩, n, upcoming⟩ := by
  simp only [Unfolds, poll, Nat.lt_irrefl, if_false, Phase.listen_event]
  obtain ⟨events, retry', phase⟩ := Phase.listen s now (.fresh s) ⟨items, isOpen⟩
  cases phase <;> simp

theorem unfolds_wait (ms : Nat) :
    Unfolds s now ⟨retry, .listening now ⟨.wait ms :: items, isOpen⟩, n, upcoming⟩ []
      ⟨retry, .listening (now + ms) ⟨items, isOpen⟩, n, upcoming⟩ := by
  simp only [Unfolds, poll, Nat.lt_irrefl, if_false, Phase.listen_wait]
  by_cases hms : ms = 0
  · subst hms
    simp
  · simp [hms, Nat.pos_of_ne_zero hms]

theorem unfolds_over :
    Unfolds s now ⟨retry, .listening now ⟨[], false⟩, n, upcoming⟩ []
      ⟨retry, .draining, n, upcoming⟩ := by
  simp [Unfolds, poll, Phase.listen, Feed.receive]

/-- A fault leads to a pause, or to the end of the run. -/
theorem unfolds_fault (fault : SourceFault) :
    Unfolds s now ⟨retry, .listening now ⟨.fault fault :: items, isOpen⟩, n, upcoming⟩ []
      ⟨(Phase.afterFault s now retry fault).1, (Phase.afterFault s now retry fault).2, n,
        upcoming⟩ := by
  have hlisten : Phase.listen s now retry ⟨.fault fault :: items, isOpen⟩ =
      ([], Phase.afterFault s now retry fault) := rfl
  simp only [Unfolds, poll, Nat.lt_irrefl, if_false, hlisten]
  rcases Phase.ended_or_pausing_afterFault s now retry fault with ⟨result, h, -⟩ | ⟨wake, h⟩
  · simp [h]
  · simp [h]

theorem unfolds_resume {retry' : Retry} (hpaused : retry.paused? s = some retry') (feed : Feed)
    (feeds : List Feed) :
    Unfolds s now ⟨retry, .pausing now, n, feed :: feeds⟩ []
      ⟨retry', .listening now feed, n + 1, feeds⟩ := by
  simp only [Unfolds, poll, resume, Nat.lt_irrefl, if_false, hpaused]
  obtain ⟨events, retry'', phase⟩ := Phase.listen s now retry' feed
  cases phase <;> simp

/-- Beyond the last stream there is silence. -/
theorem unfolds_resume_nil {retry' : Retry} (hpaused : retry.paused? s = some retry') :
    Unfolds s now ⟨retry, .pausing now, n, []⟩ [] ⟨retry', .listening now .silent, n + 1, []⟩ := by
  simp [Unfolds, poll, resume, hpaused, Phase.listen, Feed.receive, Feed.silent]

theorem subscriptions_le_resume (s : RetrySettings) (now : Nat) (retry : Retry) (wake n : Nat)
    (feeds : List Feed) : n ≤ (resume s now retry wake n feeds).2.subscriptions := by
  induction feeds generalizing retry wake n with
  | nil =>
    rw [resume]
    split
    · exact Nat.le_refl n
    · split
      · exact Nat.le_refl n
      · exact Nat.le_succ n
  | cons feed feeds ih =>
    rw [resume]
    split
    · exact Nat.le_refl n
    · split
      · exact Nat.le_refl n
      · dsimp only
        split
        -- a feed that is over at once may be followed by others
        · exact Nat.le_trans (Nat.le_succ n) (ih _ _ _)
        · exact Nat.le_succ n

/-- The number of subscriptions does not go down. -/
theorem subscriptions_le_poll (s : RetrySettings) (now : Nat) (r : Reception) :
    r.subscriptions ≤ (r.poll s now).2.subscriptions := by
  rw [poll]
  split
  · split
    · exact Nat.le_refl _
    · dsimp only
      split
      · exact subscriptions_le_resume _ _ _ _ _ _
      · exact Nat.le_refl _
  · exact subscriptions_le_resume _ _ _ _ _ _
  · exact Nat.le_refl _

theorem isOfSource_of_resume {wake instant : Nat} {feeds : List Feed} {result : RunEnd}
    (h : (resume s now retry wake n feeds).2.phase = .ended instant result) :
    result.isOfSource = true := by
  induction feeds generalizing retry wake n with
  | nil =>
    rw [resume] at h
    split at h
    · cases h
    · split at h
      · cases h
        rfl
      · cases h
  | cons feed feeds ih =>
    rw [resume] at h
    split at h
    · cases h
    · split at h
      · cases h
        rfl
      · dsimp only at h
        split at h
        · exact ih h
        · exact Phase.isOfSource_of_listen h

/-- A run that goes on is ended by its source, if polling its reception ends it. -/
theorem isOfSource_of_poll {r : Reception} {instant : Nat} {result : RunEnd}
    (hgoing : ∀ instant result, r.phase ≠ .ended instant result)
    (h : (r.poll s now).2.phase = .ended instant result) : result.isOfSource = true := by
  rw [poll] at h
  split at h
  · split at h
    · exact absurd h (hgoing instant result)
    · dsimp only at h
      split at h
      · exact isOfSource_of_resume h
      · exact Phase.isOfSource_of_listen h
  · exact isOfSource_of_resume h
  · exact absurd h (hgoing instant result)

/-- A pause whose doubling overflows breaks the run off. -/
theorem unfolds_overflow (hpaused : retry.paused? s = none) :
    Unfolds s now ⟨retry, .pausing now, n, upcoming⟩ []
      ⟨retry, .ended now .broken, n, upcoming⟩ := by
  cases upcoming <;> simp [Unfolds, poll, resume, hpaused]

end Reception

/-! ## Calm jobs -/

/-- The end of the processing of an event is not fatal. -/
def EventJob.Calm (end_ : Except Failing (Except MatchViolation Ending)) : Prop :=
  EventJob.violation? (.ended end_) = none

namespace Run

variable {σ : Type} {p : Platform σ} {pl : Pipeline} {now : Nat}

/-- The jobs of events that have come. -/
def begun (pl : Pipeline) (now : Nat) (events : List Event) : List EventJob :=
  (events.filter (·.isInteresting)).map fun e => .asleep [] now (pl.process e)

/-- No job that is under way can end fatally. -/
def AreCalm (jobs : List EventJob) : Prop := ∀ j ∈ jobs, j.EndsIn EventJob.Calm

theorem AreCalm.pollAll {jobs : List EventJob} (h : AreCalm jobs) (p : Platform σ) (now : Nat)
    (s : σ) : AreCalm (Job.pollAll p now jobs s).1 :=
  Job.forall_pollAll (fun j hj s => (h j hj).poll p now s) s

theorem AreCalm.findSome?_violation? {jobs : List EventJob} (h : AreCalm jobs) :
    jobs.findSome? EventJob.violation? = none := by
  rw [List.findSome?_eq_none_iff]
  intro j hj
  cases j with
  | ended v => exact h _ hj
  | asleep questions wake rest => rfl

/-- Where the reception unfolds, so does the run: the events that come begin as jobs. -/
theorem poll_of_unfolds {r r' : Reception} {events : List Event}
    (h : r.Unfolds pl.settings.retry now events r') (jobs : List EventJob) (s : σ) :
    poll p pl now ⟨r, jobs⟩ s = poll p pl now ⟨r', jobs ++ begun pl now events⟩ s := by
  have hpoll : r.poll pl.settings.retry now = _ := h
  simp only [poll, hpoll, begun, List.filter_append, List.map_append, List.append_assoc]

/-- The jobs that are still under way after a poll. -/
def polled (p : Platform σ) (now : Nat) (jobs : List EventJob) (s : σ) : List EventJob :=
  (Job.pollAll p now jobs s).1.filter fun j => j.value?.isNone

theorem AreCalm.polled {jobs : List EventJob} (h : AreCalm jobs) (p : Platform σ) (now : Nat)
    (s : σ) : AreCalm (Run.polled p now jobs s) :=
  fun j hj => h.pollAll p now s j (List.mem_of_mem_filter hj)

theorem lt_wake_of_mem_polled {jobs : List EventJob} {s : σ} {j : EventJob}
    (hj : j ∈ polled p now jobs s) : ∀ w ∈ j.wake?, now < w :=
  Job.forall_pollAll (P := fun j => ∀ w ∈ j.wake?, now < w)
    (fun _ _ _ _ hw => Job.lt_wake_of_poll hw) s j (List.mem_of_mem_filter hj)

/-! ## Polls while nothing is received -/

theorem settle_of_calm {r : Reception} {jobs : List EventJob} (hcalm : AreCalm jobs)
    (hphase : r.phase ≠ .draining) :
    settle now ⟨r, jobs⟩ = ⟨r, jobs.filter fun j => j.value?.isNone⟩ := by
  simp only [settle, hcalm.findSome?_violation?]

/-- A run that drains is finished once no job is left. -/
theorem settle_of_draining {r : Reception} {jobs : List EventJob} (hcalm : AreCalm jobs)
    (hphase : r.phase = .draining) :
    settle now ⟨r, jobs⟩ =
      if (jobs.filter fun j => j.value?.isNone).isEmpty then
        ⟨{ r with phase := .ended now .finished }, []⟩
      else ⟨r, jobs.filter fun j => j.value?.isNone⟩ := by
  simp only [settle, hcalm.findSome?_violation?, hphase]
  rfl

/-- A reception that stays as it is only lets the jobs go on. -/
theorem poll_of_idle {r r' : Reception} (hpoll : r.poll pl.settings.retry now = ([], r'))
    (hended : ∀ instant result, r'.phase ≠ .ended instant result) (jobs : List EventJob) (s : σ) :
    poll p pl now ⟨r, jobs⟩ s =
      (settle now ⟨r', (Job.pollAll p now jobs s).1⟩, (Job.pollAll p now jobs s).2) := by
  simp only [poll, hpoll, List.filter_nil, List.map_nil, List.append_nil]

theorem poll_of_ended {r : Reception} {instant : Nat} {result : RunEnd}
    (h : r.phase = .ended instant result) (jobs : List EventJob) (s : σ) :
    poll p pl now ⟨r, jobs⟩ s = (⟨r, []⟩, s) := by
  have hpoll : r.poll pl.settings.retry now = ([], r) := by
    rw [Reception.poll, h]
  simp only [poll, hpoll, h]

theorem subscriptions_le_poll (r : Run) (s : σ) :
    r.reception.subscriptions ≤ (r.poll p pl now s).1.reception.subscriptions := by
  have hle := Reception.subscriptions_le_poll pl.settings.retry now r.reception
  rw [poll]
  dsimp only
  split
  · exact hle
  · rw [settle]
    split
    · exact hle
    · dsimp only
      split
      · split
        · exact hle
        · exact hle
      · exact hle

/-- Before the instant at which the reception has something to do, it stays as it is. -/
theorem poll_of_waiting {r : Reception} {wake : Nat} (hwake : r.phase.wake? = some wake)
    (hlt : now < wake) {jobs : List EventJob} (hcalm : AreCalm jobs) (s : σ) :
    poll p pl now ⟨r, jobs⟩ s = (⟨r, polled p now jobs s⟩, (Job.pollAll p now jobs s).2) := by
  obtain ⟨retry, phase, n, upcoming⟩ := r
  cases phase with
  | listening w feed =>
    have hw : w = wake := by
      rw [Phase.wake?] at hwake
      split at hwake
      · cases hwake
      · exact Option.some.inj hwake
    subst hw
    have hpoll : Reception.poll pl.settings.retry now ⟨retry, .listening w feed, n, upcoming⟩ =
        ([], ⟨retry, .listening w feed, n, upcoming⟩) := by
      simp [Reception.poll, hlt]
    rw [poll_of_idle hpoll (by simp), settle_of_calm (hcalm.pollAll p now s) (by simp)]
    rfl
  | pausing w =>
    obtain rfl := Option.some.inj hwake
    have hpoll : Reception.poll pl.settings.retry now ⟨retry, .pausing w, n, upcoming⟩ =
        ([], ⟨retry, .pausing w, n, upcoming⟩) := by
      cases upcoming <;> simp [Reception.poll, Reception.resume, hlt]
    rw [poll_of_idle hpoll (by simp), settle_of_calm (hcalm.pollAll p now s) (by simp)]
    rfl
  | draining => cases hwake
  | ended => cases hwake

/-! ## The next instant -/

theorem foldl_wake_le (jobs : List EventJob) {w₀ : Option Nat} {w : Nat} (h : w₀ = some w) :
    ∃ v, jobs.foldl (fun w j => w.merge min j.wake?) w₀ = some v ∧ v ≤ w := by
  induction jobs generalizing w₀ w with
  | nil => exact ⟨w, h, Nat.le_refl w⟩
  | cons j jobs ih =>
    rw [List.foldl_cons, h]
    cases hj : j.wake? with
    | none => exact ih rfl
    | some w' =>
      obtain ⟨v, hv, hle⟩ := ih (rfl : some (min w w') = some (min w w'))
      exact ⟨v, hv, Nat.le_trans hle (Nat.min_le_left w w')⟩

theorem eq_or_exists_of_foldl_wake {jobs : List EventJob} {w₀ : Option Nat} {v : Nat}
    (h : jobs.foldl (fun w j => w.merge min j.wake?) w₀ = some v) :
    w₀ = some v ∨ ∃ j ∈ jobs, j.wake? = some v := by
  induction jobs generalizing w₀ with
  | nil => exact Or.inl h
  | cons j jobs ih =>
    rcases ih h with hmerged | ⟨k, hk, hkv⟩
    · cases w₀ with
      | none => exact Or.inr ⟨j, List.mem_cons_self, by simpa using hmerged⟩
      | some w =>
        cases hj : j.wake? with
        | none => exact Or.inl (by simpa [hj] using hmerged)
        | some w' =>
          -- the earlier of both is one of them
          have hmin : min w w' = v := by simpa [hj] using hmerged
          rcases Nat.le_total w w' with hle | hle
          · exact Or.inl (by rw [← hmin, Nat.min_eq_left hle])
          · exact Or.inr ⟨j, List.mem_cons_self, by rw [hj, ← hmin, Nat.min_eq_right hle]⟩
    · exact Or.inr ⟨k, List.mem_cons_of_mem j hk, hkv⟩

/-- A run whose jobs have just been polled is polled again later. -/
theorem lt_wake_of_polled {r : Reception} {jobs : List EventJob} {s : σ} {v : Nat}
    (hwake : ∀ w ∈ r.phase.wake?, now < w) (hv : (⟨r, polled p now jobs s⟩ : Run).wake? = some v) :
    now < v := by
  rcases eq_or_exists_of_foldl_wake hv with h | ⟨j, hj, hjv⟩
  · exact hwake v h
  · exact lt_wake_of_mem_polled hj v hjv

/-- As long as a job is under way, there is an instant at which one of them has something to do. -/
theorem exists_wake_of_polled {r : Reception} {jobs : List EventJob} {s : σ}
    (hwake : r.phase.wake? = none) (hne : polled p now jobs s ≠ []) :
    ∃ v, (⟨r, polled p now jobs s⟩ : Run).wake? = some v ∧
      ∃ j ∈ polled p now jobs s, j.wake? = some v := by
  obtain ⟨j, js, hpolled⟩ := List.exists_cons_of_ne_nil hne
  obtain ⟨w, hw⟩ : ∃ w, j.wake? = some w := by
    have hj : j ∈ polled p now jobs s := by
      rw [hpolled]
      exact List.mem_cons_self
    cases j with
    | ended v => simpa [Job.value?] using (List.mem_filter.1 hj).2
    | asleep questions wake rest => cases questions <;> exact ⟨_, rfl⟩
  obtain ⟨v, hv, -⟩ := foldl_wake_le js hw
  have hrun : (⟨r, polled p now jobs s⟩ : Run).wake? = some v := by
    rw [Run.wake?, hpolled, List.foldl_cons, hwake, hw]
    rwa [hw] at hv
  refine ⟨v, hrun, ?_⟩
  rcases eq_or_exists_of_foldl_wake hrun with h | h
  · exact absurd (hwake.symm.trans h) (by simp)
  · exact h

end Run

/-! ## Moments of a run -/

/-- A run about to be polled at an instant. -/
structure Moment (σ : Type) where
  instant : Nat
  run : Run
  state : σ

namespace Moment

variable {σ : Type} {p : Platform σ} {pl : Pipeline}

/-- What has become of the run by a horizon. -/
def upTo (p : Platform σ) (pl : Pipeline) (m : Moment σ) (horizon : Nat) : Run × σ :=
  m.run.advance p pl m.instant horizon m.state

theorem upTo_eq (m : Moment σ) (horizon : Nat) :
    m.upTo p pl horizon =
      match (m.run.poll p pl m.instant m.state).1.wake? with
      | none => m.run.poll p pl m.instant m.state
      | some wake =>
        if m.instant < wake ∧ wake ≤ horizon then
          upTo p pl ⟨wake, (m.run.poll p pl m.instant m.state).1,
            (m.run.poll p pl m.instant m.state).2⟩ horizon
        else m.run.poll p pl m.instant m.state := by
  rw [upTo, Run.advance]
  rfl

/-- A run polled at one moment comes to be polled at another one. With any horizon from then on both
end alike; with an earlier one it is still under way, with no more than `n` subscriptions. -/
structure ComesTo (p : Platform σ) (pl : Pipeline) (n : Nat) (m m' : Moment σ) : Prop where
  le : m.instant ≤ m'.instant
  upTo_eq : ∀ horizon, m'.instant ≤ horizon → m.upTo p pl horizon = m'.upTo p pl horizon
  before : ∀ horizon, m.instant ≤ horizon → horizon < m'.instant →
    (m.upTo p pl horizon).1.end? = none ∧ (m.upTo p pl horizon).1.reception.subscriptions ≤ n

namespace ComesTo

variable {n n' : Nat} {m m' m'' : Moment σ}

theorem refl (m : Moment σ) : ComesTo p pl n m m :=
  ⟨Nat.le_refl _, fun _ _ => rfl, fun _ h h' => absurd h (Nat.not_le_of_lt h')⟩

/-- What comes to a moment that comes to another one comes to the latter. -/
theorem trans (h : ComesTo p pl n m m') (h' : ComesTo p pl n m' m'') : ComesTo p pl n m m'' := by
  refine ⟨Nat.le_trans h.le h'.le, fun horizon hle => ?_, fun horizon hle hlt => ?_⟩
  · rw [h.upTo_eq horizon (Nat.le_trans h'.le hle), h'.upTo_eq horizon hle]
  · rcases Nat.lt_or_ge horizon m'.instant with hearly | hlate
    · exact h.before horizon hle hearly
    · rw [h.upTo_eq horizon hlate]
      exact h'.before horizon hlate hlt

theorem mono (h : ComesTo p pl n m m') (hle : n ≤ n') : ComesTo p pl n' m m' :=
  ⟨h.le, h.upTo_eq, fun horizon hm hm' =>
    ⟨(h.before horizon hm hm').1, Nat.le_trans (h.before horizon hm hm').2 hle⟩⟩

/-- Two runs that are polled alike. -/
theorem of_poll_eq {t : Nat} {r r' : Run} {s s' : σ} (h : r.poll p pl t s = r'.poll p pl t s') :
    ComesTo p pl n ⟨t, r, s⟩ ⟨t, r', s'⟩ := by
  refine ⟨Nat.le_refl t, fun horizon _ => ?_, fun _ hm hm' => absurd hm (Nat.not_le_of_lt hm')⟩
  rw [Moment.upTo_eq, Moment.upTo_eq]
  simp only [h]

theorem of_unfolds {t : Nat} {r r' : Reception} {events : List Event}
    (h : r.Unfolds pl.settings.retry t events r') (jobs : List EventJob) (s : σ) :
    ComesTo p pl n ⟨t, ⟨r, jobs⟩, s⟩ ⟨t, ⟨r', jobs ++ Run.begun pl t events⟩, s⟩ :=
  of_poll_eq (Run.poll_of_unfolds h jobs s)

theorem of_quiet {t : Nat} {r r' : Reception} (h : r.Unfolds pl.settings.retry t [] r')
    (jobs : List EventJob) (s : σ) : ComesTo p pl n ⟨t, ⟨r, jobs⟩, s⟩ ⟨t, ⟨r', jobs⟩, s⟩ := by
  simpa [Run.begun] using of_unfolds h jobs s

/-- A run that is polled next at an instant. -/
theorem of_wake {t v : Nat} {r r' : Run} {s s' : σ} (hpoll : r.poll p pl t s = (r', s'))
    (hwake : r'.wake? = some v) (hlt : t < v) (hend : r'.end? = none)
    (hsubscriptions : r'.reception.subscriptions ≤ n) :
    ComesTo p pl n ⟨t, r, s⟩ ⟨v, r', s'⟩ := by
  refine ⟨Nat.le_of_lt hlt, fun horizon hle => ?_, fun horizon _ hearly => ?_⟩
  · rw [Moment.upTo_eq]
    simp only [hpoll, hwake]
    rw [if_pos ⟨hlt, hle⟩]
  · rw [Moment.upTo_eq]
    simp only [hpoll, hwake]
    rw [if_neg fun h => absurd h.2 (Nat.not_le_of_lt hearly)]
    exact ⟨hend, hsubscriptions⟩

end ComesTo

/-- A waiting reception is polled at its instant, whatever the jobs do until then. -/
theorem comesTo_waiting {r : Reception} {wake : Nat} (hwake : r.phase.wake? = some wake) {t : Nat}
    (hle : t ≤ wake) {jobs : List EventJob} (hcalm : Run.AreCalm jobs) (s : σ) :
    ∃ jobs' s', Run.AreCalm jobs' ∧
      ComesTo p pl r.subscriptions ⟨t, ⟨r, jobs⟩, s⟩ ⟨wake, ⟨r, jobs'⟩, s'⟩ := by
  induction hwait : wake - t using Nat.strong_induction_on generalizing t jobs s with
  | _ wait ih =>
    rcases Nat.eq_or_lt_of_le hle with rfl | hlt
    · exact ⟨jobs, s, hcalm, .refl _⟩
    · have hpoll : Run.poll p pl t ⟨r, jobs⟩ s = _ := Run.poll_of_waiting hwake hlt hcalm s
      -- the run is polled again when the first job wakes, or the reception
      obtain ⟨v, hv, hvle⟩ := Run.foldl_wake_le (Run.polled p t jobs s) hwake
      have hvlt : t < v := Run.lt_wake_of_polled (by simp [hwake, hlt]) hv
      have hend : (⟨r, Run.polled p t jobs s⟩ : Run).end? = none := by
        rw [Run.end?]
        split
        · rename_i h
          rw [h] at hwake
          cases hwake
        · rfl
      have hnext : ComesTo p pl r.subscriptions ⟨t, ⟨r, jobs⟩, s⟩ ⟨v, _, _⟩ :=
        .of_wake hpoll hv hvlt hend (Nat.le_refl _)
      obtain ⟨jobs', s', hcalm', hcomes⟩ :=
        ih (wake - v) (by omega) hvle (hcalm.polled p t s) (Job.pollAll p t jobs s).2 rfl
      exact ⟨jobs', s', hcalm', hnext.trans hcomes⟩

/-! ## How runs end -/

theorem subscriptions_le_upTo (m : Moment σ) (horizon : Nat) :
    m.run.reception.subscriptions ≤ (m.upTo p pl horizon).1.reception.subscriptions := by
  induction hleft : horizon - m.instant using Nat.strong_induction_on generalizing m with
  | _ left ih =>
    have hpoll : _ ≤ (m.run.poll p pl m.instant m.state).1.reception.subscriptions :=
      m.run.subscriptions_le_poll m.state
    rw [upTo_eq]
    split
    · exact hpoll
    · rename_i wake hwake
      split
      · rename_i hnext
        exact Nat.le_trans hpoll (ih (horizon - wake) (by omega) ⟨wake, _, _⟩ rfl)
      · exact hpoll

theorem upTo_of_ended {t : Nat} {r : Reception} {instant : Nat} {result : RunEnd}
    (h : r.phase = .ended instant result) (jobs : List EventJob) (s : σ) (horizon : Nat) :
    upTo p pl ⟨t, ⟨r, jobs⟩, s⟩ horizon = (⟨r, []⟩, s) := by
  have hwake : (⟨r, []⟩ : Run).wake? = none := by
    rw [Run.wake?, h]
    rfl
  rw [upTo_eq]
  simp only [Run.poll_of_ended h, hwake]

/-- The run finishes at some instant, and does nothing else before. -/
def Finishes (p : Platform σ) (pl : Pipeline) (m : Moment σ) : Prop :=
  ∃ instant, m.instant ≤ instant ∧ ∀ horizon, m.instant ≤ horizon →
    (instant ≤ horizon → (m.upTo p pl horizon).1.end? = some (instant, .finished)) ∧
    (horizon < instant → (m.upTo p pl horizon).1.end? = none) ∧
    (m.upTo p pl horizon).1.reception.subscriptions = m.run.reception.subscriptions

section Draining

variable {t : Nat} {r : Reception} (hphase : r.phase = .draining)
include hphase

/-- A run that waits for its jobs finishes, if it does so once the first of them wake. -/
theorem finishes_of_next {jobs : List EventJob} (hcalm : Run.AreCalm jobs) (s : σ)
    (hnext : ∀ v, t < v → (∃ j ∈ Run.polled p t jobs s, j.IsDue v) →
      Finishes p pl ⟨v, ⟨r, Run.polled p t jobs s⟩, (Job.pollAll p t jobs s).2⟩) :
    Finishes p pl ⟨t, ⟨r, jobs⟩, s⟩ := by
  have hidle : r.poll pl.settings.retry t = ([], r) := by
    rw [Reception.poll, hphase]
  have hpoll : Run.poll p pl t ⟨r, jobs⟩ s =
      (Run.settle t ⟨r, (Job.pollAll p t jobs s).1⟩, (Job.pollAll p t jobs s).2) :=
    Run.poll_of_idle hidle (by simp [hphase]) jobs s
  rw [Run.settle_of_draining (hcalm.pollAll p t s) hphase] at hpoll
  by_cases hpolled : Run.polled p t jobs s = []
  -- all jobs have ended
  · have hnone : ((Job.pollAll p t jobs s).1.filter fun j => j.value?.isNone) = [] := hpolled
    simp only [hnone, List.isEmpty_nil, if_true] at hpoll
    refine ⟨t, Nat.le_refl t, fun horizon hle => ?_⟩
    have hupTo : upTo p pl ⟨t, ⟨r, jobs⟩, s⟩ horizon =
        (⟨{ r with phase := .ended t .finished }, []⟩, (Job.pollAll p t jobs s).2) := by
      rw [upTo_eq]
      simp only [hpoll]
      rfl
    rw [hupTo]
    exact ⟨fun _ => rfl, fun hlt => absurd hle (Nat.not_le_of_lt hlt), rfl⟩
  · rw [if_neg (by rwa [List.isEmpty_iff])] at hpoll
    have hwake : r.phase.wake? = none := by
      rw [hphase]
      rfl
    obtain ⟨v, hv, j, hj, hjv⟩ := Run.exists_wake_of_polled (r := r) hwake hpolled
    have hlt : t < v := Run.lt_wake_of_polled (by simp [hwake]) hv
    have hend : (⟨r, Run.polled p t jobs s⟩ : Run).end? = none := by
      rw [Run.end?, hphase]
    have hcomes := ComesTo.of_wake (n := r.subscriptions) hpoll hv hlt hend (Nat.le_refl _)
    -- the run is polled again when one of the jobs is due
    obtain ⟨instant, hinstant, hfate⟩ := hnext v hlt ⟨j, hj, v, hjv, Nat.le_refl v⟩
    refine ⟨instant, Nat.le_trans (Nat.le_of_lt hlt) hinstant, fun horizon hle => ?_⟩
    rcases Nat.lt_or_ge horizon v with hearly | hlate
    · obtain ⟨hnone, hle'⟩ := hcomes.before horizon hle hearly
      exact ⟨fun h => absurd (Nat.lt_of_lt_of_le hearly hinstant) (Nat.not_lt_of_le h),
        fun _ => hnone, Nat.le_antisymm hle' (subscriptions_le_upTo _ horizon)⟩
    · rw [hcomes.upTo_eq horizon hlate]
      exact hfate horizon hlate

/-- A run that waits for its jobs finishes, since there is less left of them at each instant at
which one of them is due. -/
theorem finishes_of_draining {jobs : List EventJob} (hcalm : Run.AreCalm jobs) (s : σ) :
    Finishes p pl ⟨t, ⟨r, jobs⟩, s⟩ := by
  have hdue : ∀ (M : Multiset (Job.Left (Except Failing (Except MatchViolation Ending)))) (v : Nat)
      (js : List EventJob) (s' : σ), Job.left js = M → Run.AreCalm js → (∃ j ∈ js, j.IsDue v) →
      Finishes p pl ⟨v, ⟨r, js⟩, s'⟩ := by
    intro M
    induction M using Job.wellFounded_less.cutExpand.transGen.induction with
    | _ M ih =>
      intro v js s' hM hcalm' hdue
      refine finishes_of_next hphase hcalm' s' fun v' _ hdue' => ?_
      refine ih _ ?_ v' _ _ rfl (hcalm'.polled p v s') hdue'
      rw [← hM, Run.polled, Job.left_filter_asleep]
      exact (Job.transGen_left_pollAll p v js s').2 hdue
  exact finishes_of_next hphase hcalm s fun v _ h =>
    hdue _ v _ _ rfl (hcalm.polled p t s) h

end Draining

/-- After the last subscription that is provided for, the run goes on in silence. -/
theorem upTo_of_silent {t w : Nat} {retry : Retry} {n : Nat} {jobs : List EventJob}
    (hcalm : Run.AreCalm jobs) (s : σ) (horizon : Nat) :
    (upTo p pl ⟨t, ⟨⟨retry, .listening w .silent, n, []⟩, jobs⟩, s⟩ horizon).1.end? = none ∧
      (upTo p pl ⟨t, ⟨⟨retry, .listening w .silent, n, []⟩, jobs⟩, s⟩
        horizon).1.reception.subscriptions = n := by
  induction hleft : horizon - t using Nat.strong_induction_on generalizing t w jobs s with
  | _ left ih =>
    -- a poll only moves the instant to which the silence is known
    obtain ⟨w', hidle⟩ : ∃ w', Reception.poll pl.settings.retry t
        ⟨retry, .listening w .silent, n, []⟩ = ([], ⟨retry, .listening w' .silent, n, []⟩) := by
      rcases Nat.lt_or_ge t w with hlt | hge
      · exact ⟨w, by simp [Reception.poll, hlt]⟩
      · exact ⟨t, by simp [Reception.poll, Nat.not_lt_of_le hge, Phase.listen, Feed.receive,
          Feed.silent]⟩
    have hpoll := Run.poll_of_idle (p := p) hidle (by simp) jobs s
    rw [Run.settle_of_calm (hcalm.pollAll p t s) (by simp)] at hpoll
    rw [upTo_eq]
    simp only [hpoll]
    split
    · exact ⟨rfl, rfl⟩
    · split
      · rename_i hnext
        exact ih _ (by omega) (hcalm.polled p t s) _ rfl
      · exact ⟨rfl, rfl⟩

end Moment

end ChatCommands
