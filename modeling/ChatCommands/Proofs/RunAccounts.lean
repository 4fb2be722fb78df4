import ChatCommands.Proofs.ReceptionStanding

set_option autoImplicit false

/-!
# Accounts of runs

An account goes along with a run and keeps what the run forgets: the events that have come, the
pauses that have begun, whose jobs are under way, and how those that have ended did
(`Account.poll`). Without its notes it is the run itself (`Account.run_advance`). A poll keeps the
books balanced (`Account.Balanced.poll`): each event of interest is accounted for once, as one that
is processed, under way or dropped, and what is processed ended as its program can.
-/

namespace ChatCommands

open Program (Runs)
open EventStream (eventsOf)

/-- How the processing of an event ends. -/
abbrev EventEnd : Type := Except Failing (Except MatchViolation Ending)

/-- The processing of the event can end so. -/
def Pipeline.CanEnd (pl : Pipeline) (e : Event) (end_ : EventEnd) : Prop :=
  ∃ t, Runs (pl.process e) t end_

/-- A run under way, with what has become of its events. -/
structure Account where
  reception : Reception
  /-- The events that have come, be they of interest or not. -/
  received : List Event
  /-- The seconds of the pauses that have begun. -/
  pauses : List Nat
  /-- The jobs under way, with their events. -/
  underWay : List (Event × EventJob)
  /-- The events whose jobs have ended, with their ends. -/
  processed : List (Event × EventEnd)
  /-- The events whose jobs were dropped with the run. -/
  dropped : List Event

namespace Account

variable {σ : Type}

/-- The account of a run that begins at an instant. -/
def opening (s : RetrySettings) (feeds : List Feed) : Account :=
  ⟨.subscribed (.fresh s) 0 0 feeds, [], [], [], [], []⟩

/-- The run itself. -/
def run (a : Account) : Run := ⟨a.reception, a.underWay.map (·.2)⟩

/-- What comes at an instant is noted, and the events of interest begin as jobs. -/
def hear (pl : Pipeline) (now : Nat) (a : Account) : Account :=
  let (events, reception) := a.reception.poll pl.settings.retry now
  { a with
    reception := reception
    received := a.received ++ events
    pauses := a.pauses ++ a.reception.pausesAt pl.settings.retry now
    underWay := a.underWay ++ (events.filter (·.isInteresting)).map fun e =>
      (e, .asleep [] now (pl.process e)) }

/-- The jobs under way are dropped. -/
def drop (a : Account) : Account :=
  { a with underWay := [], dropped := a.dropped ++ a.underWay.map (·.1) }

/-- The run ends at an instant, without its jobs. -/
def endedWith (now : Nat) (result : RunEnd) (a : Account) : Account :=
  { a.drop with reception := { a.reception with phase := .ended now result } }

/-- The jobs that have ended are noted. -/
def collect (a : Account) : Account :=
  { a with
    underWay := a.underWay.filter (·.2.value?.isNone)
    processed := a.processed ++ a.underWay.filterMap fun x => x.2.value?.map (x.1, ·) }

/-- The jobs that have ended are settled. -/
def settle (now : Nat) (a : Account) : Account :=
  match (a.underWay.map (·.2)).findSome? EventJob.violation? with
  | some v => a.collect.endedWith now (.matchViolation v)
  | none =>
    match a.reception.phase with
    | .draining =>
      if a.collect.underWay.isEmpty then a.collect.endedWith now .finished else a.collect
    | _ => a.collect

/-- Jobs at an instant, one after the other, with their events. -/
def pollEach (p : Platform σ) (now : Nat) :
    List (Event × EventJob) → σ → List (Event × EventJob) × σ
  | [], s => ([], s)
  | (e, j) :: xs, s =>
    let (j, s) := j.poll p now s
    let (xs, s) := pollEach p now xs s
    ((e, j) :: xs, s)

/-- The account at an instant. -/
def poll (p : Platform σ) (pl : Pipeline) (now : Nat) (a : Account) (s : σ) : Account × σ :=
  let a := a.hear pl now
  match a.reception.phase with
  | .ended .. => (a.drop, s)
  | _ =>
    let (underWay, s) := pollEach p now a.underWay s
    ({ a with underWay := underWay }.settle now, s)

/-- The account from one instant up to another, that one included. -/
def advance (p : Platform σ) (pl : Pipeline) (now horizon : Nat) (a : Account) (s : σ) :
    Account × σ :=
  let (a, s) := a.poll p pl now s
  match a.run.wake? with
  | none => (a, s)
  | some wake =>
    if now < wake ∧ wake ≤ horizon then a.advance p pl wake horizon s else (a, s)
termination_by horizon - now

/-! ## The run of an account -/

/-- The jobs are polled as without the account; the events only stand beside them. -/
theorem pollAll_eq_pollEach (p : Platform σ) (now : Nat) (xs : List (Event × EventJob)) (s : σ) :
    Job.pollAll p now (xs.map (·.2)) s =
      ((pollEach p now xs s).1.map (·.2), (pollEach p now xs s).2) := by
  induction xs generalizing s with
  | nil => rfl
  | cons x xs ih => simp only [List.map_cons, Job.pollAll, pollEach, ih]

theorem pollEach_fst (p : Platform σ) (now : Nat) (xs : List (Event × EventJob)) (s : σ) :
    (pollEach p now xs s).1.map (·.1) = xs.map (·.1) := by
  induction xs generalizing s with
  | nil => rfl
  | cons x xs ih => exact congrArg (x.1 :: ·) (ih (x.2.poll p now s).2)

/-- The jobs that have ended and those under way are all of them. -/
theorem map_fst_perm (xs : List (Event × EventJob)) :
    ((xs.filterMap fun x => x.2.value?.map (x.1, ·)).map (·.1) ++
      (xs.filter (·.2.value?.isNone)).map (·.1)).Perm (xs.map (·.1)) := by
  induction xs with
  | nil => exact .nil
  | cons x xs ih =>
    obtain ⟨e, j⟩ := x
    cases j with
    | ended end_ => exact ih.cons e
    | asleep => exact List.perm_middle.trans (ih.cons e)

theorem forall_pollEach {good : Event → EventEnd → Prop} {p : Platform σ} {now : Nat}
    {xs : List (Event × EventJob)} (h : ∀ x ∈ xs, x.2.EndsIn (good x.1)) (s : σ) :
    ∀ x ∈ (pollEach p now xs s).1, x.2.EndsIn (good x.1) := by
  induction xs generalizing s with
  | nil => exact fun x hx => absurd hx List.not_mem_nil
  | cons x xs ih =>
    intro y hy
    rcases List.mem_cons.1 hy with rfl | hy
    · exact (h x List.mem_cons_self).poll p now s
    · exact ih (fun z hz => h z (List.mem_cons_of_mem x hz)) _ y hy

theorem run_collect (a : Account) :
    a.collect.run = ⟨a.reception, (a.underWay.map (·.2)).filter fun j => j.value?.isNone⟩ := by
  rw [run, collect, List.filter_map]
  rfl

/-- The run of an account settles as a run does. -/
theorem run_settle (now : Nat) (a : Account) : (a.settle now).run = a.run.settle now := by
  have hcollect := a.run_collect
  rw [settle, Run.settle]
  simp only [show a.run.jobs = a.underWay.map (·.2) from rfl]
  cases (a.underWay.map (·.2)).findSome? EventJob.violation? with
  | some v => rfl
  | none =>
    -- a draining run finishes when no job is left, with or without its event
    have hempty : a.collect.underWay.isEmpty =
        ((a.underWay.map (·.2)).filter fun j => j.value?.isNone).isEmpty := by
      rw [← List.isEmpty_map (f := Prod.snd)]
      exact congrArg (fun r => r.jobs.isEmpty) hcollect
    simp only [show a.run.reception = a.reception from rfl]
    cases hphase : a.reception.phase with
    | draining =>
      simp only [hempty]
      split
      · rfl
      · exact hcollect
    | listening => exact hcollect
    | pausing => exact hcollect
    | ended => exact hcollect

/-- The run of an account is polled as a run is: to keep account changes nothing. -/
theorem run_poll (p : Platform σ) (pl : Pipeline) (now : Nat) (a : Account) (s : σ) :
    a.run.poll p pl now s = ((a.poll p pl now s).1.run, (a.poll p pl now s).2) := by
  have hjobs : (a.hear pl now).underWay.map (·.2) = a.run.jobs ++
      ((a.reception.poll pl.settings.retry now).1.filter (·.isInteresting)).map fun e =>
        Job.asleep [] now (pl.process e) := by
    simp [hear, run]
  have hpolled := pollAll_eq_pollEach p now (a.hear pl now).underWay s
  rw [hjobs] at hpolled
  have hreception : (a.hear pl now).reception = (a.reception.poll pl.settings.retry now).2 := rfl
  rw [Run.poll, poll]
  simp only [show a.run.reception = a.reception from rfl, hreception, hpolled]
  cases hphase : (a.reception.poll pl.settings.retry now).2.phase with
  | ended => rfl
  | listening => simp only [run_settle]; rfl
  | pausing => simp only [run_settle]; rfl
  | draining => simp only [run_settle]; rfl

/-- Without its notes an account is the run itself, and so is the state of the platform. -/
theorem run_advance (p : Platform σ) (pl : Pipeline) (now horizon : Nat) (a : Account) (s : σ) :
    a.run.advance p pl now horizon s =
      ((a.advance p pl now horizon s).1.run, (a.advance p pl now horizon s).2) := by
  induction hleft : horizon - now using Nat.strong_induction_on generalizing now a s with
  | _ left ih =>
    rw [advance, Run.advance, run_poll]
    dsimp only
    cases (a.poll p pl now s).1.run.wake? with
    | none => rfl
    | some wake =>
      dsimp only
      split
      · rename_i hnext
        exact ih (horizon - wake) (by omega) wake _ _ rfl
      · rfl

/-! ## Balanced books -/

/-- The books are balanced: each event of interest is accounted for once, and jobs end as the
processing of their events can. -/
structure Balanced (pl : Pipeline) (streams : List EventStream) (a : Account) : Prop where
  stands : a.reception.Stands pl.settings.retry streams a.received a.pauses
  tally : (a.processed.map (·.1) ++ a.underWay.map (·.1) ++ a.dropped).Perm
    (a.received.filter (·.isInteresting))
  underWay : ∀ x ∈ a.underWay, x.2.EndsIn (pl.CanEnd x.1)
  processed : ∀ x ∈ a.processed, pl.CanEnd x.1 x.2

/-- What is left of the jobs, by what the run is about: nothing after its end, and none is dropped
before it; a run that has finished has dropped none, and a violated match is that of an event. -/
def Settled (a : Account) : Prop :=
  match a.reception.phase with
  | .ended _ .finished => a.underWay = [] ∧ a.dropped = []
  | .ended _ (.matchViolation v) => a.underWay = [] ∧ ∃ e, (e, .ok (.error v)) ∈ a.processed
  | .ended _ _ => a.underWay = []
  | _ => a.dropped = []

variable {p : Platform σ} {pl : Pipeline} {streams : List EventStream} {a : Account} {now : Nat}

namespace Balanced

/-- An event that is heard goes onto the books, as one under way. -/
theorem hear (h : a.Balanced pl streams) (now : Nat) : (a.hear pl now).Balanced pl streams := by
  refine ⟨h.stands.poll now, ?_, ?_, h.processed⟩
  -- what begins as jobs is what has come and is of interest
  · let begun := (a.reception.poll pl.settings.retry now).1.filter (·.isInteresting)
    have hunderWay : (a.hear pl now).underWay.map (·.1) = a.underWay.map (·.1) ++ begun := by
      simp [Account.hear, begun, Function.comp_def]
    have hreceived : (a.hear pl now).received.filter (·.isInteresting) =
        a.received.filter (·.isInteresting) ++ begun := List.filter_append ..
    rw [hunderWay, hreceived]
    calc a.processed.map (·.1) ++ (a.underWay.map (·.1) ++ begun) ++ a.dropped
        = a.processed.map (·.1) ++ a.underWay.map (·.1) ++ (begun ++ a.dropped) := by
          simp only [List.append_assoc]
      List.Perm _ (a.processed.map (·.1) ++ a.underWay.map (·.1) ++ (a.dropped ++ begun)) :=
          List.perm_append_comm.append_left _
      _ = a.processed.map (·.1) ++ a.underWay.map (·.1) ++ a.dropped ++ begun := by
          simp only [List.append_assoc]
      List.Perm _ (a.received.filter (·.isInteresting) ++ begun) := h.tally.append_right _
  · intro x hx
    rcases List.mem_append.1 hx with hx | hx
    · exact h.underWay x hx
    · obtain ⟨e, -, rfl⟩ := List.mem_map.1 hx
      exact fun t end_ ht => ⟨t, ht⟩

/-- An event that is dropped stays on the books. -/
theorem drop (h : a.Balanced pl streams) : a.drop.Balanced pl streams := by
  refine ⟨h.stands, ?_, fun x hx => absurd hx List.not_mem_nil, h.processed⟩
  have hmoved : (a.processed.map (·.1) ++ (a.dropped ++ a.underWay.map (·.1))).Perm
      (a.processed.map (·.1) ++ (a.underWay.map (·.1) ++ a.dropped)) :=
    List.perm_append_comm.append_left _
  rw [← List.append_assoc _ (a.underWay.map (·.1))] at hmoved
  simpa [Account.drop] using hmoved.trans h.tally

/-- A job that has ended takes its event from those under way to those told. -/
theorem collect (h : a.Balanced pl streams) : a.collect.Balanced pl streams := by
  refine ⟨h.stands, ?_, fun x hx => h.underWay x (List.mem_of_mem_filter hx), ?_⟩
  · refine List.Perm.trans ?_ h.tally
    have hcut := map_fst_perm a.underWay
    simpa [Account.collect, List.append_assoc] using
      (hcut.append_right a.dropped).append_left (a.processed.map (·.1))
  · intro x hx
    rcases List.mem_append.1 hx with hx | hx
    · exact h.processed x hx
    · obtain ⟨⟨e, j⟩, hj, hvalue⟩ := List.mem_filterMap.1 hx
      obtain ⟨end_, hend, rfl⟩ := Option.map_eq_some_iff.1 hvalue
      have hcan := h.underWay _ hj
      -- for a job that has ended, to end as it can is to have ended so
      cases j with
      | ended v =>
        obtain rfl := Option.some.inj hend
        exact hcan
      | asleep => cases hend

/-- The jobs go on. -/
theorem pollEach (h : a.Balanced pl streams) (p : Platform σ) (now : Nat) (s : σ) :
    { a with underWay := (Account.pollEach p now a.underWay s).1 : Account }.Balanced pl
      streams := by
  refine ⟨h.stands, ?_, ?_, h.processed⟩
  · simpa only [pollEach_fst] using h.tally
  · exact forall_pollEach h.underWay s

theorem settle (h : a.Balanced pl streams) (now : Nat) : (a.settle now).Balanced pl streams := by
  have hcollect := h.collect
  rw [Account.settle]
  -- the run may end, by an event or since it waited for the jobs
  split
  · exact ⟨hcollect.stands.violates _ now, hcollect.drop.tally, hcollect.drop.underWay,
      hcollect.processed⟩
  · split
    · rename_i hphase
      split
      · exact ⟨hcollect.stands.finishes hphase now, hcollect.drop.tally, hcollect.drop.underWay,
          hcollect.processed⟩
      · exact hcollect
    · exact hcollect

theorem poll (h : a.Balanced pl streams) (p : Platform σ) (now : Nat) (s : σ) :
    (a.poll p pl now s).1.Balanced pl streams := by
  have hheard := h.hear now
  rw [Account.poll]
  dsimp only
  split
  · exact hheard.drop
  · exact (hheard.pollEach p now s).settle now

end Balanced

/-! ## The end of a run -/

/-- A violation is that of some event whose job has ended. -/
theorem exists_violated {xs : List (Event × EventJob)} {v : MatchViolation}
    (h : (xs.map (·.2)).findSome? EventJob.violation? = some v) :
    ∃ e, (e, .ok (.error v)) ∈ xs.filterMap fun x => x.2.value?.map (x.1, ·) := by
  obtain ⟨j, hj, hviolation⟩ := List.exists_of_findSome?_eq_some h
  obtain ⟨⟨e, j⟩, hx, rfl⟩ := List.mem_map.1 hj
  refine ⟨e, List.mem_filterMap.2 ⟨_, hx, ?_⟩⟩
  rw [EventJob.violation?] at hviolation
  split at hviolation
  · rename_i hvalue
    cases hviolation
    rw [hvalue]
    rfl
  · cases hviolation

theorem settled_iff_of_going (hgoing : ∀ t result, a.reception.phase ≠ .ended t result) :
    a.Settled ↔ a.dropped = [] := by
  rw [Settled]
  split
  · rename_i h
    exact absurd h (hgoing _ _)
  · rename_i h
    exact absurd h (hgoing _ _)
  · rename_i h
    exact absurd h (hgoing _ _)
  · exact Iff.rfl

theorem settled_of_source {t : Nat} {result : RunEnd} (hphase : a.reception.phase = .ended t result)
    (hsource : result.isOfSource = true) (hidle : a.underWay = []) : a.Settled := by
  simp only [Settled, hphase]
  cases result with
  | finished => cases hsource
  | matchViolation v => cases hsource
  | _ => exact hidle

theorem settled_settle (hdropped : a.dropped = [])
    (hgoing : ∀ t result, a.reception.phase ≠ .ended t result) (now : Nat) :
    (a.settle now).Settled := by
  have hcollect : a.collect.Settled := (settled_iff_of_going (a := a.collect) hgoing).2 hdropped
  rw [settle]
  split
  · rename_i v hviolation
    obtain ⟨e, he⟩ := exists_violated hviolation
    exact ⟨rfl, e, List.mem_append_right _ he⟩
  · split
    · split
      -- nothing is under way, so nothing is dropped
      · rename_i hempty
        have hdrop : a.collect.drop.dropped = [] := by
          rw [drop, List.isEmpty_iff.1 hempty]
          exact List.append_eq_nil_iff.2 ⟨hdropped, rfl⟩
        exact ⟨rfl, hdrop⟩
      · exact hcollect
    · exact hcollect

/-- After its end an account stays as it is. -/
theorem Settled.poll_of_ended (h : a.Settled) {t : Nat} {result : RunEnd}
    (hphase : a.reception.phase = .ended t result) (p : Platform σ) (pl : Pipeline) (now : Nat)
    (s : σ) : a.poll p pl now s = (a, s) := by
  have hidle : a.underWay = [] := by
    simp only [Settled, hphase] at h
    cases result with
    | finished => exact h.1
    | matchViolation v => exact h.1
    | _ => exact h
  have hheard : a.hear pl now = a := by
    simp [hear, Reception.poll, Reception.pausesAt, hphase]
  have hdrop : a.drop = a := by
    rw [drop, hidle, List.map_nil, List.append_nil]
    exact congrArg (fun xs => { a with underWay := xs }) hidle.symm
  rw [Account.poll, hheard, hphase]
  exact congrArg (·, s) hdrop

theorem Settled.poll (h : a.Settled) (p : Platform σ) (pl : Pipeline) (now : Nat) (s : σ) :
    (a.poll p pl now s).1.Settled := by
  by_cases hended : ∃ t result, a.reception.phase = .ended t result
  · obtain ⟨t, result, hphase⟩ := hended
    rwa [h.poll_of_ended hphase]
  · simp only [not_exists] at hended
    have hdropped : (a.hear pl now).dropped = [] := (settled_iff_of_going hended).1 h
    -- a run that goes on may be ended by the source, or by its jobs
    rw [Account.poll]
    dsimp only
    split
    · rename_i t result hphase
      exact settled_of_source hphase (Reception.isOfSource_of_poll hended hphase) rfl
    · rename_i hgoing
      let polled : Account :=
        { a.hear pl now with underWay := (pollEach p now (a.hear pl now).underWay s).1 }
      exact settled_settle (a := polled) hdropped hgoing now

/-! ## Accounts of whole runs -/

/-- What every poll keeps is kept from one instant up to another. -/
theorem advance_induction {P : Account → Prop} {horizon : Nat}
    (hpoll : ∀ a now s, P a → P (a.poll p pl now s).1) (now : Nat) (a : Account) (s : σ) (h : P a) :
    P (a.advance p pl now horizon s).1 := by
  induction hleft : horizon - now using Nat.strong_induction_on generalizing now a s with
  | _ left ih =>
    rw [advance]
    dsimp only
    split
    · exact hpoll a now s h
    · rename_i wake _
      split
      · rename_i hnext
        exact ih (horizon - wake) (by omega) wake _ _ (hpoll a now s h) rfl
      · exact hpoll a now s h

theorem balanced_opening (pl : Pipeline) (streams : List EventStream) :
    (opening pl.settings.retry (streams.map EventStream.feed)).Balanced pl streams where
  stands := Reception.Stands.subscribed (i := 0) (Retry.counts_fresh _) 0
  tally := .nil
  underWay := fun _ hx => absurd hx List.not_mem_nil
  processed := fun _ hx => absurd hx List.not_mem_nil

theorem settled_opening (s : RetrySettings) (feeds : List Feed) : (opening s feeds).Settled := by
  cases feeds <;> rfl

end Account

/-- The account of the run on the streams up to a deadline, with the state of the platform. -/
def account {σ : Type} (p : Platform σ) (pl : Pipeline) (streams : List EventStream) (s : σ)
    (deadline : Nat) : Account × σ :=
  (Account.opening pl.settings.retry (streams.map EventStream.feed)).advance p pl 0 deadline s

section Streams

variable {σ : Type} (p : Platform σ) (pl : Pipeline) (streams : List EventStream) (s : σ)
  (deadline : Nat)

theorem balanced_account : (account p pl streams s deadline).1.Balanced pl streams :=
  Account.advance_induction (fun _ now s h => h.poll p now s) 0 _ s
    (Account.balanced_opening pl streams)

theorem settled_account : (account p pl streams s deadline).1.Settled :=
  Account.advance_induction (fun _ now s h => h.poll p pl now s) 0 _ s (Account.settled_opening _ _)

variable {p pl streams s deadline}

/-- A run that finishes has processed every event of interest, each of them once. -/
theorem perm_of_finished {t : Nat}
    (h : (account p pl streams s deadline).1.reception.phase = .ended t .finished) :
    ((account p pl streams s deadline).1.processed.map (·.1)).Perm
      ((eventsOf streams (account p pl streams s deadline).1.reception.subscriptions).filter
        (·.isInteresting)) := by
  have hbalanced := balanced_account p pl streams s deadline
  have hsettled := settled_account p pl streams s deadline
  simp only [Account.Settled, h] at hsettled
  obtain ⟨hunderWay, hdropped⟩ := hsettled
  have htally := hbalanced.tally
  rw [hunderWay, hdropped, hbalanced.stands.received_of_finished h] at htally
  simpa using htally

/-- What is processed has come, and is of interest. -/
theorem mem_received_of_processed {x : Event × EventEnd}
    (hx : x ∈ (account p pl streams s deadline).1.processed) :
    x.1 ∈ (account p pl streams s deadline).1.received ∧ x.1.isInteresting = true := by
  have htally := (balanced_account p pl streams s deadline).tally
  have hmem : x.1 ∈ (account p pl streams s deadline).1.processed.map (·.1) :=
    List.mem_map_of_mem hx
  exact List.mem_filter.1
    (htally.mem_iff.1 (List.mem_append_left _ (List.mem_append_left _ hmem)))

/-- A run that an event ends has received an event of interest that halts the pipeline. -/
theorem exists_halting_of_violated {t : Nat} {v : MatchViolation}
    (h : (account p pl streams s deadline).1.reception.phase = .ended t (.matchViolation v)) :
    ∃ e ∈ (account p pl streams s deadline).1.received, e.isInteresting = true ∧ pl.halts e = true ∧
      pl.violation? e = some v := by
  have hsettled := settled_account p pl streams s deadline
  simp only [Account.Settled, h] at hsettled
  obtain ⟨-, e, he⟩ := hsettled
  obtain ⟨hreceived, hinteresting⟩ := mem_received_of_processed he
  obtain ⟨u, hu⟩ := (balanced_account p pl streams s deadline).processed _ he
  obtain ⟨hhalts, hviolation⟩ := Pipeline.halts_of_runs hu
  exact ⟨e, hreceived, hinteresting, hhalts, hviolation⟩

end Streams

end ChatCommands
