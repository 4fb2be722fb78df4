import ChatCommands.Console.Output
import ChatCommands.Proofs.ReceptionStanding

set_option autoImplicit false

/-!
# The law of retries

When each stream of a source is subscribed to, and how the run ends. A run that has just subscribed
to a stream with the faults before it counted (`Begins`) plays the stream until it closes, and then
ends or pauses and begins with the next stream (`Begins.next`). As a run begins with the first
stream, what is seen of it under any deadline is settled: `retries_follow_law`.
-/

namespace ChatCommands

section Law

variable {σ : Type} {p : Platform σ} {pl : Pipeline}

/-- Events that the source wants processed do not halt the pipeline. -/
def Pipeline.GoesOn (pl : Pipeline) (events : List Event) : Prop :=
  ∀ e ∈ events, e.isInteresting = true → pl.halts e = false

theorem Pipeline.calm_of_runs {e : Event} (hgoes : pl.halts e = false)
    {t : List (Program.Exchange Request Request.Answer)}
    {ending : Except Failing (Except MatchViolation Ending)}
    (h : Program.Runs (pl.process e) t ending) : EventJob.Calm ending := by
  cases ending with
  | error f => rfl
  | ok result =>
    cases result with
    | ok ending => rfl
    | error v =>
      obtain ⟨hhalts, -⟩ := Pipeline.halts_of_runs h
      exact absurd hhalts (by simp [hgoes])

theorem Run.AreCalm.begun {jobs : List EventJob} (h : Run.AreCalm jobs) {events : List Event}
    (hgoes : pl.GoesOn events) (now : Nat) : Run.AreCalm (jobs ++ Run.begun pl now events) := by
  intro j hj
  rcases List.mem_append.1 hj with hj | hj
  · exact h j hj
  · obtain ⟨e, he, rfl⟩ := List.mem_map.1 hj
    obtain ⟨hmem, hwanted⟩ := List.mem_filter.1 he
    exact fun t ending => Pipeline.calm_of_runs (hgoes e hmem hwanted)

/-- A stream is played until it closes: its silences have passed, and its events have reset the
retries. -/
theorem Moment.comesTo_closing (delivered : List Delivery) (closing : List FeedItem)
    (hgoes : pl.GoesOn (delivered.filterMap Delivery.event?)) (retry : Retry) (n t : Nat)
    (upcoming : List Feed) {jobs : List EventJob} (hcalm : Run.AreCalm jobs) (s : σ) :
    ∃ jobs' s', Run.AreCalm jobs' ∧
      Moment.ComesTo p pl n
        ⟨t, ⟨⟨retry, .listening t ⟨delivered.map Delivery.item ++ closing, false⟩, n, upcoming⟩,
          jobs⟩, s⟩
        ⟨t + (delivered.map Delivery.ms).sum,
          ⟨⟨if delivered.filterMap Delivery.event? = [] then retry else .fresh pl.settings.retry,
            .listening (t + (delivered.map Delivery.ms).sum) ⟨closing, false⟩, n, upcoming⟩, jobs'⟩,
          s'⟩ := by
  induction delivered generalizing retry t jobs s with
  | nil => exact ⟨jobs, s, hcalm, .refl _⟩
  | cons d delivered ih =>
    cases d with
    | event e =>
      have hrest : pl.GoesOn (delivered.filterMap Delivery.event?) := fun e' he' =>
        hgoes e' (List.mem_cons_of_mem e he')
      have hfirst : pl.GoesOn [e] := fun e' he' =>
        hgoes e' (List.mem_singleton.1 he' ▸ List.mem_cons_self)
      have hevent : Reception.Unfolds pl.settings.retry t
          ⟨retry, .listening t ⟨.event e :: (delivered.map Delivery.item ++ closing), false⟩, n,
            upcoming⟩ [e] ⟨.fresh pl.settings.retry,
              .listening t ⟨delivered.map Delivery.item ++ closing, false⟩, n, upcoming⟩ :=
        Reception.unfolds_event e
      obtain ⟨jobs', s', hcalm', hcomes⟩ :=
        ih hrest (.fresh pl.settings.retry) t (hcalm.begun hfirst t) s
      -- whatever follows, the retries are fresh
      rw [ite_self] at hcomes
      refine ⟨jobs', s', hcalm', ?_⟩
      simpa [Delivery.item, Delivery.event?, Delivery.ms] using
        (ComesTo.of_unfolds hevent jobs s).trans hcomes
    | silence ms =>
      have hwait : Reception.Unfolds pl.settings.retry t
          ⟨retry, .listening t ⟨.wait ms :: (delivered.map Delivery.item ++ closing), false⟩, n,
            upcoming⟩ []
          ⟨retry, .listening (t + ms) ⟨delivered.map Delivery.item ++ closing, false⟩, n,
            upcoming⟩ :=
        Reception.unfolds_wait ms
      obtain ⟨jobs₁, s₁, hcalm₁, hsilence⟩ := comesTo_waiting (p := p)
        (r := ⟨retry, .listening (t + ms) ⟨delivered.map Delivery.item ++ closing, false⟩, n,
          upcoming⟩) (by simp [Phase.wake?]) (Nat.le_add_right t ms) hcalm s
      obtain ⟨jobs', s', hcalm', hcomes⟩ := ih hgoes retry (t + ms) hcalm₁ s₁
      refine ⟨jobs', s', hcalm', ?_⟩
      simpa [Delivery.item, Delivery.event?, Delivery.ms, Nat.add_assoc] using
        ((ComesTo.of_quiet hwait jobs s).trans hsilence).trans hcomes

/-! ## What is seen of a run -/

/-- Whatever the deadline, the source is subscribed to once more, after `count` subscriptions, at
the instant and not before. -/
def SubscribesAt (report : Nat → RunReport σ) (count instant : Nat) : Prop :=
  ∀ deadline, count < (report deadline).subscriptions ↔ instant ≤ deadline

/-- Whatever the deadline, the run ends at the instant and not before, with so many
subscriptions. -/
structure EndsAt (report : Nat → RunReport σ) (subscriptions instant : Nat) (result : RunEnd) :
    Prop where
  before : ∀ deadline, deadline < instant →
    (report deadline).result = none ∧ (report deadline).subscriptions ≤ subscriptions
  since : ∀ deadline, instant ≤ deadline → (report deadline).result = some result ∧
    (report deadline).elapsed = instant ∧ (report deadline).subscriptions = subscriptions

theorem EndsAt.subscriptions_le {report : Nat → RunReport σ} {n t : Nat} {result : RunEnd}
    (h : EndsAt report n t result) (deadline : Nat) : (report deadline).subscriptions ≤ n := by
  rcases Nat.lt_or_ge deadline t with hearly | hlate
  · exact (h.before deadline hearly).2
  · exact Nat.le_of_eq (h.since deadline hlate).2.2

/-- A run is subscribed to a stream at one instant at most. -/
theorem SubscribesAt.instant_eq {report : Nat → RunReport σ} {n t t' : Nat}
    (h : SubscribesAt report n t) (h' : SubscribesAt report n t') : t = t' :=
  Nat.le_antisymm ((h t').1 ((h' t').2 (Nat.le_refl t'))) ((h' t).1 ((h t).2 (Nat.le_refl t)))

variable {streams : List EventStream} {s : σ}

/-- The reports of the runs on the streams, by their deadlines. -/
def reports (p : Platform σ) (pl : Pipeline) (streams : List EventStream) (s : σ) (deadline : Nat) :
    RunReport σ :=
  pl.run p (streams.map EventStream.feed) none deadline s

/-- The beginning of the runs on the streams. -/
def opening (pl : Pipeline) (streams : List EventStream) (s : σ) : Moment σ :=
  ⟨0, ⟨.subscribed (.fresh pl.settings.retry) 0 0 (streams.map EventStream.feed), []⟩, s⟩

theorem reports_eq (p : Platform σ) (pl : Pipeline) (streams : List EventStream) (s : σ)
    (deadline : Nat) :
    (reports p pl streams s deadline).result =
        (((opening pl streams s).upTo p pl deadline).1.end?).map (·.2) ∧
      (reports p pl streams s deadline).elapsed =
        ((((opening pl streams s).upTo p pl deadline).1.end?).map (·.1)).getD deadline ∧
      (reports p pl streams s deadline).subscriptions =
        ((opening pl streams s).upTo p pl deadline).1.reception.subscriptions := by
  have hstart : Run.start pl.settings.retry 0 0 (streams.map EventStream.feed) =
      (opening pl streams s).run := by
    cases streams <;> rfl
  have hrun : (Run.start pl.settings.retry 0 0 (streams.map EventStream.feed)).advance p pl 0
      (min deadline deadline) s = (opening pl streams s).upTo p pl deadline := by
    rw [hstart, Nat.min_self]
    rfl
  simp only [reports, Pipeline.run, Option.map_none, Option.getD_none, Option.filter_none, hrun]
  cases ((opening pl streams s).upTo p pl deadline).1.end? <;> simp

namespace Moment.ComesTo

/-- A run that comes to a moment at which it has ended. -/
theorem endsAt {n t : Nat} {r : Reception} {jobs : List EventJob} {s' : σ} {result : RunEnd}
    (h : ComesTo p pl n (opening pl streams s) ⟨t, ⟨r, jobs⟩, s'⟩)
    (hphase : r.phase = .ended t result)
    (hn : r.subscriptions = n) : EndsAt (reports p pl streams s) n t result := by
  refine ⟨fun deadline hlt => ?_, fun deadline hle => ?_⟩
  · obtain ⟨hresult, -, hsubscriptions⟩ := reports_eq p pl streams s deadline
    obtain ⟨hnone, hle⟩ := h.before deadline (Nat.zero_le _) hlt
    rw [hresult, hsubscriptions, hnone]
    exact ⟨rfl, hle⟩
  · obtain ⟨hresult, helapsed, hsubscriptions⟩ := reports_eq p pl streams s deadline
    have hend : (⟨r, []⟩ : Run).end? = some (t, result) := by
      rw [Run.end?, hphase]
    rw [hresult, helapsed, hsubscriptions, h.upTo_eq deadline hle, upTo_of_ended hphase, hend]
    exact ⟨rfl, rfl, hn⟩

/-- A run that comes to a moment from which on it finishes. -/
theorem endsAt_of_finishes {n : Nat} {m : Moment σ} (h : ComesTo p pl n (opening pl streams s) m)
    (hfinishes : Finishes p pl m) (hn : m.run.reception.subscriptions = n) :
    ∃ t, m.instant ≤ t ∧ EndsAt (reports p pl streams s) n t .finished := by
  obtain ⟨t, hle, hfate⟩ := hfinishes
  refine ⟨t, hle, fun deadline hlt => ?_, fun deadline hlate => ?_⟩
  · obtain ⟨hresult, -, hsubscriptions⟩ := reports_eq p pl streams s deadline
    rw [hresult, hsubscriptions]
    rcases Nat.lt_or_ge deadline m.instant with hearly | hdeadline
    · obtain ⟨hnone, hle⟩ := h.before deadline (Nat.zero_le _) hearly
      rw [hnone]
      exact ⟨rfl, hle⟩
    · obtain ⟨-, hnone, hsame⟩ := hfate deadline hdeadline
      rw [h.upTo_eq deadline hdeadline, hnone hlt, hsame, hn]
      exact ⟨rfl, Nat.le_refl n⟩
  · obtain ⟨hresult, helapsed, hsubscriptions⟩ := reports_eq p pl streams s deadline
    have hdeadline := Nat.le_trans hle hlate
    obtain ⟨hend, -, hsame⟩ := hfate deadline hdeadline
    rw [hresult, helapsed, hsubscriptions, h.upTo_eq deadline hdeadline, hend hlate, hsame, hn]
    exact ⟨rfl, rfl, rfl⟩

/-- A run that comes to a moment just after the source was subscribed to. -/
theorem subscribesAt {n : Nat} {m : Moment σ} (h : ComesTo p pl n (opening pl streams s) m)
    (hn : m.run.reception.subscriptions = n + 1) :
    SubscribesAt (reports p pl streams s) n m.instant := by
  intro deadline
  obtain ⟨-, -, hsubscriptions⟩ := reports_eq p pl streams s deadline
  rw [hsubscriptions]
  constructor
  · intro hlt
    by_contra hearly
    exact absurd hlt
      (Nat.not_lt_of_le (h.before deadline (Nat.zero_le _) (Nat.lt_of_not_le hearly)).2)
  · intro hle
    rw [h.upTo_eq deadline hle, Nat.lt_iff_add_one_le, ← hn]
    exact subscriptions_le_upTo m deadline

end Moment.ComesTo

/-! ## From one stream to the next -/

/-- The run comes to subscribe to the stream at a place, at an instant: the faults before it are
counted, and there are no more of them than the settings allow. -/
def Begins (p : Platform σ) (pl : Pipeline) (streams : List EventStream) (s : σ) (i t : Nat) :
    Prop :=
  ∃ retry jobs s', Run.AreCalm jobs ∧
    retry.Counts pl.settings.retry (faultsInRow (streams.take i)) ∧
    faultsInRow (streams.take i) ≤ pl.settings.retry.maxAttempts.toNat ∧
    Moment.ComesTo p pl i (opening pl streams s)
      ⟨t, ⟨.subscribed retry t i ((streams.drop i).map EventStream.feed), jobs⟩, s'⟩

theorem begins_zero : Begins p pl streams s 0 0 :=
  ⟨.fresh pl.settings.retry, [], s, by simp [Run.AreCalm], Retry.counts_fresh _, Nat.zero_le _,
    .refl _⟩

theorem Reception.subscriptions_subscribed (retry : Retry) (now n : Nat) (feeds : List Feed) :
    (subscribed retry now n feeds).subscriptions = n + 1 := by
  cases feeds <;> rfl

namespace Begins

variable {i t : Nat}

theorem subscribesAt (h : Begins p pl streams s i t) :
    SubscribesAt (reports p pl streams s) i t := by
  obtain ⟨retry, jobs, s', -, -, -, hcomes⟩ := h
  exact hcomes.subscribesAt (Reception.subscriptions_subscribed _ _ _ _)

/-- After the streams that there are, the source stays silent. -/
theorem silent (h : Begins p pl streams s i t) (hsilent : streams[i]? = none) (deadline : Nat) :
    (reports p pl streams s deadline).result = none ∧
      (reports p pl streams s deadline).subscriptions ≤ i + 1 := by
  obtain ⟨retry, jobs, s', hcalm, -, -, hcomes⟩ := h
  obtain ⟨hresult, -, hsubscriptions⟩ := reports_eq p pl streams s deadline
  rw [List.drop_eq_nil_of_le (List.getElem?_eq_none_iff.1 hsilent)] at hcomes
  rw [hresult, hsubscriptions]
  rcases Nat.lt_or_ge deadline t with hearly | hlate
  · obtain ⟨hnone, hle⟩ := hcomes.before deadline (Nat.zero_le _) hearly
    rw [hnone]
    exact ⟨rfl, Nat.le_succ_of_le hle⟩
  · rw [hcomes.upTo_eq deadline hlate]
    refine ⟨?_, ?_⟩
    · exact congrArg (Option.map (·.2)) (Moment.upTo_of_silent hcalm s' deadline).1
    · exact Nat.le_of_eq (Moment.upTo_of_silent hcalm s' deadline).2

/-- The stream is played until it closes. -/
theorem closes (h : Begins p pl streams s i t) {st : EventStream} (hst : streams[i]? = some st)
    (hgoes : pl.GoesOn st.events) :
    ∃ retry jobs s', Run.AreCalm jobs ∧
      retry.Counts pl.settings.retry (st.carried (faultsInRow (streams.take i))) ∧
      Moment.ComesTo p pl (i + 1) (opening pl streams s)
        ⟨t + st.silence, ⟨⟨retry, .listening (t + st.silence) ⟨st.closing.items, false⟩, i + 1,
          (streams.drop (i + 1)).map EventStream.feed⟩, jobs⟩, s'⟩ := by
  obtain ⟨retry, jobs, s', hcalm, hcounts, -, hcomes⟩ := h
  obtain ⟨hi, rfl⟩ := List.getElem?_eq_some_iff.1 hst
  rw [List.drop_eq_getElem_cons hi] at hcomes
  obtain ⟨jobs', s'', hcalm', hplayed⟩ := Moment.comesTo_closing (p := p) streams[i].delivered
    streams[i].closing.items hgoes retry (i + 1) t ((streams.drop (i + 1)).map EventStream.feed)
    hcalm s'
  refine ⟨_, jobs', s'', hcalm', ?_, (hcomes.mono (Nat.le_succ i)).trans hplayed⟩
  rw [EventStream.carried, EventStream.events]
  split
  · exact hcounts
  · exact Retry.counts_fresh _

/-- A stream that is complete ends the run, once the events in flight have been processed. -/
theorem endsAt_of_complete (h : Begins p pl streams s i t) {st : EventStream}
    (hst : streams[i]? = some st) (hgoes : pl.GoesOn st.events)
    (hcomplete : st.closing = .complete) :
    ∃ t', t + st.silence ≤ t' ∧ EndsAt (reports p pl streams s) (i + 1) t' .finished := by
  obtain ⟨retry, jobs, s', hcalm, -, hcomes⟩ := h.closes hst hgoes
  rw [hcomplete] at hcomes
  have hdraining := hcomes.trans (.of_quiet Reception.unfolds_over jobs s')
  exact hdraining.endsAt_of_finishes (Moment.finishes_of_draining rfl hcalm s') rfl

section Faults

variable (h : Begins p pl streams s i t) {st : EventStream} (hst : streams[i]? = some st)
  (hgoes : pl.GoesOn st.events) {fault : SourceFault} (hfault : st.closing = .fault fault)
include h hst hgoes hfault

/-- The stream is played until its fault, and the run does what follows a fault. -/
theorem afterFault : ∃ retry jobs s', Run.AreCalm jobs ∧
    retry.Counts pl.settings.retry (st.carried (faultsInRow (streams.take i))) ∧
    Moment.ComesTo p pl (i + 1) (opening pl streams s)
      ⟨t + st.silence, ⟨⟨(Phase.afterFault pl.settings.retry (t + st.silence) retry fault).1,
        (Phase.afterFault pl.settings.retry (t + st.silence) retry fault).2, i + 1,
        (streams.drop (i + 1)).map EventStream.feed⟩, jobs⟩, s'⟩ := by
  obtain ⟨retry, jobs, s', hcalm, hcounts, hcomes⟩ := h.closes hst hgoes
  rw [hfault] at hcomes
  exact ⟨retry, jobs, s', hcalm, hcounts,
    hcomes.trans (.of_quiet (Reception.unfolds_fault fault) jobs s')⟩

/-- A fatal fault ends the run. -/
theorem endsAt_of_fatal (hfatal : fault.isTransient = false) :
    EndsAt (reports p pl streams s) (i + 1) (t + st.silence) (.sourceFailed fault) := by
  obtain ⟨retry, jobs, s', -, -, hcomes⟩ := h.afterFault hst hgoes hfault
  rw [Phase.afterFault_of_fatal hfatal] at hcomes
  exact hcomes.endsAt rfl rfl

variable (htransient : fault.isTransient = true)
include htransient

omit hgoes in
/-- There is never more than one fault more than the settings allow. -/
theorem faultsInRow_le :
    faultsInRow (streams.take (i + 1)) ≤ pl.settings.retry.maxAttempts.toNat + 1 := by
  obtain ⟨retry, jobs, s', -, -, hfew, -⟩ := h
  rw [faultsInRow_take_of_transient hst hfault htransient, EventStream.carried]
  split <;> omega

/-- One fault more than the settings allow ends the run. -/
theorem endsAt_of_exhausted (hfits : faultsInRow (streams.take (i + 1)) < UInt32.size)
    (hmany : pl.settings.retry.maxAttempts.toNat < faultsInRow (streams.take (i + 1))) :
    EndsAt (reports p pl streams s) (i + 1) (t + st.silence)
      (.retriesExhausted (UInt32.ofNat (faultsInRow (streams.take (i + 1)))) fault) := by
  obtain ⟨retry, jobs, s', -, hcounts, hcomes⟩ := h.afterFault hst hgoes hfault
  rw [faultsInRow_take_of_transient hst hfault htransient] at hfits hmany ⊢
  exact hcomes.endsAt (hcounts.afterFault_of_exhausted htransient hfits hmany _) rfl

/-- A count that outgrows its word breaks the run off. -/
theorem endsAt_of_uncountable (hfull : UInt32.size ≤ faultsInRow (streams.take (i + 1))) :
    EndsAt (reports p pl streams s) (i + 1) (t + st.silence) .broken := by
  obtain ⟨retry, jobs, s', -, hcounts, hcomes⟩ := h.afterFault hst hgoes hfault
  rw [faultsInRow_take_of_transient hst hfault htransient] at hfull
  rw [hcounts.afterFault_of_uncountable htransient hfull] at hcomes
  exact hcomes.endsAt rfl rfl

/-- After a fault that is not one too many, the run pauses. -/
theorem pauses (hfew : faultsInRow (streams.take (i + 1)) ≤ pl.settings.retry.maxAttempts.toNat) :
    ∃ retry jobs s', Run.AreCalm jobs ∧
      retry.attempts.toNat = faultsInRow (streams.take (i + 1)) ∧
      retry.backoff.toNat = pl.settings.retry.pauseSeconds (faultsInRow (streams.take (i + 1))) ∧
      let wake := t + st.silence + clockedMs (t + st.silence)
        (pl.settings.retry.pauseSeconds (faultsInRow (streams.take (i + 1))))
      Moment.ComesTo p pl (i + 1) (opening pl streams s)
        ⟨wake, ⟨⟨retry, .pausing wake, i + 1, (streams.drop (i + 1)).map EventStream.feed⟩, jobs⟩,
          s'⟩ := by
  obtain ⟨retry, jobs, s', hcalm, hcounts, hcomes⟩ := h.afterFault hst hgoes hfault
  rw [faultsInRow_take_of_transient hst hfault htransient] at hfew ⊢
  obtain ⟨counted, hpausing, hattempts, hbackoff⟩ :=
    hcounts.afterFault_of_few htransient hfew (t + st.silence)
  rw [hpausing] at hcomes
  obtain ⟨jobs', s'', hcalm', hwaits⟩ := Moment.comesTo_waiting (p := p)
    (r := ⟨counted, .pausing _, i + 1, (streams.drop (i + 1)).map EventStream.feed⟩) rfl
    (Nat.le_add_right (t + st.silence) _) hcalm s'
  exact ⟨counted, jobs', s'', hcalm', hattempts, hbackoff, hcomes.trans hwaits⟩

/-- After the pause the source is subscribed to once more, as long as twice the pause
fits its word. -/
theorem succ (hfew : faultsInRow (streams.take (i + 1)) ≤ pl.settings.retry.maxAttempts.toNat)
    (hfits :
      2 * pl.settings.retry.pauseSeconds (faultsInRow (streams.take (i + 1))) < UInt64.size) :
    Begins p pl streams s (i + 1) (t + st.silence + clockedMs (t + st.silence)
      (pl.settings.retry.pauseSeconds (faultsInRow (streams.take (i + 1))))) := by
  obtain ⟨retry, jobs, s', hcalm, hattempts, hbackoff, hcomes⟩ :=
    h.pauses hst hgoes hfault htransient hfew
  have hpositive : 0 < faultsInRow (streams.take (i + 1)) := by
    rw [faultsInRow_take_of_transient hst hfault htransient]
    exact Nat.succ_pos _
  obtain ⟨paused, hpaused, hcounts⟩ := Retry.paused_of_fits hattempts hpositive hbackoff hfits
  exact ⟨paused, jobs, s', hcalm, hcounts, hfew,
    hcomes.trans (.of_quiet (Reception.unfolds_subscribed hpaused _ _) jobs s')⟩

/-- A pause whose double outgrows its word breaks the run off when it is over. -/
theorem endsAt_of_overflow
    (hfew : faultsInRow (streams.take (i + 1)) ≤ pl.settings.retry.maxAttempts.toNat)
    (hfull :
      UInt64.size ≤ 2 * pl.settings.retry.pauseSeconds (faultsInRow (streams.take (i + 1)))) :
    EndsAt (reports p pl streams s) (i + 1) (t + st.silence + clockedMs (t + st.silence)
      (pl.settings.retry.pauseSeconds (faultsInRow (streams.take (i + 1))))) .broken := by
  obtain ⟨retry, jobs, s', -, -, hbackoff, hcomes⟩ := h.pauses hst hgoes hfault htransient hfew
  have hnone := Retry.not_paused hbackoff hfull
  exact (hcomes.trans (.of_quiet (Reception.unfolds_overflow hnone) jobs s')).endsAt rfl rfl

end Faults

section Next

variable (h : Begins p pl streams s i t) (hgoes : ∀ st ∈ streams, pl.GoesOn st.events)
include h hgoes

/-- A run that comes to a stream does what follows it, by its sequel. -/
theorem follows :
    match pl.settings.retry.sequel streams i with
    | .silence => streams[i]? = none
    | .resumes => ∃ st fault, streams[i]? = some st ∧ st.closing = .fault fault ∧
        fault.isTransient = true ∧ Begins p pl streams s (i + 1) (t + st.silence +
          clockedMs (t + st.silence) (pl.settings.retry.pauseAfter streams i))
    | .stops result => (∀ v, result ≠ .matchViolation v) ∧
        ∃ t', EndsAt (reports p pl streams s) (i + 1) t' result
    | .overflows => ∃ t', EndsAt (reports p pl streams s) (i + 1) t' .broken := by
  cases hst : streams[i]? with
  | none => rw [RetrySettings.sequel_of_none hst]
  | some st =>
    have hgoes := hgoes st (List.mem_of_getElem? hst)
    cases hclosing : st.closing with
    | complete =>
      rw [RetrySettings.sequel_of_complete hst hclosing]
      obtain ⟨t', -, hends⟩ := h.endsAt_of_complete hst hgoes hclosing
      exact ⟨by simp, t', hends⟩
    | fault fault =>
      cases htransient : fault.isTransient with
      | false =>
        rw [RetrySettings.sequel_of_fatal hst hclosing htransient]
        exact ⟨by simp, _, h.endsAt_of_fatal hst hgoes hclosing htransient⟩
      | true =>
        rcases Nat.lt_or_ge pl.settings.retry.maxAttempts.toNat
          (faultsInRow (streams.take (i + 1))) with hmany | hfew
        -- the faults are too many, or cannot be counted
        · rcases Nat.lt_or_ge (faultsInRow (streams.take (i + 1))) UInt32.size with hfits | hfull
          · rw [RetrySettings.sequel_of_exhausted hst hclosing htransient hfits hmany]
            exact ⟨by simp, _, h.endsAt_of_exhausted hst hgoes hclosing htransient hfits hmany⟩
          · rw [RetrySettings.sequel_of_uncountable hst hclosing htransient hfull]
            exact ⟨by simp, _, h.endsAt_of_uncountable hst hgoes hclosing htransient hfull⟩
        · rcases Nat.lt_or_ge (2 * pl.settings.retry.pauseAfter streams i) UInt64.size
            with hfits | hfull
          · rw [RetrySettings.sequel_of_fits hst hclosing htransient hfew hfits]
            exact ⟨st, fault, rfl, hclosing, htransient,
              h.succ hst hgoes hclosing htransient hfew hfits⟩
          · rw [RetrySettings.sequel_of_overflow hst hclosing htransient hfew hfull]
            exact ⟨_, h.endsAt_of_overflow hst hgoes hclosing htransient hfew hfull⟩

/-- After a stream that fails for a while the source may be subscribed to once more;
otherwise it never is. -/
theorem next :
    (∃ st fault, streams[i]? = some st ∧ st.closing = .fault fault ∧ fault.isTransient = true ∧
      Begins p pl streams s (i + 1) (t + st.silence + clockedMs (t + st.silence)
        (pl.settings.retry.pauseSeconds (faultsInRow (streams.take (i + 1)))))) ∨
      ∀ deadline, (reports p pl streams s deadline).subscriptions ≤ i + 1 := by
  have hfollows := h.follows hgoes
  cases hsequel : pl.settings.retry.sequel streams i with
  | silence =>
    rw [hsequel] at hfollows
    exact Or.inr fun deadline => (h.silent hfollows deadline).2
  | resumes =>
    rw [hsequel] at hfollows
    exact Or.inl hfollows
  | stops result =>
    rw [hsequel] at hfollows
    obtain ⟨-, t', hends⟩ := hfollows
    exact Or.inr hends.subscriptions_le
  | overflows =>
    rw [hsequel] at hfollows
    obtain ⟨t', hends⟩ := hfollows
    exact Or.inr hends.subscriptions_le

end Next

end Begins

section GoingOn

variable (hgoes : ∀ st ∈ streams, pl.GoesOn st.events)
include hgoes

theorem begins_or_never (i : Nat) : (∃ t, Begins p pl streams s i t) ∨
    ∀ deadline, (reports p pl streams s deadline).subscriptions ≤ i := by
  induction i with
  | zero => exact Or.inl ⟨0, begins_zero⟩
  | succ i ih =>
    rcases ih with ⟨t, hbegins⟩ | hnever
    · rcases hbegins.next hgoes with ⟨st, fault, -, -, -, hnext⟩ | hnever
      · exact Or.inl ⟨_, hnext⟩
      · exact Or.inr hnever
    · exact Or.inr fun deadline => Nat.le_succ_of_le (hnever deadline)

/-- What is seen of a subscription is one that the run comes to. -/
theorem begins_of_subscribesAt {i t : Nat} (h : SubscribesAt (reports p pl streams s) i t) :
    Begins p pl streams s i t := by
  rcases begins_or_never (p := p) (s := s) hgoes i with ⟨t', hbegins⟩ | hnever
  · rwa [h.instant_eq hbegins.subscribesAt]
  · exact absurd ((h t).2 (Nat.le_refl t)) (Nat.not_lt_of_le (hnever t))

/-- Every later subscription follows a transient fault and a pause. -/
theorem exists_pause_before {i t' : Nat}
    (h : SubscribesAt (reports p pl streams s) (i + 1) t') :
    ∃ st fault t, streams[i]? = some st ∧ st.closing = .fault fault ∧ fault.isTransient = true ∧
      SubscribesAt (reports p pl streams s) i t ∧
      t' = t + st.silence + clockedMs (t + st.silence)
        (pl.settings.retry.pauseSeconds (faultsInRow (streams.take (i + 1)))) := by
  have hmore := (h t').2 (Nat.le_refl t')
  rcases begins_or_never (p := p) (s := s) hgoes i with ⟨t, hbegins⟩ | hnever
  · rcases hbegins.next hgoes with ⟨st, fault, hst, hfault, htransient, hnext⟩ | hnever
    · exact ⟨st, fault, t, hst, hfault, htransient, hbegins.subscribesAt,
        h.instant_eq hnext.subscribesAt⟩
    · exact absurd hmore (Nat.not_lt_of_le (hnever t'))
  · exact absurd hmore (Nat.not_lt_of_le (Nat.le_succ_of_le (hnever t')))

/-- As long as no event comes, there is one fault at least for each subscription. -/
theorem sub_le_faultsInRow {i j t : Nat} (hle : i ≤ j)
    (h : SubscribesAt (reports p pl streams s) j t)
    (hnone : ∀ k st, i ≤ k → k < j → streams[k]? = some st → st.events = []) :
    j - i ≤ faultsInRow (streams.take j) := by
  induction j, hle using Nat.le_induction generalizing t with
  | base => omega
  | succ j hle ih =>
    obtain ⟨st, fault, t', hst, hfault, htransient, hbefore, -⟩ := exists_pause_before hgoes h
    have hrow := ih hbefore fun k st hik hkj => hnone k st hik (Nat.lt_succ_of_lt hkj)
    rw [faultsInRow_take_succ hst, EventStream.carried,
      if_pos (hnone j st hle (Nat.lt_succ_self j) hst), hfault, Closing.isTransient,
      if_pos htransient]
    omega

end GoingOn

end Law

/-- The law of retries, for runs on any streams of a source whose events do not halt the pipeline.
The source is subscribed to at once. A complete stream finishes the run when the events in flight
have been processed. A fatal fault ends the run at once. A transient fault ends it at once if it is
one more in a row than the settings allow, and otherwise the source is subscribed to once more after
the pause; faults are in a row when no event comes between them, be it of interest or not, and each
pause is twice the one before, up to the longest. A pause that the clock cannot reach the end of
takes thirty years. The counter and the doubled pause have to fit their words. Every later
subscription follows such a pause, and without an event in between there is at most one more than
faults are allowed in a row. -/
theorem retries_follow_law {σ : Type} (p : Platform σ) (pl : Pipeline) (streams : List EventStream)
    (s : σ) (hgoes : ∀ st ∈ streams, pl.GoesOn st.events) :
    let report := reports p pl streams s
    let retry := pl.settings.retry
    let faults := fun i => faultsInRow (streams.take (i + 1))
    let pauseMs := fun closed i => clockedMs closed (retry.pauseSeconds (faults i))
    SubscribesAt report 0 0 ∧
    (∀ i st t, streams[i]? = some st → SubscribesAt report i t →
      let closed := t + st.silence
      match st.closing with
      | .complete => ∃ t', closed ≤ t' ∧ EndsAt report (i + 1) t' .finished
      | .fault fault =>
        if fault.isTransient then
          faults i < UInt32.size →
            if faults i = retry.maxAttempts.toNat + 1 then
              EndsAt report (i + 1) closed (.retriesExhausted (UInt32.ofNat (faults i)) fault)
            else
              2 * retry.pauseSeconds (faults i) < UInt64.size →
                SubscribesAt report (i + 1) (closed + pauseMs closed i)
        else EndsAt report (i + 1) closed (.sourceFailed fault)) ∧
    (∀ i t', SubscribesAt report (i + 1) t' →
      ∃ st fault t, streams[i]? = some st ∧ st.closing = .fault fault ∧ fault.isTransient = true ∧
        SubscribesAt report i t ∧ t' = t + st.silence + pauseMs (t + st.silence) i) ∧
    ∀ i j t t', i ≤ j → SubscribesAt report i t → SubscribesAt report j t' →
      (∀ k st, i ≤ k → k < j → streams[k]? = some st → st.events = []) →
      j + 1 - i ≤ retry.maxAttempts.toNat + 1 := by
  intro report retry faults pauseMs
  refine ⟨begins_zero.subscribesAt, ?_, fun i t' h => exists_pause_before hgoes h, ?_⟩
  · intro i st t hst hsubscribes closed
    have hbegins := begins_of_subscribesAt hgoes hsubscribes
    have hstgoes := hgoes st (List.mem_of_getElem? hst)
    cases hclosing : st.closing with
    | complete => exact hbegins.endsAt_of_complete hst hstgoes hclosing
    | fault fault =>
      cases htransient : fault.isTransient with
      | false =>
        simp only [htransient, Bool.false_eq_true, if_false]
        exact hbegins.endsAt_of_fatal hst hstgoes hclosing htransient
      | true =>
        simp only [htransient, if_true]
        intro hfits
        split
        · rename_i hmany
          have hmore : retry.maxAttempts.toNat < faults i := by omega
          exact hbegins.endsAt_of_exhausted hst hstgoes hclosing htransient hfits hmore
        · rename_i hfew
          intro hdouble
          have hle : faults i ≤ retry.maxAttempts.toNat + 1 :=
            hbegins.faultsInRow_le hst hclosing htransient
          have hfew : faults i ≤ retry.maxAttempts.toNat :=
            Nat.le_of_lt_succ (Nat.lt_of_le_of_ne hle hfew)
          exact (hbegins.succ hst hstgoes hclosing htransient hfew hdouble).subscribesAt
  · intro i j t t' hle _ hj hnone
    have hbegins := begins_of_subscribesAt hgoes hj
    have hrow := sub_le_faultsInRow hgoes hle hj hnone
    obtain ⟨retry', jobs, s', -, -, hfew, -⟩ := hbegins
    show j + 1 - i ≤ pl.settings.retry.maxAttempts.toNat + 1
    omega

/-- A fault that passes. -/
def reset : SourceFault := ⟨.transient, "reset"⟩

/-- A pipeline that stops for input left unmatched, with settings of retries. -/
def retryingPipeline (retry : RetrySettings) : Pipeline :=
  { lockPipeline with settings := { retry := retry, onMatchViolation := .haltPipeline } }

/-- A message without a command, of a person or of a bot. -/
def chatter (bot : Bool) : Event :=
  ⟨none, none, ⟨2⟩, ⟨⟨3⟩, "ada", bot⟩, none, .text ⟨4⟩ "hello" []⟩

/-- Faults around two events. -/
def faultyStreams : List EventStream :=
  [⟨[], .fault reset⟩, ⟨[.silence 10, .event (chatter false), .event (chatter true)], .fault reset⟩,
    ⟨[], .fault reset⟩, ⟨[], .fault reset⟩]

/-- The pauses of two faults in a row are two seconds, then three; the events let the count begin
anew, and the third fault in a row is one too many. -/
theorem third_fault_in_row_exhausts :
    (∀ st ∈ faultyStreams, (retryingPipeline ⟨2, 2, 3⟩).GoesOn st.events) ∧
      let report := reports (Directory.unavailable.console false) (retryingPipeline ⟨2, 2, 3⟩)
        faultyStreams {}
      SubscribesAt report 1 2000 ∧ SubscribesAt report 2 4010 ∧ SubscribesAt report 3 7010 ∧
        EndsAt report 4 7010 (.retriesExhausted 3 reset) := by
  have hgoes : ∀ st ∈ faultyStreams, (retryingPipeline ⟨2, 2, 3⟩).GoesOn st.events := by
    intro st hst e he _
    simp only [faultyStreams, List.mem_cons, List.not_mem_nil, or_false] at hst
    rcases hst with rfl | rfl | rfl | rfl
    all_goals simp [EventStream.events, Delivery.event?] at he
    rcases he with rfl | rfl
    · rfl
    · rfl
  obtain ⟨hstart, hlaw, -⟩ := retries_follow_law (Directory.unavailable.console false)
    (retryingPipeline ⟨2, 2, 3⟩) faultyStreams {} hgoes
  have hfirst := hlaw 0 _ 0 rfl hstart (by decide) (by decide)
  have hsecond := hlaw 1 _ 2000 rfl hfirst (by decide) (by decide)
  have hthird := hlaw 2 _ 4010 rfl hsecond (by decide) (by decide)
  exact ⟨hgoes, hfirst, hsecond, hthird, hlaw 3 _ 7010 rfl hthird (by decide)⟩

/-- The longest pause whose double fits its word leads beyond the last second of the clock. The
source is not subscribed to after these seconds, but after thirty years. -/
theorem farthest_pause_is_cut_short :
    let retry : RetrySettings := ⟨5, 0x7FFFFFFFFFFFFFFF, 0⟩
    let streams : List EventStream := [⟨[], .fault reset⟩, ⟨[], .complete⟩]
    let report := reports (Directory.unavailable.console false) (retryingPipeline retry) streams {}
    let faults := faultsInRow (streams.take 1)
    (∀ st ∈ streams, (retryingPipeline retry).GoesOn st.events) ∧
      SubscribesAt report 0 0 ∧ faults = 1 ∧ faults ≠ retry.maxAttempts.toNat + 1 ∧
      2 * retry.pauseSeconds faults < UInt64.size ∧
      ¬ SubscribesAt report 1 (retry.pauseSeconds faults * 1000) ∧
        SubscribesAt report 1 946080000000 := by
  intro retry streams report faults
  have hgoes : ∀ st ∈ streams, (retryingPipeline retry).GoesOn st.events := by
    intro st hst e he
    simp only [streams, List.mem_cons, List.not_mem_nil, or_false] at hst
    rcases hst with rfl | rfl
    all_goals cases he
  have hbegins :
      Begins (Directory.unavailable.console false) (retryingPipeline retry) streams {} 0 0 :=
    begins_zero
  have hseconds : retry.pauseSeconds faults = 9223372036854775807 := by decide
  have hms : clockedMs 0 9223372036854775807 = 946080000000 := by
    simp [clockedMs, Retry.lastSecond, Retry.farSeconds]
  have hnext :=
    hbegins.succ (i := 0) rfl (hgoes _ List.mem_cons_self) rfl rfl (by decide) (by decide)
  have hfar : SubscribesAt report 1 946080000000 := by
    have hsubscribes :
        SubscribesAt report 1 (0 + 0 + clockedMs (0 + 0) (retry.pauseSeconds faults)) :=
      hnext.subscribesAt
    rwa [hseconds, Nat.add_zero, hms, Nat.zero_add] at hsubscribes
  refine ⟨hgoes, hbegins.subscribesAt, rfl, by decide, by decide, fun hclaimed => ?_, hfar⟩
  exact absurd (hclaimed.instant_eq hfar) (by decide)

end ChatCommands
