import ChatCommands.Proofs.FaultCounting
import ChatCommands.Proofs.ReceptionCourse

set_option autoImplicit false

/-!
# Where reception stands

What a fault leads to depends on the faults in a row alone
(`Retry.Counts.afterFault_of_exhausted` and its kin), and so does what follows a stream
(`RetrySettings.sequel`). A reception that plays streams always stands at a place of one of them:
the events that have come are those before the place, and the pauses that have begun are those of
the faults before it. `Reception.Stands` says so for each phase, and polling keeps it
(`Reception.Stands.poll`), at whatever instants the reception is polled.
-/

namespace ChatCommands

/-! ## After a fault -/

namespace Phase

theorem afterFault_of_fatal {fault : SourceFault} (hfatal : fault.isTransient = false)
    (s : RetrySettings) (now : Nat) (retry : Retry) :
    afterFault s now retry fault = (retry, .ended now (.sourceFailed fault)) := by
  simp [afterFault, hfatal]

end Phase

namespace Retry.Counts

open Phase (afterFault)

variable {s : RetrySettings} {retry : Retry} {n : Nat} {fault : SourceFault}

theorem afterFault_of_uncountable (h : retry.Counts s n) (htransient : fault.isTransient = true)
    (hfull : UInt32.size ≤ n + 1) (now : Nat) :
    afterFault s now retry fault = (retry, .ended now .broken) := by
  simp [afterFault, htransient, h.not_counted hfull]

/-- One fault more than the settings allow ends the run. -/
theorem afterFault_of_exhausted (h : retry.Counts s n) (htransient : fault.isTransient = true)
    (hfits : n + 1 < UInt32.size) (hmany : s.maxAttempts.toNat < n + 1) (now : Nat) :
    (afterFault s now retry fault).2 =
      .ended now (.retriesExhausted (UInt32.ofNat (n + 1)) fault) := by
  obtain ⟨counted, hcounted, hattempts, -⟩ := h.counted hfits
  have hexhausted : counted.isExhausted s = true := by
    rw [isExhausted, decide_eq_true_eq, UInt32.lt_iff_toNat_lt, hattempts]
    exact hmany
  rw [← hattempts, UInt32.ofNat_toNat]
  simp [afterFault, htransient, hcounted, hexhausted]

/-- After a fault that is not one too many, the run pauses. -/
theorem afterFault_of_few (h : retry.Counts s n) (htransient : fault.isTransient = true)
    (hfew : n + 1 ≤ s.maxAttempts.toNat) (now : Nat) :
    ∃ counted, afterFault s now retry fault =
        (counted, .pausing (now + clockedMs now (s.pauseSeconds (n + 1)))) ∧
      counted.attempts.toNat = n + 1 ∧ counted.backoff.toNat = s.pauseSeconds (n + 1) := by
  obtain ⟨counted, hcounted, hattempts, hbackoff⟩ :=
    h.counted (Nat.lt_of_le_of_lt hfew (UInt32.toNat_lt_size _))
  have hleft : counted.isExhausted s = false := by
    rw [isExhausted, decide_eq_false_iff_not, UInt32.lt_iff_toNat_lt, hattempts]
    exact Nat.not_lt_of_le hfew
  have hms : counted.pauseMs now = clockedMs now (s.pauseSeconds (n + 1)) := by
    rw [pauseMs, clockedMs, hbackoff]
  refine ⟨counted, ?_, hattempts, hbackoff⟩
  rw [← hms]
  simp [afterFault, htransient, hcounted, hleft]

end Retry.Counts

/-! ## Sequels of streams -/

theorem faultsInRow_take_of_transient {streams : List EventStream} {i : Nat} {st : EventStream}
    (hst : streams[i]? = some st) {fault : SourceFault} (hfault : st.closing = .fault fault)
    (htransient : fault.isTransient = true) :
    faultsInRow (streams.take (i + 1)) = st.carried (faultsInRow (streams.take i)) + 1 := by
  rw [faultsInRow_take_succ hst, hfault, Closing.isTransient, if_pos htransient]

/-- What follows the stream at a place. -/
inductive Sequel where
  /-- There is no such stream, and the source stays silent. -/
  | silence
  /-- The source is subscribed to once more, after a pause. -/
  | resumes
  | stops (result : RunEnd)
  /-- The run breaks off after a pause, since its double outgrows the word. -/
  | overflows
  deriving DecidableEq

namespace RetrySettings

variable (s : RetrySettings) (streams : List EventStream)

/-- The seconds of the pause after the stream at a place. -/
def pauseAfter (i : Nat) : Nat := s.pauseSeconds (faultsInRow (streams.take (i + 1)))

/-- The seconds of the pauses after the first streams. -/
def pausesBefore (i : Nat) : List Nat := (List.range i).map (s.pauseAfter streams)

theorem pausesBefore_succ (i : Nat) :
    s.pausesBefore streams (i + 1) = s.pausesBefore streams i ++ [s.pauseAfter streams i] := by
  rw [pausesBefore, List.range_succ, List.map_append]
  rfl

/-- What follows the stream at a place, by its closing and the faults in a row. -/
def sequel (i : Nat) : Sequel :=
  match streams[i]? with
  | none => .silence
  | some st =>
    match st.closing with
    | .complete => .stops .finished
    | .fault fault =>
      let faults := faultsInRow (streams.take (i + 1))
      if !fault.isTransient then .stops (.sourceFailed fault)
      else if UInt32.size ≤ faults then .stops .broken
      else if s.maxAttempts.toNat < faults then
        .stops (.retriesExhausted (UInt32.ofNat faults) fault)
      else if UInt64.size ≤ 2 * s.pauseAfter streams i then .overflows
      else .resumes

/-- The seconds of the pauses through the stream at a place, that after it included. -/
def pausesThrough (i : Nat) : List Nat :=
  s.pausesBefore streams i ++
    match s.sequel streams i with
    | .resumes => [s.pauseAfter streams i]
    | .overflows => [s.pauseAfter streams i]
    | .silence => []
    | .stops _ => []

variable {s streams} {i : Nat}

theorem sequel_of_none (hnone : streams[i]? = none) : s.sequel streams i = .silence := by
  rw [sequel, hnone]

variable {st : EventStream} (hst : streams[i]? = some st)
include hst

theorem sequel_of_complete (hcomplete : st.closing = .complete) :
    s.sequel streams i = .stops .finished := by
  simp only [sequel, hst, hcomplete]

variable {fault : SourceFault} (hfault : st.closing = .fault fault)
include hfault

theorem sequel_of_fatal (hfatal : fault.isTransient = false) :
    s.sequel streams i = .stops (.sourceFailed fault) := by
  simp only [sequel, hst, hfault, hfatal, Bool.not_false, if_true]

variable (htransient : fault.isTransient = true)
include htransient

theorem sequel_of_uncountable (hfull : UInt32.size ≤ faultsInRow (streams.take (i + 1))) :
    s.sequel streams i = .stops .broken := by
  simp only [sequel, hst, hfault, htransient, Bool.not_true, Bool.false_eq_true, if_false, hfull,
    if_true]

theorem sequel_of_exhausted (hfits : faultsInRow (streams.take (i + 1)) < UInt32.size)
    (hmany : s.maxAttempts.toNat < faultsInRow (streams.take (i + 1))) :
    s.sequel streams i =
      .stops (.retriesExhausted (UInt32.ofNat (faultsInRow (streams.take (i + 1)))) fault) := by
  simp only [sequel, hst, hfault, htransient, Bool.not_true, Bool.false_eq_true, if_false,
    Nat.not_le_of_lt hfits, hmany, if_true]

section Few

variable (hfew : faultsInRow (streams.take (i + 1)) ≤ s.maxAttempts.toNat)
include hfew

theorem sequel_of_fits (hfits : 2 * s.pauseAfter streams i < UInt64.size) :
    s.sequel streams i = .resumes := by
  have hcountable := Nat.lt_of_le_of_lt hfew (UInt32.toNat_lt_size _)
  simp only [sequel, hst, hfault, htransient, Bool.not_true, Bool.false_eq_true, if_false,
    Nat.not_le_of_lt hcountable, Nat.not_lt_of_le hfew, Nat.not_le_of_lt hfits]

theorem sequel_of_overflow (hfull : UInt64.size ≤ 2 * s.pauseAfter streams i) :
    s.sequel streams i = .overflows := by
  have hcountable := Nat.lt_of_le_of_lt hfew (UInt32.toNat_lt_size _)
  simp only [sequel, hst, hfault, htransient, Bool.not_true, Bool.false_eq_true, if_false,
    Nat.not_le_of_lt hcountable, Nat.not_lt_of_le hfew, hfull, if_true]

end Few

omit hst hfault htransient

/-- The run pauses after the stream at a place. -/
structure PausesAfter (s : RetrySettings) (streams : List EventStream) (i : Nat) : Prop where
  positive : 0 < faultsInRow (streams.take (i + 1))
  resumes : 2 * s.pauseAfter streams i < UInt64.size → s.sequel streams i = .resumes
  overflows : UInt64.size ≤ 2 * s.pauseAfter streams i → s.sequel streams i = .overflows

theorem pausesAfter_of_few (hst : streams[i]? = some st) (hfault : st.closing = .fault fault)
    (htransient : fault.isTransient = true)
    (hfew : faultsInRow (streams.take (i + 1)) ≤ s.maxAttempts.toNat) :
    s.PausesAfter streams i := by
  refine ⟨?_, sequel_of_fits hst hfault htransient hfew,
    sequel_of_overflow hst hfault htransient hfew⟩
  rw [faultsInRow_take_of_transient hst hfault htransient]
  exact Nat.succ_pos _

/-- What the pauses through a place are when the run pauses after it. -/
theorem PausesAfter.pausesThrough_eq (h : s.PausesAfter streams i) :
    s.pausesThrough streams i = s.pausesBefore streams (i + 1) := by
  rw [pausesThrough, pausesBefore_succ]
  rcases Nat.lt_or_ge (2 * s.pauseAfter streams i) UInt64.size with hfits | hfull
  · rw [h.resumes hfits]
  · rw [h.overflows hfull]

theorem pausesBefore_prefix_pausesThrough :
    s.pausesBefore streams i <+: s.pausesThrough streams i := List.prefix_append ..

theorem pausesThrough_prefix_pausesBefore :
    s.pausesThrough streams i <+: s.pausesBefore streams (i + 1) := by
  rw [pausesThrough, pausesBefore_succ]
  refine (List.prefix_append_right_inj _).2 ?_
  cases s.sequel streams i with
  | silence => exact List.nil_prefix
  | stops => exact List.nil_prefix
  | resumes => exact List.prefix_rfl
  | overflows => exact List.prefix_rfl

theorem pausesThrough_mono {j : Nat} (hle : i ≤ j) :
    s.pausesThrough streams i <+: s.pausesThrough streams j := by
  induction j, hle using Nat.le_induction with
  | base => exact List.prefix_rfl
  | succ j _ ih =>
    exact (ih.trans pausesThrough_prefix_pausesBefore).trans pausesBefore_prefix_pausesThrough

end RetrySettings

/-! ## Subscriptions -/

namespace Reception

/-- The source has just been subscribed to, after a number of earlier subscriptions. -/
def subscribed (retry : Retry) (now earlier : Nat) : List Feed → Reception
  | [] => ⟨retry, .listening now .silent, earlier + 1, []⟩
  | feed :: feeds => ⟨retry, .listening now feed, earlier + 1, feeds⟩

theorem unfolds_subscribed {s : RetrySettings} {now : Nat} {retry retry' : Retry}
    (hpaused : retry.paused? s = some retry') (n : Nat) (feeds : List Feed) :
    Unfolds s now ⟨retry, .pausing now, n, feeds⟩ [] (.subscribed retry' now n feeds) := by
  cases feeds with
  | nil => exact unfolds_resume_nil hpaused
  | cons feed feeds => exact unfolds_resume hpaused feed feeds

end Reception

/-! ## Pauses that begin -/

/-- The seconds of the pause that begins with a phase, if it is one. -/
def Phase.seconds (retry : Retry) : Phase → List Nat
  | .pausing _ => [retry.backoff.toNat]
  | .listening .. => []
  | .draining => []
  | .ended .. => []

namespace Reception

/-- The seconds of the pauses that begin when a pause is over at an instant. -/
def pausesResuming (s : RetrySettings) (now : Nat) (retry : Retry) (wake : Nat) :
    List Feed → List Nat
  | [] => []
  | feed :: feeds =>
    if now < wake then []
    else
      match retry.paused? s with
      | none => []
      | some retry =>
        let (_, retry, phase) := Phase.listen s now retry feed
        match phase with
        | .pausing wake => retry.backoff.toNat :: pausesResuming s now retry wake feeds
        | _ => []

/-- The seconds of the pauses that begin when a reception is polled. -/
def pausesAt (s : RetrySettings) (now : Nat) (r : Reception) : List Nat :=
  match r.phase with
  | .listening wake feed =>
    if now < wake then []
    else
      let (_, retry, phase) := Phase.listen s now r.retry feed
      match phase with
      | .pausing wake => retry.backoff.toNat :: pausesResuming s now retry wake r.upcoming
      | _ => []
  | .pausing wake => pausesResuming s now r.retry wake r.upcoming
  | _ => []

end Reception

/-! ## The standing of a reception -/

namespace EventStream

/-- The feed of what the stream has yet to deliver. -/
def rest (st : EventStream) (coming : List Delivery) : Feed :=
  ⟨coming.map Delivery.item ++ st.closing.items, false⟩

/-- The events of the first streams, in order. -/
def eventsOf (streams : List EventStream) (n : Nat) : List Event :=
  (streams.take n).flatMap EventStream.events

theorem eventsOf_succ {streams : List EventStream} {i : Nat} {st : EventStream}
    (h : streams[i]? = some st) : eventsOf streams (i + 1) = eventsOf streams i ++ st.events := by
  rw [eventsOf, List.take_add_one, h, List.flatMap_append]
  simp [eventsOf]

end EventStream

open EventStream (eventsOf)

namespace Reception

/-- The place of streams at which a reception stands, by the events that have come and the seconds
of the pauses that have begun. -/
inductive Stands (s : RetrySettings) (streams : List EventStream) :
    List Event → List Nat → Reception → Prop where
  /-- A stream is played; the retries count the faults before what it has yet to deliver. -/
  | playing {i wake before : Nat} {st : EventStream} {coming : List Delivery} {feed : Feed}
      {received : List Event} {retry : Retry} (hst : streams[i]? = some st)
      (hfeed : feed = st.rest coming)
      (hreceived : received ++ coming.filterMap Delivery.event? = eventsOf streams (i + 1))
      (hcounts : retry.Counts s before)
      (hbefore : st.carried (faultsInRow (streams.take i)) =
        if coming.filterMap Delivery.event? = [] then before else 0) :
      Stands s streams received (s.pausesBefore streams i)
        ⟨retry, .listening wake feed, i + 1, (streams.drop (i + 1)).map EventStream.feed⟩
  | silent {i wake : Nat} {retry : Retry} {upcoming : List Feed}
      (hsequel : s.sequel streams i = .silence) :
      Stands s streams (eventsOf streams (i + 1)) (s.pausesBefore streams i)
        ⟨retry, .listening wake .silent, i + 1, upcoming⟩
  | pausing {i wake : Nat} {retry : Retry} (hpauses : s.PausesAfter streams i)
      (hattempts : retry.attempts.toNat = faultsInRow (streams.take (i + 1)))
      (hbackoff : retry.backoff.toNat = s.pauseAfter streams i) :
      Stands s streams (eventsOf streams (i + 1)) (s.pausesBefore streams (i + 1))
        ⟨retry, .pausing wake, i + 1, (streams.drop (i + 1)).map EventStream.feed⟩
  | draining {i : Nat} {retry : Retry} {upcoming : List Feed}
      (hsequel : s.sequel streams i = .stops .finished) :
      Stands s streams (eventsOf streams (i + 1)) (s.pausesBefore streams i)
        ⟨retry, .draining, i + 1, upcoming⟩
  | stopped {i instant : Nat} {result : RunEnd} {retry : Retry} {upcoming : List Feed}
      (hsequel : s.sequel streams i = .stops result) :
      Stands s streams (eventsOf streams (i + 1)) (s.pausesBefore streams i)
        ⟨retry, .ended instant result, i + 1, upcoming⟩
  | overflowed {i instant : Nat} {retry : Retry} {upcoming : List Feed}
      (hsequel : s.sequel streams i = .overflows) :
      Stands s streams (eventsOf streams (i + 1)) (s.pausesBefore streams (i + 1))
        ⟨retry, .ended instant .broken, i + 1, upcoming⟩
  /-- An event has ended the run before its time. -/
  | violated {i instant : Nat} {v : MatchViolation} {received : List Event} {pauses : List Nat}
      {retry : Retry} {upcoming : List Feed} (hreceived : received <+: eventsOf streams (i + 1))
      (hpauses : pauses <+: s.pausesThrough streams i) :
      Stands s streams received pauses ⟨retry, .ended instant (.matchViolation v), i + 1, upcoming⟩

namespace Stands

variable {s : RetrySettings} {streams : List EventStream} {received : List Event}
    {pauses : List Nat}

/-- A reception stands at the place of its last subscription: what has come is the beginning of what
the streams deliver through it, and the pauses that have begun are the first of those through it. -/
theorem exists_place {r : Reception} (h : Stands s streams received pauses r) :
    ∃ i, r.subscriptions = i + 1 ∧ received <+: eventsOf streams (i + 1) ∧
      pauses <+: s.pausesThrough streams i := by
  cases h with
  | playing _ _ hreceived =>
    exact ⟨_, rfl, ⟨_, hreceived⟩, RetrySettings.pausesBefore_prefix_pausesThrough⟩
  | pausing hpauses =>
    exact ⟨_, rfl, List.prefix_rfl, hpauses.pausesThrough_eq ▸ List.prefix_rfl⟩
  | overflowed hsequel =>
    refine ⟨_, rfl, List.prefix_rfl, ?_⟩
    rw [RetrySettings.pausesThrough, hsequel, RetrySettings.pausesBefore_succ]
  | violated hreceived hpauses => exact ⟨_, rfl, hreceived, hpauses⟩
  | _ => exact ⟨_, rfl, List.prefix_rfl, RetrySettings.pausesBefore_prefix_pausesThrough⟩

/-- A subscription, with the faults before it counted. -/
theorem subscribed {i : Nat} {retry : Retry}
    (hcounts : retry.Counts s (faultsInRow (streams.take i))) (now : Nat) :
    Stands s streams (eventsOf streams i) (s.pausesBefore streams i)
      (.subscribed retry now i ((streams.drop i).map EventStream.feed)) := by
  cases hst : streams[i]? with
  | none =>
    have hle : streams.length ≤ i := List.getElem?_eq_none_iff.1 hst
    have hevents : eventsOf streams i = eventsOf streams (i + 1) := by
      rw [eventsOf, eventsOf, List.take_of_length_le hle,
        List.take_of_length_le (Nat.le_succ_of_le hle)]
    rw [List.drop_eq_nil_of_le hle, hevents]
    exact .silent (RetrySettings.sequel_of_none hst)
  | some st =>
    obtain ⟨hi, rfl⟩ := List.getElem?_eq_some_iff.1 hst
    rw [List.drop_eq_getElem_cons hi]
    exact .playing hst rfl (EventStream.eventsOf_succ hst).symm hcounts rfl

theorem afterFault {i : Nat} {st : EventStream} (hst : streams[i]? = some st) {fault : SourceFault}
    (hfault : st.closing = .fault fault) {retry : Retry}
    (hcounts : retry.Counts s (st.carried (faultsInRow (streams.take i)))) (now : Nat) :
    Stands s streams (eventsOf streams (i + 1))
      (s.pausesBefore streams i ++
        (Phase.afterFault s now retry fault).2.seconds (Phase.afterFault s now retry fault).1)
      ⟨(Phase.afterFault s now retry fault).1, (Phase.afterFault s now retry fault).2, i + 1,
        (streams.drop (i + 1)).map EventStream.feed⟩ := by
  cases htransient : fault.isTransient with
  | false =>
    rw [Phase.afterFault_of_fatal htransient, Phase.seconds, List.append_nil]
    exact .stopped (RetrySettings.sequel_of_fatal hst hfault htransient)
  | true =>
    have hfaults := faultsInRow_take_of_transient hst hfault htransient
    rcases Nat.lt_or_ge s.maxAttempts.toNat (faultsInRow (streams.take (i + 1))) with hmany | hfew
    · rcases Nat.lt_or_ge (faultsInRow (streams.take (i + 1))) UInt32.size with hfits | hfull
      · have hsequel : s.sequel streams i = _ :=
          RetrySettings.sequel_of_exhausted hst hfault htransient hfits hmany
        rw [hfaults] at hfits hmany hsequel
        rw [hcounts.afterFault_of_exhausted htransient hfits hmany, Phase.seconds, List.append_nil]
        exact .stopped hsequel
      · have hsequel : s.sequel streams i = _ :=
          RetrySettings.sequel_of_uncountable hst hfault htransient hfull
        rw [hfaults] at hfull
        rw [hcounts.afterFault_of_uncountable htransient hfull, Phase.seconds, List.append_nil]
        exact .stopped hsequel
    · have hpauses := RetrySettings.pausesAfter_of_few hst hfault htransient hfew
      rw [hfaults] at hfew
      obtain ⟨counted, hpausing, hattempts, hbackoff⟩ :=
        hcounts.afterFault_of_few htransient hfew now
      rw [← hfaults] at hattempts hbackoff
      have hseconds : counted.backoff.toNat = s.pauseAfter streams i := hbackoff
      rw [hpausing, Phase.seconds, hseconds, ← s.pausesBefore_succ]
      exact .pausing hpauses hattempts hseconds

/-- A stream that is listened to is played up to its next silence, or closes. -/
theorem listen {retry : Retry} {wake n : Nat} {feed : Feed} {upcoming : List Feed}
    (h : Stands s streams received pauses ⟨retry, .listening wake feed, n, upcoming⟩) (now : Nat) :
    Stands s streams (received ++ (Phase.listen s now retry feed).1)
      (pauses ++ (Phase.listen s now retry feed).2.2.seconds (Phase.listen s now retry feed).2.1)
      ⟨(Phase.listen s now retry feed).2.1, (Phase.listen s now retry feed).2.2, n, upcoming⟩ := by
  cases h with
  | silent hsequel =>
    have hlisten : Phase.listen s now retry .silent = ([], retry, .listening now .silent) := rfl
    rw [hlisten, List.append_nil, Phase.seconds, List.append_nil]
    exact .silent hsequel
  | @playing i _ before st coming _ _ _ hst hfeed hreceived hcounts hbefore =>
    subst hfeed
    -- on what the stream has yet to deliver; the count before it changes with each event
    induction coming generalizing received before retry with
    | nil =>
      rw [List.filterMap_nil, List.append_nil] at hreceived
      rw [List.filterMap_nil, if_pos rfl] at hbefore
      rw [← hbefore] at hcounts
      subst hreceived
      cases hclosing : st.closing with
      | complete =>
        have hlisten : Phase.listen s now retry (st.rest []) = ([], retry, .draining) := by
          rw [EventStream.rest, hclosing]
          rfl
        rw [hlisten, List.append_nil, Phase.seconds, List.append_nil]
        exact .draining (RetrySettings.sequel_of_complete hst hclosing)
      | fault fault =>
        have hlisten : Phase.listen s now retry (st.rest []) =
            ([], Phase.afterFault s now retry fault) := by
          rw [EventStream.rest, hclosing]
          rfl
        rw [hlisten, List.append_nil]
        exact afterFault hst hclosing hcounts now
    | cons d coming ih =>
      cases d with
      | event e =>
        have hlisten : Phase.listen s now retry (st.rest (.event e :: coming)) =
            (e :: (Phase.listen s now (.fresh s) (st.rest coming)).1,
              (Phase.listen s now (.fresh s) (st.rest coming)).2) :=
          Phase.listen_event s now retry e _ _
        rw [hlisten]
        -- the event lets the count begin anew
        have hanew : st.carried (faultsInRow (streams.take i)) =
            if coming.filterMap Delivery.event? = [] then 0 else 0 := by
          simpa [Delivery.event?] using hbefore
        have hheard : received ++ [e] ++ coming.filterMap Delivery.event? =
            eventsOf streams (i + 1) := by
          simpa [Delivery.event?] using hreceived
        have hnext := ih hanew hheard (Retry.counts_fresh s)
        simpa using hnext
      | silence ms =>
        have hlisten : Phase.listen s now retry (st.rest (.silence ms :: coming)) =
            if ms = 0 then Phase.listen s now retry (st.rest coming)
            else ([], retry, .listening (now + ms) (st.rest coming)) :=
          Phase.listen_wait s now retry ms _ _
        rw [hlisten]
        split
        · exact ih hbefore hreceived hcounts
        · rw [List.append_nil, Phase.seconds, List.append_nil]
          exact .playing hst rfl hreceived hcounts hbefore

section Resuming

variable {retry : Retry} {wake n : Nat} {feeds : List Feed}

/-- A pause whose double outgrows its word breaks the run off. -/
theorem overflows (h : Stands s streams received pauses ⟨retry, .pausing wake, n, feeds⟩)
    (hpaused : retry.paused? s = none) (now : Nat) :
    Stands s streams received pauses ⟨retry, .ended now .broken, n, feeds⟩ := by
  cases h with
  | @pausing i _ _ hpauses hattempts hbackoff =>
    rcases Nat.lt_or_ge (2 * s.pauseAfter streams i) UInt64.size with hfits | hfull
    · obtain ⟨_, hsome, -⟩ :=
        Retry.paused_of_fits hattempts hpauses.positive hbackoff hfits
      exact absurd (hpaused.symm.trans hsome) (by simp)
    · exact .overflowed (hpauses.overflows hfull)

/-- The source is subscribed to once more, with the faults before it counted. -/
theorem subscribes (h : Stands s streams received pauses ⟨retry, .pausing wake, n, feeds⟩)
    {retry' : Retry} (hpaused : retry.paused? s = some retry') (now : Nat) :
    Stands s streams received pauses (.subscribed retry' now n feeds) := by
  cases h with
  | @pausing i _ _ hpauses hattempts hbackoff =>
    rcases Nat.lt_or_ge (2 * s.pauseAfter streams i) UInt64.size with hfits | hfull
    · obtain ⟨_, hsome, hcounts⟩ :=
        Retry.paused_of_fits hattempts hpauses.positive hbackoff hfits
      obtain rfl := Option.some.inj (hpaused.symm.trans hsome)
      exact subscribed hcounts now
    · exact absurd (hpaused.symm.trans (Retry.not_paused hbackoff hfull)) (by simp)

/-- A pause that is over, and all that follows at once. -/
theorem resume (h : Stands s streams received pauses ⟨retry, .pausing wake, n, feeds⟩) (now : Nat) :
    Stands s streams (received ++ (Reception.resume s now retry wake n feeds).1)
      (pauses ++ pausesResuming s now retry wake feeds)
      (Reception.resume s now retry wake n feeds).2 := by
  induction feeds generalizing received pauses retry wake n with
  | nil =>
    rw [Reception.resume, pausesResuming, List.append_nil]
    split
    · simpa using h
    · split
      · rename_i hpaused
        simpa using h.overflows hpaused now
      · rename_i hpaused
        rw [List.append_nil]
        exact h.subscribes hpaused now
  | cons feed feeds ih =>
    rw [Reception.resume, pausesResuming]
    by_cases hearly : now < wake
    · simpa [hearly] using h
    · simp only [hearly, if_false]
      cases hpaused : retry.paused? s with
      | none => simpa using h.overflows hpaused now
      | some retry' =>
        have hlisten := (h.subscribes hpaused now).listen now
        dsimp only
        generalize Phase.listen s now retry' feed = heard at hlisten ⊢
        obtain ⟨events, retry'', phase⟩ := heard
        cases phase with
        -- a feed that is over at once may be followed by others
        | pausing wake' => simpa [Phase.seconds] using ih hlisten
        | listening => exact hlisten
        | draining => exact hlisten
        | ended => exact hlisten

end Resuming

/-- Polling a reception at any instant keeps its standing. -/
theorem poll {r : Reception} (h : Stands s streams received pauses r) (now : Nat) :
    Stands s streams (received ++ (r.poll s now).1) (pauses ++ r.pausesAt s now)
      (r.poll s now).2 := by
  obtain ⟨retry, phase, n, upcoming⟩ := r
  cases phase with
  | listening wake feed =>
    simp only [Reception.poll, pausesAt]
    split
    · simpa using h
    · have hlisten := h.listen now
      generalize Phase.listen s now retry feed = heard at hlisten ⊢
      obtain ⟨events, retry', phase⟩ := heard
      cases phase with
      | pausing wake' => simpa [Phase.seconds] using hlisten.resume now
      | listening => exact hlisten
      | draining => exact hlisten
      | ended => exact hlisten
  | pausing wake => exact h.resume now
  | draining => simpa [Reception.poll, pausesAt] using h
  | ended instant result => simpa [Reception.poll, pausesAt] using h

/-! ## Ends that are not of the source -/

theorem violates {r : Reception} (h : Stands s streams received pauses r) (v : MatchViolation)
    (now : Nat) :
    Stands s streams received pauses { r with phase := .ended now (.matchViolation v) } := by
  obtain ⟨i, hplace, hreceived, hpauses⟩ := h.exists_place
  rw [hplace]
  exact .violated hreceived hpauses

theorem finishes {r : Reception} (h : Stands s streams received pauses r)
    (hphase : r.phase = .draining) (now : Nat) :
    Stands s streams received pauses { r with phase := .ended now .finished } := by
  cases h with
  | draining hsequel => exact .stopped hsequel
  | _ => cases hphase

/-- A run that has finished has received all events of the streams that it subscribed to. -/
theorem received_of_finished {r : Reception} (h : Stands s streams received pauses r)
    {instant : Nat}
    (hphase : r.phase = .ended instant .finished) :
    received = eventsOf streams r.subscriptions := by
  cases h with
  | stopped => rfl
  | _ => cases hphase

/-- A run that has ended, be it not by an event, has made all pauses through its place. -/
theorem pauses_of_ended {r : Reception} (h : Stands s streams received pauses r) {instant i : Nat}
    {result : RunEnd} (hphase : r.phase = .ended instant result)
    (hresult : ∀ v, result ≠ .matchViolation v) (hplace : r.subscriptions = i + 1) :
    pauses = s.pausesThrough streams i := by
  cases h with
  | stopped hsequel =>
    obtain rfl := Nat.succ.inj hplace
    rw [RetrySettings.pausesThrough, hsequel, List.append_nil]
  | overflowed hsequel =>
    obtain rfl := Nat.succ.inj hplace
    rw [RetrySettings.pausesThrough, hsequel, RetrySettings.pausesBefore_succ]
  | violated =>
    cases hphase
    exact absurd rfl (hresult _)
  | _ => cases hphase

/-- A run that goes on where no stream is left has made all pauses. -/
theorem pauses_of_silence {r : Reception} (h : Stands s streams received pauses r) {i : Nat}
    (hgoing : ∀ instant result, r.phase ≠ .ended instant result) (hplace : r.subscriptions = i + 1)
    (hsilence : s.sequel streams i = .silence) : pauses = s.pausesThrough streams i := by
  cases h with
  | pausing hpauses =>
    obtain rfl := Nat.succ.inj hplace
    exact hpauses.pausesThrough_eq.symm
  | stopped => exact absurd rfl (hgoing _ _)
  | overflowed => exact absurd rfl (hgoing _ _)
  | violated => exact absurd rfl (hgoing _ _)
  | _ =>
    obtain rfl := Nat.succ.inj hplace
    rw [RetrySettings.pausesThrough, hsilence, List.append_nil]

end Stands

end Reception

end ChatCommands
