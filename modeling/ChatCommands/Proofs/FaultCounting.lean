import ChatCommands.Domain.Event
import ChatCommands.Pipeline.Feed
import ChatCommands.Pipeline.Retry
import Mathlib.Algebra.GroupWithZero.Nat
import Mathlib.Data.UInt

set_option autoImplicit false

/-!
# Counting faults

A source delivers streams: finite runs of events and silences, each closed by its end or by a fault.
`faultsInRow` counts the transient faults since the last event, and `RetrySettings.pauseSeconds` is
the pause that is due after so many of them. The retries of a run keep both numbers as words
(`Retry.Counts`): a fault more is counted, and the pause is doubled, as long as the words hold them.
-/

namespace ChatCommands

/-! ## Streams -/

/-- What a stream delivers. -/
inductive Delivery where
  | event (event : Event)
  /-- Nothing, for a number of milliseconds. -/
  | silence (ms : Nat)

namespace Delivery

/-- The item of a feed. -/
def item : Delivery → FeedItem
  | .event e => .event e
  | .silence ms => .wait ms

/-- The event that is delivered. -/
def event? : Delivery → Option Event
  | .event e => some e
  | .silence _ => none

/-- The milliseconds that pass. -/
def ms : Delivery → Nat
  | .event _ => 0
  | .silence ms => ms

end Delivery

/-- How a stream closes. -/
inductive Closing where
  | complete
  | fault (fault : SourceFault)

namespace Closing

/-- The last items of a feed. -/
def items : Closing → List FeedItem
  | .complete => []
  | .fault f => [.fault f]

/-- The stream fails, but not for good. -/
def isTransient : Closing → Bool
  | .complete => false
  | .fault f => f.isTransient

end Closing

/-- One stream of a source. -/
structure EventStream where
  delivered : List Delivery
  closing : Closing

namespace EventStream

/-- The feed of a subscription that plays the stream. -/
def feed (st : EventStream) : Feed := ⟨st.delivered.map Delivery.item ++ st.closing.items, false⟩

/-- The events of the stream, be they of interest or not. -/
def events (st : EventStream) : List Event := st.delivered.filterMap Delivery.event?

/-- The milliseconds from the subscription to the closing. -/
def silence (st : EventStream) : Nat := (st.delivered.map Delivery.ms).sum

/-- The transient faults in a row before the closing, when there were some before the stream. -/
def carried (st : EventStream) (before : Nat) : Nat := if st.events = [] then before else 0

end EventStream

/-- The number of transient faults since the last event, or since the start, after
streams in order. -/
def faultsInRow (streams : List EventStream) : Nat :=
  streams.foldl (fun n st => st.carried n + if st.closing.isTransient then 1 else 0) 0

theorem faultsInRow_take_succ {streams : List EventStream} {i : Nat} {st : EventStream}
    (h : streams[i]? = some st) :
    faultsInRow (streams.take (i + 1)) =
      st.carried (faultsInRow (streams.take i)) + if st.closing.isTransient then 1 else 0 := by
  rw [List.take_add_one, h, faultsInRow, List.foldl_append]
  rfl

/-! ## Counting and pausing -/

/-- The seconds of the pause after a number of transient faults in a row. -/
def RetrySettings.pauseSeconds (s : RetrySettings) (faults : Nat) : Nat :=
  min (s.minBackoff.toNat * 2 ^ (faults - 1)) (max s.minBackoff.toNat s.maxBackoff.toNat)

/-- The milliseconds that a pause takes on the clock, when it begins at an instant. -/
def clockedMs (now seconds : Nat) : Nat :=
  (if now / 1000 + seconds < Retry.lastSecond then seconds else Retry.farSeconds) * 1000

namespace Retry

variable {s : RetrySettings} {r : Retry} {n : Nat}

/-- The retries count the faults in a row, and the next pause is that of one fault more. -/
structure Counts (s : RetrySettings) (n : Nat) (r : Retry) : Prop where
  attempts : r.attempts.toNat = n
  backoff : r.backoff.toNat = s.pauseSeconds (n + 1)

theorem counts_fresh (s : RetrySettings) : (fresh s).Counts s 0 where
  attempts := rfl
  backoff := by
    show s.minBackoff.toNat = min (s.minBackoff.toNat * 2 ^ 0) _
    omega

/-- One fault more: the pause is now that of the faults counted. -/
theorem Counts.counted (h : r.Counts s n) (hfits : n + 1 < UInt32.size) :
    ∃ r', r.counted? = some r' ∧ r'.attempts.toNat = n + 1 ∧
      r'.backoff.toNat = s.pauseSeconds (n + 1) := by
  refine ⟨{ r with attempts := r.attempts + 1 }, ?_, ?_, h.backoff⟩
  · rw [counted?, h.attempts, if_pos hfits]
  · show (r.attempts + 1).toNat = n + 1
    rw [UInt32.toNat_add, h.attempts]
    exact Nat.mod_eq_of_lt hfits

/-- One more fault cannot be counted once the counter is full. -/
theorem Counts.not_counted (h : r.Counts s n) (hfull : UInt32.size ≤ n + 1) :
    r.counted? = none := by
  rw [counted?, h.attempts, if_neg (Nat.not_lt_of_le hfull)]

/-- The pause doubles from fault to fault until it reaches its bound. -/
theorem pauseSeconds_succ (s : RetrySettings) {n : Nat} (hn : 0 < n) :
    s.pauseSeconds (n + 1) =
      min (s.pauseSeconds n * 2) (max s.minBackoff.toNat s.maxBackoff.toNat) := by
  obtain ⟨n, rfl⟩ := Nat.exists_eq_succ_of_ne_zero (Nat.ne_of_gt hn)
  simp only [RetrySettings.pauseSeconds, Nat.succ_eq_add_one, Nat.add_sub_cancel, Nat.pow_succ,
    ← Nat.mul_assoc]
  omega

theorem toNat_longestBackoff (s : RetrySettings) :
    s.longestBackoff.toNat = max s.minBackoff.toNat s.maxBackoff.toNat := by
  rw [RetrySettings.longestBackoff, UInt64.toNat_max, Nat.max_comm]

/-- After the pause the next one is due, as long as its double fits a word. -/
theorem paused_of_fits (hattempts : r.attempts.toNat = n) (hn : 0 < n)
    (hbackoff : r.backoff.toNat = s.pauseSeconds n) (hfits : 2 * s.pauseSeconds n < UInt64.size) :
    ∃ r', r.paused? s = some r' ∧ r'.Counts s n := by
  have hdouble : (r.backoff * 2).toNat = s.pauseSeconds n * 2 := by
    rw [UInt64.toNat_mul, hbackoff]
    exact Nat.mod_eq_of_lt (by rw [Nat.mul_comm]; exact hfits)
  refine ⟨{ r with backoff := min (r.backoff * 2) s.longestBackoff }, ?_, hattempts, ?_⟩
  · rw [paused?, hbackoff, if_pos (by omega)]
  · show (min (r.backoff * 2) s.longestBackoff).toNat = _
    rw [UInt64.toNat_min, hdouble, toNat_longestBackoff, pauseSeconds_succ s hn]

theorem not_paused (hbackoff : r.backoff.toNat = s.pauseSeconds n)
    (hfull : UInt64.size ≤ 2 * s.pauseSeconds n) : r.paused? s = none := by
  rw [paused?, hbackoff, if_neg (by omega)]

end Retry

end ChatCommands
