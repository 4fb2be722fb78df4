import ChatCommands.Pipeline.Settings

set_option autoImplicit false

/-!
# Retrying

A source that fails for a while is subscribed to again after a pause. Faults are counted since the
last event; each pause is twice as long as the one before, up to the longest. Both numbers are
words, and what does not fit its word is no number. Instants are signed words of seconds: a pause
that leads beyond them is over after thirty years.
-/

namespace ChatCommands

/-- The faults since the last event, and the seconds of the next pause. -/
structure Retry where
  attempts : UInt32
  backoff : UInt64
  deriving DecidableEq, Repr

namespace Retry

/-- No faults so far. -/
def fresh (s : RetrySettings) : Retry := ⟨0, s.minBackoff⟩

/-- One more fault. -/
def counted? (r : Retry) : Option Retry :=
  if r.attempts.toNat + 1 < UInt32.size then some { r with attempts := r.attempts + 1 } else none

/-- The pause after a pause. -/
def paused? (s : RetrySettings) (r : Retry) : Option Retry :=
  if r.backoff.toNat * 2 < UInt64.size then
    some { r with backoff := min (r.backoff * 2) s.longestBackoff }
  else none

/-- More faults than the settings allow. -/
def isExhausted (s : RetrySettings) (r : Retry) : Bool := s.maxAttempts < r.attempts

/-- The wording of a pause that outgrows its word. -/
def overflowMessage : String := "overflow when multiplying duration by scalar"

/-- The last second of the clock. -/
def lastSecond : Nat := 0x7FFFFFFFFFFFFFFF

/-- The seconds of a pause that leads beyond the last second of the clock: thirty years. -/
def farSeconds : Nat := 30 * 365 * 86400

/-- The milliseconds of the next pause, when it begins at an instant. -/
def pauseMs (now : Nat) (r : Retry) : Nat :=
  (if now / 1000 + r.backoff.toNat < lastSecond then r.backoff.toNat else farSeconds) * 1000

end Retry

end ChatCommands
