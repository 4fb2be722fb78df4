import ChatCommands.Json.Shape
import ChatCommands.Pipeline.Settings

set_option autoImplicit false

/-!
# Settings in documents

Settings are read from a record. Every field may be left out and then has its default; fields that
are not known are passed over.
-/

namespace ChatCommands

open Json (word? bool? text? withDefault fields? recordFields? mapOf? choice?)

/-- A word of 32 bits. -/
def Json.word32? (j : Json) : Option UInt32 :=
  match word? j with
  | some n => if n.toNat < UInt32.size then some n.toUInt32 else none
  | none => none

/-- The settings of retries that a record or list describes. -/
def RetrySettings.ofJson? (j : Json) : Option RetrySettings := do
  let dflt : RetrySettings := {}
  let [attempts, shortest, longest] ←
    fields? ["max_attempts", "min_backoff_secs", "max_backoff_secs"] j | none
  return ⟨← withDefault dflt.maxAttempts Json.word32? attempts,
    ← withDefault dflt.minBackoff word? shortest, ← withDefault dflt.maxBackoff word? longest⟩

/-- The styles that a record or list describes. -/
def FullMatch.ofJson? (j : Json) : Option FullMatch := do
  let dflt : FullMatch := {}
  let [text, slash] ← fields? ["text", "slash"] j | none
  return ⟨← withDefault dflt.text bool? text, ← withDefault dflt.slash bool? slash⟩

/-- The policy with a written name. -/
def MatchViolationPolicy.ofJson? (j : Json) : Option MatchViolationPolicy :=
  (choice? .direct j).bind MatchViolationPolicy.ofName?

/-- The settings that a record describes. -/
def Settings.ofJson? (j : Json) : Option Settings := do
  let dflt : Settings := {}
  let [lead, guildLeads, full, violation, retry, aliases] ←
    recordFields? ["prefix", "guild_prefixes", "full_match", "on_match_violation", "retry",
      "aliases"] j | none
  return ⟨← withDefault dflt.lead text? lead, ← withDefault [] (mapOf? text?) guildLeads,
    ← withDefault dflt.fullMatch FullMatch.ofJson? full,
    ← withDefault dflt.onMatchViolation MatchViolationPolicy.ofJson? violation,
    ← withDefault dflt.retry RetrySettings.ofJson? retry, ← withDefault [] (mapOf? text?) aliases⟩

end ChatCommands
