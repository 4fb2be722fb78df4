import ChatCommands.Invocation.AliasTable
import ChatCommands.Domain.Event

set_option autoImplicit false

/-!
# Settings of the pipeline

How messages are recognised, which styles must match in full and what happens if they do not, how
often a failed event source is tried again, and the aliases. Backoff times are in seconds.
-/

namespace ChatCommands

/-- What to do with an event that leaves input unmatched though its style must match in full. -/
inductive MatchViolationPolicy where
  /-- The event is dropped. -/
  | dropEvent
  /-- The pipeline stops. -/
  | haltPipeline
  deriving DecidableEq, Repr

/-- The written name of a policy. -/
def MatchViolationPolicy.ofName? : String → Option MatchViolationPolicy
  | "drop_event" => some .dropEvent
  | "halt_pipeline" => some .haltPipeline
  | _ => none

/-- The title of a policy. -/
def MatchViolationPolicy.title : MatchViolationPolicy → String
  | .dropEvent => "DropEvent"
  | .haltPipeline => "HaltPipeline"

/-- How often and after which pauses a failed source is subscribed to again. -/
structure RetrySettings where
  maxAttempts : UInt32 := 100
  minBackoff : UInt64 := 1
  maxBackoff : UInt64 := 3600
  deriving DecidableEq, Repr

/-- The longest pause; it is never below the shortest. -/
def RetrySettings.longestBackoff (r : RetrySettings) : UInt64 := max r.maxBackoff r.minBackoff

/-- The styles whose whole input must match. -/
structure FullMatch where
  text : Bool := false
  slash : Bool := true
  deriving DecidableEq, Repr

/-- The settings of the pipeline. -/
structure Settings where
  lead : String := "!"
  /-- Leads by the decimal text of a guild's identifier. -/
  guildLeads : List (String × String) := []
  fullMatch : FullMatch := {}
  onMatchViolation : MatchViolationPolicy := .dropEvent
  retry : RetrySettings := {}
  /-- Aliases and their targets, both as words. -/
  aliases : List (String × String) := []

namespace Settings

/-- The text that begins every message with a command, in a guild or in private. -/
def leadFor (s : Settings) (guild : Option GuildId) : String :=
  match guild with
  | none => s.lead
  | some id => ((s.guildLeads.find? (·.1 == toString id)).map (·.2)).getD s.lead

/-- The whole input of the style must match. -/
def requiresFullMatch (s : Settings) : Style → Bool
  | .text => s.fullMatch.text
  | .slash => s.fullMatch.slash

/-- The table of the aliases; those without alias or target words are left out. -/
def aliasTable (s : Settings) : AliasTable :=
  .ofList <| (s.aliases.map fun (name, target) => (Invocation.parse name, Invocation.parse target))
    |>.filter fun (name, target) => !name.isEmpty && !target.isEmpty

end Settings

end ChatCommands
