import ChatCommands.Domain.Event
import ChatCommands.Json.Basic

set_option autoImplicit false

/-!
# Observation

Every finished stage of an invocation leaves a record: the stage and a few labels. An observer that
writes records to a log writes only the labels that are present.
-/

namespace ChatCommands

/-- A stage of the processing of an event. -/
inductive Stage where
  | event
  | parse
  | validate
  | load
  | invoke
  | handle
  | execute
  | result
  deriving DecidableEq, Repr

/-- The name of a stage. -/
def Stage.name : Stage → String
  | .event => "event"
  | .parse => "parse"
  | .validate => "validate"
  | .load => "load"
  | .invoke => "invoke"
  | .handle => "handle"
  | .execute => "execute"
  | .result => "result"

/-- The stage with a name. -/
def Stage.ofName? : String → Option Stage
  | "event" => some .event
  | "parse" => some .parse
  | "validate" => some .validate
  | "load" => some .load
  | "invoke" => some .invoke
  | "handle" => some .handle
  | "execute" => some .execute
  | "result" => some .result
  | _ => none

/-- The labels of a record. -/
structure Tags where
  style : Option Style := none
  guild : Option GuildId := none
  channel : Option ChannelId := none
  caller : Option UserId := none
  command : Option String := none
  outcome : Option String := none
  deriving DecidableEq, Repr

/-- The labels with a command. -/
def Tags.withCommand (t : Tags) (command : String) : Tags := { t with command := some command }

/-- The labels with an outcome. -/
def Tags.withOutcome (t : Tags) (outcome : String) : Tags := { t with outcome := some outcome }

/-- The labels of an event. -/
def Tags.ofEvent (e : Event) : Tags :=
  { style := some e.style, guild := e.guild, channel := some e.channel, caller := some e.caller.id }

/-- The line that a record leaves in a log at debug level, without the time it took. -/
def logLine (stage : Stage) (tags : Tags) : Json :=
  .record <| [("level", .text "DEBUG"), ("message", .text "stage finished"),
      ("stage", .text stage.name)]
    ++ Json.optionalField "style" (tags.style.map fun s => .text s.name)
    ++ Json.optionalField "guild_id" (tags.guild.map fun g => Json.ofWord g.value)
    ++ Json.optionalField "channel_id" (tags.channel.map fun c => Json.ofWord c.value)
    ++ Json.optionalField "caller" (tags.caller.map fun u => Json.ofWord u.value)
    ++ Json.optionalField "command" (tags.command.map .text)
    ++ Json.optionalField "outcome" (tags.outcome.map .text)

end ChatCommands
