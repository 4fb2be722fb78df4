import ChatCommands.Directory.Basic
import ChatCommands.Text.Numeral
import ChatCommands.Text.Utf8
import ChatCommands.Toml.Document
import ChatCommands.Wire.Entity
import ChatCommands.Wire.Settings

set_option autoImplicit false

/-!
# Settings of the console

The console adds its owner and its roster to the settings of the pipeline. They are read from a
document and then overridden by the environment; a document that cannot be read counts as empty, and
an override that cannot be read counts as absent. In the roster a list may be longer than the entity
that it describes.
-/

namespace ChatCommands

namespace Json

/-- A list without what follows its first items; any other value as it is. -/
def firstItems (count : Nat) : Json → Json
  | .list js => .list (js.take count)
  | j => j

/-- A record with the values of a field changed, or a list with the item at an index changed. -/
def changeMember (name : String) (index : Nat) (f : Json → Json) : Json → Json
  | .record fields => .record (fields.map fun (k, j) => if k == name then (k, f j) else (k, j))
  | .list js => .list (js.modify index f)
  | j => j

/-- The name in a table that holds an empty table under that name; any other value as it is. -/
def tabledName : Json → Json
  | .record [(name, .record [])] => .text name
  | j => j

/-- The name in a table that holds an empty array under that name; any other value as it is. -/
def listedName : Json → Json
  | .record [(name, .list [])] => .text name
  | j => j

end Json

open Json (listOf? withDefault required fields? recordFields? firstItems changeMember)

/-- The kind of a channel may be written as a table of its name. -/
def Channel.ofDocument? (j : Json) : Option Channel :=
  Channel.ofJson? ((j.firstItems 5).changeMember "kind" 2 fun k => k.tabledName.listedName)

/-- The membership that a record or list describes. -/
def Membership.ofDocument? (j : Json) : Option Membership := do
  let [guild, user, roles] ← fields? ["guild_id", "user_id", "roles"] (j.firstItems 3) | none
  return ⟨← required GuildId.ofJson? guild, ← required UserId.ofJson? user,
    ← withDefault [] (listOf? RoleId.ofJson?) roles⟩

/-- The roster that a record or list describes. -/
def Roster.ofDocument? (j : Json) : Option Roster := do
  let [guilds, channels, users, roles, members] ←
    fields? ["guilds", "channels", "users", "roles", "members"] (j.firstItems 5) | none
  return ⟨← withDefault [] (listOf? fun j => Guild.ofJson? (j.firstItems 3)) guilds,
    ← withDefault [] (listOf? Channel.ofDocument?) channels,
    ← withDefault [] (listOf? fun j => User.ofJson? (j.firstItems 3)) users,
    ← withDefault [] (listOf? fun j => Role.ofJson? (j.firstItems 3)) roles,
    ← withDefault [] (listOf? Membership.ofDocument?) members⟩

/-- The settings of the console. -/
structure ConsoleSettings where
  pipeline : Settings := {}
  owner : UserId := ⟨1⟩
  roster : Roster := {}

namespace ConsoleSettings

/-- The settings that the record of a document describes. -/
def ofJson? (j : Json) : Option ConsoleSettings := do
  let dflt : ConsoleSettings := {}
  let [owner, roster] ← recordFields? ["owner_id", "directory"] j | none
  return ⟨← Settings.ofJson? (j.changeMember "on_match_violation" 0 Json.tabledName),
    ← withDefault dflt.owner UserId.ofJson? owner,
    ← withDefault dflt.roster Roster.ofDocument? roster⟩

/-- The settings in a document. -/
def read? (document : String) : Option ConsoleSettings := (Toml.parse document).bind ofJson?

/-- The settings in a file, which may be absent. -/
def ofFile (bytes : Option (List UInt8)) : ConsoleSettings :=
  ((bytes.bind fun bs => (Text.readUtf8 bs).toOption).bind read?).getD {}

/-- The settings with another lead of messages. -/
def withLead (s : ConsoleSettings) (lead : Option String) : ConsoleSettings :=
  { s with pipeline := { s.pipeline with lead := lead.getD s.pipeline.lead } }

/-- The value of a numeral in the environment. -/
def numeral? {α : Type} (read : List Char → Except Text.NumeralError α) (text : Option String) :
    Option α :=
  text.bind fun s => (read s.toList).toOption

/-- The settings of retries, overridden by an environment. -/
def retryIn (environment : String → Option String) (r : RetrySettings) : RetrySettings where
  maxAttempts :=
    (numeral? Text.readWord32 (environment "APP__RETRY_MAX_ATTEMPTS")).getD r.maxAttempts
  minBackoff :=
    (numeral? Text.readWord64 (environment "APP__RETRY_MIN_BACKOFF_SECS")).getD r.minBackoff
  maxBackoff :=
    (numeral? Text.readWord64 (environment "APP__RETRY_MAX_BACKOFF_SECS")).getD r.maxBackoff

/-- The settings overridden by an environment. Of the two names for the lead of messages the one of
the application wins. -/
def inEnvironment (s : ConsoleSettings) (environment : String → Option String) :
    ConsoleSettings where
  pipeline := { s.pipeline with
    lead := ((environment "APP__PREFIX").or (environment "BOT_PREFIX")).getD s.pipeline.lead
    retry := retryIn environment s.pipeline.retry
    onMatchViolation := ((environment "APP__ON_MATCH_VIOLATION").bind
      MatchViolationPolicy.ofName?).getD s.pipeline.onMatchViolation }
  owner := ((numeral? Text.readWord64 (environment "APP__OWNER_ID")).map UserId.mk).getD s.owner
  roster := s.roster

end ConsoleSettings

/-- The names that the console asks its environment for. -/
def environmentNames : List String :=
  ["BOT_PREFIX", "APP__PREFIX", "APP__OWNER_ID", "APP__RETRY_MAX_ATTEMPTS",
    "APP__RETRY_MIN_BACKOFF_SECS", "APP__RETRY_MAX_BACKOFF_SECS", "APP__ON_MATCH_VIOLATION"]

/-- The environment of names and values; of equal names the last one counts. -/
def environmentOf (settings : List (String × String)) (name : String) : Option String :=
  (settings.reverse.find? (·.1 == name)).map (·.2)

end ChatCommands
