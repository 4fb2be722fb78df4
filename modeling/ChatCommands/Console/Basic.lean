import ChatCommands.Console.Commands
import ChatCommands.Console.Input
import ChatCommands.Console.Options
import ChatCommands.Console.Output
import ChatCommands.Console.Settings
import ChatCommands.Pipeline.Run

set_option autoImplicit false

/-!
# The console

The console runs a pipeline of its own commands on lines of input and answers by lines
of output. Its owner may do whatever a group may do. How it exits tells how it was
started and how the run ended.
-/

namespace ChatCommands

namespace ConsoleSettings

/-- The pipeline of the console. -/
def toPipeline (s : ConsoleSettings) : Pipeline :=
  .ofSettings ConsoleCommand.all.registry (.overridable .botOwner) s.pipeline

/-- The platform of the console. -/
def platform (s : ConsoleSettings) : Platform Output :=
  (Directory.ofRoster (some s.owner) s.roster).console false

/-- A run of the console on the feeds of its subscriptions, given up at a deadline. -/
def run (s : ConsoleSettings) (feeds : List Feed) (deadline : Nat) : RunReport Output :=
  s.toPipeline.run s.platform feeds none deadline {}

end ConsoleSettings

/-- The exit codes of the console. -/
inductive ConsoleExit where
  | finished
  /-- The run ended by an error. -/
  | failed
  /-- The words on the command line are no options. -/
  | refused
  deriving DecidableEq, Repr

/-- The number of an exit. -/
def ConsoleExit.code : ConsoleExit → UInt8
  | .finished => 0
  | .failed => 1
  | .refused => 2

/-- What the console leaves: its exit, the lines that it wrote, and the error that ended its run. -/
structure ConsoleReport where
  exit : ConsoleExit
  lines : List String
  error : Option String

namespace ConsoleReport

/-- A later instant than any run on a number of feeds can reach: every pause fits a word of
seconds. -/
def deadline (feeds : List Feed) : Nat := (feeds.length + 1) * ((Text.maxWord64 + 1) * 1000)

/-- The report of a run. -/
def ofRun (r : RunReport Output) : ConsoleReport :=
  let error := r.result.bind RunEnd.error?
  ⟨if error.isSome then .failed else .finished, (r.atEnd.eventsFrom 0).map ReplyEvent.line, error⟩

/-- The settings for options: those of a file, overridden by the environment and by the options. -/
def settings (file : Option (List UInt8)) (environment : String → Option String) (o : Options) :
    ConsoleSettings :=
  ((ConsoleSettings.ofFile file).inEnvironment environment).withLead o.lead

/-- The report when there are no options. -/
def ofOptionsEnd : OptionsEnd → ConsoleReport
  | .help => ⟨.finished, Options.help, none⟩
  | .refused => ⟨.refused, [], none⟩

/-- The report of the console started with options, a file of settings, an environment and
the blocks of its input. -/
def ofOptions (o : Options) (file : Option (List UInt8)) (environment : String → Option String)
    (blocks : List (List UInt8)) : ConsoleReport :=
  let feeds := Input.feedsFrom [] [] blocks
  ofRun ((settings file environment o).run feeds (deadline feeds))

/-- The report of the console started with words, where files are known by their paths. -/
def ofWords (words : List String) (file : String → Option (List UInt8))
    (environment : String → Option String) (blocks : List (List UInt8)) : ConsoleReport :=
  match Options.ofWords words with
  | .error e => ofOptionsEnd e
  | .ok o => ofOptions o (file o.config) environment blocks

end ConsoleReport

end ChatCommands
