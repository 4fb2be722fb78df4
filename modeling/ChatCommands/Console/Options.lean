set_option autoImplicit false

/-!
# Options

The console takes two options, each with a value that follows the name as the next word or
after an equals sign. Words after a lone double dash are no options, and there is nothing
else that the console takes.
-/

namespace ChatCommands

/-- The options of the console. -/
structure Options where
  /-- The path of the settings. -/
  config : String
  /-- The lead of messages, in place of the one in the settings. -/
  lead : Option String
  deriving DecidableEq, Repr

/-- Why there are no options. -/
inductive OptionsEnd where
  /-- The words ask for help. -/
  | help
  /-- The words are no options. -/
  | refused
  deriving DecidableEq, Repr

namespace Options

/-- The path of the settings when no option names one. -/
def usualConfig : String := "bot.toml"

/-- The lines that tell the options. -/
def help : List String :=
  ["Usage: console [OPTIONS]", "", "Options:",
    "      --config <CONFIG>  [default: bot.toml]",
    "      --prefix <PREFIX>  Overrides the configured text prefix",
    "  -h, --help             Print help"]

/-- The options found so far. -/
structure Found where
  config : Option String := none
  lead : Option String := none

/-- The names of options. -/
inductive Name where
  | config
  | lead
  deriving DecidableEq, Repr

/-- One more option. None may stand twice, and the path of the settings may not be empty. -/
def Found.add (f : Found) (value : String) : Name → Except OptionsEnd Found
  | .config =>
    if f.config.isSome || value.isEmpty then .error .refused
    else .ok { f with config := some value }
  | .lead => if f.lead.isSome then .error .refused else .ok { f with lead := some value }

/-- What a word is. -/
inductive Word where
  /-- The name of an option whose value is the next word. -/
  | name (name : Name)
  /-- The name of an option with its value. -/
  | setting (name : Name) (value : String)
  | help
  /-- Words after this one are no options. -/
  | dashes
  | other
  deriving DecidableEq, Repr

/-- The name that a text is, in front of its value. -/
def Name.ofText? : List Char → Option Name
  | ['-', '-', 'c', 'o', 'n', 'f', 'i', 'g'] => some .config
  | ['-', '-', 'p', 'r', 'e', 'f', 'i', 'x'] => some .lead
  | _ => none

/-- What a word is. A dash and an `h` ask for help, whatever follows them. -/
def Word.ofText (word : String) : Word :=
  let s := word.toList
  let name := s.takeWhile (· ≠ '=')
  match s, Name.ofText? name with
  | '-' :: 'h' :: _, _ => .help
  | _, some n =>
    if name.length < s.length then .setting n (String.ofList (s.drop (name.length + 1)))
      else .name n
  | _, none => if word = "--help" then .help else if word = "--" then .dashes else .other

/-- A word that can be the value of the option before it. -/
def isValue (word : String) : Bool := word.toList.head? != some '-' || word == "-"

/-- The options in words. -/
def find (f : Found) : List String → Except OptionsEnd Found
  | [] => .ok f
  | word :: words =>
    match Word.ofText word with
    | .help => .error .help
    | .dashes => if words.isEmpty then .ok f else .error .refused
    | .other => .error .refused
    | .setting name value => do find (← f.add value name) words
    | .name name =>
      match words with
      | [] => .error .refused
      | value :: words =>
        if isValue value then do find (← f.add value name) words else .error .refused

/-- The options that words spell. -/
def ofWords (words : List String) : Except OptionsEnd Options :=
  (find {} words).map fun f => ⟨f.config.getD usualConfig, f.lead⟩

end Options

end ChatCommands
