import ChatCommands.Console.Basic

set_option autoImplicit false

/-!
# The program

The console as a program: words, files, environment and standard input in, lines and
an exit code out.
-/

namespace ChatCommands.Program

/-- The bytes of a file, or nothing when it cannot be read. -/
def fileBytes (path : String) : IO (Option (List UInt8)) := do
  try return some (← IO.FS.readBinFile path).toList catch _ => return none

/-- The variables that are set, out of those the console asks for. -/
def settingsGiven : IO (List (String × String)) :=
  environmentNames.filterMapM fun name => return (← IO.getEnv name).map (name, ·)

/-- The blocks of a stream up to its end. -/
partial def blocks (input : IO.FS.Stream) : IO (List (List UInt8)) := do
  let block ← input.read Input.blockSize.toUSize
  if block.isEmpty then return [] else return block.toList :: (← blocks input)

/-- The report of the console started with words. -/
def report (words : List String) : IO ConsoleReport := do
  match Options.ofWords words with
  | .error e => return .ofOptionsEnd e
  | .ok o =>
    let file ← fileBytes o.config
    let environment := environmentOf (← settingsGiven)
    return .ofOptions o file environment (← blocks (← IO.getStdin))

end ChatCommands.Program

def main (words : List String) : IO UInt32 := do
  let report ← ChatCommands.Program.report words
  report.lines.forM IO.println
  report.error.forM fun e => IO.eprintln ("Error: " ++ e)
  return report.exit.code.toUInt32
