import ChatCommands.Json.Reader
import ChatCommands.Pipeline.Feed
import ChatCommands.Text.Blank
import ChatCommands.Text.Utf8
import ChatCommands.Wire.Event

set_option autoImplicit false

/-!
# Lines of input

Each line of input is a JSON document: a fault of the source or an event; lines that are neither are
skipped. A feed takes the lines of bytes up to the first fault. Where all feeds take from one input
they do so in blocks, and a feed that ends within a block takes the rest of that block with it.
-/

namespace ChatCommands

/-- What a line of input says. -/
inductive InputLine where
  | event (event : Event)
  | fault (fault : SourceFault)

namespace InputLine

/-- The fault in a record that has a single field for it. -/
def faultOf? (j : Json) : Option SourceFault := do
  let [field] ← Json.recordFields? ["fault"] j | none
  Json.required SourceFault.ofJson? field

/-- A fault, or else an event. -/
def ofJson? (j : Json) : Option InputLine :=
  match faultOf? j with
  | some f => some (.fault f)
  | none => (Event.ofJson? j).map .event

/-- What a line says; blank lines and lines that are no document say nothing. -/
def read? (line : String) : Option InputLine := (Json.parse (Text.trimmed line)).bind ofJson?

/-- What a line of bytes says; bytes that are no text are a fault that passes. -/
def ofBytes? (line : List UInt8) : Option InputLine :=
  match Text.readUtf8 line with
  | .ok text => read? text
  | .error e => some (.fault ⟨.transient, "reading input failed: " ++ e.message⟩)

/-- The line as an item of a feed. -/
def toItem : InputLine → FeedItem
  | .event e => .event e
  | .fault f => .fault f

end InputLine

namespace Input

/-- The complete lines of bytes after the beginning of a line, each with its line break, and the
beginning of a line that is left. What has begun is held backwards. -/
def cutLines (begun : List UInt8) : List UInt8 → List (List UInt8) × List UInt8
  | [] => ([], begun)
  | b :: bs =>
    if b = 10 then
      let (lines, rest) := cutLines [] bs
      ((b :: begun).reverse :: lines, rest)
    else cutLines (b :: begun) bs

/-- A line that the end of the input finishes, unless it is empty. -/
def lastLine (begun : List UInt8) : List (List UInt8) :=
  if begun.isEmpty then [] else [begun.reverse]

/-- The lines of bytes. -/
def linesOf (bytes : List UInt8) : List (List UInt8) :=
  let (lines, rest) := cutLines [] bytes
  lines ++ lastLine rest

/-- What bytes say, line by line. -/
def read (bytes : List UInt8) : List InputLine := (linesOf bytes).filterMap InputLine.ofBytes?

/-- The feed of bytes. -/
def feed (bytes : List UInt8) : Feed := ⟨(read bytes).map InputLine.toItem, false⟩

/-! ## Feeds from one input -/

/-- What lines say up to the first fault, that one included, and whether there is one. -/
def upToFault : List (List UInt8) → List FeedItem × Bool
  | [] => ([], false)
  | line :: lines =>
    match InputLine.ofBytes? line with
    | none => upToFault lines
    | some (.fault f) => ([.fault f], true)
    | some (.event e) =>
      let (items, isEnded) := upToFault lines
      (.event e :: items, isEnded)

/-- The feeds from the blocks of one input, the first of which has come to some items and has begun
a line. After the end of the input a feed is over at once. -/
def feedsFrom (items : List FeedItem) (begun : List UInt8) : List (List UInt8) → List Feed
  | [] =>
    let (more, isEnded) := upToFault (lastLine begun)
    ⟨items ++ more, false⟩ :: (if isEnded then [⟨[], false⟩] else [])
  | block :: blocks =>
    let (lines, rest) := cutLines begun block
    let (more, isEnded) := upToFault lines
    if isEnded then ⟨items ++ more, false⟩ :: feedsFrom [] [] blocks
    else feedsFrom (items ++ more) rest blocks

/-- The number of bytes in a block. -/
def blockSize : Nat := 8192

/-- Bytes in blocks of a size, the last of which may be shorter. -/
def blocksOf (size : Nat) (bytes : List UInt8) : List (List UInt8) :=
  if size = 0 ∨ bytes = [] then []
  else bytes.take size :: blocksOf size (bytes.drop size)
termination_by bytes.length
decreasing_by
  have : bytes.length ≠ 0 := by simp_all
  simp only [List.length_drop]
  omega

/-- The feeds from one input. -/
def feeds (bytes : List UInt8) : List Feed := feedsFrom [] [] (blocksOf blockSize bytes)

end Input

end ChatCommands
