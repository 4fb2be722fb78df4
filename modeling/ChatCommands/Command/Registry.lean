import ChatCommands.Command.Chain
import ChatCommands.Invocation.TokenStream
import ChatCommands.Effect.Act

set_option autoImplicit false

/-!
# Registries and chain matching

A registry finds commands by their path. A chain is matched greedily: each next token is consumed as
long as it names a command below those matched so far.
-/

namespace ChatCommands

/-- A command with what runs it and what presents its outcomes. -/
structure Registration where
  command : Command
  handler : Option Handler
  outcomeHandlers : List OutcomeHandler

/-- Finds the command at a path for a style. -/
abbrev Registry : Type := Invocation → Style → Option Registration

/-- Commands by their paths; no path stands twice. -/
structure CommandTable where
  entries : List (Invocation × Registration)

namespace CommandTable

/-- The table without commands. -/
def empty : CommandTable := ⟨[]⟩

/-- The command at a path, whatever its styles. -/
def entry? (t : CommandTable) (path : Invocation) : Option Registration :=
  (t.entries.find? (·.1 == path)).map (·.2)

/-- The table with a command, in place of the one at the same path. -/
def insert (t : CommandTable) (r : Registration) : CommandTable :=
  let path := r.command.invocation
  ⟨t.entries.filter (·.1 != path) ++ [(path, r)]⟩

/-- The table of commands inserted in order. -/
def ofList (rs : List Registration) : CommandTable := rs.foldl insert empty

/-- The number of commands. -/
def size (t : CommandTable) : Nat := t.entries.length

/-- The registry of a table: a command is offered to its own styles. -/
def registry (t : CommandTable) : Registry := fun path style =>
  Option.filter (fun r => r.command.styles.contains style) <| entry? t path

end CommandTable

/-- A registry that answers some paths by itself, whatever the style. -/
def Registry.overlaid (rows : List (Invocation × Registration)) (registry : Registry) : Registry :=
  fun path style =>
    match rows.find? (·.1 == path) with
    | some (_, r) => some r
    | none => registry path style

/-- The commands that an invocation matched, root first, and their names. -/
structure ChainMatch where
  chain : List Registration
  invocation : Invocation

/-- The chain continued below the commands matched so far, and the stream after it. -/
def matchBelow (registry : Registry) (style : Style) (path : Invocation) (s : TokenStream) :
    ChainMatch × TokenStream :=
  match _h : s.next? with
  | none => (⟨[], path⟩, s)
  | some (token, rest) =>
    match registry (path.child token) style with
    | none => (⟨[], path⟩, s)
    | some r =>
      let (below, s) := matchBelow registry style (path.child r.command.name) rest
      (⟨r :: below.chain, below.invocation⟩, s)
termination_by s.size
decreasing_by exact TokenStream.next?_size _h

/-- The chain that a stream begins with, and the stream after it. -/
def matchChain (registry : Registry) (style : Style) (s : TokenStream) : ChainMatch × TokenStream :=
  matchBelow registry style .root s

end ChatCommands
