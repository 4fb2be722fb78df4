import ChatCommands.Invocation.Basic
import ChatCommands.Access.Group
import ChatCommands.Argument.Value
import ChatCommands.Text.Quoted

set_option autoImplicit false

/-!
# Commands

A command is declared by its path, its settings, its group and its parameters. What runs it is kept
apart, so that a handler can look at the declarations of the whole chain.
-/

namespace ChatCommands

/-- Where a command is valid. -/
inductive Scope where
  | everywhere
  | guildOnly
  deriving DecidableEq, Repr

/-- The settings of a command. -/
structure CommandSettings where
  ageRestricted : Bool := false
  ownerOnly : Bool := false
  serverOwnerOnly : Bool := false
  callable : Bool := true
  inheritSettings : Bool := false
  requireParentGroups : Bool := true
  invokeParent : Bool := false
  deriving DecidableEq, Repr

/-- The declaration of a command. -/
structure Command where
  id : String
  /-- The place among the commands that are declared together, which tells commands of one
  identifier apart. How a command is found and run does not depend on it. -/
  serial : Nat := 0
  parent : Invocation
  name : String
  scope : Scope
  settings : CommandSettings
  group : Group
  parameters : List Parameter
  styles : List Style

namespace Command

/-- A callable command at a path, for everyone and every style, without parameters. The command at
the empty path has the empty name. -/
def ofPath (id : String) (path : Invocation) : Command where
  id := id
  parent := path.parent?.getD .root
  name := path.name?.getD ""
  scope := .everywhere
  settings := {}
  group := .everyone
  parameters := []
  styles := [.text, .slash]

/-- The path of a command. -/
def invocation (c : Command) : Invocation := c.parent.child c.name

/-- The first parameter with a name. -/
def parameter? (c : Command) (name : String) : Option Parameter :=
  c.parameters.find? (·.name == name)

/-- A truth value in a sketch. -/
def flagText (b : Bool) : String := if b then "true" else "false"

/-- The settings in one line. -/
def settingsSketch (s : CommandSettings) : String :=
  "CommandSettings \x7b age_restricted: " ++ flagText s.ageRestricted
    ++ ", owner_only: " ++ flagText s.ownerOnly
    ++ ", server_owner_only: " ++ flagText s.serverOwnerOnly
    ++ ", callable: " ++ flagText s.callable
    ++ ", inherit_settings: " ++ flagText s.inheritSettings
    ++ ", require_parent_groups: " ++ flagText s.requireParentGroups
    ++ ", invoke_parent: " ++ flagText s.invokeParent ++ " \x7d"

/-- The declaration in one line. -/
def sketch (c : Command) : String :=
  "Command \x7b id: " ++ Text.quoted c.id
    ++ ", invocation: " ++ Text.quoted c.invocation.toText
    ++ ", scope: " ++ (match c.scope with
      | .everywhere => "Global"
      | .guildOnly => "Guild")
    ++ ", settings: " ++ settingsSketch c.settings
    ++ ", group: " ++ c.group.sketch
    ++ ", parameters: " ++ toString c.parameters.length ++ " \x7d"

end Command

end ChatCommands
