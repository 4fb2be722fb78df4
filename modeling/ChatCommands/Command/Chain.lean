import ChatCommands.Command.Basic

set_option autoImplicit false

/-!
# Chains of commands

A chain lists the commands along a path, root first; the last one is invoked. This module decides
whose handlers run and in which order, whether the chain spells the path of the invoked command,
whose settings apply and which groups the caller must belong to. The decisions read declarations
only; `handlingOrder` works on anything that carries a declaration.
-/

namespace ChatCommands

/-- Why a chain cannot be run as it is registered. -/
inductive ChainError where
  | empty
  | normalization (command normalized declared : String)
  | parameterKind (ancestor command parameter expected found : String)
  | parameterOptional (ancestor command parameter : String)
  deriving DecidableEq, Repr

/-- The wording of a chain error. -/
def ChainError.message : ChainError → String
  | .empty => "command chain is empty"
  | .normalization command normalized declared =>
    "normalized invocation is `" ++ normalized ++ "`, but command " ++ command
      ++ " has invocation `" ++ declared ++ "`"
  | .parameterKind ancestor command parameter expected found =>
    "parameter " ++ parameter ++ " is of kind " ++ expected ++ " in parent " ++ ancestor
      ++ " but " ++ found ++ " in " ++ command
  | .parameterOptional ancestor command parameter =>
    "parameter " ++ parameter ++ " is required in parent " ++ ancestor
      ++ " but may be absent in " ++ command

/-- A parameter of an ancestor that the invoked command does not provide for. -/
def parameterError? (ancestor invoked : Command) (p : Parameter) : Option ChainError :=
  match invoked.parameter? p.name with
  | some own =>
    if own.kind.tag ≠ p.kind.tag then
      some (.parameterKind ancestor.id invoked.id p.name p.kind.tag own.kind.tag)
    else if p.required ∧ ¬ own.required ∧ own.default.isNone then
      some (.parameterOptional ancestor.id invoked.id p.name)
    else none
  | none =>
    if p.required then some (.parameterOptional ancestor.id invoked.id p.name) else none

/-- The handler of the ancestor finds its arguments among those of the invoked command. -/
def checkCompatible (ancestor invoked : Command) : Except ChainError Unit :=
  match ancestor.parameters.findSome? (parameterError? ancestor invoked) with
  | some e => .error e
  | none => .ok ()

/-- The commands above the invoked one whose handlers run too, given those above `child`, nearest
first. The result is in the order of running. -/
def ancestorsToRun {α : Type} (declaration : α → Command) (invoked : Command) (child : α)
    (order : List α) : List α → Except ChainError (List α)
  | [] => .ok order
  | ancestor :: above =>
    if (declaration child).settings.invokeParent then
      match checkCompatible (declaration ancestor) invoked with
      | .error e => .error e
      | .ok _ => ancestorsToRun declaration invoked ancestor (ancestor :: order) above
    else .ok order

/-- The commands whose handlers run, outermost first. -/
def handlingOrder {α : Type} (declaration : α → Command) (chain : List α) :
    Except ChainError (List α) :=
  match chain.reverse with
  | [] => .error .empty
  | invoked :: above =>
    ancestorsToRun declaration (declaration invoked) invoked [invoked] above

/-- The names of the chain spell the path of the invoked command. -/
def checkNormalized (chain : List Command) : Except ChainError Unit :=
  match chain.getLast? with
  | none => .error .empty
  | some invoked =>
    let spelled : Invocation := ⟨chain.map (·.name)⟩
    if spelled = invoked.invocation then .ok ()
    else .error (.normalization invoked.id spelled.toText invoked.invocation.toText)

/-- Of commands listed from the invoked one upwards: the nearest that does not inherit settings, at
the latest the root. -/
def settingsSourceUp : List Command → Option Command
  | [] => none
  | [c] => some c
  | c :: d :: above => if c.settings.inheritSettings then settingsSourceUp (d :: above) else some c

/-- The command whose settings apply to an invocation. -/
def settingsSource (chain : List Command) : Option Command := settingsSourceUp chain.reverse

/-- The groups of commands listed from the invoked one upwards, as far as each requires those above,
outermost first after `inner` groups. -/
def requiredGroupsUp (inner : List Group) : List Command → List Group
  | [] => inner
  | c :: above =>
    if c.settings.requireParentGroups then requiredGroupsUp (c.group :: inner) above
    else c.group :: inner

/-- The groups that the caller must belong to, root first. -/
def requiredGroups (chain : List Command) : List Group := requiredGroupsUp [] chain.reverse

end ChatCommands
