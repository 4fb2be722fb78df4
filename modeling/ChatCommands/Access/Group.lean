import ChatCommands.Effect.Lookup

set_option autoImplicit false

/-!
# Groups

A group is a condition on the caller of a command and the place of the call. Groups are
built from basic rules by `any` and `all`; membership is decided from the left and stops as
soon as the answer is known.
-/

namespace ChatCommands

/-- Who calls a command, and where. -/
structure AccessScope where
  guild : Option GuildId
  channel : ChannelId
  caller : User

/-- A condition that is not composed of others. -/
inductive Rule where
  | everyone
  | nobody
  | serverOwner
  | botOwner
  | users (ids : List UserId)
  | hasRole (id : RoleId)
  | custom (belongs : AccessScope → Lookup Bool)

/-- A condition on callers, with an optional name. -/
inductive Group where
  | basic (name : Option String) (rule : Rule)
  | any (name : Option String) (members : List Group)
  | all (name : Option String) (members : List Group)

/-- The rule holds for the scope. -/
def Rule.belongs (rule : Rule) (scope : AccessScope) : Lookup Bool :=
  match rule with
  | .everyone => return true
  | .nobody => return false
  | .serverOwner =>
    match scope.guild with
    | none => return false
    | some id => return (← Lookup.guild id).any (·.owner == scope.caller.id)
  | .botOwner => return (← Lookup.applicationOwner) == scope.caller.id
  | .users ids => return ids.contains scope.caller.id
  | .hasRole role =>
    match scope.guild with
    | none => return false
    | some id => return (← Lookup.memberRoles id scope.caller.id).contains role
  | .custom belongs => belongs scope

namespace Group

/-- The group of everyone. -/
def everyone : Group := .basic (some "Everyone") .everyone

/-- The group of nobody. -/
def nobody : Group := .basic (some "Nobody") .nobody

/-- The group of the owner of the guild. -/
def serverOwner : Group := .basic (some "Server Owner") .serverOwner

/-- The group of the owner of the application. -/
def botOwner : Group := .basic (some "Bot Owner") .botOwner

/-- The name of a group. -/
def name? : Group → Option String
  | .basic name _ => name
  | .any name _ => name
  | .all name _ => name

/-- The group with another name, or with none. -/
def renamed (name : Option String) : Group → Group
  | .basic _ rule => .basic name rule
  | .any _ members => .any name members
  | .all _ members => .all name members

/-- The group admits every caller, whatever its name is. -/
def isEveryone : Group → Bool
  | .basic _ .everyone => true
  | _ => false

/-- The group is composed of others. -/
def isComposite : Group → Bool
  | .basic .. => false
  | _ => true

mutual

/-- The caller belongs to the group. -/
def belongs : Group → AccessScope → Lookup Bool
  | .basic _ rule, scope => rule.belongs scope
  | .any _ members, scope => anyBelongs members scope
  | .all _ members, scope => allBelong members scope

/-- The caller belongs to some member; members after the first such one are not asked. -/
def anyBelongs : List Group → AccessScope → Lookup Bool
  | [], _ => return false
  | g :: gs, scope => do
    if ← g.belongs scope then return true
    else anyBelongs gs scope

/-- The caller belongs to all members; members after the first other one are not asked. -/
def allBelong : List Group → AccessScope → Lookup Bool
  | [], _ => return true
  | g :: gs, scope => do
    if ← g.belongs scope then allBelong gs scope
    else return false

end

/-- The name of a group for readers. -/
def title (g : Group) : String := g.name?.getD "<unnamed>"

mutual

/-- The group as an expression: its name, or its members when it has none. -/
def sketch : Group → String
  | .basic name _ => "Group(" ++ name.getD "<unnamed>" ++ ")"
  | .any (some name) _ => "Group(" ++ name ++ ")"
  | .all (some name) _ => "Group(" ++ name ++ ")"
  | .any none members => "Any[" ++ ", ".intercalate (sketches members) ++ "]"
  | .all none members => "All[" ++ ", ".intercalate (sketches members) ++ "]"

/-- The groups as expressions. -/
def sketches : List Group → List String
  | [] => []
  | g :: gs => sketch g :: sketches gs

end

end Group

/-- How membership decides about access. -/
inductive AccessPolicy where
  | alwaysAllow
  | alwaysDeny
  /-- Membership in the group. -/
  | basic
  /-- Membership in the group or in the overriding one. -/
  | overridable (override : Group)
  /-- A decision of another making. -/
  | custom (hasAccess : AccessScope → Group → Lookup Bool)

/-- The caller has access to what the group may use. -/
def AccessPolicy.hasAccess (policy : AccessPolicy) (group : Group) (scope : AccessScope) :
    Lookup Bool :=
  match policy with
  | .alwaysAllow => return true
  | .alwaysDeny => return false
  | .basic => group.belongs scope
  | .overridable override => do
    if ← group.belongs scope then return true
    else override.belongs scope
  | .custom hasAccess => hasAccess scope group

end ChatCommands
