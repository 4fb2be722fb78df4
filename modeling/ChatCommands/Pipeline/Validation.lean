import ChatCommands.Pipeline.Loading
import ChatCommands.Command.Chain

set_option autoImplicit false

/-!
# Validation

Before arguments are loaded, the settings of the invocation are checked, then the access of the
caller to every required group, root first. The first check that does not pass decides.
-/

namespace ChatCommands

/-- What is told when a channel is not age-restricted. -/
def ageRestrictedDenied : String := "Command can only be called from an age-restricted channel."

/-- What is told to callers who do not own the guild. -/
def serverOwnerDenied : String := "Must be server owner to call this command."

/-- What is told to callers who do not own the application. -/
def botOwnerDenied : String := "Must be bot owner to call this command."

/-- The place is an age-restricted channel; a private channel never is. -/
def isAgeRestricted (scope : AccessScope) : Lookup Bool :=
  match scope.guild with
  | none => return false
  | some _ => return (← Lookup.channel scope.channel).any (·.ageRestricted)

/-- A check of settings: the lookup that decides it, and what is told when it does not pass. -/
structure SettingCheck where
  passes : AccessScope → Lookup Bool
  denial : String

/-- The checks that settings ask for, in order. -/
def settingChecks (s : CommandSettings) : List SettingCheck :=
  (if s.ageRestricted then [⟨isAgeRestricted, ageRestrictedDenied⟩] else [])
    ++ (if s.serverOwnerOnly then [⟨Group.serverOwner.belongs, serverOwnerDenied⟩] else [])
    ++ (if s.ownerOnly then [⟨Group.botOwner.belongs, botOwnerDenied⟩] else [])

/-- The denial of the first check that does not pass. -/
def firstDenial (scope : AccessScope) : List SettingCheck → Lookup (Option Failure)
  | [] => return none
  | c :: cs => do
    if ← c.passes scope then firstDenial scope cs
    else return some (.settingDenied c.denial)

namespace Context

/-- The refusal of the first group that the caller has no access to. -/
def firstRefusal (ctx : Context) : List Group → Act (Option Failure)
  | [] => return none
  | g :: gs => do
    if ← ctx.hasAccess g then ctx.firstRefusal gs
    else return some (.notAllowed g)

/-- The failure of the first check that does not pass: settings first, then groups. -/
def firstFailure (ctx : Context) (settings : CommandSettings) : Act (Option Failure) := do
  match ← Act.lookup (firstDenial ctx.scope (settingChecks settings)) with
  | some failure => return some failure
  | none => ctx.firstRefusal (requiredGroups ctx.chain)

/-- The outcome that keeps the invocation from running; nothing when it may. -/
def validate (ctx : Context) : Act (Option Outcome) := do
  match settingsSource ctx.chain with
  | none => return none
  | some source =>
    match ← (ctx.firstFailure source.settings).attempt with
    | .ok failure => return failure.map .failure
    | .error cause => return some (.ofCause (cause.context "validating invocation"))

end Context

end ChatCommands
