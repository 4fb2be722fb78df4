import ChatCommands.Pipeline.Validation
import ChatCommands.Proofs.InteractionRuns

set_option autoImplicit false

/-!
# Where lookups fail

A lookup fails with what it admits by itself, or because the directory broke off while it was asked.
`Lookup.FailsBy` states this of a lookup and is closed under every way of building lookups. Groups
whose own rules never break off are steady (`Group.steady_belongs`), and the parsing of a parameter
fails by no error at all (`unfailing_parseParameter`): what goes wrong there is told to the caller.
-/

namespace ChatCommands

open Program (Exchange)

/-- An answer that broke off. -/
def Failing.Broke {α : Type} (r : Except Failing α) : Prop := ∃ b, r = .error (.breakdown b)

theorem Failing.not_broke_ok {α : Type} (a : α) : ¬ Failing.Broke (.ok a) := by
  rintro ⟨b, hb⟩
  cases hb

/-- The directory broke off instead of answering the question. -/
def Query.BrokeOff : Exchange Query Query.Answer → Prop
  | ⟨.guild _, a⟩ => Failing.Broke (α := Option Guild) a
  | ⟨.channel _, a⟩ => Failing.Broke (α := Option Channel) a
  | ⟨.user _, a⟩ => Failing.Broke (α := Option User) a
  | ⟨.role _ _, a⟩ => Failing.Broke (α := Option Role) a
  | ⟨.message _ _, a⟩ => Failing.Broke (α := Option Message) a
  | ⟨.memberRoles _ _, a⟩ => Failing.Broke (α := List RoleId) a
  | ⟨.applicationOwner, a⟩ => Failing.Broke (α := UserId) a
  | ⟨.note _, _⟩ => False

/-- A failure that can be handled. -/
def Failing.IsError (f : Failing) : Prop := ∃ cause, f = .error cause

namespace Lookup

variable {α β : Type} {admits : Failing → Prop}

/-- The lookup fails only as it may, unless the directory broke off. -/
def FailsBy (admits : Failing → Prop) (p : Lookup α) : Prop :=
  ∀ t f, p.Ends t (.error f) → admits f ∨ ∃ x ∈ t, Query.BrokeOff x

/-- The lookup breaks off only if the directory did. -/
abbrev IsSteady (p : Lookup α) : Prop := FailsBy Failing.IsError p

/-- The lookup fails only if the directory broke off. -/
abbrev IsUnfailing (p : Lookup α) : Prop := FailsBy (fun _ => False) p

/-! ## Ways of building lookups -/

/-- What looks nothing up does not fail. -/
theorem failsBy_pure (a : α) : FailsBy admits (pure a : Lookup α) := by
  intro t f h
  obtain ⟨-, hf⟩ := ends_pure_iff.1 h
  simp at hf

/-- Lookups one after the other fail as either of them does. -/
theorem FailsBy.bind {p : Lookup α} {f : α → Lookup β} (hp : FailsBy admits p)
    (hf : ∀ a, FailsBy admits (f a)) : FailsBy admits (p >>= f) := by
  intro t failing h
  rcases ends_bind_iff.1 h with ⟨a, t₁, t₂, rfl, -, h₂⟩ | ⟨failing', hf', h₁⟩
  · rcases hf a _ _ h₂ with h | ⟨x, hx, hbroke⟩
    · exact Or.inl h
    · exact Or.inr ⟨x, List.mem_append_right _ hx, hbroke⟩
  · obtain rfl : failing = failing' := Except.error.inj hf'
    exact hp _ _ h₁

/-- A choice of lookups fails as the one chosen does. -/
theorem FailsBy.ite {c : Prop} [Decidable c] {p q : Lookup α} (hp : FailsBy admits p)
    (hq : FailsBy admits q) : FailsBy admits (if c then p else q) := by
  split
  · exact hp
  · exact hq

/-- An attempt at a steady lookup has every error as a value. -/
theorem FailsBy.attempt {p : Lookup α} (hp : IsSteady p) : IsUnfailing p.attempt := by
  intro t f h
  obtain ⟨r, hr, hf⟩ := ends_attempt_iff.1 h
  rcases r with (cause | b) | a
  · simp [Failing.attempted] at hf
  -- a breakdown stays one, and it is not the lookup's own
  · rcases hp _ _ hr with ⟨cause, hcause⟩ | hbroke
    · simp at hcause
    · exact Or.inr hbroke
  · simp [Failing.attempted] at hf

/-- A lookup of a single exchange is steady: it breaks off when its question does. -/
theorem steady_of_exchange {p : Lookup α} (x : Except Failing α → Exchange Query Query.Answer)
    (hends : ∀ t r, p.Ends t r → t = [x r])
    (hbroke : ∀ b, Query.BrokeOff (x (.error (.breakdown b)))) : IsSteady p := by
  intro t f h
  obtain rfl := hends _ _ h
  cases f with
  -- an error is admitted, a breakdown is that of the directory
  | error cause => exact Or.inl ⟨cause, rfl⟩
  | breakdown b => exact Or.inr ⟨_, List.mem_singleton_self _, hbroke b⟩

theorem steady_guild (id : GuildId) : IsSteady (guild id) :=
  steady_of_exchange (fun r => ⟨.guild id, r⟩) (fun _ _ => Program.runs_question_iff.1)
    fun b => ⟨b, rfl⟩

theorem steady_channel (id : ChannelId) : IsSteady (channel id) :=
  steady_of_exchange (fun r => ⟨.channel id, r⟩) (fun _ _ => Program.runs_question_iff.1)
    fun b => ⟨b, rfl⟩

theorem steady_user (id : UserId) : IsSteady (user id) :=
  steady_of_exchange (fun r => ⟨.user id, r⟩) (fun _ _ => Program.runs_question_iff.1)
    fun b => ⟨b, rfl⟩

theorem steady_role (guild : GuildId) (id : RoleId) : IsSteady (role guild id) :=
  steady_of_exchange (fun r => ⟨.role guild id, r⟩) (fun _ _ => Program.runs_question_iff.1)
    fun b => ⟨b, rfl⟩

theorem steady_message (channel : ChannelId) (id : MessageId) : IsSteady (message channel id) :=
  steady_of_exchange (fun r => ⟨.message channel id, r⟩) (fun _ _ => Program.runs_question_iff.1)
    fun b => ⟨b, rfl⟩

theorem steady_memberRoles (guild : GuildId) (user : UserId) : IsSteady (memberRoles guild user) :=
  steady_of_exchange (fun r => ⟨.memberRoles guild user, r⟩)
    (fun _ _ => Program.runs_question_iff.1) fun b => ⟨b, rfl⟩

theorem steady_applicationOwner : IsSteady applicationOwner :=
  steady_of_exchange (fun r => ⟨.applicationOwner, r⟩) (fun _ _ => Program.runs_question_iff.1)
    fun b => ⟨b, rfl⟩

end Lookup

open Lookup

/-! ## Groups and policies -/

/-- A rule of another making is steady. -/
def Rule.IsSteady : Rule → Prop
  | .custom belongs => ∀ scope, Lookup.IsSteady (belongs scope)
  | _ => True

/-- Of the rules only one of another making can break off by itself. -/
theorem Rule.steady_belongs {rule : Rule} (h : rule.IsSteady) (scope : AccessScope) :
    Lookup.IsSteady (rule.belongs scope) := by
  cases rule with
  | everyone => exact failsBy_pure true
  | nobody => exact failsBy_pure false
  | serverOwner =>
    rw [Rule.belongs]
    split
    · exact failsBy_pure false
    · exact (steady_guild _).bind fun _ => failsBy_pure _
  | botOwner => exact steady_applicationOwner.bind fun _ => failsBy_pure _
  | users ids => exact failsBy_pure _
  | hasRole id =>
    rw [Rule.belongs]
    split
    · exact failsBy_pure false
    · exact (steady_memberRoles _ _).bind fun _ => failsBy_pure _
  | custom belongs => exact h scope

namespace Group

mutual

/-- Every rule in the group is steady. -/
def IsSteady : Group → Prop
  | .basic _ rule => rule.IsSteady
  | .any _ members => AreSteady members
  | .all _ members => AreSteady members

/-- Every rule in the groups is steady. -/
def AreSteady : List Group → Prop
  | [] => True
  | g :: gs => g.IsSteady ∧ AreSteady gs

end

mutual

/-- The caller's membership in a group of steady rules is decided without breaking off. -/
theorem steady_belongs : ∀ (g : Group), g.IsSteady → ∀ scope, Lookup.IsSteady (g.belongs scope)
  | .basic _ rule, h, scope => by
    rw [belongs]
    exact Rule.steady_belongs h scope
  | .any _ members, h, scope => by
    rw [belongs]
    exact steady_anyBelongs members h scope
  | .all _ members, h, scope => by
    rw [belongs]
    exact steady_allBelong members h scope

/-- Members are asked in turn until one holds, and none of them breaks off by itself. -/
theorem steady_anyBelongs :
    ∀ (gs : List Group), AreSteady gs → ∀ scope, Lookup.IsSteady (anyBelongs gs scope)
  | [], _, scope => by
    rw [anyBelongs]
    exact failsBy_pure false
  | g :: gs, h, scope => by
    obtain ⟨hg, hgs⟩ := h
    rw [anyBelongs]
    exact (steady_belongs g hg scope).bind fun _ =>
      (failsBy_pure true).ite (steady_anyBelongs gs hgs scope)

/-- Members are asked in turn until one does not hold, and none of them breaks off by itself. -/
theorem steady_allBelong :
    ∀ (gs : List Group), AreSteady gs → ∀ scope, Lookup.IsSteady (allBelong gs scope)
  | [], _, scope => by
    rw [allBelong]
    exact failsBy_pure true
  | g :: gs, h, scope => by
    obtain ⟨hg, hgs⟩ := h
    rw [allBelong]
    exact (steady_belongs g hg scope).bind fun _ =>
      (steady_allBelong gs hgs scope).ite (failsBy_pure false)

end

end Group

/-- The policy breaks off for no group of steady rules. -/
def AccessPolicy.IsSteady : AccessPolicy → Prop
  | .overridable override => override.IsSteady
  | .custom hasAccess => ∀ scope group, Lookup.IsSteady (hasAccess scope group)
  | _ => True

/-- An override is asked only after the group, and is as steady as its own rules are. -/
theorem AccessPolicy.steady_hasAccess {policy : AccessPolicy} (h : policy.IsSteady) {group : Group}
    (hgroup : group.IsSteady) (scope : AccessScope) :
    Lookup.IsSteady (policy.hasAccess group scope) := by
  cases policy with
  | alwaysAllow => exact failsBy_pure true
  | alwaysDeny => exact failsBy_pure false
  | basic => exact group.steady_belongs hgroup scope
  | overridable override =>
    exact (group.steady_belongs hgroup scope).bind fun _ =>
      (failsBy_pure true).ite (override.steady_belongs h scope)
  | custom hasAccess => exact h scope group

/-! ## Checks of settings -/

theorem steady_isAgeRestricted (scope : AccessScope) : Lookup.IsSteady (isAgeRestricted scope) := by
  rw [isAgeRestricted]
  split
  · exact failsBy_pure false
  · exact (steady_channel _).bind fun _ => failsBy_pure _

/-- The three checks that settings can ask for are built in, and built in rules are steady. -/
theorem steady_settingChecks {settings : CommandSettings} {check : SettingCheck}
    (h : check ∈ settingChecks settings) (scope : AccessScope) :
    Lookup.IsSteady (check.passes scope) := by
  simp only [settingChecks, List.mem_append] at h
  rcases h with (h | h) | h
  · split at h
    · obtain rfl := List.mem_singleton.1 h
      exact steady_isAgeRestricted scope
    · simp at h
  · split at h
    · obtain rfl := List.mem_singleton.1 h
      exact Group.serverOwner.steady_belongs trivial scope
    · simp at h
  · split at h
    · obtain rfl := List.mem_singleton.1 h
      exact Group.botOwner.steady_belongs trivial scope
    · simp at h

/-- Checks that are steady one by one are steady in a row, as far as they are made. -/
theorem steady_firstDenial (scope : AccessScope) (checks : List SettingCheck)
    (h : ∀ check ∈ checks, Lookup.IsSteady (check.passes scope)) :
    Lookup.IsSteady (firstDenial scope checks) := by
  induction checks with
  | nil => exact failsBy_pure none
  | cons check checks ih =>
    rw [firstDenial]
    exact (h check List.mem_cons_self).bind fun _ =>
      (ih fun c hc => h c (List.mem_cons_of_mem _ hc)).ite (failsBy_pure _)

/-! ## Parsing of parameters -/

namespace Parse

variable {α β : Type}

/-- The conversion fails only if the directory broke off; refusing the argument is no failure. -/
abbrev IsUnfailing (p : Parse α) : Prop := Lookup.IsUnfailing p.run

theorem unfailing_pure (a : α) : IsUnfailing (pure a) := failsBy_pure _

/-- To refuse an argument is no failure: the refusal is what the conversion ends with. -/
theorem unfailing_throw (e : ArgumentError) : IsUnfailing (throw e : Parse α) := failsBy_pure _

/-- A conversion that goes on from another one stops where that one refuses. -/
theorem unfailing_bind {p : Parse α} {f : α → Parse β} (hp : IsUnfailing p)
    (hf : ∀ a, IsUnfailing (f a)) : IsUnfailing (p >>= f) := by
  show Lookup.IsUnfailing (p.run >>= _)
  refine FailsBy.bind hp ?_
  intro r
  cases r with
  | ok a => exact hf a
  | error e => exact failsBy_pure _

theorem unfailing_ofExcept (r : Except ArgumentError α) : IsUnfailing (ofExcept r) := by
  cases r with
  | ok a => exact unfailing_pure a
  | error e => exact unfailing_throw e

theorem unfailing_lift {p : Lookup α} (hp : Lookup.IsUnfailing p) :
    IsUnfailing (ExceptT.lift p : Parse α) := by
  rw [IsUnfailing, ExceptT.run_lift, map_eq_pure_bind]
  exact hp.bind fun a => failsBy_pure _

/-- An error of a steady lookup refuses the argument, so that only a breakdown is left to fail by.
-/
theorem unfailing_lookedUp {p : Lookup α} (hp : Lookup.IsSteady p) : IsUnfailing (lookedUp p) := by
  refine unfailing_bind (unfailing_lift hp.attempt) ?_
  intro r
  cases r with
  | ok a => exact unfailing_pure a
  | error cause => exact unfailing_throw _

theorem unfailing_found (a : Option α) : IsUnfailing (found a) := by
  cases a with
  | some a => exact unfailing_pure a
  | none => exact unfailing_throw _

/-- Items are converted in order, and none of them fails. -/
theorem unfailing_mapM {f : α → Parse β} (hf : ∀ a, IsUnfailing (f a)) (as : List α) :
    IsUnfailing (as.mapM f) := by
  induction as with
  | nil =>
    rw [List.mapM_nil]
    exact unfailing_pure []
  | cons a as ih =>
    rw [List.mapM_cons]
    exact unfailing_bind (hf a) fun b => unfailing_bind ih fun bs => unfailing_pure (b :: bs)

end Parse

open Parse Reference

theorem unfailing_parseUser (raw : String) : Parse.IsUnfailing (parseUser raw) :=
  unfailing_bind (unfailing_ofExcept _) fun id =>
    unfailing_bind (unfailing_lookedUp (steady_user id)) unfailing_found

/-- A role fails no parsing: outside of guilds it is refused before anything is looked up. -/
theorem unfailing_parseRole (place : Place) (raw : String) :
    Parse.IsUnfailing (parseRole place raw) := by
  refine unfailing_bind (unfailing_ofExcept _) fun id => ?_
  split
  · exact unfailing_throw _
  · exact unfailing_bind (unfailing_lookedUp (steady_role _ id)) unfailing_found

/-- A channel fails no parsing: one of a kind that is not admitted is refused after its lookup. -/
theorem unfailing_parseChannel (kinds : List ChannelKind) (raw : String) :
    Parse.IsUnfailing (parseChannel kinds raw) := by
  refine unfailing_bind (unfailing_ofExcept _) fun id => ?_
  refine unfailing_bind (unfailing_lookedUp (steady_channel id)) fun answer => ?_
  refine unfailing_bind (unfailing_found answer) fun channel => ?_
  split
  · exact unfailing_pure channel
  · split
    · exact unfailing_pure channel
    · exact unfailing_throw _

theorem unfailing_parseMessage (place : Place) (raw : String) :
    Parse.IsUnfailing (parseMessage place raw) :=
  unfailing_bind (unfailing_ofExcept _) fun ids =>
    unfailing_bind (unfailing_lookedUp (steady_message ids.1 ids.2)) unfailing_found

/-- Whatever goes wrong with an argument refuses it. -/
theorem unfailing_parseValue (place : Place) (kind : Kind) (raw : RawArgument) :
    Parse.IsUnfailing (parseValue place kind raw) := by
  induction kind generalizing raw with
  | string | boolean | integer | float | id | attachment =>
    unfold parseValue
    exact unfailing_ofExcept _
  | user =>
    rw [parseValue]
    exact unfailing_bind (unfailing_ofExcept _) fun text =>
      unfailing_bind (unfailing_parseUser text) fun _ => unfailing_pure _
  | role =>
    rw [parseValue]
    exact unfailing_bind (unfailing_ofExcept _) fun text =>
      unfailing_bind (unfailing_parseRole place text) fun _ => unfailing_pure _
  | channel kinds =>
    rw [parseValue]
    exact unfailing_bind (unfailing_ofExcept _) fun text =>
      unfailing_bind (unfailing_parseChannel kinds text) fun _ => unfailing_pure _
  | message =>
    rw [parseValue]
    exact unfailing_bind (unfailing_ofExcept _) fun text =>
      unfailing_bind (unfailing_parseMessage place text) fun _ => unfailing_pure _
  | list item minItems maxItems ih =>
    rw [parseValue]
    refine unfailing_bind (unfailing_ofExcept _) fun text => ?_
    dsimp only
    split
    · exact unfailing_throw _
    -- the items are parsed as their own kind says
    · refine unfailing_bind (unfailing_mapM (fun token => ih (.text token)) _) fun items => ?_
      split
      · exact unfailing_throw _
      · exact unfailing_pure _

/-- One parameter is parsed as its raw argument is; without one nothing is looked up. -/
theorem unfailing_parseParameter (place : Place) (p : Parameter) (raw : Option RawArgument) :
    Lookup.IsUnfailing (parseParameter place p raw) := by
  cases raw with
  | none =>
    rw [parseParameter]
    exact (failsBy_pure _).ite (failsBy_pure _)
  | some raw =>
    rw [parseParameter]
    refine (unfailing_parseValue place p.kind raw).bind fun r => ?_
    split
    · exact failsBy_pure _
    · exact failsBy_pure _
    · exact failsBy_pure _

/-- The parsing of parameters fails only if the directory broke off. -/
theorem unfailing_parameterLookups (place : Place) (parameters : List Parameter)
    (raw : List (String × RawArgument)) {p : Lookup ParameterEnd}
    (h : p ∈ parameterLookups place parameters raw) : Lookup.IsUnfailing p := by
  induction parameters generalizing raw with
  | nil => simp [parameterLookups] at h
  | cons parameter parameters ih =>
    rw [parameterLookups] at h
    rcases List.mem_cons.1 h with rfl | h
    · exact unfailing_parseParameter place parameter _
    · exact ih _ h

end ChatCommands
