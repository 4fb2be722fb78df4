import ChatCommands.Pipeline.Process
import ChatCommands.Proofs.ChainMatching
import ChatCommands.Proofs.HonestAnswers
import ChatCommands.Proofs.LoadRuns

set_option autoImplicit false

/-!
# Stages that let an invocation pass

What a run of a stage tells when the stage lets the invocation go on: opening leaves a fresh session
with a chain of replies, a validation has had every check of settings and every required group
granted (`Context.granted_of_validate`), and a load has bound every parameter or found it absent
where it may be (`Context.bound_of_load`). A handler that is run belongs to a command of the order
(`Context.mem_of_puts_invokeChain`).
-/

namespace ChatCommands

open Program (Exchange Runs)
open Interaction

/-! ## Checks of settings -/

/-- Every check that the settings ask for was passed by an answer of the directory. -/
structure SettingsMet (settings : CommandSettings) (scope : AccessScope)
    (t : List (Exchange Query Query.Answer)) : Prop where
  /-- The place is in a guild and the channel is age-restricted. -/
  ageRestricted : settings.ageRestricted = true → ∃ guild channel,
    scope.guild = some guild ∧ channel.ageRestricted = true ∧
      ⟨.channel scope.channel, (.ok (some channel) : Except Failing (Option Channel))⟩ ∈ t
  /-- The caller owns the guild of the place. -/
  serverOwnerOnly : settings.serverOwnerOnly = true → ∃ id guild,
    scope.guild = some id ∧ guild.owner = scope.caller.id ∧
      ⟨.guild id, (.ok (some guild) : Except Failing (Option Guild))⟩ ∈ t
  /-- The caller owns the application. -/
  ownerOnly : settings.ownerOnly = true →
    ⟨.applicationOwner, (.ok scope.caller.id : Except Failing UserId)⟩ ∈ t

/-- A test on what a single question found has been passed by the answer. -/
theorem answered_of_any {α : Type} (p : Lookup (Option α)) {test : α → Bool}
    {t : List (Exchange Query Query.Answer)}
    (x : Except Failing (Option α) → Exchange Query Query.Answer)
    (hquestion : ∀ t r, p.Ends t r → t = [x r])
    (h : Lookup.Ends (do return (← p).any test) t (.ok true)) :
    ∃ a, test a = true ∧ x (.ok (some a)) ∈ t := by
  rcases Lookup.ends_bind_iff.1 h with ⟨answer, t₁, t₂, rfl, h₁, h₂⟩ | ⟨f, hf, -⟩
  · obtain ⟨-, hr⟩ := Lookup.ends_pure_iff.1 h₂
    obtain rfl := hquestion _ _ h₁
    cases answer with
    | none => simp at hr
    | some a =>
      refine ⟨a, ?_, List.mem_append_left _ List.mem_cons_self⟩
      simpa using hr.symm
  · simp at hf

theorem answered_of_isAgeRestricted {scope : AccessScope} {t : List (Exchange Query Query.Answer)}
    (h : (isAgeRestricted scope).Ends t (.ok true)) :
    ∃ guild channel, scope.guild = some guild ∧ channel.ageRestricted = true ∧
      ⟨.channel scope.channel, (.ok (some channel) : Except Failing (Option Channel))⟩ ∈ t := by
  rw [isAgeRestricted] at h
  split at h
  · obtain ⟨-, hr⟩ := Lookup.ends_pure_iff.1 h
    simp at hr
  · rename_i guild hguild
    obtain ⟨channel, hchannel, hmem⟩ := answered_of_any (.channel scope.channel)
      (fun r => ⟨.channel scope.channel, r⟩) (fun _ _ => Program.runs_question_iff.1) h
    exact ⟨guild, channel, hguild, hchannel, hmem⟩

theorem answered_of_serverOwner {scope : AccessScope} {t : List (Exchange Query Query.Answer)}
    (h : (Group.serverOwner.belongs scope).Ends t (.ok true)) :
    ∃ id guild, scope.guild = some id ∧ guild.owner = scope.caller.id ∧
      ⟨.guild id, (.ok (some guild) : Except Failing (Option Guild))⟩ ∈ t := by
  rw [Group.serverOwner, Group.belongs, Rule.belongs] at h
  split at h
  · obtain ⟨-, hr⟩ := Lookup.ends_pure_iff.1 h
    simp at hr
  · rename_i id hid
    obtain ⟨guild, howner, hmem⟩ := answered_of_any (.guild id)
      (fun r => ⟨.guild id, r⟩) (fun _ _ => Program.runs_question_iff.1) h
    exact ⟨id, guild, hid, eq_of_beq howner, hmem⟩

theorem answered_of_botOwner {scope : AccessScope} {t : List (Exchange Query Query.Answer)}
    (h : (Group.botOwner.belongs scope).Ends t (.ok true)) :
    ⟨.applicationOwner, (.ok scope.caller.id : Except Failing UserId)⟩ ∈ t := by
  rw [Group.botOwner, Group.belongs, Rule.belongs] at h
  rcases Lookup.ends_bind_iff.1 h with ⟨owner, t₁, t₂, rfl, h₁, h₂⟩ | ⟨f, hf, -⟩
  · obtain ⟨-, hr⟩ := Lookup.ends_pure_iff.1 h₂
    obtain rfl := Program.runs_question_iff.1 h₁
    obtain rfl : owner = scope.caller.id := by simpa using hr.symm
    exact List.mem_append_left _ List.mem_cons_self
  · simp at hf

/-- Checks none of which denies have all been passed. -/
theorem passed_of_firstDenial {scope : AccessScope} {checks : List SettingCheck}
    {t : List (Exchange Query Query.Answer)} (h : (firstDenial scope checks).Ends t (.ok none))
    (check : SettingCheck) (hmem : check ∈ checks) :
    ∃ part, (check.passes scope).Ends part (.ok true) ∧ ∀ x ∈ part, x ∈ t := by
  induction checks generalizing t with
  | nil => simp at hmem
  | cons first checks ih =>
    rw [firstDenial] at h
    rcases Lookup.ends_bind_iff.1 h with ⟨passed, t₁, t₂, rfl, h₁, h₂⟩ | ⟨f, hf, -⟩
    · cases passed with
      | false =>
        obtain ⟨-, hr⟩ := Lookup.ends_pure_iff.1 h₂
        simp at hr
      | true =>
        rcases List.mem_cons.1 hmem with rfl | hmem
        · exact ⟨t₁, h₁, fun x hx => List.mem_append_left _ hx⟩
        · obtain ⟨part, hpart, hsub⟩ := ih h₂ hmem
          exact ⟨part, hpart, fun x hx => List.mem_append_right _ (hsub x hx)⟩
    · simp at hf

/-- Settings that deny nothing are met. -/
theorem settingsMet_of_firstDenial {settings : CommandSettings} {scope : AccessScope}
    {t : List (Exchange Query Query.Answer)}
    (h : (firstDenial scope (settingChecks settings)).Ends t (.ok none)) :
    SettingsMet settings scope t where
  ageRestricted hset := by
    obtain ⟨part, hpart, hsub⟩ := passed_of_firstDenial h
      ⟨isAgeRestricted, ageRestrictedDenied⟩ (by simp [settingChecks, hset])
    obtain ⟨guild, channel, hguild, hchannel, hmem⟩ := answered_of_isAgeRestricted hpart
    exact ⟨guild, channel, hguild, hchannel, hsub _ hmem⟩
  serverOwnerOnly hset := by
    obtain ⟨part, hpart, hsub⟩ := passed_of_firstDenial h
      ⟨Group.serverOwner.belongs, serverOwnerDenied⟩ (by simp [settingChecks, hset])
    obtain ⟨id, guild, hid, howner, hmem⟩ := answered_of_serverOwner hpart
    exact ⟨id, guild, hid, howner, hsub _ hmem⟩
  ownerOnly hset := by
    obtain ⟨part, hpart, hsub⟩ := passed_of_firstDenial h
      ⟨Group.botOwner.belongs, botOwnerDenied⟩ (by simp [settingChecks, hset])
    exact hsub _ (answered_of_botOwner hpart)

/-! ## Opening and validating -/

namespace Context

variable {ctx : Context} {s s' : Session} {t : List (Exchange Request Request.Answer)}

/-- The session of an invocation that has been opened. -/
def opened (ctx : Context) : Session :=
  { Session.fresh with
    replies := some (.start ctx.event.channel ctx.event.caller.id ctx.event.message?) }

/-- Opening an invocation asks for access once. -/
theorem ends_begin {r : Except Failing Unit} (h : Ends ctx.begin .fresh t r s') :
    r = .ok () ∧ s' = ctx.opened ∧
      t = [⟨.openAccess ctx.event.guild ctx.event.channel ctx.event.caller.id, ()⟩] := by
  rw [begin, Act.ends_session_bind_iff] at h
  obtain ⟨a, t', rfl, hset⟩ := Act.ends_request_bind_iff.1 h
  obtain ⟨rfl, rfl, rfl⟩ := Act.ends_setSession_iff.1 hset
  exact ⟨rfl, rfl, rfl⟩

/-- Once the session is initialized, access is decided by the policy alone. -/
theorem ends_hasAccess_iff {g : Group} {r : Except Failing Bool} (hs : s.isInitialized = true) :
    Ends (ctx.hasAccess g) s t r s' ↔
      s' = s ∧ ∃ part, t = part.map Act.lookedUp ∧
        (ctx.policy.hasAccess g ctx.scope).Ends part r := by
  rw [hasAccess, Act.ends_session_bind_iff, if_pos hs, Act.ends_lookup_iff]
  exact and_comm

/-- Groups none of which refuses have all been granted, each by a run of the policy. -/
theorem granted_of_firstRefusal {gs : List Group} (hs : s.isInitialized = true)
    (h : Ends (ctx.firstRefusal gs) s t (.ok none) s') :
    s' = s ∧ ∃ parts, t = (parts.flatten).map Act.lookedUp ∧
      List.Forall₂ (fun g part => (ctx.policy.hasAccess g ctx.scope).Ends part (.ok true))
        gs parts := by
  induction gs generalizing t with
  | nil =>
    obtain ⟨rfl, -, rfl⟩ := ends_pure_iff.1 h
    exact ⟨rfl, [], rfl, .nil⟩
  | cons g gs ih =>
    rw [firstRefusal] at h
    rcases ends_bind_iff.1 h with ⟨granted, s₁, t₁, t₂, rfl, h₁, h₂⟩ | ⟨f, hf, -⟩
    · obtain ⟨rfl, part, rfl, hpart⟩ := (ends_hasAccess_iff hs).1 h₁
      cases granted with
      | false =>
        obtain ⟨-, hr, -⟩ := ends_pure_iff.1 h₂
        simp at hr
      | true =>
        obtain ⟨rfl, parts, rfl, hparts⟩ := ih h₂
        refine ⟨rfl, part :: parts, ?_, .cons hpart hparts⟩
        rw [List.flatten_cons, List.map_append]
    · simp at hf

/-- A validation that lets the invocation pass met the settings of the chain, then was granted every
required group. -/
theorem granted_of_validate {source : Command} (hs : s.isInitialized = true)
    (hsource : settingsSource ctx.chain = some source)
    (h : Ends ctx.validate s t (.ok none) s') :
    s' = s ∧ ∃ checks accesses, t = (checks ++ accesses.flatten).map Act.lookedUp ∧
      SettingsMet source.settings ctx.scope checks ∧
      List.Forall₂ (fun g part => (ctx.policy.hasAccess g ctx.scope).Ends part (.ok true))
        (requiredGroups ctx.chain) accesses := by
  rw [validate] at h
  simp only [hsource] at h
  rcases ends_bind_iff.1 h with ⟨r, s₁, t₁, t₂, rfl, h₁, h₂⟩ | ⟨f, hf, -⟩
  · cases r with
    | error cause =>
      obtain ⟨-, hr, -⟩ := ends_pure_iff.1 h₂
      simp at hr
    | ok failure =>
      obtain ⟨rfl, hr, rfl⟩ := ends_pure_iff.1 h₂
      obtain rfl : failure = none := by simpa using hr.symm
      -- an attempt without a failure ended with a value
      obtain ⟨r₀, hfirst, hr₀⟩ := Act.ends_attempt_iff.1 h₁
      obtain rfl : r₀ = .ok none := by
        rcases r₀ with (cause | b) | failure
        · simp [Failing.attempted] at hr₀
        · simp [Failing.attempted] at hr₀
        · simpa [Failing.attempted] using hr₀.symm
      -- settings come first; only without a denial are groups asked for
      rw [firstFailure] at hfirst
      rcases ends_bind_iff.1 hfirst with ⟨denial, s₂, u₁, u₂, rfl, h₃, h₄⟩ | ⟨f, hf, -⟩
      · obtain ⟨⟨checks, rfl, hchecks⟩, rfl⟩ := Act.ends_lookup_iff.1 h₃
        cases denial with
        | some failure =>
          obtain ⟨-, hr, -⟩ := ends_pure_iff.1 h₄
          simp at hr
        | none =>
          obtain ⟨rfl, accesses, rfl, haccesses⟩ := granted_of_firstRefusal hs h₄
          refine ⟨rfl, checks, accesses, ?_, settingsMet_of_firstDenial hchecks, haccesses⟩
          rw [List.append_nil, List.map_append]
      · simp at hf
  · simp at hf

/-! ## Loading -/

/-- The ways in which the first load of an invocation ends. -/
inductive LoadRun (ctx : Context) (command : Command) (limit : Option Nat) (s : Session) :
    List (Exchange Request Request.Answer) → Except Failing LoadEnd → Session → Prop where
  /-- The raw arguments do not fit the parameters. -/
  | misassigned {failure : Failure}
      (assigned : assign command.parameters ctx.source = .error failure) :
      LoadRun ctx command limit s [] (.ok (.ended (.failure failure)))
        { s with loading := .ended (.failure failure) }
  | failed {raw : List (String × RawArgument)} {f : Failing}
      (assigned : assign command.parameters ctx.source = .ok raw) :
      LoadRun ctx command limit s [ctx.gathered command limit raw (.error f)] (.error f)
        { s with loading := .loading }
  | givenUp {raw : List (String × RawArgument)}
      (assigned : assign command.parameters ctx.source = .ok raw) :
      LoadRun ctx command limit s [ctx.gathered command limit raw (.ok none)] (.ok .givenUp)
        { s with loading := .loading }
  /-- Some argument is refused. -/
  | refused {raw : List (String × RawArgument)} {ends : List ParameterEnd} {outcome : Outcome}
      (assigned : assign command.parameters ctx.source = .ok raw)
      (joined : joinParameters command.parameters ends = .error outcome) :
      LoadRun ctx command limit s [ctx.gathered command limit raw (.ok (some ends))]
        (.ok (.ended outcome)) { s with loading := .ended outcome }
  | loaded {raw : List (String × RawArgument)} {ends : List ParameterEnd}
      {arguments : List (String × Argument)}
      (assigned : assign command.parameters ctx.source = .ok raw)
      (joined : joinParameters command.parameters ends = .ok arguments) :
      LoadRun ctx command limit s [ctx.gathered command limit raw (.ok (some ends))] (.ok .loaded)
        { s with loading := .ready arguments }

theorem loadRun_of_load {command : Command} {limit : Option Nat} {r : Except Failing LoadEnd}
    (hcommand : ctx.chain.getLast? = some command) (hs : s.isInitialized = true)
    (hl : s.loading = .notLoaded) (h : Ends (ctx.load limit) s t r s') :
    LoadRun ctx command limit s t r s' := by
  have hpending : s.loading.end? = none := by rw [hl, Loading.end?]
  rcases (loads_of_pending_iff hs hpending).1 (ends_load_iff.1 h) with
    ⟨bound, e, hparsed, hend, rfl, rfl⟩ | ⟨hparsed, rfl, rfl⟩ | ⟨f, hparsed, rfl, rfl⟩
  all_goals
    rcases hparsed.of_invoked hcommand with ⟨failure, hassign, rfl, hr⟩ | ⟨raw, a, hassign, rfl, hr⟩
  · obtain rfl : bound = .ended (.failure failure) := by simpa using hr
    obtain rfl := Option.some.inj hend
    exact .misassigned hassign
  -- the lookups have been answered: by a failure, by nothing, or by their ends
  · rcases a with f | _ | ends
    · simp [Except.map] at hr
    · simp [Except.map] at hr
    · obtain rfl : bound = bind command.parameters ends := by simpa [Except.map] using hr
      cases hjoin : joinParameters command.parameters ends with
      | ok arguments =>
        rw [bind, hjoin] at hend ⊢
        obtain rfl := Option.some.inj hend
        exact .loaded hassign hjoin
      | error outcome =>
        rw [bind, hjoin] at hend ⊢
        obtain rfl := Option.some.inj hend
        exact .refused hassign hjoin
  · simp at hr
  · rcases a with f | _ | ends
    · simp [Except.map] at hr
    · exact .givenUp hassign
    · simp [Except.map] at hr
  · simp at hr
  · rcases a with f' | ends
    · obtain rfl : f = f' := by simpa [Except.map] using hr
      exact .failed hassign
    · simp [Except.map] at hr

end Context

/-! ## Parameters -/

/-- The parameter has a value among the arguments, or it may be absent and nothing
was given for it. -/
def Parameter.IsSettled (p : Parameter) (raw : List (String × RawArgument))
    (arguments : List (String × Argument)) : Prop :=
  (∃ v, valueOf? p.name arguments = some v) ∨
    (p.required = false ∧ p.default = none ∧ valueOf? p.name raw = none)

/-- A parameter that parses to no value may be absent and was not given. -/
theorem absent_of_mayEnd {good : Exchange Query Query.Answer → Prop} {place : Reference.Place}
    {p : Parameter} {raw : Option RawArgument}
    (h : (parseParameter place p raw).MayEnd good (.ok (.ok none))) :
    p.required = false ∧ p.default = none ∧ raw = none := by
  obtain ⟨t, h, -⟩ := h
  cases raw with
  | none =>
    rw [parseParameter] at h
    split at h
    · obtain ⟨-, hr⟩ := Lookup.ends_pure_iff.1 h
      simp at hr
    · rename_i hrequired
      obtain ⟨-, hr⟩ := Lookup.ends_pure_iff.1 h
      refine ⟨by simpa using hrequired, ?_, rfl⟩
      simpa using hr.symm
  | some raw =>
    rw [parseParameter] at h
    rcases Lookup.ends_bind_iff.1 h with ⟨r, t₁, t₂, -, -, h₂⟩ | ⟨f, hf, -⟩
    · split at h₂
      all_goals
        obtain ⟨-, hr⟩ := Lookup.ends_pure_iff.1 h₂
        simp at hr
    · simp at hf

theorem valueOf?_filter {α : Type} {name other : String} (entries : List (String × α))
    (h : name ≠ other) : valueOf? name (entries.filter (·.1 != other)) = valueOf? name entries := by
  rw [valueOf?, find?_filter_key_ne entries h, valueOf?]

theorem valueOf?_cons_self {α : Type} (name : String) (a : α) (entries : List (String × α)) :
    valueOf? name ((name, a) :: entries) = some a := by
  simp [valueOf?]

theorem valueOf?_cons_of_ne {α : Type} {name other : String} (a : α)
    (entries : List (String × α)) (h : other ≠ name) :
    valueOf? name ((other, a) :: entries) = valueOf? name entries := by
  simp [valueOf?, h]

theorem exists_valueOf?_iff {α : Type} {name : String} {entries : List (String × α)} :
    (∃ a, valueOf? name entries = some a) ↔ entries.any (·.1 == name) = true := by
  rw [← Option.isSome_iff_exists, valueOf?, Option.isSome_map, List.find?_isSome, List.any_eq_true]

/-- The values of parameters with one more value in front; a later parameter of the
same name keeps its own. -/
def prependValue (name : String) (value : Option Argument) (values : List (String × Argument)) :
    List (String × Argument) :=
  match value with
  | some v => if values.any (·.1 == name) then values else (name, v) :: values
  | none => values

theorem exists_valueOf?_prependValue (name : String) (v : Argument)
    (values : List (String × Argument)) :
    ∃ a, valueOf? name (prependValue name (some v) values) = some a := by
  rw [prependValue]
  split
  · rename_i hany
    exact exists_valueOf?_iff.2 hany
  · exact ⟨v, valueOf?_cons_self name v values⟩

/-- A name that has a value keeps one. -/
theorem exists_valueOf?_of_prependValue (name : String) (value : Option Argument)
    {values : List (String × Argument)} {other : String}
    (h : ∃ a, valueOf? other values = some a) :
    ∃ a, valueOf? other (prependValue name value values) = some a := by
  cases value with
  | none => exact h
  | some v =>
    by_cases hother : other = name
    · subst hother
      exact exists_valueOf?_prependValue other v values
    · rw [prependValue]
      split
      · exact h
      · rw [valueOf?_cons_of_ne v values (Ne.symm hother)]
        exact h

theorem joinParameters_cons_ok {p : Parameter} {ps : List Parameter} {r : ParameterEnd}
    {rs : List ParameterEnd} {arguments : List (String × Argument)}
    (h : joinParameters (p :: ps) (r :: rs) = .ok arguments) :
    ∃ value values, r = .ok value ∧ joinParameters ps rs = .ok values ∧
      arguments = prependValue p.name value values := by
  cases r with
  | error outcome => cases h
  | ok value =>
    cases hvalues : joinParameters ps rs with
    | error outcome =>
      rw [joinParameters, hvalues] at h
      cases h
    | ok values =>
      rw [joinParameters, hvalues] at h
      refine ⟨value, values, rfl, rfl, ?_⟩
      cases value with
      | none => exact (Except.ok.inj h).symm
      | some v => exact (Except.ok.inj h).symm

theorem joinParameters_cons_error {p : Parameter} {ps : List Parameter} {r : ParameterEnd}
    {rs : List ParameterEnd} {outcome : Outcome}
    (h : joinParameters (p :: ps) (r :: rs) = .error outcome) :
    r = .error outcome ∨ joinParameters ps rs = .error outcome := by
  cases r with
  | error own =>
    obtain rfl : own = outcome := Except.error.inj h
    exact Or.inl rfl
  | ok value =>
    cases hvalues : joinParameters ps rs with
    | error own =>
      rw [joinParameters, hvalues] at h
      obtain rfl : own = outcome := Except.error.inj h
      exact Or.inr rfl
    | ok values =>
      rw [joinParameters, hvalues] at h
      cases value <;> cases h

/-- Joined parameters are all settled. -/
theorem settled_of_joinParameters {good : Exchange Query Query.Answer → Prop}
    {place : Reference.Place} {parameters : List Parameter} {raw : List (String × RawArgument)}
    {ends : List ParameterEnd} {arguments : List (String × Argument)}
    (hends : List.Forall₂ (fun p e => Lookup.MayEnd good p (.ok e))
      (parameterLookups place parameters raw) ends)
    (hjoin : joinParameters parameters ends = .ok arguments) :
    ∀ p ∈ parameters, p.IsSettled raw arguments := by
  induction parameters generalizing raw ends arguments with
  | nil => simp
  | cons p ps ih =>
    rw [parameterLookups] at hends
    cases hends with
    | @cons _ r _ rs hp hps =>
      obtain ⟨value, values, rfl, hvalues, rfl⟩ := joinParameters_cons_ok hjoin
      have hself : p.IsSettled raw (prependValue p.name value values) := by
        cases value with
        | none => exact Or.inr (absent_of_mayEnd hp)
        | some v => exact Or.inl (exists_valueOf?_prependValue p.name v values)
      intro q hq
      rcases List.mem_cons.1 hq with rfl | hq
      · exact hself
      · rcases ih hps hvalues q hq with hbound | ⟨hrequired, hdefault, hraw⟩
        · exact Or.inl (exists_valueOf?_of_prependValue p.name value hbound)
        · by_cases hname : q.name = p.name
          -- A later parameter of the same name finds nothing left of what was given.
          · rcases hself with hbound | ⟨-, -, hnone⟩
            · exact Or.inl (hname ▸ hbound)
            · exact Or.inr ⟨hrequired, hdefault, hname ▸ hnone⟩
          · rw [valueOf?_filter raw hname] at hraw
            exact Or.inr ⟨hrequired, hdefault, hraw⟩

/-! ## Handlers -/

namespace Procedure

theorem runHandler_puts_iff {ctx : Context} {command : Command} {handler : Handler} {s : Session}
    {t : Trace} {command' : Command} {handler' : Handler} {ctx' : Context} {s' : Session} :
    Puts (runHandler ctx command handler) s t (.handle command' handler' ctx' s') ↔
      t = [] ∧ command' = command ∧ handler' = handler ∧ ctx' = ctx ∧ s' = s := by
  rw [runHandler, puts_bind_iff, puts_handle_iff]
  constructor
  · rintro (⟨rfl, hm⟩ | ⟨r, s₁, t₁, t₂, -, -, h⟩)
    · simpa using hm
    · rcases r with (cause | b) | outcome
      all_goals exact absurd h not_puts_pure
  · rintro ⟨rfl, rfl, rfl, rfl, rfl⟩
    exact Or.inl ⟨rfl, rfl⟩

end Procedure

/-- A handler that is run is that of a command in the order, and it is run on the invocation. -/
theorem Context.mem_of_puts_invokeChain {ctx : Context} {tags : Tags} {order : List Registration}
    {s : Session} {t : Trace} {command : Command} {handler : Handler} {ctx' : Context}
    {s' : Session}
    (h : Puts (ctx.invokeChain tags order) s t (.handle command handler ctx' s')) :
    ctx' = ctx ∧ (t = [] → s' = s) ∧
      ∃ r ∈ order, r.command = command ∧ r.handler = some handler := by
  induction order generalizing s t with
  | nil => exact absurd h not_puts_pure
  | cons r rs ih =>
    rw [invokeChain] at h
    cases hhandler : r.handler with
    | none =>
      simp only [hhandler] at h
      obtain ⟨hctx, hs, r', hr', hcommand⟩ := ih h
      exact ⟨hctx, hs, r', List.mem_cons_of_mem _ hr', hcommand⟩
    | some own =>
      simp only [hhandler] at h
      rcases puts_bind_iff.1 h with h | ⟨outcome, s₁, t₁, t₂, rfl, h₁, h⟩
      -- the handler at the head of the order is the one that is run
      · obtain ⟨rfl, rfl, rfl, rfl, rfl⟩ := Procedure.runHandler_puts_iff.1 h
        exact ⟨rfl, fun _ => rfl, r, List.mem_cons_self, rfl, hhandler⟩
      · obtain ⟨t', rfl, hrest⟩ := Procedure.puts_record_bind h
        -- it has ended before; only an outcome that lets the invocation proceed leads on
        split at hrest
        · exact absurd hrest not_puts_pure
        · obtain ⟨hctx, -, r', hr', hcommand⟩ := ih hrest
          exact ⟨hctx, by simp, r', List.mem_cons_of_mem _ hr', hcommand⟩

end ChatCommands
