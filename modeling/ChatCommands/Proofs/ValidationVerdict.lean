import ChatCommands.Proofs.Clearance

set_option autoImplicit false

/-!
# The verdict of a validation

A validation asks checks in a fixed order and stops at the first that does not pass. This module
states which checks these are and what a run of them tells, without the definitions of the pipeline:
`Reach` says how far up a chain a setting leads, a `Check` tells its own runs and the failure when
it does not pass, and `Decides` is the run of a list of checks. The main statement is
`validate_decides`: the runs of a validation are exactly the decisions of the checks that the
settings ask for, followed by the access to every required group.
-/

namespace ChatCommands

open Program (Exchange Runs)
open Interaction

/-! ## How far up a chain a setting leads -/

/-- From the invoked command, the last one of the chain, `top` is reached through commands whose
settings lead further up; there the way ends, since `top` is the root or does not lead further. -/
structure Reach (leads : CommandSettings → Bool) (chain above : List Command) (top : Command)
    (below : List Command) : Prop where
  chain_eq : chain = above ++ top :: below
  leads_up : ∀ c ∈ below, leads c.settings = true
  stops : above = [] ∨ leads top.settings = false

theorem exists_reach (leads : CommandSettings → Bool) {chain : List Command} (h : chain ≠ []) :
    ∃ above top below, Reach leads chain above top below := by
  -- the walk starts at the end of the chain
  induction chain using List.reverseRecOn with
  | nil => exact absurd rfl h
  | append_singleton above c ih =>
    by_cases hstop : above = [] ∨ leads c.settings = false
    · exact ⟨above, c, [], rfl, by simp, hstop⟩
    · obtain ⟨habove, hleads⟩ := not_or.1 hstop
      obtain ⟨outer, top, below, hreach⟩ := ih habove
      refine ⟨outer, top, below ++ [c], ?_, ?_, hreach.stops⟩
      · rw [hreach.chain_eq, List.append_assoc, List.cons_append]
      · intro d hd
        rcases List.mem_append.1 hd with hd | hd
        · exact hreach.leads_up d hd
        · obtain rfl := List.mem_singleton.1 hd
          simpa using hleads

theorem settingsSourceUp_append {inner outer : List Command} {top : Command}
    (h : ∀ c ∈ inner, c.settings.inheritSettings = true) :
    settingsSourceUp (inner ++ top :: outer) = settingsSourceUp (top :: outer) := by
  induction inner with
  | nil => rfl
  | cons c inner ih =>
    obtain ⟨hc, hinner⟩ := List.forall_mem_cons.1 h
    cases inner with
    | nil => exact if_pos hc
    | cons d inner => exact (if_pos hc).trans (ih hinner)

theorem requiredGroupsUp_append {inner outer : List Command} {top : Command} {groups : List Group}
    (h : ∀ c ∈ inner, c.settings.requireParentGroups = true) :
    requiredGroupsUp groups (inner ++ top :: outer) =
      requiredGroupsUp (inner.reverse.map (·.group) ++ groups) (top :: outer) := by
  induction inner generalizing groups with
  | nil => rfl
  | cons c inner ih =>
    obtain ⟨hc, hinner⟩ := List.forall_mem_cons.1 h
    rw [List.cons_append, requiredGroupsUp, if_pos hc, ih hinner]
    simp

namespace Reach

variable {chain above below : List Command} {top : Command}

theorem reverse_eq {leads : CommandSettings → Bool} (h : Reach leads chain above top below) :
    chain.reverse = below.reverse ++ top :: above.reverse := by
  rw [h.chain_eq]
  simp

/-- The settings that apply are those of the command which inheritance leads to. -/
theorem settingsSource_eq (h : Reach (·.inheritSettings) chain above top below) :
    settingsSource chain = some top := by
  rw [settingsSource, h.reverse_eq,
    settingsSourceUp_append fun c hc => h.leads_up c (List.mem_reverse.1 hc)]
  rcases h.stops with rfl | hstop
  · rfl
  · cases above.reverse with
    | nil => rfl
    | cons d outer => exact if_neg (by simp [hstop])

/-- The required groups are those from the command which the requirement leads to downwards. -/
theorem requiredGroups_eq (h : Reach (·.requireParentGroups) chain above top below) :
    requiredGroups chain = (top :: below).map (·.group) := by
  rw [requiredGroups, h.reverse_eq,
    requiredGroupsUp_append fun c hc => h.leads_up c (List.mem_reverse.1 hc), requiredGroupsUp]
  rcases h.stops with rfl | hstop
  · simp [requiredGroupsUp]
  · simp [hstop]

end Reach

/-! ## Checks -/

/-- A check: the exchanges it can have with their end, and the failure when it does not pass. -/
structure Check where
  runs : List (Exchange Query Query.Answer) → Except Failing Bool → Prop
  failure : Failure

/-- Checks asked in order, up to the first that does not pass. -/
inductive Decides : List Check → List (Exchange Query Query.Answer) →
    Except Failing (Option Failure) → Prop where
  | granted : Decides [] [] (.ok none)
  | passed {check : Check} {checks : List Check} {t u : List (Exchange Query Query.Answer)}
      {r : Except Failing (Option Failure)} (ran : check.runs t (.ok true))
      (rest : Decides checks u r) : Decides (check :: checks) (t ++ u) r
  | denied {check : Check} {checks : List Check} {t : List (Exchange Query Query.Answer)}
      (ran : check.runs t (.ok false)) : Decides (check :: checks) t (.ok (some check.failure))
  | broken {check : Check} {checks : List Check} {t : List (Exchange Query Query.Answer)}
      {f : Failing} (ran : check.runs t (.error f)) : Decides (check :: checks) t (.error f)

namespace Decides

variable {check : Check} {checks others : List Check} {t : List (Exchange Query Query.Answer)}
  {r : Except Failing (Option Failure)}

@[simp] theorem nil_iff : Decides [] t r ↔ t = [] ∧ r = .ok none := by
  constructor
  · intro h
    cases h
    exact ⟨rfl, rfl⟩
  · rintro ⟨rfl, rfl⟩
    exact .granted

theorem cons_iff :
    Decides (check :: checks) t r ↔
      (∃ t₁ t₂, t = t₁ ++ t₂ ∧ check.runs t₁ (.ok true) ∧ Decides checks t₂ r) ∨
        (check.runs t (.ok false) ∧ r = .ok (some check.failure)) ∨
          ∃ f, check.runs t (.error f) ∧ r = .error f := by
  constructor
  · intro h
    cases h with
    | passed ran rest => exact Or.inl ⟨_, _, rfl, ran, rest⟩
    | denied ran => exact Or.inr (Or.inl ⟨ran, rfl⟩)
    | broken ran => exact Or.inr (Or.inr ⟨_, ran, rfl⟩)
  · rintro (⟨t₁, t₂, rfl, ran, rest⟩ | ⟨ran, rfl⟩ | ⟨f, ran, rfl⟩)
    · exact .passed ran rest
    · exact .denied ran
    · exact .broken ran

/-- Nothing is denied iff every check passes. -/
theorem none_iff :
    Decides checks t (.ok none) ↔
      ∃ parts, t = parts.flatten ∧
        List.Forall₂ (fun check part => check.runs part (.ok true)) checks parts := by
  induction checks generalizing t with
  | nil =>
    rw [nil_iff]
    constructor
    · rintro ⟨rfl, -⟩
      exact ⟨[], rfl, .nil⟩
    · rintro ⟨parts, rfl, hparts⟩
      cases hparts
      exact ⟨rfl, rfl⟩
  | cons check checks ih =>
    rw [cons_iff]
    constructor
    · rintro (⟨t₁, t₂, rfl, ran, rest⟩ | ⟨-, hr⟩ | ⟨f, -, hr⟩)
      · obtain ⟨parts, rfl, hparts⟩ := ih.1 rest
        exact ⟨t₁ :: parts, rfl, .cons ran hparts⟩
      · simp at hr
      · simp at hr
    · rintro ⟨parts, rfl, hparts⟩
      cases hparts with
      | cons ran hrest => exact Or.inl ⟨_, _, rfl, ran, ih.2 ⟨_, rfl, hrest⟩⟩

/-- Checks asked after others are asked only when those deny nothing. -/
theorem append_iff :
    Decides (checks ++ others) t r ↔
      (∃ t₁ t₂, t = t₁ ++ t₂ ∧ Decides checks t₁ (.ok none) ∧ Decides others t₂ r) ∨
        (r ≠ .ok none ∧ Decides checks t r) := by
  induction checks generalizing t with
  | nil =>
    constructor
    · intro h
      exact Or.inl ⟨[], t, rfl, .granted, h⟩
    · rintro (⟨t₁, t₂, rfl, h₁, h₂⟩ | ⟨hr, h⟩)
      · obtain ⟨rfl, -⟩ := nil_iff.1 h₁
        exact h₂
      · exact absurd (nil_iff.1 h).2 hr
  | cons check checks ih =>
    rw [List.cons_append]
    constructor
    · intro h
      rcases cons_iff.1 h with ⟨t₁, t₂, rfl, ran, rest⟩ | ⟨ran, rfl⟩ | ⟨f, ran, rfl⟩
      · rcases ih.1 rest with ⟨u₁, u₂, rfl, h₁, h₂⟩ | ⟨hr, h⟩
        · exact Or.inl ⟨t₁ ++ u₁, u₂, by rw [List.append_assoc], .passed ran h₁, h₂⟩
        · exact Or.inr ⟨hr, .passed ran h⟩
      · exact Or.inr ⟨by simp, .denied ran⟩
      · exact Or.inr ⟨by simp, .broken ran⟩
    · rintro (⟨t₁, t₂, rfl, h₁, h₂⟩ | ⟨hr, h⟩)
      · rcases cons_iff.1 h₁ with ⟨u₁, u₂, rfl, ran, rest⟩ | ⟨-, hr⟩ | ⟨f, -, hr⟩
        · rw [List.append_assoc]
          exact .passed ran (ih.2 (Or.inl ⟨u₂, t₂, rfl, rest, h₂⟩))
        · simp at hr
        · simp at hr
      · rcases cons_iff.1 h with ⟨t₁, t₂, rfl, ran, rest⟩ | ⟨ran, rfl⟩ | ⟨f, ran, rfl⟩
        · exact .passed ran (ih.2 (Or.inr ⟨hr, rest⟩))
        · exact .denied ran
        · exact .broken ran

end Decides

/-- A check that needs a guild: in a direct message it fails without a question, elsewhere it puts a
single question and tests what that found. -/
inductive GuildRuns {α : Type} (scope : AccessScope)
    (question : GuildId → Except Failing (Option α) → Exchange Query Query.Answer)
    (test : α → Bool) : List (Exchange Query Query.Answer) → Except Failing Bool → Prop where
  | direct (private_place : scope.guild = none) : GuildRuns scope question test [] (.ok false)
  | answered {id : GuildId} (in_guild : scope.guild = some id)
      (answer : Except Failing (Option α)) :
      GuildRuns scope question test [question id answer] (answer.map (·.any test))

/-- The check that the place is an age-restricted channel. -/
def ageCheck (scope : AccessScope) : Check where
  runs := GuildRuns scope (fun _ answer => ⟨.channel scope.channel, answer⟩) (·.ageRestricted)
  failure := .settingDenied "Command can only be called from an age-restricted channel."

/-- The check that the caller owns the guild. -/
def serverOwnerCheck (scope : AccessScope) : Check where
  runs := GuildRuns scope (fun id answer => ⟨.guild id, answer⟩) (·.owner == scope.caller.id)
  failure := .settingDenied "Must be server owner to call this command."

/-- The check that the caller owns the application. -/
def botOwnerCheck (scope : AccessScope) : Check where
  runs t r := ∃ answer : Except Failing UserId,
    t = [⟨.applicationOwner, answer⟩] ∧ r = answer.map (· == scope.caller.id)
  failure := .settingDenied "Must be bot owner to call this command."

/-- The check of the access to what a group may use. -/
def accessCheck (policy : AccessPolicy) (scope : AccessScope) (group : Group) : Check where
  runs := (policy.hasAccess group scope).Ends
  failure := .notAllowed group

/-- The checks that settings enable, in the order in which they are asked. -/
def enabledChecks (settings : CommandSettings) (scope : AccessScope) : List Check :=
  (if settings.ageRestricted then [ageCheck scope] else [])
    ++ (if settings.serverOwnerOnly then [serverOwnerCheck scope] else [])
    ++ (if settings.ownerOnly then [botOwnerCheck scope] else [])

/-- What a decision says about the invocation: nothing, the failure, or the failed lookup told with
the stage at which it failed. -/
def verdict : Except Failing (Option Failure) → Except Failing (Option Outcome)
  | .ok none => .ok none
  | .ok (some failure) => .ok (some (.failure failure))
  | .error (.error cause) =>
    .ok (some (.error ⟨InternalError.hiddenMessage, some ⟨"validating invocation", cause.texts⟩⟩))
  | .error (.breakdown b) => .error (.breakdown b)

theorem eq_of_verdict_eq_none {decision : Except Failing (Option Failure)}
    (h : verdict decision = .ok none) : decision = .ok none := by
  rcases decision with (cause | b) | failure
  · simp [verdict] at h
  · simp [verdict] at h
  · cases failure with
    | none => rfl
    | some failure => simp [verdict] at h

/-! ## The checks of settings are those asked -/

/-- A setting checked at a place. -/
def SettingCheck.asked (scope : AccessScope) (c : SettingCheck) : Check where
  runs := (c.passes scope).Ends
  failure := .settingDenied c.denial

/-- The runs of a lookup of a single question with its answer mapped. -/
theorem ends_answered_iff {α : Type} (p : Lookup α) {f : α → Bool}
    (x : Except Failing α → Exchange Query Query.Answer)
    (hquestion : ∀ t r, p.Ends t r ↔ t = [x r]) {t : List (Exchange Query Query.Answer)}
    {r : Except Failing Bool} :
    Lookup.Ends (do return f (← p)) t r ↔ ∃ answer, t = [x answer] ∧ r = answer.map f := by
  rw [Lookup.ends_bind_iff]
  constructor
  · rintro (⟨a, t₁, t₂, rfl, h₁, h₂⟩ | ⟨failing, rfl, h₁⟩)
    · obtain ⟨rfl, rfl⟩ := Lookup.ends_pure_iff.1 h₂
      obtain rfl := (hquestion _ _).1 h₁
      exact ⟨.ok a, rfl, rfl⟩
    · exact ⟨.error failing, (hquestion _ _).1 h₁, rfl⟩
  · rintro ⟨answer, rfl, rfl⟩
    cases answer with
    | ok a => exact Or.inl ⟨a, _, [], rfl, (hquestion _ _).2 rfl, Lookup.ends_pure_iff.2 ⟨rfl, rfl⟩⟩
    | error failing => exact Or.inr ⟨failing, rfl, (hquestion _ _).2 rfl⟩

/-- The runs of a lookup that refuses direct messages and puts a single question elsewhere. -/
theorem ends_guild_iff {α : Type} {scope : AccessScope} {p : Lookup Bool}
    {question : GuildId → Except Failing (Option α) → Exchange Query Query.Answer} {test : α → Bool}
    (hdirect : scope.guild = none → p = return false)
    (hguild : ∀ id, scope.guild = some id → ∀ t r,
      p.Ends t r ↔ ∃ answer, t = [question id answer] ∧ r = answer.map (·.any test))
    {t : List (Exchange Query Query.Answer)} {r : Except Failing Bool} :
    p.Ends t r ↔ GuildRuns scope question test t r := by
  constructor
  · intro h
    cases hplace : scope.guild with
    | none =>
      rw [hdirect hplace] at h
      obtain ⟨rfl, rfl⟩ := Lookup.ends_pure_iff.1 h
      exact .direct hplace
    | some id =>
      obtain ⟨answer, rfl, rfl⟩ := (hguild id hplace t r).1 h
      exact .answered hplace answer
  · intro h
    cases h with
    | direct hplace =>
      rw [hdirect hplace]
      exact Lookup.ends_pure_iff.2 ⟨rfl, rfl⟩
    | answered hplace answer => exact (hguild _ hplace _ _).2 ⟨answer, rfl, rfl⟩

theorem asked_ageRestricted (scope : AccessScope) :
    SettingCheck.asked scope ⟨isAgeRestricted, ageRestrictedDenied⟩ = ageCheck scope := by
  rw [SettingCheck.asked, ageCheck]
  congr 1
  funext t r
  refine propext (ends_guild_iff ?_ ?_)
  · intro hplace
    simp only [isAgeRestricted, hplace]
  · intro id hplace t r
    simp only [isAgeRestricted, hplace]
    exact ends_answered_iff (.channel scope.channel) (fun r => ⟨.channel scope.channel, r⟩)
      fun _ _ => Program.runs_question_iff

theorem asked_serverOwner (scope : AccessScope) :
    SettingCheck.asked scope ⟨Group.serverOwner.belongs, serverOwnerDenied⟩ =
      serverOwnerCheck scope := by
  rw [SettingCheck.asked, serverOwnerCheck]
  congr 1
  funext t r
  refine propext (ends_guild_iff ?_ ?_)
  · intro hplace
    simp only [Group.serverOwner, Group.belongs, Rule.belongs, hplace]
  · intro id hplace t r
    simp only [Group.serverOwner, Group.belongs, Rule.belongs, hplace]
    exact ends_answered_iff (.guild id) (fun r => ⟨.guild id, r⟩)
      fun _ _ => Program.runs_question_iff

theorem asked_botOwner (scope : AccessScope) :
    SettingCheck.asked scope ⟨Group.botOwner.belongs, botOwnerDenied⟩ = botOwnerCheck scope := by
  rw [SettingCheck.asked, botOwnerCheck]
  congr 1
  funext t r
  simp only [Group.botOwner, Group.belongs, Rule.belongs]
  exact propext (ends_answered_iff .applicationOwner (fun r => ⟨.applicationOwner, r⟩)
    fun _ _ => Program.runs_question_iff)

/-- The settings' own checks are those enabled, in the same order. -/
theorem map_asked_settingChecks (settings : CommandSettings) (scope : AccessScope) :
    (settingChecks settings).map (SettingCheck.asked scope) = enabledChecks settings scope := by
  rw [settingChecks, enabledChecks]
  simp only [List.map_append, apply_ite (List.map (SettingCheck.asked scope)), List.map_cons,
    List.map_nil, asked_ageRestricted, asked_serverOwner, asked_botOwner]

theorem ends_firstDenial_iff {scope : AccessScope} {checks : List SettingCheck}
    {t : List (Exchange Query Query.Answer)} {r : Except Failing (Option Failure)} :
    (firstDenial scope checks).Ends t r ↔ Decides (checks.map (SettingCheck.asked scope)) t r := by
  induction checks generalizing t with
  | nil => exact Lookup.ends_pure_iff.trans Decides.nil_iff.symm
  | cons check checks ih =>
    rw [firstDenial, Lookup.ends_bind_iff, List.map_cons, Decides.cons_iff]
    constructor
    · rintro (⟨passed, t₁, t₂, rfl, h₁, h₂⟩ | ⟨f, rfl, h₁⟩)
      · cases passed with
        | true => exact Or.inl ⟨t₁, t₂, rfl, h₁, ih.1 h₂⟩
        | false =>
          obtain ⟨rfl, rfl⟩ := Lookup.ends_pure_iff.1 h₂
          rw [List.append_nil]
          exact Or.inr (Or.inl ⟨h₁, rfl⟩)
      · exact Or.inr (Or.inr ⟨f, h₁, rfl⟩)
    · rintro (⟨t₁, t₂, rfl, h₁, h₂⟩ | ⟨h₁, rfl⟩ | ⟨f, h₁, rfl⟩)
      · exact Or.inl ⟨true, t₁, t₂, rfl, h₁, ih.2 h₂⟩
      · exact Or.inl ⟨false, t, [], by simp, h₁, Lookup.ends_pure_iff.2 ⟨rfl, rfl⟩⟩
      · exact Or.inr ⟨f, rfl, h₁⟩

/-! ## The runs of a validation -/

namespace Context

/-- The invocation with access decided by another policy. -/
def under (ctx : Context) (policy : AccessPolicy) : Context := { ctx with policy := policy }

variable {ctx : Context} {s s' : Session} {t : List (Exchange Request Request.Answer)}

theorem ends_firstRefusal_iff {gs : List Group} {r : Except Failing (Option Failure)}
    (hs : s.isInitialized = true) :
    Ends (ctx.firstRefusal gs) s t r s' ↔
      s' = s ∧ ∃ part, t = part.map Act.lookedUp ∧
        Decides (gs.map (accessCheck ctx.policy ctx.scope)) part r := by
  induction gs generalizing t with
  | nil =>
    rw [firstRefusal, ends_pure_iff, List.map_nil]
    constructor
    · rintro ⟨rfl, rfl, rfl⟩
      exact ⟨rfl, [], rfl, .granted⟩
    · rintro ⟨rfl, part, rfl, h⟩
      obtain ⟨rfl, rfl⟩ := Decides.nil_iff.1 h
      exact ⟨rfl, rfl, rfl⟩
  | cons g gs ih =>
    rw [firstRefusal, ends_bind_iff, List.map_cons]
    simp only [Decides.cons_iff]
    constructor
    · rintro (⟨granted, s₁, t₁, t₂, rfl, h₁, h₂⟩ | ⟨f, rfl, h₁⟩)
      · obtain ⟨rfl, part, rfl, hpart⟩ := (ends_hasAccess_iff hs).1 h₁
        cases granted with
        | true =>
          obtain ⟨rfl, rest, rfl, hrest⟩ := ih.1 h₂
          exact ⟨rfl, part ++ rest, by rw [List.map_append], Or.inl ⟨part, rest, rfl, hpart, hrest⟩⟩
        | false =>
          obtain ⟨rfl, rfl, rfl⟩ := ends_pure_iff.1 h₂
          exact ⟨rfl, part, by rw [List.append_nil], Or.inr (Or.inl ⟨hpart, rfl⟩)⟩
      · obtain ⟨rfl, part, rfl, hpart⟩ := (ends_hasAccess_iff hs).1 h₁
        exact ⟨rfl, part, rfl, Or.inr (Or.inr ⟨f, hpart, rfl⟩)⟩
    · rintro ⟨rfl, part, rfl, ⟨t₁, t₂, rfl, h₁, h₂⟩ | ⟨h₁, rfl⟩ | ⟨f, h₁, rfl⟩⟩
      · refine Or.inl ⟨true, s', _, _, List.map_append, ?_, ?_⟩
        · exact (ends_hasAccess_iff hs).2 ⟨rfl, t₁, rfl, h₁⟩
        · exact ih.2 ⟨rfl, t₂, rfl, h₂⟩
      · refine Or.inl ⟨false, s', _, [], by rw [List.append_nil], ?_, ?_⟩
        · exact (ends_hasAccess_iff hs).2 ⟨rfl, part, rfl, h₁⟩
        · exact ends_pure_iff.2 ⟨rfl, rfl, rfl⟩
      · exact Or.inr ⟨f, rfl, (ends_hasAccess_iff hs).2 ⟨rfl, part, rfl, h₁⟩⟩

/-- The checks of settings come first; the groups are asked only when those deny nothing. -/
theorem ends_firstFailure_iff {settings : CommandSettings} {r : Except Failing (Option Failure)}
    (hs : s.isInitialized = true) :
    Ends (ctx.firstFailure settings) s t r s' ↔
      s' = s ∧ ∃ part, t = part.map Act.lookedUp ∧
        Decides (enabledChecks settings ctx.scope ++
          (requiredGroups ctx.chain).map (accessCheck ctx.policy ctx.scope)) part r := by
  rw [firstFailure, ends_bind_iff]
  simp only [Act.ends_lookup_iff, ends_firstDenial_iff, map_asked_settingChecks,
    Decides.append_iff]
  constructor
  · rintro (⟨denial, s₁, t₁, t₂, rfl, ⟨⟨part, rfl, hpart⟩, rfl⟩, h₂⟩ |
      ⟨f, rfl, ⟨part, rfl, hpart⟩, rfl⟩)
    · cases denial with
      | none =>
        obtain ⟨rfl, rest, rfl, hrest⟩ := (ends_firstRefusal_iff hs).1 h₂
        exact ⟨rfl, part ++ rest, by rw [List.map_append], Or.inl ⟨part, rest, rfl, hpart, hrest⟩⟩
      | some failure =>
        obtain ⟨rfl, rfl, rfl⟩ := ends_pure_iff.1 h₂
        exact ⟨rfl, part, by rw [List.append_nil], Or.inr ⟨by simp, hpart⟩⟩
    · exact ⟨rfl, part, rfl, Or.inr ⟨by simp, hpart⟩⟩
  · rintro ⟨rfl, part, rfl, ⟨t₁, t₂, rfl, h₁, h₂⟩ | ⟨hr, h₁⟩⟩
    · refine Or.inl ⟨none, s', _, _, List.map_append, ⟨⟨t₁, rfl, h₁⟩, rfl⟩, ?_⟩
      exact (ends_firstRefusal_iff hs).2 ⟨rfl, t₂, rfl, h₂⟩
    · cases r with
      | error f => exact Or.inr ⟨f, rfl, ⟨part, rfl, h₁⟩, rfl⟩
      | ok denial =>
        cases denial with
        | none => exact absurd rfl hr
        | some failure =>
          refine Or.inl ⟨some failure, s', _, [], by rw [List.append_nil], ⟨⟨part, rfl, h₁⟩, rfl⟩,
            ?_⟩
          exact ends_pure_iff.2 ⟨rfl, rfl, rfl⟩

theorem ends_validate_iff {source : Command} {r : Except Failing (Option Outcome)}
    (hs : s.isInitialized = true) (hsource : settingsSource ctx.chain = some source) :
    Ends ctx.validate s t r s' ↔
      s' = s ∧ ∃ part decision, t = part.map Act.lookedUp ∧ r = verdict decision ∧
        Decides (enabledChecks source.settings ctx.scope ++
          (requiredGroups ctx.chain).map (accessCheck ctx.policy ctx.scope)) part decision := by
  rw [validate]
  simp only [hsource]
  rw [ends_bind_iff]
  simp only [Act.ends_attempt_iff, ends_firstFailure_iff hs]
  constructor
  · rintro (⟨a, s₁, t₁, t₂, rfl, ⟨decision, ⟨rfl, part, rfl, hpart⟩, ha⟩, h₂⟩ |
      ⟨f, rfl, decision, ⟨rfl, part, rfl, hpart⟩, hf⟩)
    · -- the attempt has a value: a decision without a failed lookup, or the error of one
      rcases decision with (cause | b) | failure
      · obtain rfl := Except.ok.inj ha
        obtain ⟨rfl, rfl, rfl⟩ := ends_pure_iff.1 h₂
        exact ⟨rfl, part, _, by rw [List.append_nil], rfl, hpart⟩
      · simp [Failing.attempted] at ha
      · obtain rfl := Except.ok.inj ha
        obtain ⟨rfl, rfl, rfl⟩ := ends_pure_iff.1 h₂
        refine ⟨rfl, part, _, by rw [List.append_nil], ?_, hpart⟩
        cases failure with
        | none => rfl
        | some failure => rfl
    · rcases decision with (cause | b) | failure
      · simp [Failing.attempted] at hf
      · obtain rfl := Except.error.inj hf
        exact ⟨rfl, part, _, rfl, rfl, hpart⟩
      · simp [Failing.attempted] at hf
  · rintro ⟨rfl, part, decision, rfl, rfl, hpart⟩
    rcases decision with (cause | b) | failure
    · refine Or.inl ⟨.error cause, s', _, [], by rw [List.append_nil],
        ⟨_, ⟨rfl, part, rfl, hpart⟩, rfl⟩, ?_⟩
      exact ends_pure_iff.2 ⟨rfl, rfl, rfl⟩
    · exact Or.inr ⟨.breakdown b, rfl, _, ⟨rfl, part, rfl, hpart⟩, rfl⟩
    · refine Or.inl ⟨.ok failure, s', _, [], by rw [List.append_nil],
        ⟨_, ⟨rfl, part, rfl, hpart⟩, rfl⟩, ?_⟩
      refine ends_pure_iff.2 ⟨rfl, ?_, rfl⟩
      cases failure with
      | none => rfl
      | some failure => rfl

end Context

/-- The runs of a validation are exactly the decisions of the checks that are enabled in the
settings which apply, followed by the access to every required group, root first. It lets the
invocation pass iff all of them pass. The checks of settings are the same under every policy. -/
theorem validate_decides (ctx : Context) (s : Session) (hs : s.isInitialized = true)
    (hchain : ctx.chain ≠ []) :
    ∃ above source below outer top inner,
      Reach (·.inheritSettings) ctx.chain above source below ∧
      Reach (·.requireParentGroups) ctx.chain outer top inner ∧
      ∀ policy : AccessPolicy,
        let checks := enabledChecks source.settings ctx.scope ++
          ((top :: inner).map (·.group)).map (accessCheck policy ctx.scope)
        (∀ t r s', Ends (ctx.under policy).validate s t r s' ↔
          s' = s ∧ ∃ part decision, t = part.map Act.lookedUp ∧ r = verdict decision ∧
            Decides checks part decision) ∧
        ∀ t s', Ends (ctx.under policy).validate s t (.ok none) s' ↔
          s' = s ∧ ∃ parts, t = parts.flatten.map Act.lookedUp ∧
            List.Forall₂ (fun check part => check.runs part (.ok true)) checks parts := by
  obtain ⟨above, source, below, hsource⟩ := exists_reach (·.inheritSettings) hchain
  obtain ⟨outer, top, inner, hgroups⟩ := exists_reach (·.requireParentGroups) hchain
  refine ⟨above, source, below, outer, top, inner, hsource, hgroups, ?_⟩
  intro policy checks
  have hdecides (t r s') : Ends (ctx.under policy).validate s t r s' ↔
      s' = s ∧ ∃ part decision, t = part.map Act.lookedUp ∧ r = verdict decision ∧
        Decides checks part decision := by
    have hsettings : settingsSource (ctx.under policy).chain = some source :=
      hsource.settingsSource_eq
    have hrequired : requiredGroups (ctx.under policy).chain = (top :: inner).map (·.group) :=
      hgroups.requiredGroups_eq
    rw [Context.ends_validate_iff hs hsettings, hrequired]
    rfl
  refine ⟨hdecides, ?_⟩
  intro t s'
  rw [hdecides]
  constructor
  · rintro ⟨rfl, part, decision, rfl, hr, hpart⟩
    obtain rfl := eq_of_verdict_eq_none hr.symm
    obtain ⟨parts, rfl, hparts⟩ := Decides.none_iff.1 hpart
    exact ⟨rfl, parts, rfl, hparts⟩
  · rintro ⟨rfl, parts, rfl, hparts⟩
    exact ⟨rfl, parts.flatten, .ok none, rfl, rfl, Decides.none_iff.2 ⟨parts, rfl, hparts⟩⟩

/-- The call of the lock in a direct message. -/
def directLock : Context := { lockContext with event := { lockEvent with guild := none } }

theorem decides_directLock (checks : List Check) :
    Decides (enabledChecks lockCommand.settings directLock.scope ++ checks) []
      (.ok (some (.settingDenied serverOwnerDenied))) := by
  have hdenied : (serverOwnerCheck directLock.scope).runs [] (.ok false) := .direct rfl
  exact .denied hdenied

/-- In a direct message the lock is denied without a lookup, under every policy. -/
theorem direct_lock_denied :
    directLock.opened.isInitialized = true ∧ directLock.chain ≠ [] ∧
      ∀ policy : AccessPolicy,
        Ends (directLock.under policy).validate directLock.opened []
          (.ok (some (.failure (.settingDenied serverOwnerDenied)))) directLock.opened := by
  have hchain : directLock.chain ≠ [] := List.cons_ne_nil _ _
  obtain ⟨above, source, below, outer, top, inner, hsource, -, hruns⟩ :=
    validate_decides directLock directLock.opened rfl hchain
  refine ⟨rfl, hchain, ?_⟩
  intro policy
  -- a chain of one command leaves no choice of the source
  obtain rfl : lockCommand = source := by
    have h : settingsSource [lockCommand] = some source := hsource.settingsSource_eq
    exact Option.some.inj h
  exact ((hruns policy).1 _ _ _).2 ⟨rfl, [], _, rfl, rfl, decides_directLock _⟩

end ChatCommands
