import ChatCommands.Proofs.LookupFailures
import ChatCommands.Proofs.StageRuns

set_option autoImplicit false

/-!
# Stages that always give a value

`Interaction.Meets fair x s post` is a contract: each run of `x` from the session `s` whose answers
are fair ends as `post` says. Contracts are put together along the building of acts and procedures.
With a directory that never breaks off, and groups and a policy that do not either, no stage of an
invocation fails: validation, loading and the handlers of a chain all end with an outcome, and this
outcome ends the invocation (`returns_execute`).
-/

namespace ChatCommands

open Program (Exchange Runs)
open Interaction

namespace Interaction

variable {Q : Type} {R : Q → Type} {α β : Type} {fair : Exchange Q R → Prop} {s : Session}

/-- Every run from the session with fair answers ends as wanted. -/
def Meets (fair : Exchange Q R → Prop) (x : Interaction Q R α) (s : Session)
    (post : Except Failing α → Session → Prop) : Prop :=
  ∀ t r s', Ends x s t r s' → (∀ y ∈ t, fair y) → post r s'

/-- Every run from the session with fair answers gives a value as wanted. -/
abbrev Returns (fair : Exchange Q R → Prop) (x : Interaction Q R α) (s : Session)
    (post : α → Session → Prop) : Prop :=
  Meets fair x s fun r s' => ∃ a, r = .ok a ∧ post a s'

theorem Meets.bind {x : Interaction Q R α} {f : α → Interaction Q R β}
    {post : Except Failing α → Session → Prop} {post' : Except Failing β → Session → Prop}
    (hx : Meets fair x s post) (hf : ∀ a s', post (.ok a) s' → Meets fair (f a) s' post')
    (hfail : ∀ failing s', post (.error failing) s' → post' (.error failing) s') :
    Meets fair (x >>= f) s post' := by
  intro t r s' h hfair
  rcases ends_bind_iff.1 h with ⟨a, s₁, t₁, t₂, rfl, h₁, h₂⟩ | ⟨failing, rfl, h₁⟩
  · have ha := hx t₁ _ s₁ h₁ fun y hy => hfair y (List.mem_append_left _ hy)
    exact hf a s₁ ha t₂ r s' h₂ fun y hy => hfair y (List.mem_append_right _ hy)
  · exact hfail failing s' (hx t _ s' h₁ hfair)

theorem meets_pure {a : α} {post : Except Failing α → Session → Prop} (h : post (.ok a) s) :
    Meets fair (pure a) s post := by
  intro t r s' hends _
  obtain ⟨-, rfl, rfl⟩ := ends_pure_iff.1 hends
  exact h

theorem returns_pure {a : α} {post : α → Session → Prop} (h : post a s) :
    Returns fair (pure a) s post :=
  meets_pure ⟨a, rfl, h⟩

theorem Returns.bind {x : Interaction Q R α} {f : α → Interaction Q R β}
    {post : α → Session → Prop} {post' : β → Session → Prop} (hx : Returns fair x s post)
    (hf : ∀ a s', post a s' → Returns fair (f a) s' post') : Returns fair (x >>= f) s post' := by
  refine Meets.bind hx ?_ ?_
  · rintro a s' ⟨a', ha, hpost⟩
    obtain rfl : a = a' := Except.ok.inj ha
    exact hf a s' hpost
  · rintro failing s' ⟨a, ha, -⟩
    cases ha

end Interaction

/-! ## Calm answers -/

/-- The directory answered the question, if only by an error. -/
def Query.IsCalm (x : Exchange Query Query.Answer) : Prop := ¬ Query.BrokeOff x

/-- The answer to a request, of a directory that never breaks off. -/
abbrev Request.IsCalm (x : Exchange Request Request.Answer) : Prop :=
  Request.IsHonest Query.IsCalm x

/-- The answer to a move, of a directory that never breaks off. -/
abbrev Move.IsCalm (x : Exchange Move Move.Answer) : Prop := Move.IsHonest Query.IsCalm x

/-- With calm answers a lookup fails only as it may by itself. -/
theorem Lookup.FailsBy.of_calm {α : Type} {admits : Failing → Prop} {p : Lookup α}
    (h : p.FailsBy admits) {t : List (Exchange Query Query.Answer)} {f : Failing}
    (hends : p.Ends t (.error f)) (hcalm : ∀ x ∈ t, Query.IsCalm x) : admits f := by
  rcases h t f hends with hf | ⟨x, hx, hbroke⟩
  · exact hf
  · exact absurd hbroke (hcalm x hx)

namespace Act

variable {α : Type} {s : Session}

/-- A steady lookup put as requests does not break off. -/
theorem not_broke_of_calm {p : Lookup α} (hp : p.IsSteady)
    {t : List (Exchange Query Query.Answer)} {r : Except Failing α} (hends : p.Ends t r)
    (hcalm : ∀ x ∈ t.map lookedUp, Request.IsCalm x) : ¬ Failing.Broke r := by
  rintro ⟨b, rfl⟩
  obtain ⟨cause, hcause⟩ := hp.of_calm hends fun x hx => hcalm _ (List.mem_map_of_mem hx)
  cases hcause

theorem meets_lookup {p : Lookup α} (hp : p.IsSteady) :
    Meets Request.IsCalm (lookup p) s fun r s' => s' = s ∧ ¬ Failing.Broke r := by
  intro t r s' h hcalm
  obtain ⟨⟨t₀, rfl, hends⟩, rfl⟩ := ends_lookup_iff.1 h
  exact ⟨rfl, not_broke_of_calm hp hends hcalm⟩

theorem meets_attempt {p : Act α} {post : Except Failing α → Session → Prop}
    {fair : Exchange Request Request.Answer → Prop} (hp : Meets fair p s post) :
    Meets fair p.attempt s fun r s' => ∃ r₀, post r₀ s' ∧ r = Failing.attempted r₀ := by
  intro t r s' h hfair
  obtain ⟨r₀, h₀, rfl⟩ := ends_attempt_iff.1 h
  exact ⟨r₀, hp t r₀ s' h₀ hfair, rfl⟩

end Act

/-! ## Validation -/

theorem mem_requiredGroups {chain : List Command} {g : Group} (h : g ∈ requiredGroups chain) :
    ∃ c ∈ chain, c.group = g := by
  have hup : ∀ (up : List Command) (inner : List Group), g ∈ requiredGroupsUp inner up →
      g ∈ inner ∨ ∃ c ∈ up, c.group = g := by
    intro up
    induction up with
    | nil =>
      intro inner h
      exact Or.inl h
    | cons c above ih =>
      intro inner h
      rw [requiredGroupsUp] at h
      split at h
      · rcases ih _ h with h | ⟨c', hc', hg⟩
        · rcases List.mem_cons.1 h with rfl | h
          · exact Or.inr ⟨c, List.mem_cons_self, rfl⟩
          · exact Or.inl h
        · exact Or.inr ⟨c', List.mem_cons_of_mem _ hc', hg⟩
      · rcases List.mem_cons.1 h with rfl | h
        · exact Or.inr ⟨c, List.mem_cons_self, rfl⟩
        · exact Or.inl h
  rcases hup chain.reverse [] h with h | ⟨c, hc, hg⟩
  · simp at h
  · exact ⟨c, List.mem_reverse.1 hc, hg⟩

namespace Context

variable {ctx : Context} {s : Session}

/-- The policy and the groups of the chain break off by themselves for nobody. -/
structure IsSteady (ctx : Context) : Prop where
  policy : ctx.policy.IsSteady
  groups : ∀ c ∈ ctx.chain, c.group.IsSteady

theorem meets_hasAccess {g : Group} (hpolicy : ctx.policy.IsSteady) (hg : g.IsSteady)
    (hs : s.isInitialized = true) :
    Meets Request.IsCalm (ctx.hasAccess g) s fun r s' => s' = s ∧ ¬ Failing.Broke r := by
  intro t r s' h hcalm
  obtain ⟨rfl, part, rfl, hpart⟩ := (ends_hasAccess_iff hs).1 h
  have hsteady := AccessPolicy.steady_hasAccess hpolicy hg ctx.scope
  exact ⟨rfl, Act.not_broke_of_calm hsteady hpart hcalm⟩

theorem meets_firstRefusal {gs : List Group} (hpolicy : ctx.policy.IsSteady)
    (hgs : ∀ g ∈ gs, g.IsSteady) (hs : s.isInitialized = true) :
    Meets Request.IsCalm (ctx.firstRefusal gs) s fun r s' => s' = s ∧ ¬ Failing.Broke r := by
  induction gs with
  | nil => exact meets_pure ⟨rfl, Failing.not_broke_ok _⟩
  | cons g gs ih =>
    rw [firstRefusal]
    refine (meets_hasAccess hpolicy (hgs g List.mem_cons_self) hs).bind ?_ ?_
    · rintro granted s' ⟨rfl, -⟩
      cases granted with
      | true => exact ih fun g' hg' => hgs g' (List.mem_cons_of_mem _ hg')
      | false => exact meets_pure ⟨rfl, Failing.not_broke_ok _⟩
    · rintro failing s' ⟨rfl, hbroke⟩
      exact ⟨rfl, by simpa [Failing.Broke] using hbroke⟩

theorem meets_firstFailure (hctx : ctx.IsSteady) (hs : s.isInitialized = true)
    (settings : CommandSettings) :
    Meets Request.IsCalm (ctx.firstFailure settings) s
      fun r s' => s' = s ∧ ¬ Failing.Broke r := by
  have hchecks := Act.meets_lookup (s := s)
    (steady_firstDenial ctx.scope (settingChecks settings) fun _ h =>
      steady_settingChecks h ctx.scope)
  refine hchecks.bind ?_ ?_
  · rintro denial s' ⟨rfl, -⟩
    cases denial with
    | some failure => exact meets_pure ⟨rfl, Failing.not_broke_ok _⟩
    | none =>
      refine meets_firstRefusal hctx.policy ?_ hs
      intro g hg
      obtain ⟨c, hc, rfl⟩ := mem_requiredGroups hg
      exact hctx.groups c hc
  · rintro failing s' ⟨rfl, hbroke⟩
    exact ⟨rfl, by simpa [Failing.Broke] using hbroke⟩

/-- A validation lets the invocation pass or ends it. -/
theorem returns_validate (hctx : ctx.IsSteady) (hs : s.isInitialized = true) :
    Returns Request.IsCalm ctx.validate s
      fun denied s' => s' = s ∧ ∀ outcome, denied = some outcome → outcome.isTerminal = true := by
  rw [validate]
  split
  · exact returns_pure ⟨rfl, by simp⟩
  · rename_i source _
    refine (Act.meets_attempt (meets_firstFailure hctx hs source.settings)).bind ?_ ?_
    · rintro r s' ⟨r₀, ⟨rfl, -⟩, -⟩
      cases r with
      | ok failure =>
        refine returns_pure ⟨rfl, ?_⟩
        intro outcome houtcome
        obtain ⟨failure', -, rfl⟩ := Option.map_eq_some_iff.1 houtcome
        rfl
      | error cause =>
        refine returns_pure ⟨rfl, ?_⟩
        intro outcome houtcome
        obtain rfl := Option.some.inj houtcome
        rfl
    -- an error has become an outcome, and a breakdown is excluded
    · rintro failing s' ⟨r₀, ⟨rfl, hbroke⟩, hr⟩
      rcases r₀ with (cause | b) | failure
      · cases hr
      · exact absurd ⟨b, rfl⟩ hbroke
      · cases hr

/-! ## Loading -/

/-- A parameter that is refused is refused with an outcome that ends the invocation. -/
theorem terminal_of_mayEnd {good : Exchange Query Query.Answer → Prop} {place : Reference.Place}
    {p : Parameter} {raw : Option RawArgument} {outcome : Outcome}
    (h : (parseParameter place p raw).MayEnd good (.ok (.error outcome))) :
    outcome.isTerminal = true := by
  obtain ⟨t, h, -⟩ := h
  cases raw with
  | none =>
    rw [parseParameter] at h
    split at h
    · obtain ⟨-, hr⟩ := Lookup.ends_pure_iff.1 h
      obtain rfl : outcome = .failure (.argumentMissing p.name) := by simpa using hr
      rfl
    · obtain ⟨-, hr⟩ := Lookup.ends_pure_iff.1 h
      simp at hr
  | some raw =>
    rw [parseParameter] at h
    rcases Lookup.ends_bind_iff.1 h with ⟨r, t₁, t₂, -, -, h₂⟩ | ⟨f, hf, -⟩
    · split at h₂
      · obtain ⟨-, hr⟩ := Lookup.ends_pure_iff.1 h₂
        simp at hr
      all_goals
        obtain ⟨-, hr⟩ := Lookup.ends_pure_iff.1 h₂
        obtain rfl : outcome = _ := Except.error.inj (Except.ok.inj hr)
        rfl
    · simp at hf

/-- What keeps parameters from being joined ends the invocation. -/
theorem terminal_of_joinParameters {good : Exchange Query Query.Answer → Prop}
    {place : Reference.Place} {parameters : List Parameter} {raw : List (String × RawArgument)}
    {ends : List ParameterEnd} {outcome : Outcome}
    (hends : List.Forall₂ (fun p e => Lookup.MayEnd good p (.ok e))
      (parameterLookups place parameters raw) ends)
    (hjoin : joinParameters parameters ends = .error outcome) : outcome.isTerminal = true := by
  induction parameters generalizing raw ends with
  | nil => cases hjoin
  | cons p ps ih =>
    rw [parameterLookups] at hends
    cases hends with
    | @cons _ r _ rs hp hps =>
      rcases joinParameters_cons_error hjoin with rfl | hrest
      · exact terminal_of_mayEnd hp
      · exact ih hps hrest

/-- A load ends with the arguments or with an outcome that ends the invocation. -/
theorem returns_load {invoked : Command} (hinvoked : ctx.chain.getLast? = some invoked)
    (hs : s.isInitialized = true) (hl : s.loading = .notLoaded) :
    Returns Request.IsCalm (ctx.load none) s
      fun loadEnd _ => loadEnd = .loaded ∨
        ∃ outcome, loadEnd = .ended outcome ∧ outcome.isTerminal = true := by
  intro t r s' h hcalm
  cases loadRun_of_load hinvoked hs hl h with
  | loaded => exact ⟨_, rfl, Or.inl rfl⟩
  | misassigned => exact ⟨_, rfl, Or.inr ⟨_, rfl, rfl⟩⟩
  | @refused raw ends outcome hassign hjoin =>
    have hends : Lookup.MayGather Query.IsCalm
        (parameterLookups ctx.place invoked.parameters raw) none (.ok (some ends)) :=
      hcalm (ctx.gathered invoked none raw (.ok (some ends))) (List.mem_singleton_self _)
    exact ⟨_, rfl, Or.inr ⟨outcome, rfl, terminal_of_joinParameters hends hjoin⟩⟩
  -- no lookup of a parameter fails while the directory is calm
  | @failed raw f hassign =>
    obtain ⟨l, hl, u, hends, hu⟩ : Lookup.MayGather Query.IsCalm
        (parameterLookups ctx.place invoked.parameters raw) none (.error f) :=
      hcalm (ctx.gathered invoked none raw (.error f)) (List.mem_singleton_self _)
    exact absurd ((unfailing_parameterLookups _ _ _ hl).of_calm hends hu) id
  -- without a limit nothing is given up
  | @givenUp raw hassign =>
    have hlimit : Lookup.MayGather Query.IsCalm
        (parameterLookups ctx.place invoked.parameters raw) none (.ok none) :=
      hcalm (ctx.gathered invoked none raw (.ok none)) (List.mem_singleton_self _)
    cases hlimit

end Context

/-! ## Handlers and dispatch -/

namespace Procedure

variable {α β : Type} {s : Session}

/-- An act that returns does so as a procedure. -/
theorem returns_ofAct {p : Act α} {post : α → Session → Prop}
    (h : Returns Request.IsCalm p s post) : Returns Move.IsCalm (ofAct p) s post := by
  intro t r s' hends hcalm
  obtain ⟨t₀, rfl, h₀⟩ := ends_ofAct_iff.1 hends
  exact h t₀ r s' h₀ fun x hx => hcalm (requested x) (List.mem_map_of_mem hx)

theorem returns_record_bind {stage : Stage} {tags : Tags} {f : Unit → Procedure β}
    {post : β → Session → Prop} (h : Returns Move.IsCalm (f ()) s post) :
    Returns Move.IsCalm (record stage tags >>= f) s post := by
  intro t r s' hends hcalm
  obtain ⟨t', rfl, h'⟩ := ends_record_bind_iff.1 hends
  exact h t' r s' h' fun x hx => hcalm x (List.mem_cons_of_mem _ hx)

end Procedure

open Procedure

/-- However a handler ends, there is an outcome. -/
theorem returns_runHandler (ctx : Context) (command : Command) (handler : Handler) (s : Session) :
    Returns Move.IsCalm (runHandler ctx command handler) s fun _ _ => True := by
  have hhandle : Returns Move.IsCalm (Procedure.handle command handler ctx) s
      fun _ _ => True := by
    intro t r s' hends _
    obtain ⟨e, rfl, -⟩ := ends_handle_iff.1 hends
    exact ⟨e, rfl, trivial⟩
  refine hhandle.bind ?_
  intro r s' _
  rcases r with (cause | b) | outcome
  all_goals exact returns_pure trivial

/-- The handlers of a chain end with an outcome that ends the invocation, whatever they do. -/
theorem returns_invokeChain (ctx : Context) (tags : Tags) (order : List Registration)
    (s : Session) :
    Returns Move.IsCalm (ctx.invokeChain tags order) s
      fun outcome _ => outcome.isTerminal = true := by
  induction order generalizing s with
  | nil => exact returns_pure rfl
  | cons r rs ih =>
    rw [Context.invokeChain]
    split
    -- a command without a handler is passed over
    · exact ih s
    · refine (returns_runHandler ctx r.command _ s).bind ?_
      intro outcome s' _
      refine returns_record_bind ?_
      split
      · rename_i hterminal
        exact returns_pure hterminal
      · exact ih s'

theorem returns_claims (ctx : Context) (outcome : Outcome) (handler : OutcomeHandler)
    (s : Session) : Returns Move.IsCalm (claims ctx outcome handler) s fun _ _ => True := by
  have hpresent : Returns Move.IsCalm (present handler ctx outcome) s fun _ _ => True := by
    intro t r s' hends _
    obtain ⟨e, rfl, -⟩ := ends_present_iff.1 hends
    exact ⟨e, rfl, trivial⟩
  refine hpresent.bind ?_
  intro r s' _
  cases r with
  | ok claimed => exact returns_pure trivial
  | error f => exact returns_pure trivial

theorem returns_firstClaim (ctx : Context) (outcome : Outcome) (index : Nat)
    (handlers : List OutcomeHandler) (s : Session) :
    Returns Move.IsCalm (firstClaim ctx outcome index handlers) s fun _ _ => True := by
  induction handlers generalizing index s with
  | nil => exact returns_pure trivial
  | cons handler handlers ih =>
    refine (returns_claims ctx outcome handler s).bind ?_
    intro claimed s' _
    cases claimed with
    | true => exact returns_pure trivial
    | false => exact ih (index + 1) s'

theorem returns_dispatch (ctx : Context) (handlers : List OutcomeHandler)
    (fallback : OutcomeHandler) (outcome : Outcome) (s : Session) :
    Returns Move.IsCalm (dispatch ctx handlers fallback outcome) s fun _ _ => True := by
  refine (returns_firstClaim ctx outcome 0 handlers s).bind ?_
  intro index s' _
  cases index with
  | some index => exact returns_pure trivial
  | none =>
    refine (returns_claims ctx outcome fallback s').bind ?_
    intro claimed s'' _
    cases claimed with
    | true => exact returns_pure trivial
    | false => exact returns_pure trivial

/-! ## The whole invocation -/

/-- The execution of an opened invocation gives an outcome that ends it. -/
theorem returns_execute {ctx : Context} {invoked : Command} (hctx : ctx.IsSteady)
    (hinvoked : ctx.chain.getLast? = some invoked) (order : List Registration) (tags : Tags) :
    Returns Move.IsCalm (Pipeline.execute ctx order tags) ctx.opened
      fun outcome _ => outcome.isTerminal = true := by
  refine (returns_ofAct (Context.returns_validate hctx rfl)).bind ?_
  rintro denied s' ⟨rfl, hdenied⟩
  refine returns_record_bind ?_
  cases denied with
  | some outcome => exact returns_pure (hdenied outcome rfl)
  | none =>
    refine (returns_ofAct (Context.returns_load hinvoked rfl rfl)).bind ?_
    rintro loadEnd s' (rfl | ⟨outcome, rfl, hterminal⟩)
    · refine returns_record_bind ?_
      refine (returns_invokeChain ctx tags order s').bind ?_
      intro outcome s'' hterminal
      exact returns_record_bind (returns_pure hterminal)
    · exact returns_record_bind (returns_pure hterminal)

/-- An invocation is handled with an outcome that ends it. -/
theorem returns_handle {p : Pipeline} {ctx : Context} {command : Command} (hctx : ctx.IsSteady)
    (hcommand : ctx.chain.getLast? = some command) (chain : List Registration)
    (invoked : Registration) (tags : Tags) :
    Returns Move.IsCalm (p.handle ctx chain invoked tags) .fresh fun ending _ =>
      ∃ outcome dispatched, ending = .handled outcome dispatched ∧ outcome.isTerminal = true := by
  have hbegin : Returns Request.IsCalm ctx.begin .fresh fun _ s' => s' = ctx.opened := by
    intro t r s' hends _
    obtain ⟨rfl, rfl, -⟩ := Context.ends_begin hends
    exact ⟨(), rfl, rfl⟩
  have hconclude : Returns Move.IsCalm (Pipeline.conclude ctx chain tags) ctx.opened
      fun outcome _ => outcome.isTerminal = true := by
    -- a misconfigured chain ends with an error of its own
    rw [Pipeline.conclude]
    split
    · exact returns_execute hctx hcommand _ tags
    · exact returns_pure rfl
  refine (returns_ofAct hbegin).bind ?_
  rintro _ s' rfl
  refine hconclude.bind ?_
  intro outcome s' hterminal
  refine returns_record_bind ?_
  refine (returns_dispatch ctx invoked.outcomeHandlers p.fallback outcome s').bind ?_
  intro dispatched s'' _
  exact returns_record_bind (returns_pure ⟨outcome, dispatched, rfl, hterminal⟩)

end ChatCommands
