import ChatCommands.Proofs.EventMatching
import ChatCommands.Proofs.StageRuns

set_option autoImplicit false

/-!
# What a handler may rely on

No handler of a command is run before the invocation has been cleared. A `Clearance` is what has
happened by then: the event matched a chain that the registry offers, the invoked command may be
called here, the order of handlers is settled, every check of settings was passed, every required
group was granted, and the arguments are loaded. The main statement is `cleared_before_handler`.
-/

namespace ChatCommands

open Program (Exchange Runs Asks)
open Interaction Procedure

/-- What has happened before a handler is run: its history lists the exchanges in order. -/
structure Clearance (p : Pipeline) (e : Event) (before : Trace) where
  found : ChainMatch
  source : ArgumentSource
  invoked : Registration
  order : List Registration
  settingsFrom : Command
  checks : List (Exchange Query Query.Answer)
  accesses : List (List (Exchange Query Query.Answer))
  raw : List (String × RawArgument)
  ends : List ParameterEnd
  arguments : List (String × Argument)
  /-- Handlers that were run before, with the records they left. -/
  earlier : Trace
  matched : p.matching e = .matched found source
  invoked_last : found.chain.getLast? = some invoked
  /-- Each command is what the registry offers below the path of the commands before it. -/
  offered : ∀ i r, found.chain[i]? = some r → ∃ token,
    p.registry ⟨(found.chain.take i).map (·.command.name) ++ [token]⟩ e.style = some r
  callable : invoked.command.settings.callable = true
  in_scope : invoked.command.scope = .guildOnly → e.guild ≠ none
  normalized : checkNormalized (found.chain.map (·.command)) = .ok ()
  ordered : handlingOrder (·.command) found.chain = .ok order
  settings_source : settingsSource (found.chain.map (·.command)) = some settingsFrom
  settings_met : SettingsMet settingsFrom.settings ⟨e.guild, e.channel, e.caller⟩ checks
  /-- The access to every required group is decided by an undisturbed run of the policy. -/
  granted : List.Forall₂
    (fun g part => (p.policy.hasAccess g ⟨e.guild, e.channel, e.caller⟩).Ends part (.ok true))
    (requiredGroups (found.chain.map (·.command))) accesses
  assigned : assign invoked.command.parameters source = .ok raw
  joined : joinParameters invoked.command.parameters ends = .ok arguments
  settled : ∀ q ∈ invoked.command.parameters, q.IsSettled raw arguments
  history :
    let tags := (Tags.ofEvent e).withCommand invoked.command.id
    let lookups := parameterLookups ⟨e.guild, e.channel⟩ invoked.command.parameters raw
    before =
      recorded .parse (tags.withOutcome "matched") ::
      ⟨.request (.openAccess e.guild e.channel e.caller.id), ()⟩ ::
      (checks ++ accesses.flatten).map asked ++
      recorded .validate (tags.withOutcome "passed") ::
      ⟨.request (.gather lookups none), (.ok (some ends) :
        Except Failing (Option (List ParameterEnd)))⟩ ::
      recorded .load (tags.withOutcome "loaded") ::
      earlier

namespace Clearance

variable {p : Pipeline} {e : Event} {before : Trace}

/-- The context of the invocation. -/
def context (c : Clearance p e before) : Context :=
  ⟨e, c.found.invocation, c.found.chain.map (·.command), c.source, p.policy⟩

/-- The session in which the first handler is run. -/
def session (c : Clearance p e before) : Session :=
  { c.context.opened with loading := .ready c.arguments }

end Clearance

/-! ## Where no handler is run -/

theorem runsNoHandler_claims (ctx : Context) (outcome : Outcome) (handler : OutcomeHandler) :
    RunsNoHandler (claims ctx outcome handler) := by
  refine (runsNoHandler_present handler ctx outcome).bind ?_
  intro r
  cases r with
  | ok claimed => exact runsNoHandler_pure claimed
  | error f => exact runsNoHandler_pure false

theorem runsNoHandler_firstClaim (ctx : Context) (outcome : Outcome) (index : Nat)
    (handlers : List OutcomeHandler) : RunsNoHandler (firstClaim ctx outcome index handlers) := by
  induction handlers generalizing index with
  | nil => exact runsNoHandler_pure none
  | cons handler handlers ih =>
    refine (runsNoHandler_claims ctx outcome handler).bind ?_
    intro claimed
    cases claimed with
    | true => exact runsNoHandler_pure _
    | false => exact ih (index + 1)

theorem runsNoHandler_dispatch (ctx : Context) (handlers : List OutcomeHandler)
    (fallback : OutcomeHandler) (outcome : Outcome) :
    RunsNoHandler (dispatch ctx handlers fallback outcome) := by
  refine (runsNoHandler_firstClaim ctx outcome 0 handlers).bind ?_
  intro index
  cases index with
  | some index => exact runsNoHandler_pure _
  | none =>
    refine (runsNoHandler_claims ctx outcome fallback).bind ?_
    intro claimed
    cases claimed with
    | true => exact runsNoHandler_pure _
    | false => exact runsNoHandler_pure _

/-! ## From the handler back to the event -/

theorem settingsSource_of_getLast? {chain : List Command} {invoked : Command}
    (h : chain.getLast? = some invoked) : ∃ source, settingsSource chain = some source := by
  have hup : ∀ up : List Command, up ≠ [] → ∃ source, settingsSourceUp up = some source := by
    intro up
    induction up with
    | nil => simp
    | cons c above ih =>
      intro _
      cases above with
      | nil => exact ⟨c, rfl⟩
      | cons d above =>
        rw [settingsSourceUp]
        split
        · exact ih (by simp)
        · exact ⟨c, rfl⟩
  refine hup chain.reverse ?_
  rw [ne_eq, List.reverse_eq_nil_iff]
  rintro rfl
  simp at h

/-- A handler run by the execution of an invocation is run by the chain of handlers, from the
session in which the arguments are loaded, after everything was validated. -/
theorem invoked_of_execute {good : Exchange Query Query.Answer → Prop} {ctx : Context}
    {order : List Registration} {tags : Tags} {invoked source : Command} {t : Trace}
    {command : Command} {handler : Handler} {ctx' : Context} {s : Session}
    (hinvoked : ctx.chain.getLast? = some invoked)
    (hsource : settingsSource ctx.chain = some source)
    (hhonest : ∀ x ∈ t, Move.IsHonest good x)
    (h : Puts (Pipeline.execute ctx order tags) ctx.opened t (.handle command handler ctx' s)) :
    ∃ checks accesses raw ends arguments earlier,
      t = (checks ++ accesses.flatten).map asked ++
        recorded .validate (tags.withOutcome "passed") ::
        requested (ctx.gathered invoked none raw (.ok (some ends))) ::
        recorded .load (tags.withOutcome "loaded") :: earlier ∧
      SettingsMet source.settings ctx.scope checks ∧
      List.Forall₂ (fun g part => (ctx.policy.hasAccess g ctx.scope).Ends part (.ok true))
        (requiredGroups ctx.chain) accesses ∧
      assign invoked.parameters ctx.source = .ok raw ∧
      List.Forall₂ (fun p e => Lookup.MayEnd good p (.ok e))
        (parameterLookups ctx.place invoked.parameters raw) ends ∧
      joinParameters invoked.parameters ends = .ok arguments ∧
      Puts (ctx.invokeChain tags order) { ctx.opened with loading := .ready arguments } earlier
        (.handle command handler ctx' s) := by
  rw [Pipeline.execute] at h
  obtain ⟨denied, s₁, t₁, t₂, rfl, hvalidate, h₁⟩ := (runsNoHandler_ofAct _).puts_bind h
  obtain ⟨t₃, rfl, h₂⟩ := puts_record_bind h₁
  cases denied with
  -- a denied invocation ends with the record of its denial
  | some outcome => exact absurd h₂ not_puts_pure
  | none =>
    obtain ⟨u₁, rfl, hpassed⟩ := ends_ofAct_iff.1 hvalidate
    obtain ⟨rfl, checks, accesses, rfl, hmet, hgranted⟩ :=
      Context.granted_of_validate rfl hsource hpassed
    obtain ⟨loadEnd, s₂, t₄, t₅, rfl, hload, h₃⟩ := (runsNoHandler_ofAct _).puts_bind h₂
    obtain ⟨u₂, rfl, hended⟩ := ends_ofAct_iff.1 hload
    cases Context.loadRun_of_load hinvoked rfl rfl hended with
    -- a load that bound nothing leaves nothing to run
    | misassigned | givenUp | refused =>
      obtain ⟨t₆, rfl, h₄⟩ := puts_record_bind h₃
      exact absurd h₄ not_puts_pure
    | @loaded raw ends arguments hassign hjoin =>
      obtain ⟨t₆, rfl, h₄⟩ := puts_record_bind h₃
      have hinvoke := puts_of_puts_bind (fun outcome => (runsNoHandler_ofAct _).bind fun _ =>
        runsNoHandler_pure outcome) h₄
      -- the ends of the parameters are those that their lookups can have
      have hends : Lookup.MayGather good (parameterLookups ctx.place invoked.parameters raw) none
          (.ok (some ends)) :=
        hhonest (requested (ctx.gathered invoked none raw (.ok (some ends)))) (by simp)
      refine ⟨checks, accesses, raw, ends, arguments, t₆, ?_, hmet, hgranted, hassign, hends,
        hjoin, hinvoke⟩
      rw [map_requested]
      rfl

/-- A handler run by the execution of an invocation is run after everything was
validated and loaded. -/
theorem cleared_of_execute {good : Exchange Query Query.Answer → Prop} {ctx : Context}
    {order : List Registration} {tags : Tags} {invoked source : Command} {t : Trace}
    {command : Command} {handler : Handler} {ctx' : Context} {s : Session}
    (hinvoked : ctx.chain.getLast? = some invoked)
    (hsource : settingsSource ctx.chain = some source)
    (hhonest : ∀ x ∈ t, Move.IsHonest good x)
    (h : Puts (Pipeline.execute ctx order tags) ctx.opened t (.handle command handler ctx' s)) :
    ∃ checks accesses raw ends arguments earlier,
      t = (checks ++ accesses.flatten).map asked ++
        recorded .validate (tags.withOutcome "passed") ::
        requested (ctx.gathered invoked none raw (.ok (some ends))) ::
        recorded .load (tags.withOutcome "loaded") :: earlier ∧
      SettingsMet source.settings ctx.scope checks ∧
      List.Forall₂ (fun g part => (ctx.policy.hasAccess g ctx.scope).Ends part (.ok true))
        (requiredGroups ctx.chain) accesses ∧
      assign invoked.parameters ctx.source = .ok raw ∧
      joinParameters invoked.parameters ends = .ok arguments ∧
      (∀ q ∈ invoked.parameters, q.IsSettled raw arguments) ∧
      ctx' = ctx ∧ (earlier = [] → s = { ctx.opened with loading := .ready arguments }) ∧
      ∃ r ∈ order, r.command = command ∧ r.handler = some handler := by
  obtain ⟨checks, accesses, raw, ends, arguments, earlier, ht, hmet, hgranted, hassign, hends,
    hjoin, hinvoke⟩ := invoked_of_execute hinvoked hsource hhonest h
  obtain ⟨hctx, hsession, hr⟩ := Context.mem_of_puts_invokeChain hinvoke
  exact ⟨checks, accesses, raw, ends, arguments, earlier, ht, hmet, hgranted, hassign, hjoin,
    settled_of_joinParameters hends hjoin, hctx, hsession, hr⟩

/-- A handler run by the handling of an invocation is run by its execution, in a settled order and
after access was opened. -/
theorem executed_of_handle {p : Pipeline} {ctx : Context} {chain : List Registration}
    {invoked : Registration} {tags : Tags} {t : Trace} {command : Command} {handler : Handler}
    {ctx' : Context} {s : Session}
    (h : Puts (p.handle ctx chain invoked tags) .fresh t (.handle command handler ctx' s)) :
    ∃ order t', handlingOrder (·.command) chain = .ok order ∧
      t = ⟨.request (.openAccess ctx.event.guild ctx.event.channel ctx.event.caller.id), ()⟩ :: t' ∧
      Puts (Pipeline.execute ctx order tags) ctx.opened t' (.handle command handler ctx' s) := by
  rw [Pipeline.handle] at h
  obtain ⟨⟨⟩, s₁, t₁, t₂, rfl, hbegin, h₁⟩ := (runsNoHandler_ofAct _).puts_bind h
  obtain ⟨u₁, rfl, hopen⟩ := ends_ofAct_iff.1 hbegin
  obtain ⟨-, rfl, rfl⟩ := Context.ends_begin hopen
  -- what follows the conclusion only records and presents the outcome
  have hconclude := puts_of_puts_bind (fun outcome => (runsNoHandler_ofAct _).bind fun _ =>
    (runsNoHandler_dispatch ctx _ _ outcome).bind fun _ =>
      (runsNoHandler_ofAct _).bind fun _ => runsNoHandler_pure _) h₁
  rw [Pipeline.conclude] at hconclude
  split at hconclude
  · rename_i order horder
    exact ⟨order, t₂, horder, rfl, hconclude⟩
  · exact absurd hconclude not_puts_pure

/-- Whatever handler of a command is run while an event is processed, the invocation was cleared
before: the exchanges before the run are a clearance, the handler is that of a command in the
settled order, and the first handler finds the arguments loaded. -/
theorem cleared_before_handler (p : Pipeline) (e : Event)
    (good : Exchange Query Query.Answer → Prop) (before : Trace) (command : Command)
    (handler : Handler) (ctx : Context) (s : Session)
    (hask : Asks (p.moves e) before (.handle command handler ctx s))
    (hhonest : ∀ x ∈ before, Move.IsHonest good x) :
    ∃ c : Clearance p e before, ctx = c.context ∧ (c.earlier = [] → s = c.session) ∧
      ∃ r ∈ c.order, r.command = command ∧ r.handler = some handler := by
  have hprocedure : Puts (p.procedure e) .fresh before (.handle command handler ctx s) := by
    rcases Program.asks_bind_iff.1 hask with h | ⟨t₁, t₂, r, -, -, h⟩
    · exact h
    · exact absurd h Program.not_asks_done
  -- the record of the end runs no handler
  have hinner := puts_of_puts_bind (fun ending => (runsNoHandler_ofAct _).bind fun _ =>
    runsNoHandler_pure ending) hprocedure
  rw [Pipeline.processInner] at hinner
  have hmatch := p.matches_matching e
  cases hmatching : p.matching e with
  | violation v =>
    rw [hmatching] at hinner
    exact absurd hinner not_puts_pure
  | ignored reason =>
    rw [hmatching] at hinner
    exact absurd hinner (((runsNoHandler_ofAct _).bind fun _ => runsNoHandler_pure _) _ _ _ _ _ _)
  | matched found source =>
    rw [hmatching] at hinner hmatch
    cases hmatch with
    | @matched _ rest invoked hread hlast hleft =>
    simp only [hlast] at hinner
    obtain ⟨t', rfl, hguard⟩ := puts_record_bind hinner
    -- an event that a guard ignores runs no handler
    split at hguard
    · exact absurd hguard not_puts_pure
    · rename_i hpass
      obtain ⟨hcallable, hscope, hnormal⟩ := Pipeline.passed_of_guard? hpass
      have hhandle := puts_of_puts_bind (fun ending => runsNoHandler_pure _) hguard
      obtain ⟨order, t₁, horder, rfl, hexecute⟩ := executed_of_handle hhandle
      have hcommand : (found.chain.map (·.command)).getLast? = some invoked.command := by
        rw [List.getLast?_map, hlast, Option.map_some]
      obtain ⟨settingsFrom, hsource⟩ := settingsSource_of_getLast? hcommand
      obtain ⟨checks, accesses, raw, ends, arguments, earlier, rfl, hmet, hgranted, hassign, hjoin,
        hsettled, rfl, hsession, hr⟩ := cleared_of_execute hcommand hsource
          (fun x hx => hhonest x (List.mem_cons_of_mem _ (List.mem_cons_of_mem _ hx))) hexecute
      exact ⟨{
        found, source := _, invoked, order, settingsFrom, checks, accesses, raw, ends, arguments,
        earlier
        matched := hmatching
        invoked_last := hlast
        offered := fun i r => Pipeline.offered_of_reading hread
        callable := hcallable
        in_scope := hscope
        normalized := hnormal
        ordered := horder
        settings_source := hsource
        settings_met := hmet
        granted := hgranted
        assigned := hassign
        joined := hjoin
        settled := hsettled
        history := rfl }, rfl, hsession, hr⟩

/-- A command for the owner of a guild, who must be the owner of the application too. -/
def lockCommand : Command :=
  { Command.ofPath "lock" ⟨["lock"]⟩ with
    scope := .guildOnly
    settings := { serverOwnerOnly := true }
    group := .botOwner
    parameters := [.ofRequired "open" .boolean] }

/-- The handler of the command does nothing more. -/
def lockHandler : Handler := fun _ => return .ok

/-- A pipeline with this command, which asks for membership in groups. -/
def lockPipeline : Pipeline :=
  ⟨(CommandTable.ofList [⟨lockCommand, some lockHandler, []⟩]).registry, .basic, {}, .empty,
    presentOutcome⟩

/-- The owner calls the command in a guild. -/
def lockEvent : Event :=
  ⟨none, some ⟨1⟩, ⟨2⟩, ⟨⟨3⟩, "ada", false⟩, none, .slash ["lock"] [("open", .boolean true)] []⟩

theorem matching_lock : lockPipeline.matching lockEvent =
    .matched ⟨[⟨lockCommand, some lockHandler, []⟩], ⟨["lock"]⟩⟩
      (.slash [("open", .boolean true)] []) := by
  have hnext : (TokenStream.ofTokens ["lock"]).next? = some ("lock", .empty) := rfl
  have hoffered : lockPipeline.registry (Invocation.root.child "lock") lockEvent.style =
      some ⟨lockCommand, some lockHandler, []⟩ := rfl
  have hchain : matchChain lockPipeline.registry lockEvent.style (.ofTokens ["lock"]) =
      (⟨[⟨lockCommand, some lockHandler, []⟩], ⟨["lock"]⟩⟩, .empty) := by
    rw [matchChain, matchBelow_of_known hnext hoffered, matchBelow_of_next?_none rfl]
    rfl
  have htokens : lockPipeline.tokens? lockEvent = some (.ofTokens ["lock"]) := rfl
  have hkept : (lockPipeline.aliases.apply (.ofTokens ["lock"])).2 = .ofTokens ["lock"] := rfl
  rw [Pipeline.matching]
  simp only [htokens, hkept, hchain]
  rfl

/-- The labels of the records of the call. -/
def lockTags : Tags := (Tags.ofEvent lockEvent).withCommand "lock"

/-- The context of the call. -/
def lockContext : Context :=
  ⟨lockEvent, ⟨["lock"]⟩, [lockCommand], .slash [("open", .boolean true)] [], .basic⟩

/-- What happens before the handler is run, for an owner of both the guild and the application. -/
def lockHistory : Trace :=
  [recorded .parse (lockTags.withOutcome "matched"),
   ⟨.request (.openAccess (some ⟨1⟩) ⟨2⟩ ⟨3⟩), ()⟩,
   asked ⟨.guild ⟨1⟩, (.ok (some ⟨⟨1⟩, "home", ⟨3⟩⟩) : Except Failing (Option Guild))⟩,
   asked ⟨.applicationOwner, (.ok ⟨3⟩ : Except Failing UserId)⟩,
   recorded .validate (lockTags.withOutcome "passed"),
   ⟨.request (.gather (parameterLookups lockContext.place lockCommand.parameters
      [("open", .slot (.boolean true))]) none),
    (.ok (some [.ok (some (.boolean true))]) : Except Failing (Option (List ParameterEnd)))⟩,
   recorded .load (lockTags.withOutcome "loaded")]

/-- The handler of the command is run after both owners were looked up and the
argument was parsed. -/
theorem lock_cleared_before_handler :
    let s : Session := { lockContext.opened with loading := .ready [("open", .boolean true)] }
    Asks (lockPipeline.moves lockEvent) lockHistory
        (.handle lockCommand lockHandler lockContext s) ∧
      (∀ x ∈ lockHistory, Move.IsHonest (fun _ => True) x) ∧
      ∃ c : Clearance lockPipeline lockEvent lockHistory,
        lockContext = c.context ∧ (c.earlier = [] → s = c.session) ∧
          ∃ r ∈ c.order, r.command = lockCommand ∧ r.handler = some lockHandler := by
  intro s
  have hask : Asks (lockPipeline.moves lockEvent) lockHistory
      (.handle lockCommand lockHandler lockContext s) := by
    rw [Pipeline.moves, Pipeline.procedure, Pipeline.processInner, matching_lock]
    exact .later (.later (.later (.later (.later (.later (.later (.now _ _)))))))
  have hhonest : ∀ x ∈ lockHistory, Move.IsHonest (fun _ => True) x := by
    simp only [lockHistory, List.forall_mem_cons]
    exact ⟨trivial, trivial, trivial, trivial, trivial, .cons ⟨[], .done _, by simp⟩ .nil, trivial,
      by simp⟩
  exact ⟨hask, hhonest,
    cleared_before_handler lockPipeline lockEvent _ lockHistory _ _ _ s hask hhonest⟩

end ChatCommands
