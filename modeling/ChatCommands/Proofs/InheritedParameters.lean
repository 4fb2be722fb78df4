import ChatCommands.Proofs.SessionLifecycle

set_option autoImplicit false

/-!
# Parameters of ancestors

The arguments of an invocation are parsed as the invoked command declares them, while each handler
of the order reads them as its own command does. An order is settled only if the invoked command
provides for every required parameter of an ancestor (`provided_of_handlingOrder`), and what it
provides for is bound once the arguments are parsed. As no handler takes back what is bound
(`KeepsArguments`; no call of a context does, by `Context.Call.keepsArguments`), every handler that
is run finds the required parameters of its command: `required_parameters_bound`.
-/

namespace ChatCommands

open Program (Exchange Runs Asks)
open Interaction Procedure

/-! ## Settled orders -/

/-- The command has a parameter of the name that is never without a value. -/
def Command.Provides (invoked : Command) (name : String) : Prop :=
  ∃ own ∈ invoked.parameters, own.name = name ∧ (own.required = true ∨ own.default.isSome = true)

/-- What parses of a provided parameter is a value. -/
theorem Command.Provides.bound {invoked : Command} {name : String} (h : invoked.Provides name)
    {raw : List (String × RawArgument)} {arguments : List (String × Argument)}
    (hsettled : ∀ p ∈ invoked.parameters, p.IsSettled raw arguments) :
    ∃ v, valueOf? name arguments = some v := by
  obtain ⟨own, hown, rfl, hpresent⟩ := h
  rcases hsettled own hown with hbound | ⟨hrequired, hdefault, -⟩
  · exact hbound
  -- a parameter without a value is neither required nor has it a default
  · rcases hpresent with hpresent | hpresent
    · simp [hrequired] at hpresent
    · simp [hdefault] at hpresent

theorem Command.provides_of_required {invoked : Command} {p : Parameter}
    (hp : p ∈ invoked.parameters) (hrequired : p.required = true) : invoked.Provides p.name :=
  ⟨p, hp, rfl, Or.inl hrequired⟩

theorem mem_of_parameter? {invoked : Command} {name : String} {own : Parameter}
    (h : invoked.parameter? name = some own) : own ∈ invoked.parameters ∧ own.name = name :=
  ⟨List.mem_of_find?_eq_some h, by simpa using List.find?_some h⟩

/-- A command that is compatible with an ancestor provides for what the ancestor requires. -/
theorem provides_of_checkCompatible {ancestor invoked : Command}
    (h : checkCompatible ancestor invoked = .ok ()) {p : Parameter} (hp : p ∈ ancestor.parameters)
    (hrequired : p.required = true) : invoked.Provides p.name := by
  have hfine : parameterError? ancestor invoked p = none := by
    rw [checkCompatible] at h
    split at h
    · cases h
    · rename_i hnone
      exact List.findSome?_eq_none_iff.1 hnone p hp
  rw [parameterError?] at hfine
  split at hfine
  · rename_i own hown
    obtain ⟨hmem, hname⟩ := mem_of_parameter? hown
    refine ⟨own, hmem, hname, ?_⟩
    split at hfine
    · cases hfine
    · split at hfine
      · cases hfine
      · rename_i hpresent
        by_contra hneither
        rw [not_or] at hneither
        exact hpresent ⟨hrequired, hneither.1, by simpa using hneither.2⟩
  -- an ancestor requires no parameter that the command does not have
  · simp [hrequired] at hfine

section Orders

variable {α : Type} {declaration : α → Command}

/-- What is added to an order on the way up are compatible ancestors. -/
theorem compatible_of_ancestorsToRun {invoked : Command} {child : α} {order above result : List α}
    (h : ancestorsToRun declaration invoked child order above = .ok result) {a : α}
    (ha : a ∈ result) :
    a ∈ order ∨ a ∈ above ∧ checkCompatible (declaration a) invoked = .ok () := by
  induction above generalizing child order with
  | nil =>
    obtain rfl : order = result := Except.ok.inj h
    exact Or.inl ha
  | cons ancestor above ih =>
    rw [ancestorsToRun] at h
    split at h
    · split at h
      · cases h
      · rename_i hcompatible
        rcases ih h with hmem | ⟨hmem, hok⟩
        -- the ancestor was put in front of what was there before
        · rcases List.mem_cons.1 hmem with rfl | hmem
          · exact Or.inr ⟨List.mem_cons_self, hcompatible⟩
          · exact Or.inl hmem
        · exact Or.inr ⟨List.mem_cons_of_mem _ hmem, hok⟩
    · obtain rfl : order = result := Except.ok.inj h
      exact Or.inl ha

/-- The commands of a settled order stand in the chain, and the invoked one provides for what they
require. -/
theorem provided_of_handlingOrder {chain order : List α} {invoked : α}
    (h : handlingOrder declaration chain = .ok order) (hlast : chain.getLast? = some invoked)
    {a : α} (ha : a ∈ order) :
    a ∈ chain ∧ ∀ p ∈ (declaration a).parameters, p.required = true →
      (declaration invoked).Provides p.name := by
  rw [List.getLast?_eq_head?_reverse] at hlast
  rw [handlingOrder] at h
  cases hup : chain.reverse with
  | nil => simp [hup] at hlast
  | cons last above =>
    rw [hup] at h hlast
    obtain rfl : last = invoked := by simpa using hlast
    have hchain : ∀ b, b ∈ last :: above → b ∈ chain := by
      intro b hb
      rwa [← hup, List.mem_reverse] at hb
    rcases compatible_of_ancestorsToRun h ha with hmem | ⟨hmem, hcompatible⟩
    -- the invoked command provides for its own parameters
    · obtain rfl := List.mem_singleton.1 hmem
      exact ⟨hchain a List.mem_cons_self, fun p hp => Command.provides_of_required hp⟩
    · exact ⟨hchain a (List.mem_cons_of_mem _ hmem), fun p hp =>
        provides_of_checkCompatible hcompatible hp⟩

end Orders

/-! ## Handlers that keep the arguments -/

namespace Act

variable {α β : Type}

/-- From a session with its arguments loaded, the act leaves one with the same arguments. -/
def KeepsArguments (p : Act α) : Prop :=
  ∀ s t r s' arguments, s.loading = .ready arguments → Ends p s t r s' →
    s'.loading = .ready arguments

theorem keepsArguments_pure (a : α) : KeepsArguments (pure a) := by
  intro s t r s' arguments hs h
  obtain ⟨-, -, rfl⟩ := ends_pure_iff.1 h
  exact hs

theorem KeepsArguments.bind {p : Act α} {f : α → Act β} (hp : KeepsArguments p)
    (hf : ∀ a, KeepsArguments (f a)) : KeepsArguments (p >>= f) := by
  intro s t r s' arguments hs h
  rcases ends_bind_iff.1 h with ⟨a, s₁, t₁, t₂, -, h₁, h₂⟩ | ⟨f, -, h₁⟩
  · exact hf a s₁ t₂ r s' arguments (hp s t₁ _ s₁ arguments hs h₁) h₂
  · exact hp s t _ s' arguments hs h₁

/-- What is made of the answer of an act does not matter to the arguments. -/
theorem KeepsArguments.of_map {p : Act α} {f : α → β} (h : KeepsArguments (do return f (← p))) :
    KeepsArguments p :=
  fun s t r s' arguments hs hp => h s t (r.map f) s' arguments hs (ends_map_iff.2 ⟨r, hp, rfl⟩)

end Act

/-- No call of a context takes back the arguments: a load is finished once. -/
theorem Context.Call.keepsArguments (ctx : Context) (call : Call) :
    (call.perform ctx).KeepsArguments := by
  intro s t r s' arguments hs h
  have hfinished : s.loading.end? = some .loaded := by rw [hs, Loading.end?]
  exact ((does_of_ends h).loading_eq hfinished).trans hs

/-- The handler takes back no argument, whatever invocation it is run on. -/
def Handler.KeepsArguments (handler : Handler) : Prop := ∀ ctx, (handler ctx).KeepsArguments

/-- The answer to the run of a handler is an end that the handler can have. -/
def Move.IsPlayed : Exchange Move Move.Answer → Prop
  | ⟨.handle _ handler ctx s, a⟩ => ∃ t, Ends (handler ctx) s t a.1 a.2
  | _ => True

/-! ## What handlers find -/

theorem Procedure.trace_of_ends_runHandler {ctx : Context} {command : Command} {handler : Handler}
    {s s' : Session} {t : Trace} {r : Except Failing Outcome}
    (h : Ends (runHandler ctx command handler) s t r s') :
    ∃ e, t = [⟨.handle command handler ctx s, (e, s')⟩] := by
  rw [runHandler] at h
  rcases ends_bind_iff.1 h with ⟨e, s₁, t₁, t₂, rfl, h₁, h₂⟩ | ⟨f, -, h₁⟩
  · obtain ⟨e, -, rfl⟩ := ends_handle_iff.1 h₁
    -- what is made of the end of the handler asks for nothing
    split at h₂
    all_goals
      obtain ⟨rfl, -, rfl⟩ := ends_pure_iff.1 h₂
      exact ⟨e, rfl⟩
  · obtain ⟨e, -, rfl⟩ := ends_handle_iff.1 h₁
    exact ⟨e, rfl⟩

/-- Every handler in the order is run from a session with the arguments loaded. -/
theorem Context.loaded_of_puts_invokeChain {ctx : Context} {tags : Tags} {order : List Registration}
    {arguments : List (String × Argument)} {s : Session} {t : Trace} {command : Command}
    {handler : Handler} {ctx' : Context} {s' : Session}
    (hkeeps : ∀ r ∈ order, ∀ handler, r.handler = some handler → handler.KeepsArguments)
    (hplayed : ∀ x ∈ t, Move.IsPlayed x) (hs : s.loading = .ready arguments)
    (h : Puts (ctx.invokeChain tags order) s t (.handle command handler ctx' s')) :
    s'.loading = .ready arguments := by
  induction order generalizing s t with
  | nil => exact absurd h not_puts_pure
  | cons r rs ih =>
    have hrest := fun r' hr' => hkeeps r' (List.mem_cons_of_mem r hr')
    rw [invokeChain] at h
    cases hhandler : r.handler with
    | none =>
      simp only [hhandler] at h
      exact ih hrest hplayed hs h
    | some own =>
      simp only [hhandler] at h
      rcases puts_bind_iff.1 h with h | ⟨outcome, s₁, t₁, t₂, rfl, h₁, h⟩
      · obtain ⟨rfl, rfl, rfl, rfl, rfl⟩ := runHandler_puts_iff.1 h
        exact hs
      · obtain ⟨t', rfl, hnext⟩ := puts_record_bind h
        -- the handler at the head has been run, and the session that it left holds the arguments
        obtain ⟨e, rfl⟩ := trace_of_ends_runHandler h₁
        obtain ⟨u, hu⟩ : ∃ u, Ends (own ctx) s u e s₁ := hplayed _ List.mem_cons_self
        have hs₁ := hkeeps r List.mem_cons_self own hhandler ctx s u e s₁ arguments hs hu
        split at hnext
        · exact absurd hnext not_puts_pure
        · exact ih hrest (fun x hx => hplayed x (by simp [hx])) hs₁ hnext

/-- A handler run while an event is processed is run by the execution of what the event calls, in a
settled order of commands that the registry offers. -/
theorem executed_of_moves {p : Pipeline} {e : Event} {before : Trace} {command : Command}
    {handler : Handler} {ctx : Context} {s : Session}
    (h : Asks (p.moves e) before (.handle command handler ctx s)) :
    ∃ found source invoked order tags t,
      p.reading e = some found ∧ found.1.chain.getLast? = some invoked ∧
      handlingOrder (·.command) found.1.chain = .ok order ∧ (∀ x ∈ t, x ∈ before) ∧
      let own : Context :=
        ⟨e, found.1.invocation, found.1.chain.map (·.command), source, p.policy⟩
      Puts (Pipeline.execute own order tags) own.opened t (.handle command handler ctx s) := by
  have hprocedure : Puts (p.procedure e) .fresh before (.handle command handler ctx s) := by
    rcases Program.asks_bind_iff.1 h with h | ⟨t₁, t₂, r, -, -, h⟩
    · exact h
    · exact absurd h Program.not_asks_done
  -- only what is matched and passes the guards is handled, and only handling runs handlers
  have hinner := puts_of_puts_bind (fun ending => (runsNoHandler_ofAct _).bind fun _ =>
    runsNoHandler_pure ending) hprocedure
  rw [Pipeline.processInner] at hinner
  have hmatch := p.matches_matching e
  cases hmatching : p.matching e with
  | violation v =>
    rw [hmatching] at hinner
    exact absurd hinner not_puts_pure
  | ignored reason =>
    rw [hmatching] at hinner
    exact absurd hinner (((runsNoHandler_ofAct _).bind fun _ => runsNoHandler_pure _) _ _ _ _ _ _)
  | matched found source =>
    rw [hmatching] at hinner hmatch
    cases hmatch with
    | @matched _ rest invoked hread hlast hleft =>
      simp only [hlast] at hinner
      obtain ⟨t', rfl, hguard⟩ := puts_record_bind hinner
      split at hguard
      · exact absurd hguard not_puts_pure
      · have hhandle := puts_of_puts_bind (fun ending => runsNoHandler_pure _) hguard
        obtain ⟨order, t₁, horder, rfl, hexecute⟩ := executed_of_handle hhandle
        exact ⟨(found, rest), _, invoked, order, _, t₁, hread, hlast, horder,
          fun x hx => List.mem_cons_of_mem _ (List.mem_cons_of_mem _ hx), hexecute⟩

/-- The registry offers only handlers that take back no argument. -/
def Pipeline.KeepsArguments (p : Pipeline) : Prop :=
  ∀ path style r handler, p.registry path style = some r → r.handler = some handler →
    handler.KeepsArguments

/-- Parameters that a command of a settled order requires are bound by the parsed arguments of the
invoked command. -/
theorem bound_of_handlingOrder {α : Type} {declaration : α → Command} {chain order : List α}
    {invoked : α} {good : Exchange Query Query.Answer → Prop} {place : Reference.Place}
    {raw : List (String × RawArgument)} {ends : List ParameterEnd}
    {arguments : List (String × Argument)}
    (horder : handlingOrder declaration chain = .ok order) (hlast : chain.getLast? = some invoked)
    (hends : List.Forall₂ (fun p e => Lookup.MayEnd good p (.ok e))
      (parameterLookups place (declaration invoked).parameters raw) ends)
    (hjoin : joinParameters (declaration invoked).parameters ends = .ok arguments)
    {a : α} (ha : a ∈ order) {q : Parameter} (hq : q ∈ (declaration a).parameters)
    (hrequired : q.required = true) : ∃ v, valueOf? q.name arguments = some v := by
  obtain ⟨-, hprovided⟩ := provided_of_handlingOrder horder hlast ha
  exact (hprovided q hq hrequired).bound (settled_of_joinParameters hends hjoin)

/-- Each parameter that a command of a settled order requires, be it the invoked one or an ancestor,
is bound once the arguments of the invoked command are assigned and parsed, from text or from a
slash interaction and whatever the lookups find. So every handler that is run while an event is
processed finds each required parameter of its own command among the arguments. -/
theorem required_parameters_bound :
    (∀ (chain order : List Command) (invoked : Command) (place : Reference.Place)
      (source : ArgumentSource) (raw : List (String × RawArgument)) (ends : List ParameterEnd)
      (arguments : List (String × Argument)),
      handlingOrder id chain = .ok order → chain.getLast? = some invoked →
      assign invoked.parameters source = .ok raw →
      List.Forall₂ (fun p e => Lookup.MayEnd (fun _ => True) p (.ok e))
        (parameterLookups place invoked.parameters raw) ends →
      joinParameters invoked.parameters ends = .ok arguments →
      ∀ c ∈ order, ∀ q ∈ c.parameters, q.required = true →
        ∃ v, valueOf? q.name arguments = some v) ∧
    ∀ (p : Pipeline) (e : Event) (before : Trace) (command : Command) (handler : Handler)
      (ctx : Context) (s : Session), p.KeepsArguments →
      Asks (p.moves e) before (.handle command handler ctx s) →
      (∀ x ∈ before, Move.IsHonest (fun _ => True) x ∧ Move.IsPlayed x) →
      ∀ q ∈ command.parameters, q.required = true → ∃ v, s.argument? q.name = some v := by
  constructor
  · intro chain order invoked place source raw ends arguments horder hlast _ hends hjoin c hc q hq
      hrequired
    exact bound_of_handlingOrder horder hlast hends hjoin hc hq hrequired
  · intro p e before command handler ctx s hkeeps hask hfair q hq hrequired
    obtain ⟨found, source, invoked, order, tags, t, hread, hlast, horder, hsub, hexecute⟩ :=
      executed_of_moves hask
    have hcommand : (found.1.chain.map (·.command)).getLast? = some invoked.command := by
      rw [List.getLast?_map, hlast, Option.map_some]
    obtain ⟨settingsFrom, hsource⟩ := settingsSource_of_getLast? hcommand
    obtain ⟨checks, accesses, raw, ends, arguments, earlier, rfl, -, -, -, hends, hjoin, hinvoke⟩ :=
      invoked_of_execute hcommand hsource (fun x hx => (hfair x (hsub x hx)).1) hexecute
    -- the handlers of the order are offered by the registry, so the arguments are still there
    have horderKeeps : ∀ r ∈ order, ∀ handler, r.handler = some handler →
        handler.KeepsArguments := by
      intro r hr handler' hhandler
      obtain ⟨hmem, -⟩ := provided_of_handlingOrder horder hlast hr
      obtain ⟨i, hi⟩ := List.mem_iff_getElem?.1 hmem
      obtain ⟨token, hoffered⟩ := Pipeline.offered_of_reading hread hi
      exact hkeeps _ _ r handler' hoffered hhandler
    have hloaded := Context.loaded_of_puts_invokeChain horderKeeps
      (fun x hx => (hfair x (hsub x (by simp [hx]))).2) rfl hinvoke
    obtain ⟨-, -, r, hr, rfl, -⟩ := Context.mem_of_puts_invokeChain hinvoke
    obtain ⟨v, hv⟩ := bound_of_handlingOrder horder hlast hends hjoin hr hq hrequired
    exact ⟨v, by rw [Session.argument?, hloaded]; exact hv⟩

/-- A command that requires a key, and says what it is run for. -/
def configCommand : Command :=
  { Command.ofPath "config" ⟨["config"]⟩ with
    parameters := [.ofRequired "key" (.string none none [] false)] }

/-- A command below it whose key may be left out. -/
def setCommand : Command :=
  { Command.ofPath "config.set" ⟨["config", "set"]⟩ with
    settings := { invokeParent := true }
    parameters :=
      [(Parameter.ofOptional "key" (.string none none [] false)).withDefault (.string "all"),
       .ofRequired "on" .boolean] }

/-- The handler of the upper command replies and lets the invocation proceed. -/
def announce : Handler := fun _ => do
  let _ ← Context.reply (.ofText "changing")
  return .proceed

/-- The handler of the lower command does nothing more. -/
def finish : Handler := fun _ => return .ok

/-- A pipeline with both commands. -/
def configPipeline : Pipeline :=
  ⟨(CommandTable.ofList [⟨configCommand, some announce, []⟩,
    ⟨setCommand, some finish, []⟩]).registry, .basic, {}, .empty, presentOutcome⟩

/-- The lower command is called without a key. -/
def setEvent : Event :=
  ⟨none, none, ⟨2⟩, ⟨⟨3⟩, "ada", false⟩, none, .slash ["config", "set"] [("on", .boolean true)] []⟩

theorem matching_set : configPipeline.matching setEvent =
    .matched ⟨[⟨configCommand, some announce, []⟩, ⟨setCommand, some finish, []⟩],
      ⟨["config", "set"]⟩⟩ (.slash [("on", .boolean true)] []) := by
  have hnext : (TokenStream.ofTokens ["config", "set"]).next? =
      some ("config", .ofTokens ["set"]) := rfl
  have hbelow : (TokenStream.ofTokens ["set"]).next? = some ("set", .empty) := rfl
  have hconfig : configPipeline.registry (Invocation.root.child "config") setEvent.style =
      some ⟨configCommand, some announce, []⟩ := rfl
  have hset : configPipeline.registry ((Invocation.root.child "config").child "set")
      setEvent.style = some ⟨setCommand, some finish, []⟩ := rfl
  have hrest : matchBelow configPipeline.registry setEvent.style (Invocation.root.child "config")
      (.ofTokens ["set"]) = (⟨[⟨setCommand, some finish, []⟩], ⟨["config", "set"]⟩⟩, .empty) := by
    rw [matchBelow_of_known hbelow hset, matchBelow_of_next?_none rfl]
    rfl
  have hname : configCommand.name = "config" := rfl
  have hchain : matchChain configPipeline.registry setEvent.style (.ofTokens ["config", "set"]) =
      (⟨[⟨configCommand, some announce, []⟩, ⟨setCommand, some finish, []⟩],
        ⟨["config", "set"]⟩⟩, .empty) := by
    rw [matchChain, matchBelow_of_known hnext hconfig]
    simp only [hname, hrest]
  have htokens : configPipeline.tokens? setEvent = some (.ofTokens ["config", "set"]) := rfl
  have hkept : (configPipeline.aliases.apply (.ofTokens ["config", "set"])).2 =
      .ofTokens ["config", "set"] := rfl
  rw [Pipeline.matching]
  simp only [htokens, hkept, hchain]
  rfl

/-- The labels of the records of the call. -/
def setTags : Tags := (Tags.ofEvent setEvent).withCommand "config.set"

/-- The context of the call. -/
def setContext : Context :=
  ⟨setEvent, ⟨["config", "set"]⟩, [configCommand, setCommand], .slash [("on", .boolean true)] [],
    .basic⟩

/-- The arguments of the call: the key is the default. -/
def setArguments : List (String × Argument) := [("key", .string "all"), ("on", .boolean true)]

/-- The session before any handler is run. -/
def setSession : Session := { setContext.opened with loading := .ready setArguments }

/-- The session that the upper handler leaves, with its reply. -/
def announcedSession : Session :=
  { setSession with replies := some ⟨⟨2⟩, ⟨3⟩, none, [⟨⟨2⟩, ⟨9⟩⟩]⟩ }

/-- What happens before the handlers are run. -/
def setHistory : Trace :=
  [recorded .parse (setTags.withOutcome "matched"),
   ⟨.request (.openAccess none ⟨2⟩ ⟨3⟩), ()⟩,
   recorded .validate (setTags.withOutcome "passed"),
   ⟨.request (.gather (parameterLookups setContext.place setCommand.parameters
      [("on", .slot (.boolean true))]) none),
    (.ok (some [.ok (some (.string "all")), .ok (some (.boolean true))]) :
      Except Failing (Option (List ParameterEnd)))⟩,
   recorded .load (setTags.withOutcome "loaded")]

/-- The run of the upper handler. -/
def announced : Exchange Move Move.Answer :=
  ⟨.handle configCommand announce setContext setSession,
    ((.ok .proceed, announcedSession) : Except Failing Outcome × Session)⟩

theorem keepsArguments_configPipeline : configPipeline.KeepsArguments := by
  intro path style r handler hr hhandler
  obtain ⟨hlast, -⟩ := (CommandTable.registry_ofList_iff _ path style r).1 hr
  obtain ⟨hmem, -⟩ := List.mem_filter.1 (List.mem_of_getLast? hlast)
  rcases List.mem_cons.1 hmem with rfl | hmem
  · obtain rfl : announce = handler := Option.some.inj hhandler
    intro ctx
    have hreply := ((Context.Call.reply (.ofText "changing")).keepsArguments ctx).of_map
    exact hreply.bind fun _ => Act.keepsArguments_pure _
  · obtain rfl := List.mem_singleton.1 hmem
    obtain rfl : finish = handler := Option.some.inj hhandler
    exact fun _ => Act.keepsArguments_pure _

/-- The upper handler finds the key that its command requires, by the default of the lower one; the
lower handler, run after it, still finds what its own command requires. -/
theorem config_and_set_find_arguments :
    (handlingOrder id [configCommand, setCommand] = .ok [configCommand, setCommand] ∧
      assign setCommand.parameters (.slash [("on", .boolean true)] []) =
        .ok [("on", .slot (.boolean true))] ∧
      ∃ v, valueOf? "key" setArguments = some v) ∧
    Asks (configPipeline.moves setEvent)
      (setHistory ++ [announced, recorded .handle
        (((setTags.withCommand "config").withOutcome "continue"))])
      (.handle setCommand finish setContext announcedSession) ∧
    ∃ v, announcedSession.argument? "on" = some v := by
  have horder : handlingOrder id [configCommand, setCommand] = .ok [configCommand, setCommand] :=
    rfl
  have hassign : assign setCommand.parameters (.slash [("on", .boolean true)] []) =
      .ok [("on", .slot (.boolean true))] := rfl
  have hends : List.Forall₂ (fun p e => Lookup.MayEnd (fun _ => True) p (.ok e))
      (parameterLookups setContext.place setCommand.parameters [("on", .slot (.boolean true))])
      [.ok (some (.string "all")), .ok (some (.boolean true))] :=
    .cons ⟨[], .done _, by simp⟩ (.cons ⟨[], .done _, by simp⟩ .nil)
  have hask : Asks (configPipeline.moves setEvent)
      (setHistory ++ [announced, recorded .handle
        (((setTags.withCommand "config").withOutcome "continue"))])
      (.handle setCommand finish setContext announcedSession) := by
    rw [Pipeline.moves, Pipeline.procedure, Pipeline.processInner, matching_set]
    exact .later (.later (.later (.later (.later (.later (.later (.now _ _)))))))
  have hplayed : Ends (announce setContext) setSession
      [⟨.send ⟨2⟩ ⟨3⟩ none (.ofText "changing"), (.ok ⟨⟨2⟩, ⟨9⟩⟩ : Except Cause SentReply)⟩]
      (.ok .proceed) announcedSession := .ask (.done _)
  have hfair : ∀ x ∈ setHistory ++ [announced, recorded .handle
      (((setTags.withCommand "config").withOutcome "continue"))],
      Move.IsHonest (fun _ => True) x ∧ Move.IsPlayed x := by
    simp only [setHistory, List.forall_mem_append, List.forall_mem_cons]
    exact ⟨⟨⟨trivial, trivial⟩, ⟨trivial, trivial⟩, ⟨trivial, trivial⟩, ⟨hends, trivial⟩,
      ⟨trivial, trivial⟩, by simp⟩, ⟨trivial, _, hplayed⟩, ⟨trivial, trivial⟩, by simp⟩
  exact ⟨⟨horder, hassign,
    required_parameters_bound.1 _ _ setCommand setContext.place _ _ _ _ horder
      rfl hassign hends rfl configCommand (by simp) (.ofRequired "key" (.string none none [] false))
      (by simp [configCommand]) rfl⟩,
    hask, required_parameters_bound.2 _ _ _ _ _ _ _ keepsArguments_configPipeline hask hfair
      (.ofRequired "on" .boolean) (by simp [setCommand]) rfl⟩

end ChatCommands
