import ChatCommands.Proofs.HandlerTurns
import ChatCommands.Proofs.ProcessEndings

set_option autoImplicit false

/-!
# The grammar of records

The records that the processing of an event leaves, apart from what its handlers do, have one of a
few forms (`Form.records`), and the form tells how the event was processed (`Form.Fits`): halted,
ignored before or after a command was found, or handled, with a body for how far the invocation got.
No two forms have the same records (`Form.records_injective`), so the records determine the form.
The main statement is `records_follow_grammar`.
-/

namespace ChatCommands

open Program (Exchange Runs)
open Interaction Procedure

/-! ## Records and runs of handlers in a trace -/

namespace Move

/-- The record that is made in an exchange. -/
def record? : Exchange Move Move.Answer → Option (Stage × Tags)
  | ⟨.request (.record stage tags), _⟩ => some (stage, tags)
  | _ => none

/-- The handler of a command that is run in an exchange. -/
def run? : Exchange Move Move.Answer → Option HandlerRun
  | ⟨.handle command handler _ _, answer⟩ => some ⟨command, handler, answer.1⟩
  | _ => none

end Move

/-- The records of a trace, in order. -/
def records (t : Trace) : List (Stage × Tags) := t.filterMap Move.record?

/-- The runs of handlers of commands in a trace, in order. -/
def handlerRuns (t : Trace) : List HandlerRun := t.filterMap Move.run?

@[simp] theorem records_append (t t' : Trace) : records (t ++ t') = records t ++ records t' :=
  List.filterMap_append

@[simp] theorem handlerRuns_append (t t' : Trace) :
    handlerRuns (t ++ t') = handlerRuns t ++ handlerRuns t' :=
  List.filterMap_append

@[simp] theorem records_nil : records [] = [] := rfl

@[simp] theorem handlerRuns_nil : handlerRuns [] = [] := rfl

@[simp] theorem records_recorded (stage : Stage) (tags : Tags) (t : Trace) :
    records (recorded stage tags :: t) = (stage, tags) :: records t := rfl

@[simp] theorem handlerRuns_recorded (stage : Stage) (tags : Tags) (t : Trace) :
    handlerRuns (recorded stage tags :: t) = handlerRuns t := rfl

/-! ## Silent stages -/

/-- No run of the act makes a record. -/
def Act.IsSilent {α : Type} (p : Act α) : Prop :=
  ∀ s t r s', Ends p s t r s' → ∀ x ∈ t, ∀ stage tags, x.1 ≠ .record stage tags

/-- No run of the procedure makes a record or runs the handler of a command. -/
def Procedure.IsSilent {α : Type} (p : Procedure α) : Prop :=
  ∀ s t r s', Ends p s t r s' → records t = [] ∧ handlerRuns t = []

namespace Act

variable {α β : Type}

theorem isSilent_pure (a : α) : IsSilent (pure a) := by
  intro s t r s' h
  obtain ⟨rfl, -, -⟩ := ends_pure_iff.1 h
  simp

/-- Acts one after the other are silent when each of them is. -/
theorem IsSilent.bind {p : Act α} {f : α → Act β} (hp : p.IsSilent) (hf : ∀ a, (f a).IsSilent) :
    (p >>= f).IsSilent := by
  intro s t r s' h x hx
  rcases ends_bind_iff.1 h with ⟨a, s₁, t₁, t₂, rfl, h₁, h₂⟩ | ⟨failing, -, h₁⟩
  · rcases List.mem_append.1 hx with hx | hx
    · exact hp _ _ _ _ h₁ x hx
    · exact hf a _ _ _ _ h₂ x hx
  · exact hp _ _ _ _ h₁ x hx

theorem isSilent_lookup (p : Lookup α) : IsSilent (lookup p) := by
  intro s t r s' h x hx
  obtain ⟨⟨t₀, rfl, -⟩, -⟩ := ends_lookup_iff.1 h
  obtain ⟨y, -, rfl⟩ := List.mem_map.1 hx
  simp [lookedUp]

theorem isSilent_fail (cause : Cause) : IsSilent (fail cause : Act α) := by
  intro s t r s' h
  obtain ⟨rfl, -, -⟩ := ends_fail_iff.1 h
  simp

theorem IsSilent.attempt {p : Act α} (hp : p.IsSilent) : p.attempt.IsSilent := by
  intro s t r s' h
  obtain ⟨r₀, h₀, -⟩ := ends_attempt_iff.1 h
  exact hp _ _ _ _ h₀

/-- The session is at hand without an exchange. -/
theorem isSilent_session_bind {f : Session → Act β} (hf : ∀ s, (f s).IsSilent) :
    IsSilent (session >>= f) := by
  intro s t r s' h
  exact hf s _ _ _ _ (ends_session_bind_iff.1 h)

end Act

namespace Context

variable (ctx : Context)

theorem isSilent_hasAccess (g : Group) : (ctx.hasAccess g).IsSilent := by
  refine Act.isSilent_session_bind fun s => ?_
  split
  · exact Act.isSilent_lookup _
  · exact Act.isSilent_fail _

theorem isSilent_firstRefusal (gs : List Group) : (ctx.firstRefusal gs).IsSilent := by
  induction gs with
  | nil => exact Act.isSilent_pure _
  | cons g gs ih =>
    refine (isSilent_hasAccess ctx g).bind fun granted => ?_
    split
    · exact ih
    · exact Act.isSilent_pure _

/-- Validation leaves no record of its own. -/
theorem isSilent_validate : ctx.validate.IsSilent := by
  rw [validate]
  split
  · exact Act.isSilent_pure _
  · rename_i source _
    have hfirst : (ctx.firstFailure source.settings).IsSilent := by
      refine (Act.isSilent_lookup _).bind fun denial => ?_
      split
      · exact Act.isSilent_pure _
      · exact isSilent_firstRefusal ctx _
    refine hfirst.attempt.bind fun r => ?_
    split
    · exact Act.isSilent_pure _
    · exact Act.isSilent_pure _

/-- A load looks up parameters, if anything. -/
theorem isSilent_load (limit : Option Nat) : (ctx.load limit).IsSilent := by
  intro s t r s' h
  have hparses : ∀ {t r}, ctx.Parses limit t r →
      ∀ x ∈ t, ∀ stage tags, x.1 ≠ .record stage tags := by
    intro t r hparsed
    cases hparsed with
    | no_command => simp
    | misassigned => simp
    | gathered => simp [gathered]
  cases ends_load_iff.1 h with
  | refused => simp
  | again => simp
  | finished _ _ hparsed => exact hparses hparsed
  | cancelled _ _ hparsed => exact hparses hparsed
  | broken _ _ hparsed => exact hparses hparsed

end Context

namespace Procedure

variable {α β : Type}

theorem isSilent_ofAct {p : Act α} (hp : p.IsSilent) : IsSilent (ofAct p) := by
  intro s t r s' h
  obtain ⟨t₀, rfl, h₀⟩ := ends_ofAct_iff.1 h
  have hsilent := hp _ _ _ _ h₀
  constructor
  · refine List.filterMap_eq_nil_iff.2 fun x hx => ?_
    obtain ⟨⟨q, a⟩, hy, rfl⟩ := List.mem_map.1 hx
    cases q with
    | record stage tags => exact absurd rfl (hsilent _ hy stage tags)
    | _ => rfl
  · refine List.filterMap_eq_nil_iff.2 fun x hx => ?_
    obtain ⟨y, -, rfl⟩ := List.mem_map.1 hx
    rfl

theorem isSilent_pure (a : α) : IsSilent (pure a) := by
  intro s t r s' h
  obtain ⟨rfl, -, -⟩ := ends_pure_iff.1 h
  exact ⟨rfl, rfl⟩

theorem IsSilent.bind {p : Procedure α} {f : α → Procedure β} (hp : p.IsSilent)
    (hf : ∀ a, (f a).IsSilent) : (p >>= f).IsSilent := by
  intro s t r s' h
  rcases ends_bind_iff.1 h with ⟨a, s₁, t₁, t₂, rfl, h₁, h₂⟩ | ⟨failing, -, h₁⟩
  · obtain ⟨hrecords₁, hruns₁⟩ := hp _ _ _ _ h₁
    obtain ⟨hrecords₂, hruns₂⟩ := hf a _ _ _ _ h₂
    simp [hrecords₁, hrecords₂, hruns₁, hruns₂]
  · exact hp _ _ _ _ h₁

/-- What follows a silent procedure tells everything. -/
theorem IsSilent.rest_of_bind {p : Procedure α} (hp : p.IsSilent) {f : α → Procedure β}
    {s s' : Session} {t : Trace} {b : β} (h : Ends (p >>= f) s t (.ok b) s') :
    ∃ a s₁ t', Ends (f a) s₁ t' (.ok b) s' ∧ records t = records t' ∧
      handlerRuns t = handlerRuns t' := by
  obtain ⟨a, s₁, t₁, t₂, rfl, h₁, h₂⟩ := (ends_bind_iff.1 h).resolve_right (by simp)
  obtain ⟨hrecords, hruns⟩ := hp _ _ _ _ h₁
  exact ⟨a, s₁, t₂, h₂, by simp [hrecords], by simp [hruns]⟩

theorem isSilent_claims (ctx : Context) (outcome : Outcome) (handler : OutcomeHandler) :
    (claims ctx outcome handler).IsSilent := by
  have hpresent : (present handler ctx outcome).IsSilent := by
    intro s t r s' h
    obtain ⟨e, -, rfl⟩ := ends_present_iff.1 h
    exact ⟨rfl, rfl⟩
  refine hpresent.bind fun r => ?_
  cases r with
  | ok claimed => exact isSilent_pure _
  | error f => exact isSilent_pure _

/-- Handlers of outcomes may do what they like; dispatch itself makes no record. -/
theorem isSilent_dispatch (ctx : Context) (handlers : List OutcomeHandler)
    (fallback : OutcomeHandler) (outcome : Outcome) :
    (dispatch ctx handlers fallback outcome).IsSilent := by
  have hfirst : ∀ index, (firstClaim ctx outcome index handlers).IsSilent := by
    induction handlers with
    | nil => exact fun _ => isSilent_pure _
    | cons handler handlers ih =>
      intro index
      refine (isSilent_claims ctx outcome handler).bind fun claimed => ?_
      split
      · exact isSilent_pure _
      · exact ih (index + 1)
  refine (hfirst 0).bind fun index => ?_
  split
  · exact isSilent_pure _
  · refine (isSilent_claims ctx outcome fallback).bind fun claimed => ?_
    split
    · exact isSilent_pure _
    · exact isSilent_pure _

end Procedure

/-! ## Handlers -/

/-- The handlers of the order have been run in turn, up to one that ended the invocation; or all of
them let it proceed, which is an error. -/
structure HandledBy (order : List Registration) (runs : List HandlerRun) (outcome : Outcome) :
    Prop where
  inTurn : runs.map (·.owner) <+: order.filterMap (·.owner?)
  ends : (∃ earlier last, runs = earlier ++ [last] ∧ (∀ r ∈ earlier, r.outcome = .proceed) ∧
      last.outcome = outcome ∧ outcome.isTerminal = true) ∨
    (runs.map (·.owner) = order.filterMap (·.owner?) ∧ (∀ r ∈ runs, r.outcome = .proceed) ∧
      outcome.label = "error")

/-- Turns tell how the order was handled. -/
theorem TakesTurns.handledBy {ctx : Context} {order : List Registration} {s s' : Session}
    {turns : List Turn} {outcome : Outcome}
    (h : TakesTurns ctx (order.filterMap (·.owner?)) s turns outcome s') :
    HandledBy order (turns.map (·.toHandlerRun)) outcome where
  inTurn := by
    rw [List.map_map]
    exact h.inOrder
  ends := by
    rcases h.ends with ⟨earlier, last, rfl, hearlier, hlast, rfl⟩ | ⟨hall, hturns, rfl⟩
    · refine .inl ⟨earlier.map (·.toHandlerRun), last.toHandlerRun, by simp,
        List.forall_mem_map.2 hearlier, rfl, ?_⟩
      by_contra hgoes
      exact hlast (Outcome.not_isTerminal_iff.1 hgoes)
    · refine .inr ⟨?_, List.forall_mem_map.2 hturns, rfl⟩
      rw [List.map_map]
      exact hall

/-- The turns of handlers show as their runs, in order. -/
theorem handlerRuns_turns (ctx : Context) (tags : Tags) (turns : List Turn) :
    handlerRuns (turns.flatMap (·.exchanges ctx tags)) = turns.map (·.toHandlerRun) := by
  induction turns with
  | nil => rfl
  | cons turn turns ih =>
    rw [List.flatMap_cons, handlerRuns_append, ih]
    rfl

/-- Each turn of a handler leaves one record, tagged with its command and its outcome. -/
theorem records_turns (ctx : Context) (tags : Tags) (turns : List Turn) :
    records (turns.flatMap (·.exchanges ctx tags)) =
      turns.map fun turn => (.handle, turn.tagged tags) := by
  induction turns with
  | nil => rfl
  | cons turn turns ih =>
    rw [List.flatMap_cons, records_append, ih]
    rfl

/-- One record for each run of a handler, in the order of the runs. -/
theorem handledBy_of_invokeChain {ctx : Context} {tags : Tags} {order : List Registration}
    {s s' : Session} {t : Trace} {outcome : Outcome}
    (h : Ends (ctx.invokeChain tags order) s t (.ok outcome) s') :
    HandledBy order (handlerRuns t) outcome ∧
      records t = (handlerRuns t).map fun r =>
        (.handle, (tags.withCommand r.command.id).withOutcome r.outcome.label) := by
  obtain ⟨turns, _, houtcome, rfl, hturns⟩ := ends_invokeChain_iff.1 h
  obtain rfl := Except.ok.inj houtcome
  rw [handlerRuns_turns, records_turns]
  refine ⟨hturns.handledBy, ?_⟩
  rw [List.map_map]
  rfl

/-! ## Forms -/

/-- How far the execution of an invocation got. -/
inductive Body where
  /-- The chain of commands is misconfigured. -/
  | misconfigured
  | denied
  | unloaded
  /-- Handlers have been run: whose, and the label of what each run came to. -/
  | invoked (handles : List (String × String))
  deriving DecidableEq

/-- The forms of what is recorded of an event. -/
inductive Form where
  /-- Input was left and the pipeline stops for that. -/
  | halted
  /-- The event calls no command, or input was left. -/
  | ignored
  /-- The command must not be called. -/
  | guarded (command : String)
  | handled (command : String) (body : Body) (label : String)
  deriving DecidableEq

/-- What is recorded of the execution, up to the record of its end. -/
def Body.records (tags : Tags) (label : String) : Body → List (Stage × Tags)
  | .misconfigured => []
  | .denied => [(.validate, tags.withOutcome label)]
  | .unloaded => [(.validate, tags.withOutcome "passed"), (.load, tags.withOutcome label)]
  | .invoked handles =>
    [(.validate, tags.withOutcome "passed"), (.load, tags.withOutcome "loaded")] ++
      handles.map (fun h => (.handle, (tags.withCommand h.1).withOutcome h.2)) ++
      [(.invoke, tags.withOutcome label)]

/-- What is recorded of an event with these labels. -/
def Form.records (tags : Tags) : Form → List (Stage × Tags)
  | .halted => [(.event, tags.withOutcome "fatal")]
  | .ignored => [(.parse, tags.withOutcome "ignored"), (.event, tags.withOutcome "ignored")]
  | .guarded command =>
    [(.parse, (tags.withCommand command).withOutcome "matched"),
      (.event, tags.withOutcome "ignored")]
  | .handled command body label =>
    (.parse, (tags.withCommand command).withOutcome "matched") ::
      (body.records (tags.withCommand command) label ++
        [(.execute, (tags.withCommand command).withOutcome label),
         (.result, (tags.withCommand command).withOutcome label),
         (.event, tags.withOutcome label)])

theorem Tags.withOutcome_inj {tags tags' : Tags} {outcome outcome' : String}
    (h : tags.withOutcome outcome = tags'.withOutcome outcome') : outcome = outcome' := by
  simpa [Tags.withOutcome] using congrArg Tags.outcome h

theorem Tags.command_of_withOutcome {tags tags' : Tags} {command command' outcome outcome' : String}
    (h : (tags.withCommand command).withOutcome outcome =
      (tags'.withCommand command').withOutcome outcome') : command = command' := by
  simpa [Tags.withOutcome, Tags.withCommand] using congrArg Tags.command h

/-- The records of what is done tell what was done. -/
theorem Body.records_injective (tags : Tags) (label : String) :
    Function.Injective (Body.records tags label) := by
  intro b b' h
  -- handlers are run after a load, so their bodies have a record more than one that was not loaded
  cases b with
  | misconfigured => cases b' <;> simp [records] at h ⊢
  | denied => cases b' <;> simp [records] at h ⊢
  | unloaded =>
    cases b' with
    | unloaded => rfl
    | invoked handles =>
      have hlength := congrArg List.length h
      simp [records] at hlength
    | _ => simp [records] at h
  | invoked handles =>
    cases b' with
    | unloaded =>
      have hlength := congrArg List.length h
      simp [records] at hlength
    | invoked handles' =>
      -- a record of a handler tells its command and its label
      have hpair : Function.Injective fun h : String × String =>
          ((.handle, (tags.withCommand h.1).withOutcome h.2) : Stage × Tags) := by
        rintro ⟨c, l⟩ ⟨c', l'⟩ hpair
        have htags := (Prod.mk.inj hpair).2
        exact Prod.ext (Tags.command_of_withOutcome htags) (Tags.withOutcome_inj htags)
      have hmaps := List.append_cancel_left (List.append_cancel_right h)
      rw [hpair.list_map hmaps]
    | _ => simp [records] at h

/-- The records determine the form. -/
theorem Form.records_injective (tags : Tags) : Function.Injective (Form.records tags) := by
  intro f f' h
  -- forms of two records differ in the label of the first one, all others in their number
  cases f with
  | halted =>
    cases f' with
    | halted => rfl
    | _ => simp [records] at h
  | ignored =>
    cases f' with
    | ignored => rfl
    | guarded command =>
      have htags := (Prod.mk.inj (List.cons.inj h).1).2
      have hlabel := Tags.withOutcome_inj htags
      simp at hlabel
    | handled command body label =>
      have hlength := congrArg List.length h
      simp [records] at hlength
    | halted => simp [records] at h
  | guarded command =>
    cases f' with
    | ignored =>
      have htags := (Prod.mk.inj (List.cons.inj h).1).2
      have hlabel := Tags.withOutcome_inj htags
      simp at hlabel
    | guarded command' =>
      rw [Tags.command_of_withOutcome (Prod.mk.inj (List.cons.inj h).1).2]
    | handled command body label =>
      have hlength := congrArg List.length h
      simp [records] at hlength
    | halted => simp [records] at h
  | handled command body label =>
    cases f' with
    | handled command' body' label' =>
      obtain ⟨hparse, hrest⟩ := List.cons.inj h
      obtain rfl := Tags.command_of_withOutcome (Prod.mk.inj hparse).2
      -- the three records at the end tell the label
      obtain ⟨hbody, hend⟩ := List.append_inj' hrest rfl
      obtain rfl := Tags.withOutcome_inj (Prod.mk.inj (List.cons.inj hend).1).2
      rw [Body.records_injective _ _ hbody]
    | _ =>
      have hlength := congrArg List.length h
      simp [records] at hlength

/-- The body tells how far the execution of a chain got. -/
inductive Body.Fits (chain : List Registration) : Body → List HandlerRun → Outcome → Prop
  | misconfigured {err : ChainError} (horder : handlingOrder (·.command) chain = .error err) :
      Fits chain .misconfigured [] (.ofCause (.ofText err.message))
  | denied {order : List Registration} {outcome : Outcome}
      (horder : handlingOrder (·.command) chain = .ok order) : Fits chain .denied [] outcome
  | unloaded {order : List Registration} {outcome : Outcome}
      (horder : handlingOrder (·.command) chain = .ok order) : Fits chain .unloaded [] outcome
  | invoked {order : List Registration} {runs : List HandlerRun} {outcome : Outcome}
      (horder : handlingOrder (·.command) chain = .ok order)
      (hhandled : HandledBy order runs outcome) :
      Fits chain (.invoked (runs.map (·.label))) runs outcome

/-- The form tells how an event was processed: the runs of handlers and the end. -/
inductive Form.Fits (p : Pipeline) (e : Event) :
    Form → List HandlerRun → Except MatchViolation Ending → Prop
  | halted {v : MatchViolation} (hmatching : p.matching e = .violation v)
      (hpolicy : p.settings.onMatchViolation = .haltPipeline) : Fits p e .halted [] (.error v)
  | ignored {reason : IgnoreReason} (hmatching : p.matching e = .ignored reason) :
      Fits p e .ignored [] (.ok (.ignored reason))
  | guarded {found : ChainMatch} {source : ArgumentSource} {invoked : Registration}
      {reason : IgnoreReason} (hmatching : p.matching e = .matched found source)
      (hlast : found.chain.getLast? = some invoked)
      (hguard : Pipeline.guard? e (found.chain.map (·.command)) invoked.command = some reason) :
      Fits p e (.guarded invoked.command.id) [] (.ok (.ignored reason))
  | handled {found : ChainMatch} {source : ArgumentSource} {invoked : Registration} {body : Body}
      {runs : List HandlerRun} {outcome : Outcome} {dispatched : Dispatch}
      (hmatching : p.matching e = .matched found source)
      (hlast : found.chain.getLast? = some invoked)
      (hguard : Pipeline.guard? e (found.chain.map (·.command)) invoked.command = none)
      (hbody : body.Fits found.chain runs outcome) :
      Fits p e (.handled invoked.command.id body outcome.label) runs
        (.ok (.handled outcome dispatched))

namespace Pipeline

variable {p : Pipeline} {e : Event} {s s' : Session} {t : Trace}

/-- The execution of an order is denied, or it is not loaded, or its handlers are run. -/
theorem fits_of_execute {ctx : Context} {chain order : List Registration} {tags : Tags}
    {outcome : Outcome} (horder : handlingOrder (·.command) chain = .ok order)
    (h : Ends (execute ctx order tags) s t (.ok outcome) s') :
    ∃ body : Body, body.Fits chain (handlerRuns t) outcome ∧
      records t = body.records tags outcome.label := by
  rw [execute] at h
  obtain ⟨denied, s₁, t₁, h₁, hrecords, hruns⟩ :=
    (isSilent_ofAct (Context.isSilent_validate ctx)).rest_of_bind h
  obtain ⟨t₂, rfl, h₂⟩ := ends_record_bind_iff.1 h₁
  rw [hrecords, hruns]
  cases denied with
  | some refused =>
    obtain ⟨rfl, houtcome, -⟩ := ends_pure_iff.1 h₂
    obtain rfl := Except.ok.inj houtcome
    exact ⟨.denied, .denied horder, rfl⟩
  | none =>
    obtain ⟨loadEnd, s₂, t₃, h₃, hrecords', hruns'⟩ :=
      (isSilent_ofAct (Context.isSilent_load ctx none)).rest_of_bind h₂
    rw [records_recorded, handlerRuns_recorded, hrecords', hruns']
    -- a load that comes to nothing is recorded with the outcome that is given for it
    cases loadEnd with
    | loaded =>
      obtain ⟨t₄, rfl, h₄⟩ := ends_record_bind_iff.1 h₃
      obtain ⟨result, s₃, t₅, t₆, rfl, h₅, h₆⟩ := (ends_bind_iff.1 h₄).resolve_right (by simp)
      obtain ⟨hhandled, hhandles⟩ := handledBy_of_invokeChain h₅
      obtain ⟨t₇, rfl, h₇⟩ := ends_record_bind_iff.1 h₆
      obtain ⟨rfl, houtcome, -⟩ := ends_pure_iff.1 h₇
      obtain rfl := Except.ok.inj houtcome
      refine ⟨.invoked ((handlerRuns t₅).map (·.label)), ?_, ?_⟩
      · simpa using Body.Fits.invoked horder hhandled
      · simp [Body.records, hhandles, HandlerRun.label, Function.comp_def]
    | ended refused =>
      obtain ⟨t₄, rfl, h₄⟩ := ends_record_bind_iff.1 h₃
      obtain ⟨rfl, houtcome, -⟩ := ends_pure_iff.1 h₄
      obtain rfl := Except.ok.inj houtcome
      exact ⟨.unloaded, .unloaded horder, rfl⟩
    | notInitialized | givenUp =>
      obtain ⟨t₄, rfl, h₄⟩ := ends_record_bind_iff.1 h₃
      obtain ⟨rfl, houtcome, -⟩ := ends_pure_iff.1 h₄
      obtain rfl := Except.ok.inj houtcome
      exact ⟨.unloaded, .unloaded horder, rfl⟩

theorem fits_of_conclude {ctx : Context} {chain : List Registration} {tags : Tags}
    {outcome : Outcome} (h : Ends (conclude ctx chain tags) s t (.ok outcome) s') :
    ∃ body : Body, body.Fits chain (handlerRuns t) outcome ∧
      records t = body.records tags outcome.label := by
  rw [conclude] at h
  split at h
  · rename_i order horder
    exact fits_of_execute horder h
  · rename_i err horder
    obtain ⟨rfl, houtcome, -⟩ := ends_pure_iff.1 h
    obtain rfl := Except.ok.inj houtcome
    exact ⟨.misconfigured, .misconfigured horder, rfl⟩

theorem fits_of_handle {ctx : Context} {chain : List Registration} {invoked : Registration}
    {tags : Tags}
    {ending : Ending} (h : Ends (p.handle ctx chain invoked tags) .fresh t (.ok ending) s') :
    ∃ (body : Body) (outcome : Outcome) (dispatched : Dispatch),
      ending = .handled outcome dispatched ∧
      body.Fits chain (handlerRuns t) outcome ∧
      records t = body.records tags outcome.label ++
        [(.execute, tags.withOutcome outcome.label),
          (.result, tags.withOutcome outcome.label)] := by
  rw [handle] at h
  obtain ⟨_, s₁, t₁, t₂, rfl, h₁, h₂⟩ := (ends_bind_iff.1 h).resolve_right (by simp)
  -- opening asks for access, once
  obtain ⟨t₀, rfl, h₀⟩ := ends_ofAct_iff.1 h₁
  obtain ⟨-, -, rfl⟩ := Context.ends_begin h₀
  obtain ⟨outcome, s₂, t₃, t₄, rfl, h₃, h₄⟩ := (ends_bind_iff.1 h₂).resolve_right (by simp)
  obtain ⟨body, hfits, hrecords⟩ := fits_of_conclude h₃
  obtain ⟨t₅, rfl, h₅⟩ := ends_record_bind_iff.1 h₄
  obtain ⟨dispatched, s₃, t₆, h₆, hrecords', hruns'⟩ :=
    (isSilent_dispatch ctx invoked.outcomeHandlers p.fallback outcome).rest_of_bind h₅
  obtain ⟨t₇, rfl, h₇⟩ := ends_record_bind_iff.1 h₆
  obtain ⟨rfl, hending, -⟩ := ends_pure_iff.1 h₇
  have hopened : ∀ u : Trace, records (List.map requested [⟨.openAccess ctx.event.guild
        ctx.event.channel ctx.event.caller.id, ()⟩] ++ u) = records u ∧
      handlerRuns (List.map requested [⟨.openAccess ctx.event.guild ctx.event.channel
        ctx.event.caller.id, ()⟩] ++ u) = handlerRuns u := fun u => ⟨rfl, rfl⟩
  refine ⟨body, outcome, dispatched, Except.ok.inj hending, ?_, ?_⟩
  · rw [(hopened _).2, handlerRuns_append, handlerRuns_recorded, hruns']
    simpa using hfits
  · rw [(hopened _).1, records_append, records_recorded, hrecords', hrecords]
    simp

/-- What is recorded up to the end of the processing, before the record of that end. -/
theorem fits_of_processInner {ending : Except MatchViolation Ending}
    (h : Ends (p.processInner e (.ofEvent e)) .fresh t (.ok ending) s') :
    ∃ form : Form, form.Fits p e (handlerRuns t) ending ∧
      form.records (.ofEvent e) =
        records t ++ [(.event, (Tags.ofEvent e).withOutcome (endLabel ending))]
    := by
  rw [processInner] at h
  have hmatch := p.matches_matching e
  cases hmatching : p.matching e with
  | violation v =>
    rw [hmatching] at h hmatch
    obtain ⟨rfl, hending, -⟩ := ends_pure_iff.1 h
    obtain rfl := Except.ok.inj hending
    cases hmatch with
    | halted _ _ _ hpolicy => exact ⟨.halted, .halted hmatching hpolicy, rfl⟩
  | ignored reason =>
    rw [hmatching] at h
    obtain ⟨t', rfl, hpure⟩ := ends_record_bind_iff.1 h
    obtain ⟨rfl, hending, -⟩ := ends_pure_iff.1 hpure
    obtain rfl := Except.ok.inj hending
    exact ⟨.ignored, .ignored hmatching, rfl⟩
  | matched found source =>
    rw [hmatching] at h hmatch
    cases hmatch with
    | @matched _ rest invoked hread hlast hleft =>
    simp only [hlast] at h
    obtain ⟨t', rfl, hguarded⟩ := ends_record_bind_iff.1 h
    split at hguarded
    · rename_i reason hguard
      obtain ⟨rfl, hending, -⟩ := ends_pure_iff.1 hguarded
      obtain rfl := Except.ok.inj hending
      exact ⟨.guarded invoked.command.id, .guarded hmatching hlast hguard, rfl⟩
    · rename_i hguard
      obtain ⟨handled, s₁, t₁, t₂, rfl, h₁, h₂⟩ :=
        (ends_bind_iff.1 hguarded).resolve_right (by simp)
      obtain ⟨rfl, hending, -⟩ := ends_pure_iff.1 h₂
      obtain rfl := Except.ok.inj hending
      obtain ⟨body, outcome, dispatched, rfl, hbody, hrecords⟩ := fits_of_handle h₁
      rw [List.append_nil]
      refine ⟨.handled invoked.command.id body outcome.label,
        .handled hmatching hlast hguard hbody, ?_⟩
      simp [Form.records, hrecords, endLabel]

/-- The records of the run of a processing are those of exactly one form, which fits the run. -/
structure RecordsAs (p : Pipeline) (e : Event) (t : Trace) (ending : Except MatchViolation Ending) :
    Prop where
  unique : ∃! form : Form, records t = form.records (.ofEvent e)
  fits : ∀ form : Form, records t = form.records (.ofEvent e) → form.Fits p e (handlerRuns t) ending

/-- Whichever way an event is processed, its records are those of one form. -/
theorem recordsAs_of_runs {ending : Except MatchViolation Ending}
    (h : Runs (p.moves e) t (.ok ending)) : p.RecordsAs e t ending := by
  obtain ⟨t₁, t₂, ⟨r, s'⟩, rfl, h₁, h₂⟩ := Program.runs_bind_iff.1 h
  obtain ⟨rfl, hr⟩ := Program.runs_done_iff.1 h₂
  obtain rfl : r = .ok ending := hr.symm
  rw [List.append_nil]
  obtain ⟨inner, s₁, u₁, u₂, rfl, h₃, h₄⟩ := (ends_bind_iff.1 h₁).resolve_right (by simp)
  obtain ⟨u, rfl, h₅⟩ := ends_record_bind_iff.1 h₄
  obtain ⟨rfl, hending, -⟩ := ends_pure_iff.1 h₅
  obtain rfl := Except.ok.inj hending
  obtain ⟨form, hfits, hform⟩ := fits_of_processInner h₃
  have hrecords :
      records (u₁ ++ [recorded .event ((Tags.ofEvent e).withOutcome (endLabel ending))]) =
        form.records (.ofEvent e) := by
    rw [records_append, hform]
    rfl
  have hruns :
      handlerRuns (u₁ ++ [recorded .event ((Tags.ofEvent e).withOutcome (endLabel ending))]) =
        handlerRuns u₁ := by
    rw [handlerRuns_append, handlerRuns_recorded, handlerRuns_nil, List.append_nil]
  have honly : ∀ form' : Form, form.records (.ofEvent e) = form'.records (.ofEvent e) →
      form' = form :=
    fun _ h => (Form.records_injective _ h).symm
  constructor
  · exact ⟨form, hrecords, fun form' h => honly form' (hrecords.symm.trans h)⟩
  · intro form' h
    obtain rfl := honly form' (hrecords.symm.trans h)
    rw [hruns]
    exact hfits

end Pipeline

/-- What is told to a caller who does not own the guild. -/
def strangerOutcome : Outcome := .failure (.settingDenied serverOwnerDenied)

/-- The whole run of the call by a caller who does not own the guild. -/
def strangerRun : Trace :=
  [recorded .parse (lockTags.withOutcome "matched"),
   ⟨.request (.openAccess (some ⟨1⟩) ⟨2⟩ ⟨3⟩), ()⟩,
   asked ⟨.guild ⟨1⟩, (.ok (some ⟨⟨1⟩, "home", ⟨4⟩⟩) : Except Failing (Option Guild))⟩,
   recorded .validate (lockTags.withOutcome "failure"),
   recorded .execute (lockTags.withOutcome "failure"),
   ⟨.present presentOutcome lockContext strangerOutcome lockContext.opened,
    ((.ok true, lockContext.opened) : Except Failing Bool × Session)⟩,
   recorded .result (lockTags.withOutcome "failure"),
   recorded .event ((Tags.ofEvent lockEvent).withOutcome "failure")]

end ChatCommands
