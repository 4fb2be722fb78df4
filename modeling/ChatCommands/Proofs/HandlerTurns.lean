import ChatCommands.Pipeline.Handling
import ChatCommands.Proofs.InteractionRuns
import Mathlib.Data.List.Forall2

set_option autoImplicit false

/-!
# The turns of handlers

Invoking a chain is a sequence of turns (`Turn`): a handler is run from the session that the one
before it left, and a record of its outcome is made. `TakesTurns` says which sequences of turns an
order of handlers admits and what the invocation comes to: the turns stop behind the first one whose
outcome is not to proceed, and where all handlers proceed, the invocation is an error that names
what was not completely handled. `handlers_take_turns` says that these are the runs of a chain, and
that each of them ends with an outcome, whatever the handlers do.
-/

namespace ChatCommands

open Program (Exchange Runs)
open Interaction Procedure

/-! ## Turns -/

/-- A run of the handler of a command, and how it ended. -/
structure HandlerRun where
  command : Command
  handler : Handler
  ended : Except Failing Outcome

namespace HandlerRun

/-- What the run comes to, failures included. -/
def outcome (r : HandlerRun) : Outcome :=
  match r.ended with
  | .ok outcome => outcome
  | .error (.error cause) => .ofCause cause
  | .error (.breakdown b) => .ofCause (brokenHandling r.command.id b)

/-- The command and its handler. -/
def owner (r : HandlerRun) : Command × Handler := (r.command, r.handler)

/-- The identifier of the command and the label of what the run came to. -/
def label (r : HandlerRun) : String × String := (r.command.id, r.outcome.label)

end HandlerRun

/-- A run of a handler, between the session it starts from and the session it leaves. -/
structure Turn extends HandlerRun where
  before : Session
  after : Session

namespace Turn

variable (ctx : Context) (tags : Tags)

/-- The record of a turn has the command and the label of the outcome in its tags. -/
def tagged (turn : Turn) : Tags := (tags.withCommand turn.command.id).withOutcome turn.outcome.label

/-- The handler is run, and the record of it is made. -/
def exchanges (turn : Turn) : Trace :=
  [⟨.handle turn.command turn.handler ctx turn.before, (turn.ended, turn.after)⟩,
    recorded .handle (turn.tagged tags)]

/-- The requests of a turn are those of a run of the handler that ends as the turn says, and the
record. -/
def IsCarriedOut (turn : Turn) (t : List (Exchange Request Request.Answer)) : Prop :=
  ∃ own, t = own ++ [⟨.record .handle (turn.tagged tags), ()⟩] ∧
    Ends (turn.handler ctx) turn.before own turn.ended turn.after

end Turn

/-- The command and its handler, if it has one. -/
def Registration.owner? (r : Registration) : Option (Command × Handler) :=
  r.handler.map fun handler => (r.command, handler)

/-- Each turn starts from the session that the one before it left. -/
def Leads : Session → List Turn → Session → Prop
  | s, [], s' => s' = s
  | s, turn :: turns, s' => turn.before = s ∧ Leads turn.after turns s'

/-- The outcome of a chain whose handlers all let the invocation proceed. -/
def Context.incomplete (ctx : Context) : Outcome :=
  .ofCause (incompleteHandling ((ctx.chain.getLast?.map (·.id)).getD "") ctx.invocation.toText)

/-- The handlers take turns in their order, each at most once. Either the last turn is the first
that does not let the invocation proceed, and its outcome is that of the invocation; or all handlers
have had their turn and let it proceed. -/
structure TakesTurns (ctx : Context) (handlers : List (Command × Handler)) (s : Session)
    (turns : List Turn) (outcome : Outcome) (s' : Session) : Prop where
  leads : Leads s turns s'
  inOrder : turns.map (·.owner) <+: handlers
  ends : (∃ earlier last, turns = earlier ++ [last] ∧ (∀ turn ∈ earlier, turn.outcome = .proceed) ∧
      last.outcome ≠ .proceed ∧ outcome = last.outcome) ∨
    (turns.map (·.owner) = handlers ∧ (∀ turn ∈ turns, turn.outcome = .proceed) ∧
      outcome = ctx.incomplete)

section Courses

variable {ctx : Context} {handlers : List (Command × Handler)} {s s' : Session} {turns : List Turn}
  {outcome : Outcome}

theorem takesTurns_nil_iff :
    TakesTurns ctx [] s turns outcome s' ↔ turns = [] ∧ outcome = ctx.incomplete ∧ s' = s := by
  constructor
  · intro h
    obtain rfl : turns = [] := List.map_eq_nil_iff.1 (List.prefix_nil.1 h.inOrder)
    rcases h.ends with ⟨earlier, last, hturns, -⟩ | ⟨-, -, houtcome⟩
    · simp at hturns
    · exact ⟨rfl, houtcome, h.leads⟩
  · rintro ⟨rfl, rfl, rfl⟩
    exact ⟨rfl, List.nil_prefix, .inr ⟨rfl, by simp, rfl⟩⟩

/-- A turn that does not let the invocation proceed is the only one. -/
theorem TakesTurns.single {turn : Turn} (hends : turn.outcome ≠ .proceed) :
    TakesTurns ctx (turn.owner :: handlers) turn.before [turn] turn.outcome turn.after where
  leads := ⟨rfl, rfl⟩
  inOrder := ⟨handlers, rfl⟩
  ends := .inl ⟨[], turn, rfl, by simp, hends, rfl⟩

/-- A turn that lets the invocation proceed goes before the turns of the other handlers. -/
theorem TakesTurns.cons {turn : Turn} (hproceed : turn.outcome = .proceed)
    (h : TakesTurns ctx handlers turn.after turns outcome s') :
    TakesTurns ctx (turn.owner :: handlers) turn.before (turn :: turns) outcome s' where
  leads := ⟨rfl, h.leads⟩
  inOrder := by
    rw [List.map_cons, List.prefix_cons_inj]
    exact h.inOrder
  ends := by
    rcases h.ends with ⟨earlier, last, rfl, hearlier, hlast⟩ | ⟨hall, hturns, houtcome⟩
    · exact .inl ⟨turn :: earlier, last, rfl, List.forall_mem_cons.2 ⟨hproceed, hearlier⟩, hlast⟩
    · exact .inr ⟨by rw [List.map_cons, hall], List.forall_mem_cons.2 ⟨hproceed, hturns⟩, houtcome⟩

/-- The first handler has a turn, and the others have theirs if it lets the invocation proceed. -/
theorem takesTurns_cons_iff {handler : Command × Handler} :
    TakesTurns ctx (handler :: handlers) s turns outcome s' ↔
      ∃ turn rest, turns = turn :: rest ∧ turn.owner = handler ∧ turn.before = s ∧
        ((turn.outcome ≠ .proceed ∧ rest = [] ∧ outcome = turn.outcome ∧ s' = turn.after) ∨
          (turn.outcome = .proceed ∧ TakesTurns ctx handlers turn.after rest outcome s')) := by
  constructor
  · intro h
    cases turns with
    | nil => rcases h.ends with ⟨_, _, hturns, -⟩ | ⟨hturns, -⟩ <;> simp at hturns
    | cons turn rest =>
      obtain ⟨hbefore, hleads⟩ := h.leads
      obtain ⟨howner, horder⟩ := List.cons_prefix_cons.1 h.inOrder
      refine ⟨turn, rest, rfl, howner, hbefore, ?_⟩
      rcases h.ends with
        ⟨earlier, last, hturns, hearlier, hlast, houtcome⟩ | ⟨hall, hproceed, houtcome⟩
      · cases earlier with
        -- the first turn is the last one
        | nil =>
          obtain ⟨rfl, rfl⟩ := List.cons.inj hturns
          exact .inl ⟨hlast, rfl, houtcome, hleads⟩
        | cons first earlier =>
          obtain ⟨rfl, rfl⟩ := List.cons.inj hturns
          obtain ⟨hfirst, hothers⟩ := List.forall_mem_cons.1 hearlier
          exact .inr ⟨hfirst, hleads, horder, .inl ⟨earlier, last, rfl, hothers, hlast, houtcome⟩⟩
      · obtain ⟨hfirst, hothers⟩ := List.forall_mem_cons.1 hproceed
        exact .inr ⟨hfirst, hleads, horder, .inr ⟨(List.cons.inj hall).2, hothers, houtcome⟩⟩
  · rintro ⟨turn, rest, rfl, rfl, rfl, ⟨hends, rfl, rfl, rfl⟩ | ⟨hproceed, h⟩⟩
    · exact .single hends
    · exact h.cons hproceed

end Courses

/-! ## The runs of a chain -/

section Runs

variable {ctx : Context} {tags : Tags} {s s' : Session} {t : Trace}

theorem ends_runHandler_iff {command : Command} {handler : Handler} {r : Except Failing Outcome} :
    Ends (runHandler ctx command handler) s t r s' ↔
      ∃ ended, r = .ok (HandlerRun.mk command handler ended).outcome ∧
        t = [⟨.handle command handler ctx s, (ended, s')⟩] := by
  -- failures are given back as outcomes, so that the handler may end in any way
  have hrun : runHandler ctx command handler =
      do return HandlerRun.outcome ⟨command, handler, ← Procedure.handle command handler ctx⟩ := by
    rw [runHandler]
    refine bind_congr fun ended => ?_
    rcases ended with (cause | b) | outcome
    all_goals rfl
  rw [hrun, ends_map_iff]
  constructor
  · rintro ⟨r₀, h, rfl⟩
    obtain ⟨ended, rfl, rfl⟩ := ends_handle_iff.1 h
    exact ⟨ended, rfl, rfl⟩
  · rintro ⟨ended, rfl, rfl⟩
    exact ⟨.ok ended, ends_handle_iff.2 ⟨ended, rfl, rfl⟩, rfl⟩

/-- The run of a handler and its record are a turn, however the handler ends. -/
theorem ends_turn_iff {β : Type} {command : Command} {handler : Handler} {f : Outcome → Procedure β}
    {r : Except Failing β} :
    Ends (do
        let outcome ← runHandler ctx command handler
        Procedure.record .handle ((tags.withCommand command.id).withOutcome outcome.label)
        f outcome) s t r s' ↔
      ∃ (turn : Turn) (t' : Trace), turn.owner = (command, handler) ∧ turn.before = s ∧
        t = turn.exchanges ctx tags ++ t' ∧ Ends (f turn.outcome) turn.after t' r s' := by
  rw [ends_bind_iff]
  constructor
  · rintro (⟨outcome, s₁, t₁, t₂, rfl, h₁, h₂⟩ | ⟨failing, -, h⟩)
    · obtain ⟨ended, houtcome, rfl⟩ := ends_runHandler_iff.1 h₁
      obtain rfl := Except.ok.inj houtcome
      obtain ⟨t₃, rfl, h₃⟩ := ends_record_bind_iff.1 h₂
      exact ⟨⟨⟨command, handler, ended⟩, s, s₁⟩, t₃, rfl, rfl, rfl, h₃⟩
    · obtain ⟨ended, houtcome, -⟩ := ends_runHandler_iff.1 h
      cases houtcome
  · rintro ⟨⟨⟨command, handler, ended⟩, before, after⟩, t', howner, rfl, rfl, h⟩
    obtain ⟨rfl, rfl⟩ := Prod.mk.inj howner
    refine .inl ⟨_, after, [_], _, rfl, ends_runHandler_iff.2 ⟨ended, rfl, rfl⟩, ?_⟩
    exact ends_record_bind_iff.2 ⟨t', rfl, h⟩

theorem Outcome.eq_proceed_of_not_terminal {outcome : Outcome} (h : outcome.isTerminal ≠ true) :
    outcome = .proceed := by
  cases outcome with
  | proceed => rfl
  | _ => exact absurd rfl h

theorem Outcome.not_isTerminal_iff {outcome : Outcome} :
    outcome.isTerminal ≠ true ↔ outcome = .proceed := by
  refine ⟨Outcome.eq_proceed_of_not_terminal, ?_⟩
  rintro rfl
  decide

/-- The runs of a chain are the courses of turns that its handlers take. -/
theorem ends_invokeChain_iff {order : List Registration} {r : Except Failing Outcome} :
    Ends (ctx.invokeChain tags order) s t r s' ↔
      ∃ turns outcome, r = .ok outcome ∧ t = turns.flatMap (·.exchanges ctx tags) ∧
        TakesTurns ctx (order.filterMap (·.owner?)) s turns outcome s' := by
  induction order generalizing s t with
  | nil =>
    rw [Context.invokeChain, ends_pure_iff]
    constructor
    · rintro ⟨rfl, rfl, rfl⟩
      exact ⟨[], _, rfl, rfl, takesTurns_nil_iff.2 ⟨rfl, rfl, rfl⟩⟩
    · rintro ⟨turns, outcome, rfl, rfl, h⟩
      obtain ⟨rfl, rfl, rfl⟩ := takesTurns_nil_iff.1 h
      exact ⟨rfl, rfl, rfl⟩
  | cons registration order ih =>
    rw [Context.invokeChain]
    cases hhandler : registration.handler with
    -- a command without a handler has no turn
    | none =>
      have howner : registration.owner? = none := by rw [Registration.owner?, hhandler]; rfl
      rw [List.filterMap_cons_none howner]
      exact ih
    | some handler =>
      have howner : registration.owner? = some (registration.command, handler) := by
        rw [Registration.owner?, hhandler]
        rfl
      rw [List.filterMap_cons_some howner]
      refine ends_turn_iff.trans ?_
      constructor
      · rintro ⟨turn, t', hturn, rfl, rfl, h⟩
        split at h
        · rename_i hterminal
          obtain ⟨rfl, rfl, rfl⟩ := ends_pure_iff.1 h
          have hends : turn.outcome ≠ .proceed := by
            intro hproceed
            exact Outcome.not_isTerminal_iff.2 hproceed hterminal
          exact ⟨[turn], _, rfl, by simp, takesTurns_cons_iff.2
            ⟨turn, [], rfl, hturn, rfl, .inl ⟨hends, rfl, rfl, rfl⟩⟩⟩
        · rename_i hgoes
          obtain ⟨turns, outcome, rfl, rfl, hturns⟩ := ih.1 h
          exact ⟨turn :: turns, outcome, rfl, rfl, takesTurns_cons_iff.2
            ⟨turn, turns, rfl, hturn, rfl, .inr ⟨Outcome.not_isTerminal_iff.1 hgoes, hturns⟩⟩⟩
      · rintro ⟨turns, outcome, rfl, rfl, h⟩
        obtain ⟨turn, rest, rfl, hturn, rfl, hrest⟩ := takesTurns_cons_iff.1 h
        refine ⟨turn, rest.flatMap (·.exchanges ctx tags), hturn, rfl, rfl, ?_⟩
        rcases hrest with ⟨hends, rfl, rfl, rfl⟩ | ⟨hproceed, hrest⟩
        · rw [if_pos (not_not.1 (mt Outcome.not_isTerminal_iff.1 hends))]
          exact ends_pure_iff.2 ⟨rfl, rfl, rfl⟩
        · rw [if_neg (Outcome.not_isTerminal_iff.2 hproceed)]
          exact ih.2 ⟨rest, outcome, rfl, rfl, hrest⟩

end Runs

/-! ## Turns carried out -/

section CarriedOut

variable {ctx : Context} {tags : Tags} {s s' : Session}
  {t : List (Exchange Request Request.Answer)}

/-- The part of a move in the requests that carry out a procedure. -/
def Move.IsCarriedOut (x : Exchange Move Move.Answer)
    (part : List (Exchange Request Request.Answer)) : Prop :=
  Runs x.1.carryOut part x.2

theorem Move.isCarriedOut_recorded_iff {stage : Stage} {tags : Tags} :
    Move.IsCarriedOut (recorded stage tags) t ↔ t = [⟨.record stage tags, ()⟩] := by
  constructor
  · intro h
    obtain ⟨_, t', rfl, h'⟩ := Program.runs_ask_iff.1 h
    obtain ⟨rfl, -⟩ := Program.runs_done_iff.1 h'
    rfl
  · rintro rfl
    exact .ask (.done ())

/-- The moves of turns are carried out turn by turn. -/
theorem forall₂_exchanges_iff {turns : List Turn} :
    (∃ parts, t = parts.flatten ∧
        List.Forall₂ Move.IsCarriedOut (turns.flatMap (·.exchanges ctx tags)) parts) ↔
      ∃ parts, t = parts.flatten ∧ List.Forall₂ (·.IsCarriedOut ctx tags) turns parts := by
  induction turns generalizing t with
  | nil => simp
  | cons turn turns ih =>
    constructor
    -- the first two parts are those of the first turn
    · rintro ⟨parts, rfl, h⟩
      obtain ⟨own, _, hown, hothers, rfl⟩ := List.forall₂_cons_left_iff.1 h
      obtain ⟨record, rest, hrecord, hrest, rfl⟩ := List.forall₂_cons_left_iff.1 hothers
      obtain rfl := Move.isCarriedOut_recorded_iff.1 hrecord
      obtain ⟨parts, hflatten, hparts⟩ := ih.1 ⟨rest, rfl, hrest⟩
      refine ⟨_, ?_, .cons ⟨own, rfl, hown⟩ hparts⟩
      simp [hflatten]
    · rintro ⟨parts, rfl, h⟩
      obtain ⟨_, rest, ⟨own, rfl, hown⟩, hrest, rfl⟩ := List.forall₂_cons_left_iff.1 h
      obtain ⟨parts, hflatten, hparts⟩ := ih.2 ⟨rest, rfl, hrest⟩
      refine ⟨_, ?_, .cons hown (.cons (Move.isCarriedOut_recorded_iff.2 rfl) hparts)⟩
      simp [hflatten]

/-- The runs of a chain that is carried out are the turns that its handlers take, carried out. -/
theorem ends_act_invokeChain_iff {order : List Registration} {r : Except Failing Outcome} :
    Ends (ctx.invokeChain tags order).act s t r s' ↔
      ∃ turns outcome parts, r = .ok outcome ∧
        TakesTurns ctx (order.filterMap (·.owner?)) s turns outcome s' ∧ t = parts.flatten ∧
        List.Forall₂ (·.IsCarriedOut ctx tags) turns parts := by
  refine Program.runs_substitute_iff.trans ?_
  constructor
  · rintro ⟨t₀, parts, h, hflatten, hparts⟩
    obtain ⟨turns, outcome, rfl, rfl, hturns⟩ := ends_invokeChain_iff.1 h
    obtain ⟨parts, hflatten, hparts⟩ := forall₂_exchanges_iff.1 ⟨parts, hflatten, hparts⟩
    exact ⟨turns, outcome, parts, rfl, hturns, hflatten, hparts⟩
  · rintro ⟨turns, outcome, parts, rfl, hturns, hflatten, hparts⟩
    obtain ⟨parts, hflatten, hparts⟩ := forall₂_exchanges_iff.2 ⟨parts, hflatten, hparts⟩
    exact ⟨_, parts, ends_invokeChain_iff.2 ⟨turns, outcome, rfl, rfl, hturns⟩, hflatten, hparts⟩

end CarriedOut

/-- Invoking a chain, whatever its handlers do. Its runs are the turns of its handlers, in order, up
to the first whose outcome is not to proceed, where an error of a handler and a breakdown are
outcomes as well; the invocation comes to that outcome, or to an error that names the command and
the invocation where all handlers proceed. The same holds when the handlers are carried out, with
the requests of each of them as its turn. And whatever the answers to these requests are, the
invocation comes to an outcome. -/
theorem handlers_take_turns (ctx : Context) (tags : Tags) (order : List Registration)
    (s : Session) :
    (∀ t r s', Ends (ctx.invokeChain tags order) s t r s' ↔
      ∃ turns outcome, r = .ok outcome ∧ t = turns.flatMap (·.exchanges ctx tags) ∧
        TakesTurns ctx (order.filterMap (·.owner?)) s turns outcome s') ∧
    (∀ t r s', Ends (ctx.invokeChain tags order).act s t r s' ↔
      ∃ turns outcome parts, r = .ok outcome ∧
        TakesTurns ctx (order.filterMap (·.owner?)) s turns outcome s' ∧ t = parts.flatten ∧
        List.Forall₂ (·.IsCarriedOut ctx tags) turns parts) ∧
    ∀ (σ : Type) (answer : (q : Request) → σ → q.Answer × σ) (w : σ), ∃ outcome s',
      (((ctx.invokeChain tags order).act.runFrom s).runWith answer w).1 = (.ok outcome, s') := by
  refine ⟨fun t r s' => ends_invokeChain_iff, fun t r s' => ends_act_invokeChain_iff, ?_⟩
  intro σ answer w
  obtain ⟨t, h, -⟩ := Program.runs_runWith answer ((ctx.invokeChain tags order).act.runFrom s) w
  obtain ⟨turns, outcome, parts, houtcome, -⟩ := ends_act_invokeChain_iff.1 h
  exact ⟨outcome, _, Prod.ext houtcome rfl⟩

end ChatCommands
