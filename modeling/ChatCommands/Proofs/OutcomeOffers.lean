import ChatCommands.Pipeline.Dispatch
import ChatCommands.Proofs.SessionLifecycle
import Mathlib.Data.List.Forall2

set_option autoImplicit false

/-!
# Offers of outcomes

Dispatching an outcome is a sequence of offers (`Offer`): the outcome is presented to a handler,
from the session that the offer before it left. `Offered` says which sequences of offers an order of
handlers admits: they stop behind the first one that is claimed, and where none is claimed, all
handlers have had theirs. Who claimed the outcome is read off the offers (`Offer.dispatched`). For
the usual fallback, `ReplyChain.presenting?` is the one request by which an outcome is presented.
That dispatch is such a sequence, whatever the handlers do, is `outcomes_are_offered_in_order`.
-/

namespace ChatCommands

open Program (Exchange Runs)
open Interaction Procedure

/-! ## Offers -/

/-- An outcome presented to a handler, between the session it starts from and the
session it leaves. -/
structure Offer where
  handler : OutcomeHandler
  ended : Except Failing Bool
  before : Session
  after : Session

namespace Offer

/-- The handler claims the outcome. One that fails or breaks off declines it. -/
def isClaimed (o : Offer) : Bool :=
  match o.ended with
  | .ok claimed => claimed
  | .error _ => false

/-- The outcome is presented. -/
def exchange (ctx : Context) (outcome : Outcome) (o : Offer) : Exchange Move Move.Answer :=
  ⟨.present o.handler ctx outcome o.before, (o.ended, o.after)⟩

/-- The requests are those of a run of the handler that ends as the offer says. -/
def IsCarriedOut (ctx : Context) (outcome : Outcome) (o : Offer)
    (t : List (Exchange Request Request.Answer)) : Prop :=
  Ends (o.handler ctx outcome) o.before t o.ended o.after

/-- Who claimed the outcome, when it was offered to so many handlers of the command before the
fallback. -/
def dispatched (handlers : Nat) (offers : List Offer) : Dispatch :=
  match offers.findIdx? (·.isClaimed) with
  | some i => if i < handlers then .command i else .fallback
  | none => .unhandled

/-- The offer at an index is claimed, and none before it. -/
def IsFirstClaim (offers : List Offer) (i : Nat) : Prop :=
  ∃ o, offers[i]? = some o ∧ o.isClaimed = true ∧
    ∀ j o', j < i → offers[j]? = some o' → o'.isClaimed = false

end Offer

/-- The outcome is offered to handlers in their order, from one session to another, until
one of them claims it. -/
inductive Offered : List OutcomeHandler → Session → List Offer → Session → Prop where
  | nobody (s : Session) : Offered [] s [] s
  | claimed {o : Offer} {handlers : List OutcomeHandler} (claim : o.isClaimed = true) :
      Offered (o.handler :: handlers) o.before [o] o.after
  | declined {o : Offer} {handlers : List OutcomeHandler} {offers : List Offer} {s' : Session}
      (decline : o.isClaimed = false) (later : Offered handlers o.after offers s') :
      Offered (o.handler :: handlers) o.before (o :: offers) s'

section Offers

variable {handlers : List OutcomeHandler} {s s' : Session} {offers : List Offer} {n i : Nat}

theorem Offer.isFirstClaim_iff :
    IsFirstClaim offers i ↔ offers.findIdx? (·.isClaimed) = some i := by
  rw [List.findIdx?_eq_some_iff_getElem, IsFirstClaim]
  constructor
  · rintro ⟨o, ho, hclaim, hearlier⟩
    obtain ⟨hi, rfl⟩ := List.getElem?_eq_some_iff.1 ho
    refine ⟨hi, hclaim, fun j hj => ?_⟩
    rw [hearlier j _ hj (List.getElem?_eq_getElem (Nat.lt_trans hj hi))]
    exact Bool.false_ne_true
  · rintro ⟨hi, hclaim, hearlier⟩
    refine ⟨offers[i], List.getElem?_eq_getElem hi, hclaim, fun j o' hj ho' => ?_⟩
    obtain ⟨hj', rfl⟩ := List.getElem?_eq_some_iff.1 ho'
    exact Bool.eq_false_iff.2 (hearlier j hj)

/-- A handler of the command claims the outcome iff its offer is the first one claimed. -/
theorem Offer.dispatched_eq_command_iff :
    dispatched n offers = .command i ↔ i < n ∧ IsFirstClaim offers i := by
  rw [isFirstClaim_iff, dispatched]
  cases offers.findIdx? (·.isClaimed) with
  | none => simp
  | some j =>
    dsimp only
    split
    · constructor
      · intro h
        obtain rfl := Dispatch.command.inj h
        exact ⟨‹_›, rfl⟩
      · rintro ⟨-, h⟩
        rw [Option.some.inj h]
    · constructor
      · intro h
        cases h
      · rintro ⟨hi, h⟩
        obtain rfl := Option.some.inj h
        contradiction

/-- Nobody claims the outcome iff every offer is declined. -/
theorem Offer.dispatched_eq_unhandled_iff :
    dispatched n offers = .unhandled ↔ ∀ o ∈ offers, o.isClaimed = false := by
  rw [← List.findIdx?_eq_none_iff, dispatched]
  cases offers.findIdx? (·.isClaimed) with
  | none => simp
  | some i =>
    dsimp only
    split
    · simp
    · simp

namespace Offered

/-- The handlers have had their offers in order, each at most once. -/
theorem inOrder (h : Offered handlers s offers s') : offers.map (·.handler) <+: handlers := by
  induction h with
  | nobody s => exact List.prefix_rfl
  | claimed => exact ⟨_, rfl⟩
  | declined _ _ ih => exact List.cons_prefix_cons.2 ⟨rfl, ih⟩

/-- Nothing is offered after a claim. -/
theorem length_of_claim (h : Offered handlers s offers s') {o : Offer} (ho : offers[i]? = some o)
    (hclaim : o.isClaimed = true) : offers.length = i + 1 := by
  induction h generalizing i with
  | nobody s => cases ho
  | claimed =>
    cases i with
    | zero => rfl
    | succ i => cases ho
  | declined hdecline _ ih =>
    cases i with
    | zero =>
      obtain rfl := Option.some.inj ho
      cases hclaim.symm.trans hdecline
    | succ i => exact congrArg (· + 1) (ih ho)

/-- An outcome that nobody claims has been offered to all handlers. -/
theorem all_of_unclaimed (h : Offered handlers s offers s')
    (hnone : ∀ o ∈ offers, o.isClaimed = false) : offers.map (·.handler) = handlers := by
  induction h with
  | nobody s => rfl
  | claimed hclaim => cases hclaim.symm.trans (hnone _ List.mem_cons_self)
  | declined _ _ ih =>
    exact congrArg _ (ih fun o ho => hnone o (List.mem_cons_of_mem _ ho))

theorem length_of_unclaimed (h : Offered handlers s offers s')
    (hnone : ∀ o ∈ offers, o.isClaimed = false) : offers.length = handlers.length := by
  rw [← h.all_of_unclaimed hnone, List.length_map]

theorem length_le (h : Offered handlers s offers s') : offers.length ≤ handlers.length := by
  have hle := h.inOrder.length_le
  rwa [List.length_map] at hle

/-- An outcome that one of the handlers claims is not offered to a handler behind them. -/
theorem append (h : Offered handlers s offers s') (hclaim : ∃ o ∈ offers, o.isClaimed = true)
    (others : List OutcomeHandler) : Offered (handlers ++ others) s offers s' := by
  induction h with
  | nobody s =>
    obtain ⟨o, ho, -⟩ := hclaim
    cases ho
  | claimed claim => exact .claimed claim
  | declined decline _ ih =>
    obtain ⟨o, ho, hclaim⟩ := hclaim
    rcases List.mem_cons.1 ho with rfl | ho
    · cases hclaim.symm.trans decline
    · exact .declined decline (ih ⟨o, ho, hclaim⟩)

/-- An outcome that none of the handlers claims is offered to the handler behind them. -/
theorem concat {o : Offer} (h : Offered handlers s offers o.before)
    (hnone : ∀ x ∈ offers, x.isClaimed = false) :
    Offered (handlers ++ [o.handler]) s (offers ++ [o]) o.after := by
  generalize hbefore : o.before = s₁ at h
  induction h with
  | nobody s =>
    subst hbefore
    cases hclaimed : o.isClaimed with
    | true => exact .claimed hclaimed
    | false => exact .declined hclaimed (.nobody _)
  | claimed claim => cases claim.symm.trans (hnone _ List.mem_cons_self)
  | declined decline _ ih =>
    exact .declined decline (ih (fun x hx => hnone x (List.mem_cons_of_mem _ hx)) hbefore)

/-- The handler behind others has an offer of its own iff none of them claims the outcome. -/
theorem split {handler : OutcomeHandler} (h : Offered (handlers ++ [handler]) s offers s') :
    (Offered handlers s offers s' ∧ ∃ o ∈ offers, o.isClaimed = true) ∨
      ∃ earlier o, offers = earlier ++ [o] ∧ o.handler = handler ∧ o.after = s' ∧
        Offered handlers s earlier o.before ∧ ∀ x ∈ earlier, x.isClaimed = false := by
  induction handlers generalizing s offers with
  | nil =>
    cases h with
    | claimed => exact .inr ⟨[], _, rfl, rfl, rfl, .nobody _, by simp⟩
    | declined _ later =>
      cases later
      exact .inr ⟨[], _, rfl, rfl, rfl, .nobody _, by simp⟩
  | cons first handlers ih =>
    cases h with
    | claimed claim => exact .inl ⟨.claimed claim, _, List.mem_cons_self, claim⟩
    | declined decline later =>
      rcases ih later with ⟨hoffered, o, ho, hclaim⟩ | ⟨earlier, o, rfl, rfl, rfl, hearlier, hnone⟩
      · exact .inl ⟨.declined decline hoffered, o, List.mem_cons_of_mem _ ho, hclaim⟩
      · refine .inr ⟨_ :: earlier, o, rfl, rfl, rfl, .declined decline hearlier, ?_⟩
        exact List.forall_mem_cons.2 ⟨decline, hnone⟩

/-- The fallback claims the outcome iff its offer, behind those of all handlers, is the first one
claimed. -/
theorem dispatched_eq_fallback_iff {fallback : OutcomeHandler}
    (h : Offered (handlers ++ [fallback]) s offers s') :
    Offer.dispatched handlers.length offers = .fallback ↔
      Offer.IsFirstClaim offers handlers.length := by
  have hlength := h.length_le
  rw [List.length_append, List.length_singleton] at hlength
  rw [Offer.isFirstClaim_iff, Offer.dispatched]
  cases hfound : offers.findIdx? (·.isClaimed) with
  | none => simp
  | some i =>
    obtain ⟨hi, -⟩ := List.findIdx?_eq_some_iff_getElem.1 hfound
    simp only [Option.some.injEq]
    constructor
    · intro hfallback
      split at hfallback
      · cases hfallback
      · omega
    · rintro rfl
      rw [if_neg (Nat.lt_irrefl _)]

end Offered

end Offers

/-! ## The runs of dispatch -/

section Runs

variable {ctx : Context} {outcome : Outcome} {fallback : OutcomeHandler} {s s' : Session}
    {t : Trace}

theorem ends_claims_iff {handler : OutcomeHandler} {r : Except Failing Bool} :
    Ends (claims ctx outcome handler) s t r s' ↔
      ∃ o : Offer, o.handler = handler ∧ o.before = s ∧ o.after = s' ∧ r = .ok o.isClaimed ∧
        t = [o.exchange ctx outcome] := by
  -- failures are given back as a refusal, so that the handler may end in any way
  have hclaims : claims ctx outcome handler = do
      return Offer.isClaimed ⟨handler, ← Procedure.present handler ctx outcome, s, s'⟩ := by
    rw [claims]
    refine bind_congr fun ended => ?_
    cases ended with
    | error failing => rfl
    | ok claimed => rfl
  rw [hclaims, ends_map_iff]
  constructor
  · rintro ⟨r₀, h, rfl⟩
    obtain ⟨ended, rfl, rfl⟩ := ends_present_iff.1 h
    exact ⟨⟨handler, ended, s, s'⟩, rfl, rfl, rfl, rfl, rfl⟩
  · rintro ⟨⟨_, ended, _, _⟩, rfl, rfl, rfl, rfl, rfl⟩
    exact ⟨.ok ended, ends_present_iff.2 ⟨ended, rfl, rfl⟩, rfl⟩

/-- An offer that is followed by one course if it is claimed and by another if it is declined. -/
theorem ends_claims_bind_iff {β : Type} {handler : OutcomeHandler} {f : Bool → Procedure β}
    {r : Except Failing β} :
    Ends (claims ctx outcome handler >>= f) s t r s' ↔
      ∃ (o : Offer) (t' : Trace), o.handler = handler ∧ o.before = s ∧
        t = o.exchange ctx outcome :: t' ∧ Ends (f o.isClaimed) o.after t' r s' := by
  rw [ends_bind_iff]
  constructor
  · rintro (⟨claimed, s₁, t₁, t₂, rfl, h₁, h₂⟩ | ⟨failing, -, h⟩)
    · obtain ⟨o, hhandler, hbefore, rfl, hclaimed, rfl⟩ := ends_claims_iff.1 h₁
      obtain rfl := Except.ok.inj hclaimed
      exact ⟨o, t₂, hhandler, hbefore, rfl, h₂⟩
    · obtain ⟨o, -, -, -, hclaimed, -⟩ := ends_claims_iff.1 h
      cases hclaimed
  · rintro ⟨o, t', hhandler, hbefore, rfl, h⟩
    exact .inl ⟨_, o.after, [_], t', rfl, ends_claims_iff.2 ⟨o, hhandler, hbefore, rfl, rfl, rfl⟩,
      h⟩

/-- The search for the first handler that claims the outcome is a sequence of offers. -/
theorem ends_firstClaim_iff {handlers : List OutcomeHandler} {index : Nat}
    {r : Except Failing (Option Nat)} :
    Ends (firstClaim ctx outcome index handlers) s t r s' ↔
      ∃ offers, r = .ok ((offers.findIdx? (·.isClaimed)).map (index + ·)) ∧
        t = offers.map (·.exchange ctx outcome) ∧ Offered handlers s offers s' := by
  induction handlers generalizing index s t with
  | nil =>
    rw [firstClaim, ends_pure_iff]
    constructor
    · rintro ⟨rfl, rfl, rfl⟩
      exact ⟨[], rfl, rfl, .nobody s'⟩
    · rintro ⟨offers, rfl, rfl, h⟩
      cases h
      exact ⟨rfl, rfl, rfl⟩
  | cons handler handlers ih =>
    rw [firstClaim, ends_claims_bind_iff]
    constructor
    · rintro ⟨o, t', rfl, rfl, rfl, h⟩
      cases hclaimed : o.isClaimed with
      | true =>
        rw [hclaimed, if_pos rfl] at h
        obtain ⟨rfl, rfl, rfl⟩ := ends_pure_iff.1 h
        exact ⟨[o], by simp [hclaimed], rfl, .claimed hclaimed⟩
      | false =>
        rw [hclaimed, if_neg Bool.false_ne_true] at h
        obtain ⟨offers, rfl, rfl, hoffers⟩ := ih.1 h
        refine ⟨o :: offers, ?_, rfl, .declined hclaimed hoffers⟩
        simp [List.findIdx?_cons, hclaimed, Function.comp_def, Nat.add_assoc, Nat.add_comm 1]
    · rintro ⟨offers, rfl, rfl, h⟩
      cases h with
      | @claimed o _ hclaimed =>
        refine ⟨o, [], rfl, rfl, rfl, ?_⟩
        rw [hclaimed, if_pos rfl]
        exact ends_pure_iff.2 ⟨rfl, by simp [hclaimed], rfl⟩
      | @declined o _ offers _ hclaimed later =>
        refine ⟨o, offers.map (·.exchange ctx outcome), rfl, rfl, rfl, ?_⟩
        rw [hclaimed, if_neg Bool.false_ne_true]
        refine ih.2 ⟨offers, ?_, rfl, later⟩
        simp [List.findIdx?_cons, hclaimed, Function.comp_def, Nat.add_assoc, Nat.add_comm 1]

theorem Offer.dispatched_of_claim {handlers : List OutcomeHandler} {offers : List Offer} {i : Nat}
    (h : Offered handlers s offers s') (hfound : offers.findIdx? (·.isClaimed) = some i) :
    dispatched handlers.length offers = .command i := by
  obtain ⟨hi, -⟩ := List.findIdx?_eq_some_iff_getElem.1 hfound
  exact dispatched_eq_command_iff.2
    ⟨Nat.lt_of_lt_of_le hi h.length_le, isFirstClaim_iff.2 hfound⟩

/-- What is dispatched when only the fallback may claim the outcome. -/
theorem Offer.dispatched_concat {earlier : List Offer} {o : Offer}
    (hnone : ∀ x ∈ earlier, x.isClaimed = false) :
    dispatched earlier.length (earlier ++ [o]) = if o.isClaimed then .fallback else .unhandled := by
  have hfound : (earlier ++ [o]).findIdx? (·.isClaimed) =
      if o.isClaimed then some earlier.length else none := by
    rw [List.findIdx?_append, List.findIdx?_eq_none_iff.2 hnone]
    cases hclaimed : o.isClaimed with
    | true => simp [List.findIdx?_cons, hclaimed]
    | false => simp [List.findIdx?_cons, hclaimed]
  rw [dispatched, hfound]
  cases o.isClaimed with
  | true => simp
  | false => rfl

/-- Behind the offer to the fallback nothing is asked any more. -/
theorem ends_behindFallback_iff {claimed : Bool} {r : Except Failing Dispatch} :
    Ends (if claimed then return .fallback else return .unhandled : Procedure Dispatch) s t r s' ↔
      t = [] ∧ r = .ok (if claimed then .fallback else .unhandled) ∧ s' = s := by
  cases claimed with
  | true => exact ends_pure_iff
  | false => exact ends_pure_iff

/-- The runs of dispatch are the offers of the outcome to the handlers, and then to the fallback. -/
theorem ends_dispatch_iff {handlers : List OutcomeHandler} {r : Except Failing Dispatch} :
    Ends (dispatch ctx handlers fallback outcome) s t r s' ↔
      ∃ offers, r = .ok (Offer.dispatched handlers.length offers) ∧
        t = offers.map (·.exchange ctx outcome) ∧ Offered (handlers ++ [fallback]) s offers s' := by
  rw [dispatch, ends_bind_iff]
  constructor
  · rintro (⟨found, s₁, t₁, t₂, rfl, h₁, h₂⟩ | ⟨failing, -, h⟩)
    · obtain ⟨offers, hfound, rfl, hoffers⟩ := ends_firstClaim_iff.1 h₁
      obtain rfl := Except.ok.inj hfound
      cases hfirst : offers.findIdx? (·.isClaimed) with
      | some i =>
        rw [hfirst] at h₂
        obtain ⟨rfl, rfl, rfl⟩ := ends_pure_iff.1 h₂
        obtain ⟨hi, hclaim, -⟩ := List.findIdx?_eq_some_iff_getElem.1 hfirst
        refine ⟨offers, ?_, List.append_nil _, hoffers.append ⟨_, List.getElem_mem hi, hclaim⟩ _⟩
        simp [Offer.dispatched_of_claim hoffers hfirst]
      | none =>
        rw [hfirst] at h₂
        obtain ⟨o, t', rfl, rfl, rfl, h⟩ := ends_claims_bind_iff.1 h₂
        have hnone := List.findIdx?_eq_none_iff.1 hfirst
        obtain ⟨rfl, rfl, rfl⟩ := ends_behindFallback_iff.1 h
        refine ⟨offers ++ [o], ?_, by rw [List.map_append]; rfl, hoffers.concat hnone⟩
        rw [← hoffers.length_of_unclaimed hnone, Offer.dispatched_concat hnone]
    · obtain ⟨offers, hfound, -⟩ := ends_firstClaim_iff.1 h
      cases hfound
  · rintro ⟨offers, rfl, rfl, h⟩
    refine .inl ?_
    rcases h.split with ⟨hoffered, o, ho, hclaim⟩ | ⟨earlier, o, rfl, rfl, rfl, hearlier, hnone⟩
    · cases hfirst : offers.findIdx? (·.isClaimed) with
      | none => cases hclaim.symm.trans (List.findIdx?_eq_none_iff.1 hfirst o ho)
      | some i =>
        refine ⟨some i, s', offers.map (·.exchange ctx outcome), [], (List.append_nil _).symm,
          ends_firstClaim_iff.2 ⟨offers, ?_, rfl, hoffered⟩, ends_pure_iff.2 ⟨rfl, ?_, rfl⟩⟩
        · rw [hfirst, Option.map_some, Nat.zero_add]
        · rw [Offer.dispatched_of_claim hoffered hfirst]
    · refine ⟨none, o.before, earlier.map (·.exchange ctx outcome), [o.exchange ctx outcome],
        List.map_append, ends_firstClaim_iff.2 ⟨earlier, ?_, rfl, hearlier⟩,
        ends_claims_bind_iff.2 ⟨o, [], rfl, rfl, rfl, ends_behindFallback_iff.2 ⟨rfl, ?_, rfl⟩⟩⟩
      · rw [List.findIdx?_eq_none_iff.2 hnone]
        rfl
      · rw [← hearlier.length_of_unclaimed hnone, Offer.dispatched_concat hnone]

/-- The runs of dispatch that is carried out are offers, carried out. -/
theorem ends_act_dispatch_iff {handlers : List OutcomeHandler} {r : Except Failing Dispatch}
    {t : List (Exchange Request Request.Answer)} :
    Ends (dispatch ctx handlers fallback outcome).act s t r s' ↔
      ∃ offers parts, r = .ok (Offer.dispatched handlers.length offers) ∧
        Offered (handlers ++ [fallback]) s offers s' ∧ t = parts.flatten ∧
        List.Forall₂ (·.IsCarriedOut ctx outcome) offers parts := by
  refine Program.runs_substitute_iff.trans ?_
  constructor
  · rintro ⟨t₀, parts, h, hflatten, hparts⟩
    obtain ⟨offers, rfl, rfl, hoffers⟩ := ends_dispatch_iff.1 h
    have hcarried := List.forall₂_map_left_iff.1 hparts
    exact ⟨offers, parts, rfl, hoffers, hflatten, hcarried⟩
  · rintro ⟨offers, parts, rfl, hoffers, hflatten, hparts⟩
    exact ⟨_, parts, ends_dispatch_iff.2 ⟨offers, rfl, rfl, hoffers⟩, hflatten,
      List.forall₂_map_left_iff.2 hparts⟩

end Runs

/-! ## The usual presentation -/

namespace ReplyChain

/-- The request that sends a reply. -/
def sending (c : ReplyChain) (spec : ReplySpec) : Request :=
  .send c.channel c.caller (c.reference? spec) spec

/-- The one request that presents an outcome, if there is something to present: an
acknowledgement is a reaction to the message that triggered the invocation, if one did, and every
other outcome is a reply. -/
def presenting? (c : ReplyChain) : Outcome → Option Request
  | .proceed => none
  | .success .ok => none
  | .success (.message text) => some (c.sending (embedReply "Success" text .green))
  | .success (.ack reaction message) =>
    match c.origin with
    | some origin => some (.react c.channel origin reaction)
    | none => some (c.sending ((ReplySpec.ofText message).privately true))
  | .failure failure => failure.shown?.map fun text => c.sending (embedReply "Error" text .red)
  | .error e => some (c.sending (embedReply "Internal Error" e.message .gray))

end ReplyChain

/-- The error that a reply or a reaction is answered by. -/
def Request.refusal? (x : Exchange Request Request.Answer) : Option Cause :=
  match x with
  | ⟨.send .., .error cause⟩ => some cause
  | ⟨.react .., .error cause⟩ => some cause
  | _ => none

/-- The requests are those that present the outcome, and it is claimed unless one of
them is refused. -/
structure Presents (c : ReplyChain) (outcome : Outcome) (t : List (Exchange Request Request.Answer))
    (r : Except Failing Bool) : Prop where
  requests : t.map (·.1) = (c.presenting? outcome).toList
  ended : r = match t.findSome? Request.refusal? with
    | none => .ok true
    | some cause => .error (.error cause)

section Presentation

variable {ctx : Context} {outcome : Outcome} {c : ReplyChain} {s s' : Session}
  {t : List (Exchange Request Request.Answer)}

theorem Failure.shown?_eq_none_iff {failure : Failure} :
    failure.shown? = none ↔ failure = .plain := by
  cases failure with
  | plain => simp [shown?]
  | notAllowed group =>
    rw [shown?]
    cases group.name? with
    | none => simp
    | some name => simp
  | _ => simp [shown?]

/-- Nothing is requested for the good end without a word, and for the failure without one. -/
theorem ReplyChain.presenting?_eq_none_iff (hterminal : outcome.isTerminal = true) :
    c.presenting? outcome = none ↔ outcome = .success .ok ∨ outcome = .failure .plain := by
  cases outcome with
  | proceed => cases hterminal
  | success success =>
    cases success with
    | ok => simp [presenting?]
    | message text => simp [presenting?]
    | ack reaction message =>
      rw [presenting?]
      cases c.origin with
      | none => simp
      | some origin => simp
  | failure failure => simp [presenting?, Failure.shown?_eq_none_iff]
  | error e => simp [presenting?]

/-- A reply is one request, and its failure that of the request. -/
theorem Context.ends_reply (hc : s.replies = some c) {spec : ReplySpec}
    {r : Except Failing SentReply} (h : Ends (Context.reply spec) s t r s') :
    ∃ sent : Except Cause SentReply,
      t = [⟨c.sending spec, sent⟩] ∧ r = sent.mapError .error := by
  have hrest := ends_replyChain_bind_of_some hc h
  rcases ends_bind_iff.1 hrest with ⟨⟨sent, c'⟩, s₁, t₁, t₂, rfl, hadd, htold⟩ | ⟨failing, -, hadd⟩
  · obtain ⟨e, hruns, he, rfl⟩ := Act.ends_ofRequests_iff.1 hadd
    obtain rfl := Except.ok.inj he
    dsimp only at htold
    rw [Act.ends_session_bind_iff, Act.ends_setSession_bind_iff] at htold
    obtain ⟨rfl, rfl, rfl⟩ := Act.ends_ofExcept_iff.1 htold
    obtain ⟨answer, rfl, hanswer⟩ := ReplyChain.runs_add_iff.1 hruns
    obtain ⟨rfl, rfl⟩ := Prod.mk.inj hanswer
    exact ⟨sent, rfl, rfl⟩
  · obtain ⟨e, -, he, -⟩ := Act.ends_ofRequests_iff.1 hadd
    cases he

/-- An outcome is presented by a reply. -/
theorem presents_of_reply (hc : s.replies = some c) {spec : ReplySpec} {r : Except Failing Bool}
    (hspec : c.presenting? outcome = some (c.sending spec))
    (h : Ends (do let _ ← Context.reply spec; return true) s t r s') : Presents c outcome t r := by
  obtain ⟨r₀, hreply, rfl⟩ := ends_map_iff.1 h
  obtain ⟨sent, rfl, rfl⟩ := Context.ends_reply hc hreply
  refine ⟨by rw [hspec]; rfl, ?_⟩
  cases sent with
  | error cause => rfl
  | ok reply => rfl

/-- An outcome for which nothing is requested is claimed. -/
theorem presents_of_pure (hnone : c.presenting? outcome = none) {r : Except Failing Bool}
    (h : Ends (pure true : Act Bool) s t r s') : Presents c outcome t r := by
  obtain ⟨rfl, rfl, rfl⟩ := ends_pure_iff.1 h
  exact ⟨by rw [hnone]; rfl, rfl⟩

/-- An acknowledgement is presented by a reaction, and by a private reply where there
is nothing to react to. -/
theorem presents_of_reaction (hc : s.replies = some c) {reaction message : String}
    {reacted : Except Cause Bool} {t₁ t₂ : List (Exchange Request Request.Answer)}
    (hruns : Runs (c.reactToOrigin reaction) t₁ reacted) {r : Except Failing Bool}
    (h : Ends (do
      if ← Act.ofExcept reacted then return true
      else
        let _ ← Context.reply ((ReplySpec.ofText message).privately true)
        return true) s t₂ r s') :
    Presents c (.success (.ack reaction message)) (t₁ ++ t₂) r := by
  rcases ReplyChain.runs_reactToOrigin_iff.1 hruns with
    ⟨hnone, rfl, rfl⟩ | ⟨origin, answer, horigin, rfl, rfl⟩
  · refine presents_of_reply hc ?_ h
    rw [ReplyChain.presenting?, hnone]
  · have hreacts : c.presenting? (.success (.ack reaction message)) =
        some (.react c.channel origin reaction) := by
      rw [ReplyChain.presenting?, horigin]
    cases answer with
    | ok =>
      obtain ⟨rfl, rfl, rfl⟩ := ends_pure_iff.1 h
      exact ⟨by rw [hreacts]; rfl, rfl⟩
    | error cause =>
      obtain ⟨rfl, rfl, rfl⟩ := Act.ends_fail_iff.1 h
      exact ⟨by rw [hreacts]; rfl, rfl⟩

/-- With a chain of replies at hand, the usual fallback presents every outcome that
ends the invocation. -/
theorem presents_of_ends (hterminal : outcome.isTerminal = true) (hc : s.replies = some c)
    {r : Except Failing Bool} (h : Ends (presentOutcome ctx outcome) s t r s') :
    Presents c outcome t r := by
  cases outcome with
  | proceed => cases hterminal
  | success success =>
    cases success with
    | ok => exact presents_of_pure rfl h
    | message text => exact presents_of_reply hc rfl h
    | ack reaction message =>
      have hrest := Context.ends_replyChain_bind_of_some hc h
      rcases ends_bind_iff.1 hrest with ⟨e, s₁, t₁, t₂, rfl, hreact, htold⟩ | ⟨failing, -, hreact⟩
      · obtain ⟨e, hruns, he, rfl⟩ := Act.ends_ofRequests_iff.1 hreact
        obtain rfl := Except.ok.inj he
        exact presents_of_reaction hc hruns htold
      · obtain ⟨e, -, he, -⟩ := Act.ends_ofRequests_iff.1 hreact
        cases he
  | failure failure =>
    rw [presentOutcome] at h
    cases hshown : failure.shown? with
    | none =>
      rw [hshown] at h
      exact presents_of_pure (by simp [ReplyChain.presenting?, hshown]) h
    | some text =>
      rw [hshown] at h
      exact presents_of_reply hc (by simp [ReplyChain.presenting?, hshown]) h
  | error e => exact presents_of_reply hc rfl h

/-- The handler leaves a context initialized. -/
def OutcomeHandler.KeepsInitialized (handler : OutcomeHandler) (ctx : Context) (outcome : Outcome) :
    Prop :=
  ∀ s t r s', s.isInitialized = true → Ends (handler ctx outcome) s t r s' → s'.isInitialized = true

theorem Offered.isInitialized {handlers : List OutcomeHandler} {offers : List Offer}
    {parts : List (List (Exchange Request Request.Answer))} (h : Offered handlers s offers s')
    (hparts : List.Forall₂ (·.IsCarriedOut ctx outcome) offers parts)
    (hkeep : ∀ handler ∈ handlers, handler.KeepsInitialized ctx outcome)
    (hs : s.isInitialized = true) : s'.isInitialized = true := by
  induction h generalizing parts with
  | nobody s => exact hs
  | claimed =>
    cases hparts with
    | cons hran _ => exact hkeep _ List.mem_cons_self _ _ _ _ hs hran
  | declined _ _ ih =>
    cases hparts with
    | cons hran hrest =>
      have hleft := hkeep _ List.mem_cons_self _ _ _ _ hs hran
      exact ih hrest (fun handler hmem => hkeep handler (List.mem_cons_of_mem _ hmem)) hleft

/-- The outcome stays unclaimed exactly if a request is refused. -/
theorem Presents.isClaimed_eq_false_iff {o : Offer} (h : Presents c outcome t o.ended) :
    o.isClaimed = false ↔ ∃ x ∈ t, (Request.refusal? x).isSome = true := by
  rw [← List.findSome?_isSome_iff, Offer.isClaimed, h.ended]
  cases t.findSome? Request.refusal? with
  | none => simp
  | some cause => simp

theorem Presents.length_le {r : Except Failing Bool} (h : Presents c outcome t r) :
    t.length ≤ 1 := by
  rw [← List.length_map (f := (·.1)), h.requests]
  cases c.presenting? outcome with
  | none => exact Nat.zero_le 1
  | some request => exact Nat.le_refl 1

theorem Presents.eq_nil_iff {r : Except Failing Bool} (h : Presents c outcome t r) :
    t = [] ↔ c.presenting? outcome = none := by
  rw [← List.map_eq_nil_iff (f := (·.1)), h.requests]
  cases c.presenting? outcome with
  | none => simp
  | some request => simp

/-- When no handler of the command claims an outcome that ends the invocation, the last offer is
that of the usual fallback, which presents it. -/
theorem Offered.exists_presents {handlers : List OutcomeHandler} {offers : List Offer}
    {parts : List (List (Exchange Request Request.Answer))}
    (h : Offered (handlers ++ [presentOutcome]) s offers s')
    (hparts : List.Forall₂ (·.IsCarriedOut ctx outcome) offers parts)
    (hterminal : outcome.isTerminal = true) (hs : s.isInitialized = true)
    (hkeep : ∀ handler ∈ handlers, handler.KeepsInitialized ctx outcome)
    (hunclaimed : ∀ i, Offer.dispatched handlers.length offers ≠ .command i) :
    ∃ earlier calls o c, parts = earlier ++ [calls] ∧ earlier.length = handlers.length ∧
      offers[handlers.length]? = some o ∧ o.before.replies = some c ∧
      Presents c outcome calls o.ended ∧
      Offer.dispatched handlers.length offers = if o.isClaimed then .fallback else .unhandled := by
  rcases h.split with ⟨hoffered, o, ho, hclaim⟩ | ⟨first, o, rfl, hhandler, rfl, hfirst, hnone⟩
  -- a claim by one of the handlers would have been dispatched to it
  · cases hfound : offers.findIdx? (·.isClaimed) with
    | none => cases hclaim.symm.trans (List.findIdx?_eq_none_iff.1 hfound o ho)
    | some i => exact absurd (Offer.dispatched_of_claim hoffered hfound) (hunclaimed i)
  · have hlength := hfirst.length_of_unclaimed hnone
    have hbefore := List.forall₂_take_append parts first [o] hparts.flip
    have hlast := List.forall₂_drop_append parts first [o] hparts.flip
    obtain ⟨calls, rest, hcalls, hrest, hdrop⟩ := List.forall₂_cons_right_iff.1 hlast
    cases hrest
    have hinitialized := hfirst.isInitialized hbefore.flip hkeep hs
    obtain ⟨c, hc⟩ := Option.isSome_iff_exists.1 hinitialized
    have hran : Ends (presentOutcome ctx outcome) o.before calls o.ended o.after :=
      hhandler ▸ hcalls
    refine ⟨parts.take first.length, calls, o, c, ?_, ?_, ?_, hc,
      presents_of_ends hterminal hc hran, ?_⟩
    · rw [← hdrop, List.take_append_drop]
    · rw [hbefore.length_eq, hlength]
    · rw [← hlength, List.getElem?_concat_length]
    · rw [← hlength, Offer.dispatched_concat hnone]

end Presentation

/-- Dispatching an outcome, whatever the handlers do. Its runs are offers of the same outcome to the
handlers in order and then to the fallback, up to the first that claims it, where failing and
breaking off are declining; the same holds when the handlers are carried out, with the requests of
each of them as its part. Whatever the answers to these requests are, dispatch comes to an end. It
answers with the index of the first handler that claims, with the fallback if only this one does,
and with nobody if none does; nothing is offered behind a claim, and without one everybody has had
an offer. With the usual fallback, an initialized context and no handler that claims, an outcome
that ends the invocation makes the fallback put one request at most, and none exactly for an end
without a word; nobody handles it exactly if that request is refused. -/
theorem outcomes_are_offered_in_order (ctx : Context) (handlers : List OutcomeHandler)
    (fallback : OutcomeHandler) (outcome : Outcome) (s : Session) :
    (∀ t r s', Ends (dispatch ctx handlers fallback outcome) s t r s' ↔
      ∃ offers, r = .ok (Offer.dispatched handlers.length offers) ∧
        t = offers.map (·.exchange ctx outcome) ∧ Offered (handlers ++ [fallback]) s offers s') ∧
    (∀ t r s', Ends (dispatch ctx handlers fallback outcome).act s t r s' ↔
      ∃ offers parts, r = .ok (Offer.dispatched handlers.length offers) ∧
        Offered (handlers ++ [fallback]) s offers s' ∧ t = parts.flatten ∧
        List.Forall₂ (·.IsCarriedOut ctx outcome) offers parts) ∧
    (∀ (σ : Type) (answer : (q : Request) → σ → q.Answer × σ) (w : σ), ∃ dispatched s',
      (((dispatch ctx handlers fallback outcome).act.runFrom s).runWith answer w).1 =
        (.ok dispatched, s')) ∧
    ∀ offers s', Offered (handlers ++ [fallback]) s offers s' →
      let dispatched := Offer.dispatched handlers.length offers
      offers.map (·.handler) <+: handlers ++ [fallback] ∧
      (∀ i, dispatched = .command i ↔ i < handlers.length ∧ Offer.IsFirstClaim offers i) ∧
      (dispatched = .fallback ↔ Offer.IsFirstClaim offers handlers.length) ∧
      (dispatched = .unhandled ↔ ∀ o ∈ offers, o.isClaimed = false) ∧
      (∀ i, Offer.IsFirstClaim offers i → offers.length = i + 1) ∧
      ((∀ o ∈ offers, o.isClaimed = false) → offers.map (·.handler) = handlers ++ [fallback]) ∧
      (fallback = presentOutcome → outcome.isTerminal = true → s.isInitialized = true →
        (∀ handler ∈ handlers, handler.KeepsInitialized ctx outcome) →
        ∀ parts, List.Forall₂ (·.IsCarriedOut ctx outcome) offers parts →
          (∀ i, dispatched ≠ .command i) →
            ∃ earlier calls o, ∃ c : ReplyChain, parts = earlier ++ [calls] ∧
              earlier.length = handlers.length ∧ offers[handlers.length]? = some o ∧
              o.before.replies = some c ∧
              calls.map (·.1) = (c.presenting? outcome).toList ∧ calls.length ≤ 1 ∧
              (calls = [] ↔ outcome = .success .ok ∨ outcome = .failure .plain) ∧
              (dispatched = .unhandled ↔
                ∃ x ∈ calls, (Request.refusal? x).isSome = true)) := by
  refine ⟨fun t r s' => ends_dispatch_iff, fun t r s' => ends_act_dispatch_iff, ?_, ?_⟩
  · intro σ answer w
    obtain ⟨t, h, -⟩ := Program.runs_runWith answer
      ((dispatch ctx handlers fallback outcome).act.runFrom s) w
    obtain ⟨offers, parts, hdispatched, -⟩ := ends_act_dispatch_iff.1 h
    exact ⟨_, _, Prod.ext hdispatched rfl⟩
  · intro offers s' h dispatched
    refine ⟨h.inOrder, fun i => Offer.dispatched_eq_command_iff, h.dispatched_eq_fallback_iff,
      Offer.dispatched_eq_unhandled_iff, ?_, h.all_of_unclaimed, ?_⟩
    · rintro i ⟨o, ho, hclaim, -⟩
      exact h.length_of_claim ho hclaim
    · rintro rfl hterminal hs hkeep parts hparts hunclaimed
      obtain ⟨earlier, calls, o, c, hsplit, hearlier, ho, hc, hpresents, hdispatched⟩ :=
        h.exists_presents hparts hterminal hs hkeep hunclaimed
      refine ⟨earlier, calls, o, c, hsplit, hearlier, ho, hc, hpresents.requests,
        hpresents.length_le, ?_, ?_⟩
      · rw [hpresents.eq_nil_iff, ReplyChain.presenting?_eq_none_iff hterminal]
      · rw [← hpresents.isClaimed_eq_false_iff]
        show Offer.dispatched handlers.length offers = .unhandled ↔ _
        rw [hdispatched]
        cases o.isClaimed with
        | true => simp
        | false => simp

/-- A handler of outcomes that fails. -/
def failingPresenter : OutcomeHandler := fun _ _ => Act.fail (.ofText "no such table")

/-- The reply to the call of the lock, which may not be sent. -/
def refusedReply : Exchange Request Request.Answer :=
  ⟨lockContext.firstChain.sending (embedReply "Success" "Locked." .green),
    (.error (.ofText "no permission") : Except Cause SentReply)⟩

/-- A handler that fails declines, so the fallback presents the outcome; as its reply may not be
sent, nobody has handled it. -/
theorem refused_reply_leaves_outcome_unhandled :
    let dispatching : Act Dispatch :=
      (dispatch lockContext [failingPresenter] presentOutcome (.success (.message "Locked."))).act
    Ends dispatching lockContext.opened [refusedReply] (.ok .unhandled) lockContext.opened ∧
      lockContext.opened.isInitialized = true ∧
      failingPresenter.KeepsInitialized lockContext (.success (.message "Locked.")) ∧
      ∃ x ∈ [refusedReply], (Request.refusal? x).isSome = true := by
  intro dispatching
  obtain ⟨-, hruns, -, hlaw⟩ := outcomes_are_offered_in_order lockContext [failingPresenter]
    presentOutcome (.success (.message "Locked.")) lockContext.opened
  let failing : Offer :=
    ⟨failingPresenter, .error (.error (.ofText "no such table")), lockContext.opened,
      lockContext.opened⟩
  let presenting : Offer :=
    ⟨presentOutcome, .error (.error (.ofText "no permission")), lockContext.opened,
      lockContext.opened⟩
  have hoffered : Offered ([failingPresenter] ++ [presentOutcome]) lockContext.opened
      [failing, presenting] lockContext.opened :=
    .declined (o := failing) rfl (.declined (o := presenting) rfl (.nobody _))
  have hparts : List.Forall₂ (·.IsCarriedOut lockContext (.success (.message "Locked.")))
      [failing, presenting] [[], [refusedReply]] := .cons (.done _) (.cons (.ask (.done _)) .nil)
  have hkeep : failingPresenter.KeepsInitialized lockContext (.success (.message "Locked.")) := by
    intro s t r s' hs hran
    obtain ⟨-, -, rfl⟩ := Act.ends_fail_iff.1 hran
    exact hs
  obtain ⟨-, -, -, -, -, -, hfallback⟩ := hlaw _ _ hoffered
  obtain ⟨earlier, calls, _, _, hsplit, -, -, -, -, -, -, hrefused⟩ := hfallback rfl rfl rfl
    (List.forall_mem_singleton.2 hkeep) _ hparts (by intro i h; cases h)
  have hcalls : calls = [refusedReply] := by
    have hlast := congrArg List.getLast? hsplit
    simpa using hlast.symm
  rw [← hcalls]
  exact ⟨(hruns _ _ _).2 ⟨_, _, rfl, hoffered, by rw [hcalls]; rfl, hparts⟩, rfl, hkeep,
    hrefused.1 rfl⟩

end ChatCommands
