import ChatCommands.Reply.Chain
import ChatCommands.Proofs.ProgramRuns

set_option autoImplicit false

/-!
# The law of reply chains

Chains of replies are called in any order: replies are sent, changed and deleted, and a chain may be
copied, after which both go on. A `Turn` is one call as it ran, a `Course` a sequence of turns. What
the chains are afterwards is read off the turns alone: `ledger` adds to each chain the replies that
were sent, and copies a chain where a turn says so. The main statement is `courses_keep_law`: the
chains are those of the ledger, each turn is `Lawful` for the replies sent before it, and every
lawful turn may come next.
-/

namespace ChatCommands.ReplyChain

open Program (Exchange Runs)

/-! ## Calls -/

/-- A call of a chain. -/
inductive Call where
  | reply (spec : ReplySpec)
  | add (spec : ReplySpec)
  | edit (index : Nat) (spec : ReplySpec)
  | delete (index : Nat)
  | react (reaction : String)
  | longTerm

/-- How a call ends. -/
inductive CallEnd where
  | sent (answer : Except Cause SentReply)
  | changed (answer : Except Cause Unit)
  | reacted (answer : Except Cause Bool)
  | copied

/-- The program of a call: how it ends, what the chain becomes, and the copies that are made. -/
def Call.perform (c : ReplyChain) : Call → Requests (CallEnd × ReplyChain × List ReplyChain)
  | .reply spec => (c.reply spec).bind fun e => .done (.sent e.1, e.2, [])
  | .add spec => (c.add spec).bind fun e => .done (.sent e.1, e.2, [])
  | .edit index spec => (c.edit index spec).bind fun r => .done (.changed r, c, [])
  | .delete index => (c.delete index).bind fun r => .done (.changed r, c, [])
  | .react reaction => (c.reactToOrigin reaction).bind fun r => .done (.reacted r, c, [])
  | .longTerm => .done (.copied, c, [c.longTerm])

/-- A call of the chain at an index, as it ran. -/
structure Turn where
  chain : Nat
  call : Call
  exchanges : List (Exchange Request Request.Answer)
  ended : CallEnd

/-- A turn leads from chains to chains: the one that is called becomes what the call makes of it,
the copies are added at the end, and no other chain changes. -/
inductive Turn.Leads (chains : List ReplyChain) (x : Turn) : List ReplyChain → Prop where
  | mk {c c' : ReplyChain} {copies : List ReplyChain} (called : chains[x.chain]? = some c)
      (ran : Runs (x.call.perform c) x.exchanges (x.ended, c', copies)) :
      Leads chains x (chains.set x.chain c' ++ copies)

/-- The turns taken from the first chains on, and the chains after them. -/
inductive Course (first : List ReplyChain) : List Turn → List ReplyChain → Prop where
  | opening : Course first [] first
  | turn {h : List Turn} {chains chains' : List ReplyChain} {x : Turn}
      (past : Course first h chains)
      (leads : x.Leads chains chains') : Course first (h ++ [x]) chains'

/-! ## The law -/

/-- The message that a reply refers to, when the replies of `sent` have been sent before it. -/
inductive RefersTo (channel : ChannelId) (origin : Option MessageId) (sent : List SentReply)
    (spec : ReplySpec) : Option MessageId → Prop where
  | hidden (private_reply : spec.isPrivate = true) : RefersTo channel origin sent spec none
  /-- The latest reply in the same channel. -/
  | latest {before after : List SentReply} {reply : SentReply}
      (public_reply : spec.isPrivate = false) (split : sent = before ++ reply :: after)
      (here : reply.channel = channel) (none_later : ∀ r ∈ after, r.channel ≠ channel) :
      RefersTo channel origin sent spec (some reply.message)
  | first (public_reply : spec.isPrivate = false) (none_here : ∀ r ∈ sent, r.channel ≠ channel) :
      RefersTo channel origin sent spec origin

/-- What a call does and how it ends, when the replies of `sent` have been sent before it. -/
inductive Lawful (channel : ChannelId) (caller : UserId) (origin : Option MessageId)
    (sent : List SentReply) : Call → List (Exchange Request Request.Answer) → CallEnd → Prop where
  | added {spec : ReplySpec} {reference : Option MessageId} (answer : Except Cause SentReply)
      (refers : RefersTo channel origin sent spec reference) :
      Lawful channel caller origin sent (.add spec)
        [⟨.send channel caller reference spec, answer⟩] (.sent answer)
  | replied {spec : ReplySpec} {reference : Option MessageId} (answer : Except Cause SentReply)
      (none_sent : sent = []) (refers : RefersTo channel origin sent spec reference) :
      Lawful channel caller origin sent (.reply spec)
        [⟨.send channel caller reference spec, answer⟩] (.sent answer)
  | refused {spec : ReplySpec} (some_sent : sent ≠ []) :
      Lawful channel caller origin sent (.reply spec) []
        (.sent (.error (.ofText "a reply was already sent for this invocation")))
  | edited {index : Nat} {spec : ReplySpec} {reply : SentReply} (answer : Except Cause Unit)
      (found : sent[index]? = some reply) :
      Lawful channel caller origin sent (.edit index spec) [⟨.edit reply spec, answer⟩]
        (.changed answer)
  | not_edited {index : Nat} {spec : ReplySpec} (beyond : sent.length ≤ index) :
      Lawful channel caller origin sent (.edit index spec) [] (.changed (.error (noReply index)))
  | deleted {index : Nat} {reply : SentReply} (answer : Except Cause Unit)
      (found : sent[index]? = some reply) :
      Lawful channel caller origin sent (.delete index) [⟨.delete reply, answer⟩] (.changed answer)
  | not_deleted {index : Nat} (beyond : sent.length ≤ index) :
      Lawful channel caller origin sent (.delete index) [] (.changed (.error (noReply index)))
  | reacted {reaction : String} {message : MessageId} (answer : Except Cause Unit)
      (triggered : origin = some message) :
      Lawful channel caller origin sent (.react reaction)
        [⟨.react channel message reaction, answer⟩]
        (.reacted (answer.map fun _ => true))
  | not_reacted {reaction : String} (untriggered : origin = none) :
      Lawful channel caller origin sent (.react reaction) [] (.reacted (.ok false))
  | copied : Lawful channel caller origin sent .longTerm [] .copied

/-! ## The ledger of what was sent -/

/-- The reply that a call has sent. -/
def CallEnd.replies : CallEnd → List SentReply
  | .sent (.ok reply) => [reply]
  | .sent (.error _) => []
  | .changed _ => []
  | .reacted _ => []
  | .copied => []

/-- The copies that a call makes. -/
def Call.copies {α : Type} (a : α) : Call → List α
  | .longTerm => [a]
  | _ => []

/-- The replies sent in each chain after one more turn. -/
def Turn.record (sent : List (List SentReply)) (x : Turn) : List (List SentReply) :=
  match sent[x.chain]? with
  | none => sent
  | some own => sent.set x.chain (own ++ x.ended.replies) ++ x.call.copies own

/-- The replies sent in each chain after turns that began with a single chain without replies. -/
def ledger (h : List Turn) : List (List SentReply) := h.foldl Turn.record [[]]

/-- The replies that turns have sent in the chain at an index, in order. -/
def sentIn (k : Nat) (h : List Turn) : List SentReply :=
  h.flatMap fun x => if x.chain = k then x.ended.replies else []

theorem ledger_append (before after : List Turn) :
    ledger (before ++ after) = after.foldl Turn.record (ledger before) :=
  List.foldl_append

theorem getElem?_record {sent : List (List SentReply)} {x : Turn} {k : Nat} {own : List SentReply}
    (h : sent[k]? = some own) :
    (x.record sent)[k]? = some (own ++ if x.chain = k then x.ended.replies else []) := by
  rw [Turn.record]
  by_cases hk : x.chain = k
  · subst hk
    have hlt : x.chain < sent.length := (List.getElem?_eq_some_iff.1 h).1
    simp only [h, if_pos]
    rw [List.getElem?_append_left (by rw [List.length_set]; exact hlt), List.getElem?_set_self hlt]
  · have hlt : k < sent.length := (List.getElem?_eq_some_iff.1 h).1
    rw [if_neg hk, List.append_nil]
    cases hown : sent[x.chain]? with
    | none => exact h
    | some other =>
      dsimp only
      rw [List.getElem?_append_left (by rw [List.length_set]; exact hlt), List.getElem?_set_ne hk,
        h]

/-- Turns only add to a chain, and only what they have sent in this chain. -/
theorem getElem?_foldl_record {sent : List (List SentReply)} {k : Nat} {own : List SentReply}
    (h : sent[k]? = some own) (turns : List Turn) :
    (turns.foldl Turn.record sent)[k]? = some (own ++ sentIn k turns) := by
  induction turns generalizing sent own with
  | nil =>
    rw [sentIn, List.flatMap_nil, List.append_nil]
    exact h
  | cons x turns ih =>
    rw [List.foldl_cons, ih (getElem?_record h), List.append_assoc, sentIn, sentIn,
      List.flatMap_cons]

/-- A copy is found behind all chains, with what its original held. -/
theorem getElem?_record_longTerm {sent : List (List SentReply)} {x : Turn} {own : List SentReply}
    (hcall : x.call = .longTerm) (h : sent[x.chain]? = some own) :
    (x.record sent)[sent.length]? = some own := by
  rw [Turn.record, hcall]
  simp only [h]
  rw [List.getElem?_append_right (by simp), List.length_set, Nat.sub_self]
  rfl

/-! ## Each call obeys the law -/

variable {c : ReplyChain} {t : List (Exchange Request Request.Answer)}

theorem refersTo_iff {spec : ReplySpec} {reference : Option MessageId} :
    RefersTo c.channel c.origin c.replies spec reference ↔ reference = c.reference? spec := by
  cases hprivate : spec.isPrivate with
  | true =>
    rw [reference?, if_pos hprivate]
    constructor
    · intro h
      cases h with
      | hidden => rfl
      | latest hpublic => simp [hprivate] at hpublic
      | first hpublic => simp [hprivate] at hpublic
    · rintro rfl
      exact .hidden hprivate
  | false =>
    rw [reference?, if_neg (by simp [hprivate])]
    cases hfind : c.replies.reverse.find? (·.channel == c.channel) with
    | none =>
      have hnone : ∀ r ∈ c.replies, r.channel ≠ c.channel := by simpa using hfind
      constructor
      · intro h
        cases h with
        | hidden hhidden => simp [hprivate] at hhidden
        | latest _ hsplit hhere =>
          exact absurd hhere (hnone _ (by rw [hsplit]; simp))
        | first => rfl
      · rintro rfl
        exact .first hprivate hnone
    | some reply =>
      -- the reply that is found splits the chain where it is the last one in the channel
      obtain ⟨hhere, later, earlier, hsplit, hlater⟩ := List.find?_eq_some_iff_append.1 hfind
      have hreplies : c.replies = earlier.reverse ++ reply :: later.reverse := by
        rw [← List.reverse_reverse c.replies, hsplit]
        simp
      constructor
      · intro h
        cases h with
        | hidden hhidden => simp [hprivate] at hhidden
        | @latest before after other _ hsplit' hhere' hnone =>
          have hfound : c.replies.reverse.find? (·.channel == c.channel) = some other := by
            refine List.find?_eq_some_iff_append.2
              ⟨by simpa using hhere', after.reverse, before.reverse, by rw [hsplit']; simp, ?_⟩
            intro r hr
            simpa using hnone r (List.mem_reverse.1 hr)
          rw [hfind] at hfound
          rw [Option.some.inj hfound]
          rfl
        | first _ hnone =>
          exact absurd (eq_of_beq hhere) (hnone reply (by rw [hreplies]; simp))
      · rintro rfl
        refine .latest hprivate hreplies (eq_of_beq hhere) ?_
        intro r hr
        simpa using hlater r (List.mem_reverse.1 hr)

theorem runs_add_iff {spec : ReplySpec} {e : Except Cause SentReply × ReplyChain} :
    Runs (c.add spec) t e ↔ ∃ answer : Except Cause SentReply,
      t = [⟨.send c.channel c.caller (c.reference? spec) spec, answer⟩] ∧
        e = (answer, { c with replies := c.replies ++ (CallEnd.sent answer).replies }) := by
  show Runs ((Request.put (.send c.channel c.caller (c.reference? spec) spec)).bind _) t e ↔ _
  rw [Program.runs_bind_iff]
  constructor
  · rintro ⟨t₁, t₂, answer, rfl, h₁, h₂⟩
    obtain rfl := Program.runs_question_iff.1 h₁
    refine ⟨answer, ?_⟩
    rcases answer with cause | reply
    · obtain ⟨rfl, rfl⟩ := Program.runs_done_iff.1 h₂
      refine ⟨rfl, ?_⟩
      rw [CallEnd.replies, List.append_nil]
    · obtain ⟨rfl, rfl⟩ := Program.runs_done_iff.1 h₂
      exact ⟨rfl, rfl⟩
  · rintro ⟨answer, rfl, rfl⟩
    refine ⟨_, [], answer, rfl, Program.runs_question_iff.2 rfl, ?_⟩
    rcases answer with cause | reply
    · rw [CallEnd.replies, List.append_nil]
      exact .done _
    · exact .done _

/-- The runs of a change of the reply at an index, which puts a single request when there is one. -/
theorem runs_indexed_iff {index : Nat} {p : Requests (Except Cause Unit)}
    (exchange : SentReply → Except Cause Unit → Exchange Request Request.Answer)
    (hfound : ∀ reply, c.replies[index]? = some reply → ∀ t r,
      Runs p t r ↔ t = [exchange reply r])
    (hnone : c.replies[index]? = none → p = .done (.error (noReply index)))
    {r : Except Cause Unit} :
    Runs p t r ↔
      (∃ reply, c.replies[index]? = some reply ∧ t = [exchange reply r]) ∨
        (c.replies.length ≤ index ∧ t = [] ∧ r = .error (noReply index)) := by
  rw [← List.getElem?_eq_none_iff]
  cases hindex : c.replies[index]? with
  | some reply =>
    rw [hfound reply hindex]
    constructor
    · intro h
      exact Or.inl ⟨reply, rfl, h⟩
    · rintro (⟨other, hother, h⟩ | ⟨habsent, -⟩)
      · obtain rfl := Option.some.inj hother
        exact h
      · simp at habsent
  | none =>
    rw [hnone hindex, Program.runs_done_iff]
    constructor
    · intro h
      exact Or.inr ⟨rfl, h⟩
    · rintro (⟨other, hother, -⟩ | ⟨-, h⟩)
      · simp at hother
      · exact h

theorem runs_edit_iff {index : Nat} {spec : ReplySpec} {r : Except Cause Unit} :
    Runs (c.edit index spec) t r ↔
      (∃ reply, c.replies[index]? = some reply ∧ t = [⟨.edit reply spec, r⟩]) ∨
        (c.replies.length ≤ index ∧ t = [] ∧ r = .error (noReply index)) := by
  apply runs_indexed_iff fun reply r => ⟨.edit reply spec, r⟩
  · intro reply hreply t r
    rw [edit, hreply]
    exact Program.runs_question_iff
  · intro hnone
    rw [edit, hnone]
    rfl

theorem runs_delete_iff {index : Nat} {r : Except Cause Unit} :
    Runs (c.delete index) t r ↔
      (∃ reply, c.replies[index]? = some reply ∧ t = [⟨.delete reply, r⟩]) ∨
        (c.replies.length ≤ index ∧ t = [] ∧ r = .error (noReply index)) := by
  apply runs_indexed_iff fun reply r => ⟨.delete reply, r⟩
  · intro reply hreply t r
    rw [delete, hreply]
    exact Program.runs_question_iff
  · intro hnone
    rw [delete, hnone]
    rfl

theorem runs_reactToOrigin_iff {reaction : String} {r : Except Cause Bool} :
    Runs (c.reactToOrigin reaction) t r ↔
      (c.origin = none ∧ t = [] ∧ r = .ok false) ∨
        ∃ message, ∃ answer : Except Cause Unit, c.origin = some message ∧
          t = [⟨.react c.channel message reaction, answer⟩] ∧ r = answer.map fun _ => true := by
  rw [reactToOrigin]
  cases horigin : c.origin with
  | none =>
    constructor
    · intro h
      obtain ⟨rfl, rfl⟩ := Program.runs_done_iff.1 h
      exact Or.inl ⟨rfl, rfl, rfl⟩
    · rintro (⟨-, rfl, rfl⟩ | ⟨message, answer, hmessage, -⟩)
      · exact .done _
      · simp at hmessage
  | some message =>
    constructor
    · intro h
      obtain ⟨t₁, t₂, answer, rfl, h₁, h₂⟩ := Program.runs_bind_iff.1 h
      obtain rfl := Program.runs_question_iff.1 h₁
      obtain ⟨rfl, rfl⟩ := Program.runs_done_iff.1 h₂
      exact Or.inr ⟨message, answer, rfl, rfl, rfl⟩
    · rintro (⟨hnone, -⟩ | ⟨_, answer, hmessage, rfl, rfl⟩)
      · simp at hnone
      · obtain rfl := Option.some.inj hmessage
        exact Program.runs_bind_iff.2
          ⟨_, [], answer, rfl, Program.runs_question_iff.2 rfl, .done _⟩

/-- The runs of a program whose end is only told in other words. -/
theorem runs_told_iff {α β : Type} {p : Requests α} {f : α → β} {b : β} :
    Runs (p.bind fun a => .done (f a)) t b ↔ ∃ a, Runs p t a ∧ b = f a := by
  rw [Program.runs_bind_iff]
  constructor
  · rintro ⟨t₁, t₂, a, rfl, h₁, h₂⟩
    obtain ⟨rfl, rfl⟩ := Program.runs_done_iff.1 h₂
    rw [List.append_nil]
    exact ⟨a, h₁, rfl⟩
  · rintro ⟨a, h, rfl⟩
    exact ⟨t, [], a, by rw [List.append_nil], h, .done _⟩

/-- What a call leaves, told by how it ends. -/
def Call.left (c : ReplyChain) (call : Call) (ended : CallEnd) : ReplyChain × List ReplyChain :=
  ({ c with replies := c.replies ++ ended.replies }, call.copies c)

/-- A call that sends nothing and copies nothing leaves the chain as it is. -/
theorem left_eq {call : Call} {ended : CallEnd} (hended : ended.replies = [])
    (hcall : call.copies c = []) : call.left c ended = (c, []) := by
  rw [Call.left, hended, hcall, List.append_nil]

/-! ### The law of a call tells the runs of its program -/

section Law

variable {spec : ReplySpec} {index : Nat} {ended : CallEnd}

theorem lawful_add_iff :
    Lawful c.channel c.caller c.origin c.replies (.add spec) t ended ↔
      ∃ e, Runs (c.add spec) t e ∧ ended = .sent e.1 := by
  simp only [runs_add_iff]
  constructor
  · intro h
    cases h with
    | added answer hrefers =>
      obtain rfl := refersTo_iff.1 hrefers
      exact ⟨_, ⟨answer, rfl, rfl⟩, rfl⟩
  · rintro ⟨_, ⟨answer, rfl, rfl⟩, rfl⟩
    exact .added answer (refersTo_iff.2 rfl)

/-- The first reply is added as any other; a second one is refused. -/
theorem lawful_reply_iff :
    Lawful c.channel c.caller c.origin c.replies (.reply spec) t ended ↔
      ∃ e, Runs (c.reply spec) t e ∧ ended = .sent e.1 := by
  rw [reply]
  by_cases hsent : c.replies = []
  · rw [if_pos hsent, ← lawful_add_iff]
    constructor
    · intro h
      cases h with
      | replied answer _ hrefers => exact .added answer hrefers
      | refused hsome => exact absurd hsent hsome
    · intro h
      cases h with
      | added answer hrefers => exact .replied answer hsent hrefers
  · rw [if_neg hsent]
    constructor
    · intro h
      cases h with
      | replied _ hnone => exact absurd hnone hsent
      | refused => exact ⟨_, .done _, rfl⟩
    · rintro ⟨e, h, rfl⟩
      obtain ⟨rfl, rfl⟩ := Program.runs_done_iff.1 h
      exact .refused hsent

theorem lawful_edit_iff :
    Lawful c.channel c.caller c.origin c.replies (.edit index spec) t ended ↔
      ∃ r, Runs (c.edit index spec) t r ∧ ended = .changed r := by
  simp only [runs_edit_iff]
  constructor
  · intro h
    cases h with
    | edited answer hfound => exact ⟨answer, Or.inl ⟨_, hfound, rfl⟩, rfl⟩
    | not_edited hbeyond => exact ⟨_, Or.inr ⟨hbeyond, rfl, rfl⟩, rfl⟩
  · rintro ⟨answer, ⟨reply, hfound, rfl⟩ | ⟨hbeyond, rfl, rfl⟩, rfl⟩
    · exact .edited answer hfound
    · exact .not_edited hbeyond

theorem lawful_delete_iff :
    Lawful c.channel c.caller c.origin c.replies (.delete index) t ended ↔
      ∃ r, Runs (c.delete index) t r ∧ ended = .changed r := by
  simp only [runs_delete_iff]
  constructor
  · intro h
    cases h with
    | deleted answer hfound => exact ⟨answer, Or.inl ⟨_, hfound, rfl⟩, rfl⟩
    | not_deleted hbeyond => exact ⟨_, Or.inr ⟨hbeyond, rfl, rfl⟩, rfl⟩
  · rintro ⟨answer, ⟨reply, hfound, rfl⟩ | ⟨hbeyond, rfl, rfl⟩, rfl⟩
    · exact .deleted answer hfound
    · exact .not_deleted hbeyond

theorem lawful_react_iff {reaction : String} :
    Lawful c.channel c.caller c.origin c.replies (.react reaction) t ended ↔
      ∃ r, Runs (c.reactToOrigin reaction) t r ∧ ended = .reacted r := by
  simp only [runs_reactToOrigin_iff]
  constructor
  · intro h
    cases h with
    | reacted answer hmessage => exact ⟨_, Or.inr ⟨_, answer, hmessage, rfl, rfl⟩, rfl⟩
    | not_reacted hnone => exact ⟨_, Or.inl ⟨hnone, rfl, rfl⟩, rfl⟩
  · rintro ⟨_, ⟨hnone, rfl, rfl⟩ | ⟨message, answer, hmessage, rfl, rfl⟩, rfl⟩
    · exact .not_reacted hnone
    · exact .reacted answer hmessage

theorem lawful_longTerm_iff :
    Lawful c.channel c.caller c.origin c.replies .longTerm t ended ↔ t = [] ∧ ended = .copied := by
  constructor
  · intro h
    cases h with
    | copied => exact ⟨rfl, rfl⟩
  · rintro ⟨rfl, rfl⟩
    exact .copied

/-- A reply that is added is all that an addition leaves behind. -/
theorem left_of_runs_add {e : Except Cause SentReply × ReplyChain} (h : Runs (c.add spec) t e) :
    (e.2, []) = Call.left c (.add spec) (.sent e.1) := by
  obtain ⟨answer, -, rfl⟩ := runs_add_iff.1 h
  rfl

theorem left_of_runs_reply {e : Except Cause SentReply × ReplyChain}
    (h : Runs (c.reply spec) t e) : (e.2, []) = Call.left c (.reply spec) (.sent e.1) := by
  rw [reply] at h
  split at h
  · exact left_of_runs_add h
  · obtain ⟨-, rfl⟩ := Program.runs_done_iff.1 h
    exact (left_eq rfl rfl).symm

/-- A call told by a program runs as the law allows when the law tells the runs of this program and
each of them leaves what the ledger says. -/
theorem runs_told_iff_lawful {α : Type} {call : Call} {p : Requests α} {f : α → CallEnd}
    {g : α → ReplyChain × List ReplyChain} {left : ReplyChain × List ReplyChain}
    (hlaw : Lawful c.channel c.caller c.origin c.replies call t ended ↔
      ∃ a, Runs p t a ∧ ended = f a)
    (hleft : ∀ a, Runs p t a → g a = call.left c (f a)) :
    Runs (p.bind fun a => .done (f a, g a)) t (ended, left) ↔
      Lawful c.channel c.caller c.origin c.replies call t ended ∧ left = call.left c ended := by
  rw [runs_told_iff, hlaw]
  constructor
  · rintro ⟨a, h, he⟩
    obtain ⟨rfl, rfl⟩ := Prod.mk.inj he
    exact ⟨⟨a, h, rfl⟩, hleft a h⟩
  · rintro ⟨⟨a, h, rfl⟩, rfl⟩
    exact ⟨a, h, by rw [hleft a h]⟩

end Law

/-- The runs of a call are those the law allows, and they leave what the ledger says. -/
theorem runs_perform_iff {call : Call} {ended : CallEnd} {left : ReplyChain × List ReplyChain} :
    Runs (call.perform c) t (ended, left) ↔
      Lawful c.channel c.caller c.origin c.replies call t ended ∧ left = call.left c ended := by
  cases call with
  | add spec => exact runs_told_iff_lawful lawful_add_iff fun _ => left_of_runs_add
  | reply spec => exact runs_told_iff_lawful lawful_reply_iff fun _ => left_of_runs_reply
  | edit index spec =>
    exact runs_told_iff_lawful lawful_edit_iff fun _ _ => (left_eq rfl rfl).symm
  | delete index =>
    exact runs_told_iff_lawful lawful_delete_iff fun _ _ => (left_eq rfl rfl).symm
  | react reaction =>
    exact runs_told_iff_lawful lawful_react_iff fun _ _ => (left_eq rfl rfl).symm
  | longTerm =>
    have hleft : Call.left c .longTerm .copied = (c, [c]) := by
      rw [Call.left, CallEnd.replies, List.append_nil]
      rfl
    rw [Call.perform, Program.runs_done_iff, Prod.mk.injEq, lawful_longTerm_iff, and_assoc]
    refine and_congr_right fun _ => and_congr_right ?_
    rintro rfl
    rw [hleft]
    rfl

/-! ## Courses -/

variable {channel : ChannelId} {caller : UserId} {origin : Option MessageId}

/-- A turn leads on from the chains of a ledger iff it is lawful for the replies of the chain that
is called; it leads to the chains of the ledger after it. -/
theorem leads_iff {sent : List (List SentReply)} {x : Turn} {chains' : List ReplyChain} :
    x.Leads (sent.map (mk channel caller origin)) chains' ↔
      ∃ own, sent[x.chain]? = some own ∧
        Lawful channel caller origin own x.call x.exchanges x.ended ∧
          chains' = (x.record sent).map (mk channel caller origin) := by
  have hrecord {own : List SentReply} (hown : sent[x.chain]? = some own) :
      (x.record sent).map (mk channel caller origin) =
        (sent.map (mk channel caller origin)).set x.chain
            ⟨channel, caller, origin, own ++ x.ended.replies⟩ ++
          x.call.copies ⟨channel, caller, origin, own⟩ := by
    rw [Turn.record, hown]
    dsimp only
    rw [List.map_append, List.map_set]
    congr 1
    cases x.call <;> rfl
  constructor
  · rintro ⟨hcalled, hran⟩
    rw [List.getElem?_map] at hcalled
    obtain ⟨own, hown, rfl⟩ := Option.map_eq_some_iff.1 hcalled
    obtain ⟨hlawful, hleft⟩ := runs_perform_iff.1 hran
    obtain ⟨rfl, rfl⟩ := Prod.mk.inj hleft
    exact ⟨own, hown, hlawful, (hrecord hown).symm⟩
  · rintro ⟨own, hown, hlawful, rfl⟩
    rw [hrecord hown]
    have hcalled : (sent.map (mk channel caller origin))[x.chain]? =
        some ⟨channel, caller, origin, own⟩ := by
      rw [List.getElem?_map, hown]
      rfl
    exact .mk hcalled (runs_perform_iff.2 ⟨hlawful, rfl⟩)

/-- The chains of a course are those of its ledger. -/
theorem Course.chains_eq {h : List Turn} {chains : List ReplyChain}
    (hcourse : Course [start channel caller origin] h chains) :
    chains = (ledger h).map (mk channel caller origin) := by
  induction hcourse with
  | opening => rfl
  | turn past leads ih =>
    subst ih
    obtain ⟨own, -, -, rfl⟩ := leads_iff.1 leads
    rw [ledger_append]
    rfl

/-- Every turn of a course is lawful for the replies sent before it. -/
theorem Course.lawful {h : List Turn} {chains : List ReplyChain}
    (hcourse : Course [start channel caller origin] h chains) {before after : List Turn} {x : Turn}
    (hturn : h = before ++ x :: after) :
    ∃ own, (ledger before)[x.chain]? = some own ∧
      Lawful channel caller origin own x.call x.exchanges x.ended := by
  induction hcourse generalizing after with
  | opening => simp at hturn
  | @turn h chains chains' y past leads ih =>
    rcases List.eq_nil_or_concat after with rfl | ⟨after, z, rfl⟩
    -- the turn is the last one
    · obtain ⟨rfl, hx⟩ := List.append_inj' hturn rfl
      obtain rfl := List.head_eq_of_cons_eq hx
      rw [past.chains_eq] at leads
      obtain ⟨own, hown, hlawful, -⟩ := leads_iff.1 leads
      exact ⟨own, hown, hlawful⟩
    · rw [List.concat_eq_append, ← List.cons_append, ← List.append_assoc] at hturn
      exact ih (List.append_inj' hturn rfl).1

/-- A lawful call of a chain may come next. -/
theorem Course.next {h : List Turn} {chains : List ReplyChain} {x : Turn} {own : List SentReply}
    (hcourse : Course [start channel caller origin] h chains)
    (hown : (ledger h)[x.chain]? = some own)
    (hlawful : Lawful channel caller origin own x.call x.exchanges x.ended) :
    Course [start channel caller origin] (h ++ [x])
      ((ledger (h ++ [x])).map (mk channel caller origin)) := by
  have hleads : x.Leads chains ((x.record (ledger h)).map (mk channel caller origin)) := by
    rw [hcourse.chains_eq]
    exact leads_iff.2 ⟨own, hown, hlawful, rfl⟩
  rw [ledger_append]
  exact .turn hcourse hleads

/-- Whatever is called on a new chain and its copies, whichever requests fail and
wherever replies land:

* each chain holds exactly the replies sent in it, in order, behind those that its original
  held when it was copied;
* each call is lawful for the replies which its chain held, and a copy begins with these;
* a chain only grows, by the replies sent in it; calls of other chains leave it alone;
* every lawful call of a chain may come next.
-/
theorem courses_keep_law (channel : ChannelId) (caller : UserId) (origin : Option MessageId)
    (h : List Turn) (chains : List ReplyChain)
    (hcourse : Course [start channel caller origin] h chains) :
    chains = (ledger h).map (mk channel caller origin) ∧
      (∀ before x after, h = before ++ x :: after →
        ∃ own, (ledger before)[x.chain]? = some own ∧
          Lawful channel caller origin own x.call x.exchanges x.ended ∧
          (x.call = .longTerm → (ledger (before ++ [x]))[(ledger before).length]? = some own)) ∧
      (∀ before after k own, h = before ++ after → (ledger before)[k]? = some own →
        (ledger h)[k]? = some (own ++ sentIn k after)) ∧
      (∀ x own, (ledger h)[x.chain]? = some own →
        Lawful channel caller origin own x.call x.exchanges x.ended →
          ∃ chains', Course [start channel caller origin] (h ++ [x]) chains') := by
  refine ⟨hcourse.chains_eq, ?_, ?_, ?_⟩
  · intro before x after hturn
    obtain ⟨own, hown, hlawful⟩ := hcourse.lawful hturn
    refine ⟨own, hown, hlawful, ?_⟩
    intro hcall
    rw [ledger_append]
    exact getElem?_record_longTerm hcall hown
  · intro before after k own hsplit hown
    rw [hsplit, ledger_append]
    exact getElem?_foldl_record hown after
  · intro x own hown hlawful
    exact ⟨_, hcourse.next hown hlawful⟩

/-- A reply to a message, a copy, a reply in the copy that lands elsewhere, a failed reply in the
original, and one more reply in the copy. -/
def threadedTurns : List Turn :=
  let failed : Except Cause SentReply := .error (.ofText "rate limited")
  let sent (channel message : UInt64) : Except Cause SentReply := .ok ⟨⟨channel⟩, ⟨message⟩⟩
  let spec : ReplySpec := .ofText "hello"
  [⟨0, .reply spec, [⟨.send ⟨2⟩ ⟨3⟩ (some ⟨7⟩) spec, sent 2 11⟩], .sent (sent 2 11)⟩,
   ⟨0, .longTerm, [], .copied⟩,
   ⟨1, .add spec, [⟨.send ⟨2⟩ ⟨3⟩ (some ⟨11⟩) spec, sent 5 12⟩], .sent (sent 5 12)⟩,
   ⟨0, .add spec, [⟨.send ⟨2⟩ ⟨3⟩ (some ⟨11⟩) spec, failed⟩], .sent failed⟩,
   ⟨1, .add spec, [⟨.send ⟨2⟩ ⟨3⟩ (some ⟨11⟩) spec, sent 2 13⟩], .sent (sent 2 13)⟩]

theorem course_threadedTurns :
    ∃ chains, Course [start ⟨2⟩ ⟨3⟩ (some ⟨7⟩)] threadedTurns chains := by
  have hreply : Course [start ⟨2⟩ ⟨3⟩ (some ⟨7⟩)] (threadedTurns.take 1) _ :=
    Course.opening.next rfl (.replied _ rfl (.first rfl (by simp)))
  have hcopy : Course [start ⟨2⟩ ⟨3⟩ (some ⟨7⟩)] (threadedTurns.take 2) _ :=
    hreply.next rfl .copied
  have helsewhere : Course [start ⟨2⟩ ⟨3⟩ (some ⟨7⟩)] (threadedTurns.take 3) _ :=
    hcopy.next rfl (.added _ (.latest rfl (rfl : _ = [] ++ _ :: []) rfl (by simp)))
  have hfailed : Course [start ⟨2⟩ ⟨3⟩ (some ⟨7⟩)] (threadedTurns.take 4) _ :=
    helsewhere.next rfl (.added _ (.latest rfl (rfl : _ = [] ++ _ :: []) rfl (by simp)))
  -- the reply that landed elsewhere is passed over
  have hlast : Course [start ⟨2⟩ ⟨3⟩ (some ⟨7⟩)] (threadedTurns.take 5) _ :=
    hfailed.next rfl (.added _ (.latest rfl (rfl : _ = [] ++ _ :: [_]) rfl (by simp)))
  exact ⟨_, hlast⟩

/-- The failed reply leaves the original with its first reply; the copy holds this
one and its own. -/
theorem threaded_turns_keep_law :
    ∃ chains, Course [start ⟨2⟩ ⟨3⟩ (some ⟨7⟩)] threadedTurns chains ∧
      chains = [⟨⟨2⟩, ⟨3⟩, some ⟨7⟩, [⟨⟨2⟩, ⟨11⟩⟩]⟩,
        ⟨⟨2⟩, ⟨3⟩, some ⟨7⟩, [⟨⟨2⟩, ⟨11⟩⟩, ⟨⟨5⟩, ⟨12⟩⟩, ⟨⟨2⟩, ⟨13⟩⟩]⟩] := by
  obtain ⟨chains, hcourse⟩ := course_threadedTurns
  exact ⟨chains, hcourse, (courses_keep_law _ _ _ _ _ hcourse).1⟩

end ChatCommands.ReplyChain
