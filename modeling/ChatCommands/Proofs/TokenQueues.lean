import ChatCommands.Proofs.TokenStreams

set_option autoImplicit false

/-!
# Token streams as queues

A stream holds its tokens in two ways, as ready ones and as text that is still to be cut, and
every operation has to go by both. `Operation` lists what can be done with a stream,
`TokenQueue.perform` does the same with a plain list of tokens, and whatever has been done, the
stream goes on answering as the list of the tokens that it would still give
(`streams_act_as_queues`). Draining is told as the loop that it is (`Drains`): on every stream the
loop comes to an end. A stream that was made of a text or of tokens has nothing at all left then,
since its text never begins with blanks (`IsTrimmed`).
-/

namespace ChatCommands

namespace TokenStream

/-! ## Draining as a loop -/

/-- Reading tokens until there are none gives the tokens and ends with the stream `s'`. -/
inductive Drains : TokenStream → List String → TokenStream → Prop where
  | stop {s : TokenStream} (nothing_left : s.next? = none) : Drains s [] s
  | read {s s₁ s' : TokenStream} {token : String} {tokens : List String}
      (next : s.next? = some (token, s₁)) (rest : Drains s₁ tokens s') :
      Drains s (token :: tokens) s'

theorem drained_of_next?_none {s : TokenStream} (h : s.next? = none) : s.drained = s := by
  rw [drained]
  split
  · rfl
  · rename_i heq
    rw [h] at heq
    cases heq

theorem drained_of_next?_some {s s' : TokenStream} {token : String}
    (h : s.next? = some (token, s')) : s.drained = s'.drained := by
  rw [drained]
  split
  · rename_i heq
    rw [h] at heq
    cases heq
  · rename_i heq
    rw [h] at heq
    obtain ⟨rfl, rfl⟩ := Prod.mk.inj (Option.some.inj heq)
    rfl

/-- The loop ends on every stream, with all of its tokens. -/
theorem drains_toList (s : TokenStream) : Drains s s.toList s.drained := by
  generalize htokens : s.toList = tokens
  induction tokens generalizing s with
  | nil =>
    have hnone : s.next? = none := (next?_eq_none_iff s).2 htokens
    rw [drained_of_next?_none hnone]
    exact .stop hnone
  | cons token tokens ih =>
    obtain ⟨s', hnext, hrest⟩ := next?_of_toList_cons htokens
    rw [drained_of_next?_some hnext]
    exact .read hnext (ih s' hrest)

/-- What the loop comes to is settled by the stream. -/
theorem Drains.eq {s s' : TokenStream} {tokens : List String} (h : Drains s tokens s') :
    tokens = s.toList ∧ s' = s.drained := by
  induction h with
  | stop hnone => exact ⟨((next?_eq_none_iff _).1 hnone).symm, (drained_of_next?_none hnone).symm⟩
  | read hnext _ ih =>
    obtain ⟨rfl, rfl⟩ := ih
    exact ⟨(toList_of_next? hnext).symm, (drained_of_next?_some hnext).symm⟩

/-- A drained stream is at its end. -/
theorem Drains.next?_eq_none {s s' : TokenStream} {tokens : List String} (h : Drains s tokens s') :
    s'.next? = none := by
  induction h with
  | stop hnone => exact hnone
  | read _ _ ih => exact ih

theorem next?_drained (s : TokenStream) : s.drained.next? = none := (drains_toList s).next?_eq_none

theorem toList_drained (s : TokenStream) : s.drained.toList = [] :=
  (next?_eq_none_iff _).1 s.next?_drained

/-- Peeking shows the head of the list view. -/
theorem peek?_eq_head? (s : TokenStream) : s.peek? = s.toList.head? := by
  rw [peek?, peekMany_eq_take]
  cases s.toList with
  | nil => rfl
  | cons token tokens => rfl

/-! ## Operations -/

/-- What can be done with tokens that are to be read in order. -/
inductive Operation where
  | next
  | skip (count : Nat)
  | splice (tokens : List String)
  | peek
  | peekMany (count : Nat)
  | hasRemaining
  | drain

/-- What an operation answers. -/
inductive Answer where
  | nothing
  | token (token : Option String)
  | tokens (tokens : List String)
  | truth (value : Bool)

/-- The answer of a stream, and the stream afterwards. -/
def perform (s : TokenStream) : Operation → Answer × TokenStream
  | .next =>
    match s.next? with
    | some (token, s') => (.token (some token), s')
    | none => (.token none, s)
  | .skip count => (.nothing, s.skip count)
  | .splice tokens => (.nothing, s.splice tokens)
  | .peek => (.token s.peek?, s)
  | .peekMany count => (.tokens (s.peekMany count), s)
  | .hasRemaining => (.truth s.hasRemaining, s)
  | .drain => (.tokens s.drain, s.drained)

/-- The text that is still to be cut begins with no blanks. -/
def IsTrimmed (s : TokenStream) : Prop := Text.trimStart s.rest = s.rest

end TokenStream

/-- The answer of a list of tokens, and the list afterwards. -/
def TokenQueue.perform (tokens : List String) :
    TokenStream.Operation → TokenStream.Answer × List String
  | .next => (.token tokens.head?, tokens.tail)
  | .skip count => (.nothing, tokens.drop count)
  | .splice front => (.nothing, front ++ tokens)
  | .peek => (.token tokens.head?, tokens)
  | .peekMany count => (.tokens (tokens.take count), tokens)
  | .hasRemaining => (.truth (decide (tokens ≠ [])), tokens)
  | .drain => (.tokens tokens, [])

namespace TokenStream

/-- The answers to operations in order, and what is there afterwards. -/
def answers {σ : Type} (perform : σ → Operation → Answer × σ) : σ → List Operation → List Answer × σ
  | s, [] => ([], s)
  | s, op :: ops =>
    let (answer, s) := perform s op
    let (later, s) := answers perform s ops
    (answer :: later, s)

/-- How a stream is made. -/
inductive Opening where
  | text (text : String)
  | tokens (tokens : List String)
  | empty

namespace Opening

/-- The stream that is made. -/
def stream : Opening → TokenStream
  | .text written => .ofText written
  | .tokens given => .ofTokens given
  | .empty => .empty

/-- The tokens that it is made of. -/
def held : Opening → List String
  | .text written => Token.allOf written
  | .tokens given => given
  | .empty => []

/-- A stream holds the tokens that it was opened with. -/
theorem toList_stream (opening : Opening) : opening.stream.toList = opening.held := by
  cases opening with
  | text written => exact toList_ofText written
  | tokens given => exact toList_ofTokens given
  | empty => exact toList_ofTokens []

theorem isTrimmed_stream (opening : Opening) : opening.stream.IsTrimmed := by
  cases opening with
  | text written => exact Text.trimStart_trimStart written.toList
  | tokens given => exact Eq.refl []
  | empty => exact Eq.refl []

end Opening

/-! ## What an operation keeps -/

/-- A stream answers an operation as the list of its tokens, and its tokens are then those
of the list afterwards. -/
theorem perform_eq (s : TokenStream) (op : Operation) :
    (s.perform op).1 = (TokenQueue.perform s.toList op).1 ∧
      (s.perform op).2.toList = (TokenQueue.perform s.toList op).2 := by
  cases op with
  | next =>
    rw [perform]
    cases hnext : s.next? with
    | none =>
      rw [TokenQueue.perform, (next?_eq_none_iff s).1 hnext]
      exact ⟨rfl, rfl⟩
    | some found =>
      rw [TokenQueue.perform, toList_of_next? hnext]
      exact ⟨rfl, rfl⟩
  | skip count => exact ⟨rfl, toList_skip s count⟩
  | splice front => exact ⟨rfl, toList_splice s front⟩
  | peek => exact ⟨congrArg Answer.token s.peek?_eq_head?, rfl⟩
  | peekMany count => exact ⟨congrArg Answer.tokens (peekMany_eq_take s count), rfl⟩
  | hasRemaining =>
    refine ⟨congrArg Answer.truth ?_, rfl⟩
    rw [Bool.eq_iff_iff, hasRemaining_iff, decide_eq_true_iff]
  | drain => exact ⟨congrArg Answer.tokens (drain_eq_toList s), toList_drained s⟩

theorem IsTrimmed.of_next? {s s' : TokenStream} {token : String} (h : s.IsTrimmed)
    (hnext : s.next? = some (token, s')) : s'.IsTrimmed := by
  obtain ⟨pending, rest⟩ := s
  cases pending with
  | cons first pending =>
    obtain ⟨-, rfl⟩ := Prod.mk.inj (Option.some.inj hnext)
    exact h
  | nil =>
    simp only [next?] at hnext
    split at hnext
    · cases hnext
    · obtain ⟨-, rfl⟩ := Prod.mk.inj (Option.some.inj hnext)
      exact Text.trimStart_trimStart _

theorem IsTrimmed.skip {s : TokenStream} (h : s.IsTrimmed) (count : Nat) :
    (s.skip count).IsTrimmed := by
  induction count generalizing s with
  | zero => exact h
  | succ count ih =>
    cases hnext : s.next? with
    | none =>
      rw [skip_of_next?_none hnext]
      exact h
    | some found =>
      rw [skip_succ_of_next? hnext]
      exact ih (h.of_next? hnext)

theorem IsTrimmed.of_drains {s s' : TokenStream} {tokens : List String} (h : s.IsTrimmed)
    (hdrains : Drains s tokens s') : s'.IsTrimmed := by
  induction hdrains with
  | stop => exact h
  | read hnext _ ih => exact ih (h.of_next? hnext)

/-- No operation leaves blanks in front of the uncut text. -/
theorem IsTrimmed.perform {s : TokenStream} (h : s.IsTrimmed) (op : Operation) :
    (s.perform op).2.IsTrimmed := by
  cases op with
  | next =>
    rw [TokenStream.perform]
    cases hnext : s.next? with
    | none => exact h
    | some found => exact h.of_next? hnext
  | skip count => exact h.skip count
  | drain => exact h.of_drains (drains_toList s)
  | splice | peek | peekMany | hasRemaining => exact h

/-- Of a stream whose text begins with no blanks nothing is left when it has been drained. -/
theorem IsTrimmed.drained_eq {s : TokenStream} (h : s.IsTrimmed) : s.drained = .empty := by
  have htrimmed := h.of_drains (drains_toList s)
  have hnone := next?_drained s
  generalize s.drained = s' at htrimmed hnone
  obtain ⟨pending, rest⟩ := s'
  cases pending with
  | cons token pending => cases hnone
  | nil =>
    have hblank : Token.all rest = [] :=
      List.map_eq_nil_iff.1 ((next?_eq_none_iff ⟨[], rest⟩).1 hnone)
    rw [Token.all_eq_nil_iff, htrimmed] at hblank
    exact congrArg (TokenStream.mk []) hblank

/-! ## Runs of operations -/

/-- Whatever is done with a stream, it answers as the list of its tokens does. -/
theorem answers_eq (s : TokenStream) (ops : List Operation) :
    (answers perform s ops).1 = (answers TokenQueue.perform s.toList ops).1 ∧
      (answers perform s ops).2.toList = (answers TokenQueue.perform s.toList ops).2 := by
  induction ops generalizing s with
  | nil => exact ⟨rfl, rfl⟩
  | cons op ops ih =>
    obtain ⟨hanswer, htokens⟩ := s.perform_eq op
    obtain ⟨hlater, hleft⟩ := ih (s.perform op).2
    rw [htokens] at hlater hleft
    exact ⟨congrArg₂ List.cons hanswer hlater, hleft⟩

theorem IsTrimmed.answers {s : TokenStream} (h : s.IsTrimmed) (ops : List Operation) :
    (TokenStream.answers TokenStream.perform s ops).2.IsTrimmed := by
  induction ops generalizing s with
  | nil => exact h
  | cons op ops ih => exact ih (h.perform op)

end TokenStream

open TokenStream

/-- A stream made of a text, of tokens or of nothing, after any operations. They have been answered
as by the list of the tokens that the stream was made of, and what the list is now the stream gives
when it is drained. The next operation, whichever it is, is answered by the stream as by this list,
and leaves a stream that gives what the list is then. Draining comes to an end, with this list and
the empty stream, and in no other way. -/
theorem streams_act_as_queues (opening : Opening) (ops : List Operation) :
    let s := (answers TokenStream.perform opening.stream ops).2
    let tokens := s.drain
    (answers TokenStream.perform opening.stream ops).1 =
        (answers TokenQueue.perform opening.held ops).1 ∧
    tokens = (answers TokenQueue.perform opening.held ops).2 ∧
    (∀ op, (s.perform op).1 = (TokenQueue.perform tokens op).1 ∧
      (s.perform op).2.drain = (TokenQueue.perform tokens op).2) ∧
    s.drained = .empty ∧
    ∀ given s', Drains s given s' ↔ given = tokens ∧ s' = .empty := by
  intro s tokens
  obtain ⟨hanswers, hleft⟩ := answers_eq opening.stream ops
  rw [opening.toList_stream] at hanswers hleft
  have htokens : tokens = s.toList := drain_eq_toList s
  have hempty : s.drained = .empty := (opening.isTrimmed_stream.answers ops).drained_eq
  refine ⟨hanswers, htokens.trans hleft, ?_, hempty, ?_⟩
  · intro op
    rw [drain_eq_toList, htokens]
    exact s.perform_eq op
  · intro given s'
    rw [htokens, ← hempty]
    constructor
    · intro h
      exact h.eq
    · rintro ⟨rfl, rfl⟩
      exact drains_toList s

end ChatCommands
