import ChatCommands.Effect.Platform
import ChatCommands.Pipeline.Process
import ChatCommands.Proofs.InteractionRuns

set_option autoImplicit false

/-!
# Honest answers

Lookups side by side are put as one request, so their answer has to be tied to what the lookups can
end with: `Move.IsHonest good` says that the answer to a move is one that the lookups themselves can
lead to when the directory answers as in `good`. Every platform answers honestly
(`Platform.isHonest_respond`), and the processing of an event carried out on one is a run of moves
with honest answers (`Pipeline.runs_moves`).
-/

namespace ChatCommands

open Program (Exchange Runs)

variable {good : Exchange Query Query.Answer → Prop}

/-- The lookup can end so when every question is answered as in `good`. -/
def Lookup.MayEnd {α : Type} (good : Exchange Query Query.Answer → Prop) (p : Lookup α)
    (r : Except Failing α) : Prop :=
  ∃ t, p.Ends t r ∧ ∀ x ∈ t, good x

/-- The answer to lookups side by side: an end of each of them, nothing if they were given up at a
limit, or the failure of one of them. -/
def Lookup.MayGather (good : Exchange Query Query.Answer → Prop)
    (lookups : List (Lookup ParameterEnd)) (limit : Option Nat) :
    Except Failing (Option (List ParameterEnd)) → Prop
  | .ok (some ends) => List.Forall₂ (fun p e => p.MayEnd good (.ok e)) lookups ends
  | .ok none => limit.isSome
  | .error f => ∃ p ∈ lookups, p.MayEnd good (.error f)

/-- The answer to a request fits the answers of the directory. -/
def Request.IsHonest (good : Exchange Query Query.Answer → Prop) :
    Exchange Request Request.Answer → Prop
  | ⟨.lookup q, a⟩ => good ⟨q, a⟩
  | ⟨.gather lookups limit, a⟩ => Lookup.MayGather good lookups limit a
  | _ => True

/-- The answer to a move fits the answers of the directory; handlers may end in any way. -/
def Move.IsHonest (good : Exchange Query Query.Answer → Prop) :
    Exchange Move Move.Answer → Prop
  | ⟨.request r, a⟩ => Request.IsHonest good ⟨r, a⟩
  | _ => True

/-! ## Platforms -/

namespace Timeline

variable {α : Type}

/-- The end of a timeline is one that the program can have. -/
theorem runs_ofProgram (answer : (q : Query) → Nat × q.Answer)
    (p : Program Query Query.Answer α) (now : Nat) :
    ∃ t, Runs p t (ofProgram answer p now).result ∧ ∀ x ∈ t, x.2 = (answer x.1).2 := by
  induction p generalizing now with
  | done a => exact ⟨[], .done a, by simp⟩
  | ask q k ih =>
    obtain ⟨t, ht, hx⟩ := ih (answer q).2 (now + (answer q).1)
    refine ⟨⟨q, (answer q).2⟩ :: t, .ask ht, ?_⟩
    intro x hmem
    rcases List.mem_cons.1 hmem with rfl | hmem
    · rfl
    · exact hx x hmem

theorem result_of_firstFailure?_none {parts : List (Timeline (Except Failing α))}
    (h : firstFailure? parts = none) {part : Timeline (Except Failing α)} (hmem : part ∈ parts) :
    ∃ a, part.result = .ok a := by
  induction parts with
  | nil => simp at hmem
  | cons first parts ih =>
    rw [firstFailure?] at h
    cases hresult : first.result with
    | error f =>
      rw [hresult] at h
      cases hlater : firstFailure? parts with
      | none => simp [hlater] at h
      | some later =>
        simp only [hlater, Option.map_some] at h
        split at h <;> simp at h
    | ok a =>
      rw [hresult] at h
      rcases List.mem_cons.1 hmem with rfl | hmem
      · exact ⟨a, hresult⟩
      · exact ih (by simpa using h) hmem

theorem result_of_firstFailure?_some {parts : List (Timeline (Except Failing α))}
    {time count : Nat} {f : Failing} (h : firstFailure? parts = some (time, count, f)) :
    ∃ part ∈ parts, part.result = .error f := by
  induction parts generalizing time count with
  | nil => simp [firstFailure?] at h
  | cons first parts ih =>
    have hfirst : ∃ part ∈ first :: parts, part.result = first.result :=
      ⟨first, List.mem_cons_self, rfl⟩
    have hlater {time' count' : Nat} (hl : firstFailure? parts = some (time', count', f)) :
        ∃ part ∈ first :: parts, part.result = .error f := by
      obtain ⟨part, hmem, hpart⟩ := ih hl
      exact ⟨part, List.mem_cons_of_mem _ hmem, hpart⟩
    rw [firstFailure?] at h
    cases hl : firstFailure? parts with
    | none =>
      cases hresult : first.result with
      | ok a => simp [hl, hresult] at h
      | error f' =>
        simp only [hl, hresult, Option.map_none, Option.some.injEq, Prod.mk.injEq] at h
        obtain ⟨-, -, rfl⟩ := h
        exact hresult ▸ hfirst
    | some later =>
      obtain ⟨time', count', f'⟩ := later
      cases hresult : first.result with
      | ok a =>
        simp only [hl, hresult, Option.map_some, Option.some.injEq, Prod.mk.injEq] at h
        obtain ⟨-, -, rfl⟩ := h
        exact hlater hl
      | error f₀ =>
        simp only [hl, hresult, Option.map_some] at h
        split at h
        · simp only [Option.some.injEq, Prod.mk.injEq] at h
          obtain ⟨-, -, rfl⟩ := h
          exact hlater hl
        · simp only [Option.some.injEq, Prod.mk.injEq] at h
          obtain ⟨-, -, rfl⟩ := h
          exact hresult ▸ hfirst

end Timeline

namespace Platform

variable {σ : Type}

theorem mayEnd_ofProgram (p : Platform σ) (hgood : ∀ q, good ⟨q, (p.answer q).2⟩)
    (l : Lookup ParameterEnd) : l.MayEnd good (Timeline.ofProgram p.answer l.run 0).result := by
  obtain ⟨t, ht, hx⟩ := Timeline.runs_ofProgram p.answer l.run 0
  refine ⟨t, ht, ?_⟩
  rintro ⟨q, a⟩ hmem
  obtain rfl : a = (p.answer q).2 := hx _ hmem
  exact hgood q

/-- Lookups that all end with a value end with the values gathered from them. -/
theorem mayEnd_values (p : Platform σ) (hgood : ∀ q, good ⟨q, (p.answer q).2⟩)
    (lookups : List (Lookup ParameterEnd))
    (h : ∀ l ∈ lookups, ∃ a, (Timeline.ofProgram p.answer l.run 0).result = .ok a) :
    List.Forall₂ (fun l e => l.MayEnd good (.ok e)) lookups
      ((lookups.map fun l => (Timeline.ofProgram p.answer l.run 0).result).filterMap
        Except.toOption) := by
  induction lookups with
  | nil => exact .nil
  | cons l lookups ih =>
    obtain ⟨a, ha⟩ := h l List.mem_cons_self
    have hl := p.mayEnd_ofProgram hgood l
    rw [ha] at hl
    rw [List.map_cons, ha]
    exact .cons hl (ih fun l' hl' => h l' (List.mem_cons_of_mem l hl'))

theorem mayGather_gather (p : Platform σ) (hgood : ∀ q, good ⟨q, (p.answer q).2⟩)
    (lookups : List (Lookup ParameterEnd)) (limit : Option Nat) :
    Lookup.MayGather good lookups limit (p.gather lookups limit).result := by
  have hfree : Lookup.MayGather good lookups limit ((Timeline.gather
      (lookups.map fun l => .ofProgram p.answer l.run 0)).result.map some) := by
    rw [Timeline.gather]
    split
    -- no lookup fails, so each has ended with its value
    · rename_i hnone
      have hvalues := p.mayEnd_values hgood lookups fun l hl =>
        Timeline.result_of_firstFailure?_none hnone (List.mem_map_of_mem hl)
      simpa [Timeline.together, Lookup.MayGather, Except.map, Function.comp_def] using hvalues
    -- the failure that ends them all is that of one lookup
    · rename_i hsome
      obtain ⟨part, hmem, hpart⟩ := Timeline.result_of_firstFailure?_some hsome
      obtain ⟨l, hl, rfl⟩ := List.mem_map.1 hmem
      exact ⟨l, hl, hpart ▸ p.mayEnd_ofProgram hgood l⟩
  rw [gather, Timeline.within]
  split
  · exact hfree
  -- given up, which takes a limit
  · rename_i time htime
    obtain ⟨hlimit, -⟩ := Option.filter_eq_some_iff.1 htime
    exact Option.isSome_of_eq_some hlimit

/-- A platform answers every request honestly. -/
theorem isHonest_respond (p : Platform σ) (hgood : ∀ q, good ⟨q, (p.answer q).2⟩) (r : Request)
    (s : σ) : Request.IsHonest good ⟨r, (p.respond r s).1.result⟩ := by
  cases r with
  | lookup q => exact hgood q
  | gather lookups limit => exact p.mayGather_gather hgood lookups limit
  | openAccess | send | edit | delete | react | record | sleep => trivial

/-- A program carried out on a platform is a run with honest answers. -/
theorem runs_complete {α : Type} (p : Platform σ) (hgood : ∀ q, good ⟨q, (p.answer q).2⟩)
    (prog : Requests α) (now : Nat) (s : σ) :
    ∃ t, Runs prog t (p.complete prog now s).1 ∧ ∀ x ∈ t, Request.IsHonest good x := by
  induction prog generalizing now s with
  | done a => exact ⟨[], .done a, by simp⟩
  | ask r k ih =>
    obtain ⟨t, ht, hx⟩ := ih (p.respond r s).1.result (now + (p.respond r s).1.length)
      (p.hearAll (p.respond r s).1.questions (p.respond r s).2)
    refine ⟨⟨r, (p.respond r s).1.result⟩ :: t, .ask ht, ?_⟩
    intro x hmem
    rcases List.mem_cons.1 hmem with rfl | hmem
    · exact p.isHonest_respond hgood r s
    · exact hx x hmem

end Platform

/-! ## Processing carried out -/

namespace Pipeline

/-- The processing of an event, carried out with honest answers, is a run of its moves with honest
answers. -/
theorem runs_moves (p : Pipeline) (e : Event) {t : List (Exchange Request Request.Answer)}
    {result : Except Failing (Except MatchViolation Ending)} (h : Runs (p.process e) t result)
    (hgood : ∀ x ∈ t, Request.IsHonest good x) :
    ∃ t₀, Runs (p.moves e) t₀ result ∧ ∀ x ∈ t₀, Move.IsHonest good x := by
  obtain ⟨t₀, parts, h₀, rfl, hparts⟩ := Program.runs_substitute_iff.1 h
  refine ⟨t₀, h₀, ?_⟩
  clear h h₀
  induction hparts with
  | nil => simp
  | @cons x part t₀ parts hx _ ih =>
    rw [List.flatten_cons] at hgood
    have hpart : ∀ y ∈ part, Request.IsHonest good y := fun y hy =>
      hgood y (List.mem_append_left _ hy)
    intro y hy
    rcases List.mem_cons.1 hy with rfl | hy
    · obtain ⟨m, a⟩ := y
      -- only requests pass on what they are answered; handlers answer for themselves
      cases m with
      | request r =>
        obtain rfl := Program.runs_question_iff.1 hx
        exact hpart _ (List.mem_singleton_self _)
      | handle | present => trivial
    · exact ih (fun z hz => hgood z (List.mem_append_right _ hz)) y hy

end Pipeline

end ChatCommands
