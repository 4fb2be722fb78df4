import ChatCommands.Effect.Program
import Mathlib.Data.List.Forall2

set_option autoImplicit false

/-!
# Runs of programs

`Runs p trace a` tells a whole run of a program. This module adds `Asks p trace q`: after the
exchanges of the trace, the program puts the question `q` next. Both relations are computed on each
way of building programs: on the end, on a question, on going on (`runs_bind_iff`, `asks_bind_iff`),
on translation (`runs_translate_iff`) and on substitution (`runs_substitute_iff`). Every way of
answering leads a program to an end (`runs_runWith`).
-/

namespace ChatCommands.Program

variable {Q : Type} {R : Q → Type} {α β : Type}

/-- `Asks p trace q` holds when the program `p` puts the question `q` after the exchanges of the
trace. -/
inductive Asks : Program Q R α → List (Exchange Q R) → Q → Prop where
  | now (q : Q) (k : R q → Program Q R α) : Asks (.ask q k) [] q
  | later {q q' : Q} {k : R q → Program Q R α} {r : R q} {trace : List (Exchange Q R)}
      (next : Asks (k r) trace q') : Asks (.ask q k) (⟨q, r⟩ :: trace) q'

/-! ## Runs -/

@[simp] theorem runs_done_iff {a b : α} {t : List (Exchange Q R)} :
    Runs (.done a) t b ↔ t = [] ∧ b = a := by
  constructor
  · intro h
    cases h
    exact ⟨rfl, rfl⟩
  · rintro ⟨rfl, rfl⟩
    exact .done b

theorem runs_ask_iff {q : Q} {k : R q → Program Q R α} {t : List (Exchange Q R)} {a : α} :
    Runs (.ask q k) t a ↔ ∃ r t', t = ⟨q, r⟩ :: t' ∧ Runs (k r) t' a := by
  constructor
  · intro h
    cases h with
    | ask next => exact ⟨_, _, rfl, next⟩
  · rintro ⟨r, t', rfl, next⟩
    exact .ask next

/-- A run that goes on is a run of the first part, then a run of what follows its end. -/
theorem runs_bind_iff {p : Program Q R α} {f : α → Program Q R β} {t : List (Exchange Q R)}
    {b : β} : Runs (p.bind f) t b ↔ ∃ t₁ t₂ a, t = t₁ ++ t₂ ∧ Runs p t₁ a ∧ Runs (f a) t₂ b := by
  induction p generalizing t with
  | done a =>
    constructor
    · intro h
      exact ⟨[], t, a, rfl, .done a, h⟩
    · rintro ⟨t₁, t₂, a', rfl, h₁, h₂⟩
      obtain ⟨rfl, rfl⟩ := runs_done_iff.1 h₁
      exact h₂
  | ask q k ih =>
    constructor
    · intro h
      obtain ⟨r, t', rfl, h'⟩ := runs_ask_iff.1 h
      -- behind the first answer the run splits where the first part ends
      obtain ⟨t₁, t₂, a, rfl, h₁, h₂⟩ := (ih r).1 h'
      exact ⟨⟨q, r⟩ :: t₁, t₂, a, rfl, .ask h₁, h₂⟩
    · rintro ⟨t₁, t₂, a, rfl, h₁, h₂⟩
      obtain ⟨r, t', rfl, h'⟩ := runs_ask_iff.1 h₁
      exact .ask ((ih r).2 ⟨t', t₂, a, rfl, h', h₂⟩)

theorem runs_question_iff {q : Q} {t : List (Exchange Q R)} {r : R q} :
    Runs (.question q) t r ↔ t = [⟨q, r⟩] := by
  constructor
  · intro h
    obtain ⟨r', t', rfl, h'⟩ := runs_ask_iff.1 h
    obtain ⟨rfl, rfl⟩ := runs_done_iff.1 h'
    rfl
  · rintro rfl
    exact .ask (.done r)

/-- Every way of answering leads to an end, by a run in which each answer is the one given. -/
theorem runs_runWith {σ : Type} (answer : (q : Q) → σ → R q × σ) (p : Program Q R α) (w : σ) :
    ∃ t, Runs p t (p.runWith answer w).1 ∧ ∀ x ∈ t, ∃ w', x.2 = (answer x.1 w').1 := by
  induction p generalizing w with
  | done a => exact ⟨[], .done a, by simp⟩
  | ask q k ih =>
    obtain ⟨t, ht, hx⟩ := ih (answer q w).1 (answer q w).2
    -- the first question is answered from `w`, all others from the states after it
    refine ⟨⟨q, (answer q w).1⟩ :: t, .ask ht, ?_⟩
    intro x hmem
    rcases List.mem_cons.1 hmem with rfl | hmem
    · exact ⟨w, rfl⟩
    · exact hx x hmem

/-! ## The next question -/

@[simp] theorem not_asks_done {a : α} {t : List (Exchange Q R)} {q : Q} :
    ¬ Asks (R := R) (.done a) t q := by
  intro h
  cases h

theorem asks_ask_iff {q q' : Q} {k : R q → Program Q R α} {t : List (Exchange Q R)} :
    Asks (.ask q k) t q' ↔
      (t = [] ∧ q' = q) ∨ ∃ r t', t = ⟨q, r⟩ :: t' ∧ Asks (k r) t' q' := by
  constructor
  · intro h
    cases h with
    | now => exact Or.inl ⟨rfl, rfl⟩
    | later next => exact Or.inr ⟨_, _, rfl, next⟩
  · rintro (⟨rfl, rfl⟩ | ⟨r, t', rfl, next⟩)
    · exact .now q' k
    · exact .later next

/-- The next question of a program that goes on is one of its first part, or one of what follows the
end of the first part. -/
theorem asks_bind_iff {p : Program Q R α} {f : α → Program Q R β} {t : List (Exchange Q R)}
    {q : Q} :
    Asks (p.bind f) t q ↔
      Asks p t q ∨ ∃ t₁ t₂ a, t = t₁ ++ t₂ ∧ Runs p t₁ a ∧ Asks (f a) t₂ q := by
  induction p generalizing t with
  | done a =>
    constructor
    · intro h
      exact Or.inr ⟨[], t, a, rfl, .done a, h⟩
    · rintro (h | ⟨t₁, t₂, a', rfl, h₁, h₂⟩)
      · exact absurd h not_asks_done
      · obtain ⟨rfl, rfl⟩ := runs_done_iff.1 h₁
        exact h₂
  | ask q' k ih =>
    constructor
    · intro h
      -- the first question is next itself, or the next one lies behind its answer
      rcases asks_ask_iff.1 h with ⟨rfl, rfl⟩ | ⟨r, t', rfl, h'⟩
      · exact Or.inl (.now _ _)
      · rcases (ih r).1 h' with h₁ | ⟨t₁, t₂, a, rfl, h₁, h₂⟩
        · exact Or.inl (.later h₁)
        · exact Or.inr ⟨⟨q', r⟩ :: t₁, t₂, a, rfl, .ask h₁, h₂⟩
    · rintro (h | ⟨t₁, t₂, a, rfl, h₁, h₂⟩)
      · rcases asks_ask_iff.1 h with ⟨rfl, rfl⟩ | ⟨r, t', rfl, h'⟩
        · exact .now _ _
        · exact .later ((ih r).2 (Or.inl h'))
      · obtain ⟨r, t', rfl, h'⟩ := runs_ask_iff.1 h₁
        exact .later ((ih r).2 (Or.inr ⟨t', t₂, a, rfl, h', h₂⟩))

/-! ## Translation and substitution -/

section Translate

variable {Q' : Type} {R' : Q' → Type}

/-- An exchange in the words of another asker. -/
def Exchange.reworded (word : Q → Q') (x : Exchange Q fun q => R' (word q)) : Exchange Q' R' :=
  ⟨word x.1, x.2⟩

/-- The runs of a translated program are the runs of the program, in other words. -/
theorem runs_translate_iff (word : Q → Q') {p : Program Q (fun q => R' (word q)) α}
    {t : List (Exchange Q' R')} {a : α} :
    Runs (p.translate word fun _ r => r) t a ↔
      ∃ t₀, t = t₀.map (Exchange.reworded word) ∧ Runs p t₀ a := by
  induction p generalizing t with
  | done b =>
    constructor
    · intro h
      obtain ⟨rfl, rfl⟩ := runs_done_iff.1 h
      exact ⟨[], rfl, .done a⟩
    · rintro ⟨t₀, rfl, h⟩
      obtain ⟨rfl, rfl⟩ := runs_done_iff.1 h
      exact .done a
  | ask q k ih =>
    constructor
    · intro h
      obtain ⟨r, t', rfl, h'⟩ := runs_ask_iff.1 h
      obtain ⟨t₀, rfl, h₀⟩ := (ih r).1 h'
      exact ⟨⟨q, r⟩ :: t₀, rfl, .ask h₀⟩
    · rintro ⟨t₀, rfl, h⟩
      obtain ⟨r, t', rfl, h'⟩ := runs_ask_iff.1 h
      exact .ask ((ih r).2 ⟨t', rfl, h'⟩)

/-- A translated program asks in the other words only. -/
theorem asks_translate {word : Q → Q'} {unword : (q : Q) → R' (word q) → R q} {p : Program Q R α}
    {t : List (Exchange Q' R')} {q' : Q'} (h : Asks (p.translate word unword) t q') :
    ∃ q, q' = word q := by
  induction p generalizing t with
  | done a => exact absurd h not_asks_done
  | ask q k ih =>
    rcases asks_ask_iff.1 h with ⟨-, rfl⟩ | ⟨r, t', -, h'⟩
    · exact ⟨q, rfl⟩
    · exact ih (unword q r) h'

/-- The runs of a program whose questions are put by other programs: a run of the program, and for
each of its exchanges a run of the program that puts its question. -/
theorem runs_substitute_iff {f : (q : Q) → Program Q' R' (R q)} {p : Program Q R α}
    {t : List (Exchange Q' R')} {a : α} :
    Runs (p.substitute f) t a ↔
      ∃ t₀ parts, Runs p t₀ a ∧ t = parts.flatten ∧
        List.Forall₂ (fun (x : Exchange Q R) part => Runs (f x.1) part x.2) t₀ parts := by
  induction p generalizing t with
  | done b =>
    constructor
    · intro h
      obtain ⟨rfl, rfl⟩ := runs_done_iff.1 h
      exact ⟨[], [], .done a, rfl, .nil⟩
    · rintro ⟨t₀, parts, h, rfl, hparts⟩
      obtain ⟨rfl, rfl⟩ := runs_done_iff.1 h
      cases hparts
      exact .done a
  | ask q k ih =>
    constructor
    · intro h
      -- the exchanges of the first question come first, those of the rest follow
      obtain ⟨t₁, t₂, r, rfl, h₁, h₂⟩ := runs_bind_iff.1 h
      obtain ⟨t₀, parts, h₀, rfl, hparts⟩ := (ih r).1 h₂
      exact ⟨⟨q, r⟩ :: t₀, t₁ :: parts, .ask h₀, rfl, .cons h₁ hparts⟩
    · rintro ⟨t₀, parts, h, rfl, hparts⟩
      obtain ⟨r, t', rfl, h'⟩ := runs_ask_iff.1 h
      cases hparts with
      | cons h₁ hrest =>
        exact runs_bind_iff.2 ⟨_, _, r, rfl, h₁, (ih r).2 ⟨t', _, h', rfl, hrest⟩⟩

end Translate

end ChatCommands.Program
