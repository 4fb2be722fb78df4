import ChatCommands.Effect.Job
import ChatCommands.Proofs.ProgramRuns
import Mathlib.Logic.Hydra

set_option autoImplicit false

/-!
# Progress of jobs

A job that has been polled sleeps beyond the instant (`Job.lt_wake_of_poll`), it can only end in the
ways its program can (`Job.EndsIn`), and a job that was due has less left of its program or fewer
questions to put. As programs are well-founded, jobs side by side cannot be woken without end: what
is left of them all together gets smaller in a well-founded order (`Job.transGen_left_pollAll`).
-/

namespace ChatCommands

open Program (Runs)
open Relation (TransGen ReflTransGen CutExpand)

namespace Program

variable {Q : Type} {R : Q → Type} {α : Type}

/-- What follows an answer to the question of a program. -/
inductive Follows : Program Q R α → Program Q R α → Prop where
  | answer (q : Q) (k : R q → Program Q R α) (r : R q) : Follows (k r) (.ask q k)

/-- No program can be followed for ever: after finitely many answers it is done. -/
theorem wellFounded_follows : WellFounded (Follows (Q := Q) (R := R) (α := α)) := by
  refine ⟨fun p => ?_⟩
  induction p with
  | done a => exact ⟨_, fun _ h => by cases h⟩
  | ask q k ih =>
    refine ⟨_, fun p' h => ?_⟩
    cases h with
    | answer _ _ r => exact ih r

end Program

namespace Job

variable {σ α : Type}

/-! ## Ends -/

/-- Every end that the job can have is good. -/
def EndsIn (good : α → Prop) : Job α → Prop
  | .ended a => good a
  | .asleep _ _ rest => ∀ t a, Runs rest t a → good a

theorem endsIn_advance {good : α → Prop} (p : Platform σ) (now : Nat) (rest : Requests α) (s : σ)
    (h : ∀ t a, Runs rest t a → good a) : (advance p now rest s).1.EndsIn good := by
  induction rest generalizing s with
  | done a => exact h [] a (.done a)
  | ask r k ih =>
    have hnext : ∀ answer t a, Runs (k answer) t a → good a := fun answer t a ht =>
      h (⟨r, answer⟩ :: t) a (.ask ht)
    rw [advance]
    dsimp only
    split
    · exact ih _ _ (hnext _)
    · exact hnext _

/-- What every end of a job satisfies is not changed by polling it. -/
theorem EndsIn.poll {good : α → Prop} {j : Job α} (h : j.EndsIn good) (p : Platform σ) (now : Nat)
    (s : σ) : (j.poll p now s).1.EndsIn good := by
  cases j with
  | ended a => exact h
  | asleep questions wake rest =>
    rw [Job.poll]
    split
    · exact endsIn_advance p now rest _ h
    · exact h

/-! ## Waking -/

/-- A job that goes to sleep wakes later than now. -/
theorem lt_wake_of_advance {p : Platform σ} {now : Nat} {rest : Requests α} {s : σ} {w : Nat}
    (h : (advance p now rest s).1.wake? = some w) : now < w := by
  induction rest generalizing s with
  | done a => cases h
  | ask r k ih =>
    rw [advance] at h
    dsimp only at h
    split at h
    · exact ih _ h
    · rename_i hlength
      generalize hlater : ((p.respond r s).1.questions.filter (·.1 ≠ 0)).map
        (fun x => (now + x.1, x.2)) = later at h
      cases later with
      | nil =>
        obtain rfl := Option.some.inj h
        omega
      | cons x later =>
        obtain rfl := Option.some.inj h
        -- the questions that are left are put after the instant
        have hx : x ∈ ((p.respond r s).1.questions.filter (·.1 ≠ 0)).map
            (fun x => (now + x.1, x.2)) := by
          rw [hlater]
          exact List.mem_cons_self
        obtain ⟨y, hy, rfl⟩ := List.mem_map.1 hx
        have hne : y.1 ≠ 0 := by simpa using (List.mem_filter.1 hy).2
        dsimp only
        omega

/-- A polled job has nothing to do until after the instant. -/
theorem lt_wake_of_poll {p : Platform σ} {now : Nat} {j : Job α} {s : σ} {w : Nat}
    (h : (j.poll p now s).1.wake? = some w) : now < w := by
  cases j with
  | ended a => cases h
  | asleep questions wake rest =>
    rw [Job.poll] at h
    split at h
    · exact lt_wake_of_advance h
    · rename_i hlate
      generalize hlater : questions.filter (now < ·.1) = later at h
      cases later with
      | nil =>
        obtain rfl := Option.some.inj h
        omega
      | cons x later =>
        obtain rfl := Option.some.inj h
        have hx : x ∈ questions.filter (now < ·.1) := by
          rw [hlater]
          exact List.mem_cons_self
        have hlt : now < x.1 := by simpa using (List.mem_filter.1 hx).2
        omega

/-! ## What is left -/

/-- What is left of a job: its program, and the number of its questions. -/
abbrev Left (α : Type) : Type := Requests α × Nat

/-- Less is left: the program has gone on, or questions have been put. -/
def Less : Left α → Left α → Prop := Prod.Lex (TransGen Program.Follows) (· < ·)

theorem wellFounded_less : WellFounded (Less (α := α)) :=
  WellFounded.prod_lex Program.wellFounded_follows.transGen Nat.lt_wfRel.wf

/-- What is left of a job; nothing of one that has ended. -/
def left? : Job α → Option (Left α)
  | .ended _ => none
  | .asleep questions _ rest => some (rest, questions.length)

/-- Less is left of one job than of another. -/
def Ahead (j' j : Job α) : Prop := ∃ x, j.left? = some x ∧ ∀ x' ∈ j'.left?, Less x' x

/-- The job has something to do at an instant. -/
def IsDue (now : Nat) (j : Job α) : Prop := ∃ w, j.wake? = some w ∧ w ≤ now

theorem follows_of_advance {p : Platform σ} {now : Nat} {rest : Requests α} {s : σ} :
    ∀ x' ∈ (advance p now rest s).1.left?, TransGen Program.Follows x'.1 rest := by
  induction rest generalizing s with
  | done a => intro x' hx'; cases hx'
  | ask r k ih =>
    intro x' hx'
    rw [advance] at hx'
    dsimp only at hx'
    split at hx'
    · exact (ih _ x' hx').tail (.answer r k _)
    · obtain rfl := Option.some.inj hx'
      exact .single (.answer r k _)

/-- A poll leaves all of a job as it was, or less of it; less, if it was due. -/
theorem left_poll (p : Platform σ) (now : Nat) (j : Job α) (s : σ) :
    ((j.poll p now s).1.left? = j.left? ∨ (j.poll p now s).1.Ahead j) ∧
      (j.IsDue now → (j.poll p now s).1.Ahead j) := by
  cases j with
  | ended a => exact ⟨Or.inl rfl, by rintro ⟨w, hw, -⟩; cases hw⟩
  | asleep questions wake rest =>
    rw [Job.poll]
    split
    · have hahead : (advance p now rest (p.hearAll (questions.filter (·.1 ≤ now)) s)).1.Ahead
          (.asleep questions wake rest) :=
        ⟨_, rfl, fun x' hx' => .left _ _ (follows_of_advance x' hx')⟩
      exact ⟨Or.inr hahead, fun _ => hahead⟩
    · rename_i hlate
      -- the program waits on, and some questions may have been put
      have hahead : (questions.filter (now < ·.1)).length < questions.length →
          (asleep (questions.filter (now < ·.1)) wake rest).Ahead
            (.asleep questions wake rest) := by
        intro hlt
        refine ⟨_, rfl, fun x' hx' => ?_⟩
        obtain rfl := Option.some.inj hx'
        exact .right _ hlt
      constructor
      · rcases Nat.lt_or_ge (questions.filter (now < ·.1)).length questions.length with hlt | hge
        · exact Or.inr (hahead hlt)
        · have heq := Nat.le_antisymm (List.length_filter_le _ questions) hge
          exact Or.inl (by rw [left?, left?, heq])
      · rintro ⟨w, hw, hdue⟩
        refine hahead ?_
        cases questions with
        | nil =>
          obtain rfl := Option.some.inj hw
          omega
        | cons x questions =>
          obtain rfl := Option.some.inj hw
          have hfirst : x.1 ≤ now := by omega
          exact List.length_filter_lt_length_iff_exists.2
            ⟨x, List.mem_cons_self, by simpa using hfirst⟩

/-! ## Jobs side by side -/

/-- What is left of jobs. -/
def left (js : List (Job α)) : Multiset (Left α) := (js.filterMap left? : List (Left α))

theorem forall_pollAll {P : Job α → Prop} {p : Platform σ} {now : Nat} {js : List (Job α)}
    (h : ∀ j ∈ js, ∀ s, P (j.poll p now s).1) (s : σ) : ∀ j ∈ (pollAll p now js s).1, P j := by
  induction js generalizing s with
  | nil => exact fun j hj => by cases hj
  | cons j js ih =>
    intro j' hj'
    rcases List.mem_cons.1 hj' with rfl | hj'
    · exact h j List.mem_cons_self s
    · exact ih (fun j hj => h j (List.mem_cons_of_mem _ hj)) _ j' hj'

theorem left_cons (j : Job α) (js : List (Job α)) :
    left (j :: js) = (j.left?.toList : Multiset (Left α)) + left js := by
  cases h : j.left? <;> simp [left, h]

theorem left_filter_asleep (js : List (Job α)) : left (js.filter (·.value?.isNone)) = left js := by
  induction js with
  | nil => rfl
  | cons j js ih =>
    cases j with
    | ended a => exact ih
    | asleep questions wake rest => rw [List.filter_cons_of_pos rfl, left_cons, left_cons, ih]

/-- When one job gets on, what all jobs have left becomes less. -/
theorem cutExpand_left_cons {j j' : Job α} (h : j'.Ahead j) (js : List (Job α)) :
    CutExpand Less (left (j' :: js)) (left (j :: js)) := by
  obtain ⟨x, hx, hless⟩ := h
  rw [left_cons, left_cons, hx, add_comm, add_comm (Multiset.ofList _)]
  refine (Relation.cutExpand_add_left _).2 (Relation.cutExpand_singleton fun x' hx' => ?_)
  exact hless x' (by simpa using hx')

/-- Polled jobs, some of them due: there is less left of them all. -/
theorem transGen_left_pollAll (p : Platform σ) (now : Nat) (js : List (Job α)) (s : σ) :
    ReflTransGen (CutExpand Less) (left (pollAll p now js s).1) (left js) ∧
      ((∃ j ∈ js, j.IsDue now) →
        TransGen (CutExpand Less) (left (pollAll p now js s).1) (left js)) := by
  induction js generalizing s with
  | nil => exact ⟨.refl, by simp⟩
  | cons j js ih =>
    obtain ⟨hpolled, hahead⟩ := left_poll p now j s
    obtain ⟨hrest, hless⟩ := ih (j.poll p now s).2
    -- first the rest is polled beside the job as it was, then the job itself
    have hbeside : ∀ M N, CutExpand Less M N → CutExpand Less
        ((j.left?.toList : Multiset (Left α)) + M) ((j.left?.toList : Multiset (Left α)) + N) :=
      fun _ _ h => (Relation.cutExpand_add_left _).2 h
    have htail : ReflTransGen (CutExpand Less)
        (left (j :: (pollAll p now js (j.poll p now s).2).1)) (left (j :: js)) := by
      rw [left_cons, left_cons]
      exact hrest.lift _ hbeside
    have hhead : ReflTransGen (CutExpand Less) (left (pollAll p now (j :: js) s).1)
        (left (j :: (pollAll p now js (j.poll p now s).2).1)) := by
      rcases hpolled with hsame | hpolled
      · rw [pollAll, left_cons, left_cons, hsame]
      · exact .single (cutExpand_left_cons hpolled _)
    refine ⟨hhead.trans htail, ?_⟩
    rintro ⟨k, hk, hdue⟩
    rcases List.mem_cons.1 hk with rfl | hk
    · exact (TransGen.single (cutExpand_left_cons (hahead hdue) _)).trans_left htail
    · refine TransGen.trans_right hhead ?_
      rw [left_cons, left_cons]
      exact (hless ⟨k, hk, hdue⟩).lift _ hbeside

end Job

end ChatCommands
