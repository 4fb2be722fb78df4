set_option autoImplicit false

/-!
# Programs of questions

A program of type `Program Q R α` puts questions of type `Q` one after the other, each to be
answered by a value of `R q`, and ends with a value of `α`. What answers the questions is not part
of the program: a program is run against answers given from outside, and `Runs` says which questions
and answers lead to which end.
-/

namespace ChatCommands

/-- A program that puts questions `Q` and ends with an `α`. -/
inductive Program (Q : Type) (R : Q → Type) (α : Type) : Type where
  | done (value : α)
  | ask (question : Q) (next : R question → Program Q R α)

namespace Program

variable {Q : Type} {R : Q → Type} {α β γ : Type}

/-- The program that goes on with the end of the first one. -/
def bind (p : Program Q R α) (f : α → Program Q R β) : Program Q R β :=
  match p with
  | .done a => f a
  | .ask q k => .ask q fun r => (k r).bind f

/-- The program of a single question. -/
def question (q : Q) : Program Q R (R q) := .ask q .done

instance : Monad (Program Q R) where
  pure := .done
  bind := bind

/-- Going on with nothing changes nothing. -/
theorem bind_done (p : Program Q R α) : p.bind .done = p := by
  induction p with
  | done a => rfl
  | ask q k ih => simp [bind, ih]

/-- Going on twice is going on with both. -/
theorem bind_assoc (p : Program Q R α) (f : α → Program Q R β) (g : β → Program Q R γ) :
    (p.bind f).bind g = p.bind fun a => (f a).bind g := by
  induction p with
  | done a => rfl
  | ask q k ih => simp [bind, ih]

instance : LawfulMonad (Program Q R) :=
  LawfulMonad.mk' _ (fun p => bind_done p) (fun _ _ => rfl) bind_assoc

/-- The program with its questions put in the words of another asker. -/
def translate {Q' : Type} {R' : Q' → Type} (word : Q → Q') (unword : (q : Q) → R' (word q) → R q) :
    Program Q R α → Program Q' R' α
  | .done a => .done a
  | .ask q k => .ask (word q) fun r => (k (unword q r)).translate word unword

/-- The program with each question put by a program of another asker. -/
def substitute {Q' : Type} {R' : Q' → Type} (f : (q : Q) → Program Q' R' (R q)) :
    Program Q R α → Program Q' R' α
  | .done a => .done a
  | .ask q k => (f q).bind fun r => (k r).substitute f

/-- The program run against a state that answers every question. -/
def runWith {σ : Type} (answer : (q : Q) → σ → R q × σ) : Program Q R α → σ → α × σ
  | .done a, s => (a, s)
  | .ask q k, s =>
    let (r, s) := answer q s
    (k r).runWith answer s

/-- A question with its answer. -/
abbrev Exchange (Q : Type) (R : Q → Type) : Type := (q : Q) × R q

/-- `Runs p trace a` holds when the program `p` puts the questions of the trace, in this order, and
ends with `a` if they are answered as the trace says. -/
inductive Runs : Program Q R α → List (Exchange Q R) → α → Prop where
  | done (a : α) : Runs (.done a) [] a
  | ask {q : Q} {k : R q → Program Q R α} {r : R q} {trace : List (Exchange Q R)} {a : α}
      (next : Runs (k r) trace a) : Runs (.ask q k) (⟨q, r⟩ :: trace) a

end Program

end ChatCommands
