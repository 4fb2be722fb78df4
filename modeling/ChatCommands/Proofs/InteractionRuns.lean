import ChatCommands.Effect.Procedure
import ChatCommands.Proofs.ProgramRuns

set_option autoImplicit false

/-!
# Runs with a session

Acts and procedures are programs that carry a session and may fail. `Ends x s t r s'` tells a whole
run of one from the session `s`: its exchanges, how it ended and the session it left; `Puts x s t q`
tells that it puts `q` after the exchanges `t`. Lookups, which carry no session, have `Lookup.Ends`.
The lemmas compute these relations on each way of building acts, procedures and lookups, so that the
stages of a pipeline are never unfolded below them.
-/

namespace ChatCommands

open Program (Exchange Runs Asks)

/-- A program with a session at hand, which may fail. -/
abbrev Interaction (Q : Type) (R : Q → Type) (α : Type) : Type :=
  ExceptT Failing (StateT Session (Program Q R)) α

/-- The exchanges of a procedure. -/
abbrev Trace : Type := List (Exchange Move Move.Answer)

namespace Interaction

variable {Q : Type} {R : Q → Type} {α β : Type} {s s' : Session}

/-- From the session `s` the interaction has the exchanges `t`, ends with `r` and leaves `s'`. -/
def Ends (x : Interaction Q R α) (s : Session) (t : List (Exchange Q R)) (r : Except Failing α)
    (s' : Session) : Prop :=
  Runs (x.run.run s) t (r, s')

/-- From the session `s` the interaction puts the question `q` after the exchanges `t`. -/
def Puts (x : Interaction Q R α) (s : Session) (t : List (Exchange Q R)) (q : Q) : Prop :=
  Asks (x.run.run s) t q

/-- What follows runs from the session that is left, and not at all after a failure. -/
theorem run_bind (x : Interaction Q R α) (f : α → Interaction Q R β) (s : Session) :
    (x >>= f).run.run s = (x.run.run s).bind fun e =>
      match e.1 with
      | .ok a => (f a).run.run e.2
      | .error failing => .done (.error failing, e.2) := by
  rw [ExceptT.run_bind, StateT.run_bind]
  congr 1
  funext e
  obtain ⟨r, s'⟩ := e
  cases r <;> rfl

@[simp] theorem ends_pure_iff {a : α} {t : List (Exchange Q R)} {r : Except Failing α} :
    Ends (pure a) s t r s' ↔ t = [] ∧ r = .ok a ∧ s' = s := by
  show Runs (.done (.ok a, s)) t (r, s') ↔ _
  rw [Program.runs_done_iff, Prod.mk.injEq]

/-- A run that goes on after a value, or a run that fails before. -/
theorem ends_bind_iff {x : Interaction Q R α} {f : α → Interaction Q R β}
    {t : List (Exchange Q R)} {r : Except Failing β} :
    Ends (x >>= f) s t r s' ↔
      (∃ a s₁ t₁ t₂, t = t₁ ++ t₂ ∧ Ends x s t₁ (.ok a) s₁ ∧ Ends (f a) s₁ t₂ r s') ∨
        ∃ failing, r = .error failing ∧ Ends x s t (.error failing) s' := by
  rw [Ends, run_bind, Program.runs_bind_iff]
  constructor
  · rintro ⟨t₁, t₂, ⟨r₁, s₁⟩, rfl, h₁, h₂⟩
    cases r₁ with
    | ok a => exact Or.inl ⟨a, s₁, t₁, t₂, rfl, h₁, h₂⟩
    -- a failure ends the whole, without an exchange of what would go on
    | error failing =>
      obtain ⟨rfl, he⟩ := Program.runs_done_iff.1 h₂
      obtain ⟨rfl, rfl⟩ := Prod.mk.inj he
      rw [List.append_nil]
      exact Or.inr ⟨failing, rfl, h₁⟩
  · rintro (⟨a, s₁, t₁, t₂, rfl, h₁, h₂⟩ | ⟨failing, rfl, h₁⟩)
    · exact ⟨t₁, t₂, (.ok a, s₁), rfl, h₁, h₂⟩
    · exact ⟨t, [], (.error failing, s'), by simp, h₁, .done _⟩

/-- The runs of an interaction whose value is told in other words. -/
theorem ends_map_iff {x : Interaction Q R α} {f : α → β} {t : List (Exchange Q R)}
    {r : Except Failing β} :
    Ends (do return f (← x)) s t r s' ↔ ∃ r₀, Ends x s t r₀ s' ∧ r = r₀.map f := by
  rw [ends_bind_iff]
  constructor
  · rintro (⟨a, s₁, t₁, t₂, rfl, h₁, h₂⟩ | ⟨failing, rfl, h₁⟩)
    · obtain ⟨rfl, rfl, rfl⟩ := ends_pure_iff.1 h₂
      rw [List.append_nil]
      exact ⟨.ok a, h₁, rfl⟩
    · exact ⟨.error failing, h₁, rfl⟩
  · rintro ⟨r₀, h, rfl⟩
    cases r₀ with
    | ok a =>
      exact Or.inl ⟨a, s', t, [], by rw [List.append_nil], h, ends_pure_iff.2 ⟨rfl, rfl, rfl⟩⟩
    | error failing => exact Or.inr ⟨failing, rfl, h⟩

@[simp] theorem not_puts_pure {a : α} {t : List (Exchange Q R)} {q : Q} :
    ¬ Puts (R := R) (pure a) s t q :=
  Program.not_asks_done

/-- A question is put by the first part, or after its run by what goes on with its value. -/
theorem puts_bind_iff {x : Interaction Q R α} {f : α → Interaction Q R β}
    {t : List (Exchange Q R)} {q : Q} :
    Puts (x >>= f) s t q ↔
      Puts x s t q ∨
        ∃ a s₁ t₁ t₂, t = t₁ ++ t₂ ∧ Ends x s t₁ (.ok a) s₁ ∧ Puts (f a) s₁ t₂ q := by
  rw [Puts, run_bind, Program.asks_bind_iff]
  constructor
  · rintro (h | ⟨t₁, t₂, ⟨r₁, s₁⟩, rfl, h₁, h₂⟩)
    · exact Or.inl h
    · cases r₁ with
      | ok a => exact Or.inr ⟨a, s₁, t₁, t₂, rfl, h₁, h₂⟩
      -- after a failure nothing is put
      | error failing => exact absurd h₂ Program.not_asks_done
  · rintro (h | ⟨a, s₁, t₁, t₂, rfl, h₁, h₂⟩)
    · exact Or.inl h
    · exact Or.inr ⟨t₁, t₂, (.ok a, s₁), rfl, h₁, h₂⟩

end Interaction

open Interaction

/-- The end of an attempt, which has an error as a value. -/
def Failing.attempted {α : Type} : Except Failing α → Except Failing (Except Cause α)
  | .ok a => .ok (.ok a)
  | .error (.error cause) => .ok (.error cause)
  | .error (.breakdown b) => .error (.breakdown b)

open Failing (attempted)

/-! ## Lookups -/

namespace Lookup

variable {α β : Type}

/-- The lookup has the exchanges `t` and ends with `r`. -/
def Ends (p : Lookup α) (t : List (Exchange Query Query.Answer)) (r : Except Failing α) : Prop :=
  Runs p.run t r

@[simp] theorem ends_pure_iff {a : α} {t : List (Exchange Query Query.Answer)}
    {r : Except Failing α} : Ends (pure a) t r ↔ t = [] ∧ r = .ok a :=
  Program.runs_done_iff

/-- A lookup that goes on after a value, or one that fails before. -/
theorem ends_bind_iff {p : Lookup α} {f : α → Lookup β} {t : List (Exchange Query Query.Answer)}
    {r : Except Failing β} :
    Ends (p >>= f) t r ↔
      (∃ a t₁ t₂, t = t₁ ++ t₂ ∧ Ends p t₁ (.ok a) ∧ Ends (f a) t₂ r) ∨
        ∃ failing, r = .error failing ∧ Ends p t (.error failing) := by
  have hrun : (p >>= f).run = p.run.bind fun r =>
      match r with
      | .ok a => (f a).run
      | .error failing => .done (.error failing) := by
    rw [ExceptT.run_bind]
    show p.run.bind _ = _
    congr 1
    funext r
    cases r <;> rfl
  rw [Ends, hrun, Program.runs_bind_iff]
  constructor
  · rintro ⟨t₁, t₂, r₁, rfl, h₁, h₂⟩
    cases r₁ with
    | ok a => exact Or.inl ⟨a, t₁, t₂, rfl, h₁, h₂⟩
    | error failing =>
      obtain ⟨rfl, rfl⟩ := Program.runs_done_iff.1 h₂
      rw [List.append_nil]
      exact Or.inr ⟨failing, rfl, h₁⟩
  · rintro (⟨a, t₁, t₂, rfl, h₁, h₂⟩ | ⟨failing, rfl, h₁⟩)
    · exact ⟨t₁, t₂, .ok a, rfl, h₁, h₂⟩
    · exact ⟨t, [], .error failing, by simp, h₁, .done _⟩

/-- An attempt has the exchanges of what is attempted, and a breakdown is not caught. -/
theorem ends_attempt_iff {p : Lookup α} {t : List (Exchange Query Query.Answer)}
    {r : Except Failing (Except Cause α)} :
    Ends p.attempt t r ↔ ∃ r₀, Ends p t r₀ ∧ r = attempted r₀ := by
  have hrun : p.attempt.run = p.run.bind fun r₀ => .done (attempted r₀) := by
    show (p.run.bind _).bind _ = _
    rw [Program.bind_assoc]
    congr 1
    funext r₀
    rcases r₀ with (cause | b) | a <;> rfl
  rw [Ends, hrun, Program.runs_bind_iff]
  constructor
  · rintro ⟨t₁, t₂, r₀, rfl, h₁, h₂⟩
    obtain ⟨rfl, rfl⟩ := Program.runs_done_iff.1 h₂
    rw [List.append_nil]
    exact ⟨r₀, h₁, rfl⟩
  · rintro ⟨r₀, h₁, rfl⟩
    exact ⟨t, [], r₀, by simp, h₁, .done _⟩

end Lookup

/-! ## Acts -/

namespace Act

variable {α β : Type} {s s' : Session} {t : List (Exchange Request Request.Answer)}

/-- The exchange of a question to the directory, as a request. -/
def lookedUp (x : Exchange Query Query.Answer) : Exchange Request Request.Answer :=
  ⟨.lookup x.1, x.2⟩

/-- An attempt leaves the session as what is attempted left it, even where that failed. -/
theorem ends_attempt_iff {p : Act α} {r : Except Failing (Except Cause α)} :
    Ends p.attempt s t r s' ↔ ∃ r₀, Ends p s t r₀ s' ∧ r = attempted r₀ := by
  have hrun : p.attempt.run.run s = (p.run.run s).bind fun e => .done (attempted e.1, e.2) := by
    show ((p.run.run s).bind _).bind _ = _
    rw [Program.bind_assoc]
    congr 1
    funext e
    rcases e with ⟨(cause | b) | a, s'⟩ <;> rfl
  rw [Ends, hrun, Program.runs_bind_iff]
  constructor
  · rintro ⟨t₁, t₂, ⟨r₀, s₀⟩, rfl, h₁, h₂⟩
    obtain ⟨rfl, he⟩ := Program.runs_done_iff.1 h₂
    obtain ⟨rfl, rfl⟩ := Prod.mk.inj he
    rw [List.append_nil]
    exact ⟨r₀, h₁, rfl⟩
  · rintro ⟨r₀, h₁, rfl⟩
    exact ⟨t, [], (r₀, s'), by simp, h₁, .done _⟩

/-- Requests that know nothing of the session leave it alone. -/
theorem ends_ofEnding_iff {p : Requests (Except Failing α)} {r : Except Failing α} :
    Ends (ofEnding p) s t r s' ↔ Runs p t r ∧ s' = s := by
  show Runs (p.bind fun a => .done (a, s)) t (r, s') ↔ _
  rw [Program.runs_bind_iff]
  constructor
  · rintro ⟨t₁, t₂, a, rfl, h₁, h₂⟩
    obtain ⟨rfl, he⟩ := Program.runs_done_iff.1 h₂
    obtain ⟨rfl, rfl⟩ := Prod.mk.inj he
    rw [List.append_nil]
    exact ⟨h₁, rfl⟩
  · rintro ⟨h, rfl⟩
    exact ⟨t, [], r, by simp, h, .done _⟩

/-- A lookup has its exchanges as requests, and leaves the session alone. -/
theorem ends_lookup_iff {p : Lookup α} {r : Except Failing α} :
    Ends (lookup p) s t r s' ↔ (∃ t₀, t = t₀.map lookedUp ∧ p.Ends t₀ r) ∧ s' = s := by
  rw [lookup, ends_ofEnding_iff, Requests.ofLookup]
  exact and_congr_left fun _ => Program.runs_translate_iff Request.lookup

theorem ends_fail_iff {cause : Cause} {r : Except Failing α} :
    Ends (fail cause) s t r s' ↔ t = [] ∧ r = .error (.error cause) ∧ s' = s := by
  show Runs (.done (.error (.error cause), s)) t (r, s') ↔ _
  rw [Program.runs_done_iff, Prod.mk.injEq]

theorem ends_ofExcept_iff {x : Except Cause α} {r : Except Failing α} :
    Ends (ofExcept x) s t r s' ↔ t = [] ∧ r = x.mapError .error ∧ s' = s := by
  cases x with
  | ok a => exact ends_pure_iff
  | error cause => exact ends_fail_iff

/-- Requests that end with a value never fail. -/
theorem ends_ofRequests_iff {p : Requests α} {r : Except Failing α} :
    Ends (ofRequests p) s t r s' ↔ ∃ a, Runs p t a ∧ r = .ok a ∧ s' = s := by
  have hrun : (ofRequests p).run.run s = p.bind fun a => .done (.ok a, s) := by
    show (p.bind fun a => .done (a, s)).bind
      (fun e => .done ((.ok e.1 : Except Failing α), e.2)) = _
    rw [Program.bind_assoc]
    rfl
  rw [Ends, hrun, Program.runs_bind_iff]
  constructor
  · rintro ⟨t₁, t₂, a, rfl, h₁, h₂⟩
    obtain ⟨rfl, he⟩ := Program.runs_done_iff.1 h₂
    obtain ⟨rfl, rfl⟩ := Prod.mk.inj he
    rw [List.append_nil]
    exact ⟨a, h₁, rfl, rfl⟩
  · rintro ⟨a, h, rfl, rfl⟩
    exact ⟨t, [], a, by rw [List.append_nil], h, .done _⟩

/-- An act that begins with a request goes on with whatever is answered. -/
theorem ends_request_bind_iff {q : Request} {f : q.Answer → Act β} {r : Except Failing β} :
    Ends (request q >>= f) s t r s' ↔ ∃ a t', t = ⟨q, a⟩ :: t' ∧ Ends (f a) s t' r s' := by
  rw [Ends, run_bind]
  exact Program.runs_ask_iff

/-- Reading the session is no exchange. -/
theorem ends_session_bind_iff {f : Session → Act β} {r : Except Failing β} :
    Ends (session >>= f) s t r s' ↔ Ends (f s) s t r s' := by
  rw [Ends, run_bind]
  rfl

theorem ends_setSession_bind_iff {s₁ : Session} {f : Unit → Act β} {r : Except Failing β} :
    Ends (setSession s₁ >>= f) s t r s' ↔ Ends (f ()) s₁ t r s' := by
  rw [Ends, run_bind]
  rfl

theorem ends_setSession_iff {s₁ : Session} {r : Except Failing Unit} :
    Ends (setSession s₁) s t r s' ↔ t = [] ∧ r = .ok () ∧ s' = s₁ := by
  show Runs (.done (.ok (), s₁)) t (r, s') ↔ _
  rw [Program.runs_done_iff, Prod.mk.injEq]

end Act

/-! ## Procedures -/

namespace Procedure

variable {α β : Type} {s s' : Session} {t : Trace}

/-- The exchange of a request, as a move. -/
def requested (x : Exchange Request Request.Answer) : Exchange Move Move.Answer :=
  ⟨.request x.1, x.2⟩

/-- The exchange of a question to the directory, as a move. -/
def asked (x : Exchange Query Query.Answer) : Exchange Move Move.Answer :=
  requested (Act.lookedUp x)

theorem map_requested (t : List (Exchange Query Query.Answer)) :
    (t.map Act.lookedUp).map requested = t.map asked :=
  List.map_map

/-- The exchange of a record. -/
def recorded (stage : Stage) (tags : Tags) : Exchange Move Move.Answer :=
  ⟨.request (.record stage tags), ()⟩

/-- An act within a procedure has its requests as moves. -/
theorem ends_ofAct_iff {p : Act α} {r : Except Failing α} :
    Ends (ofAct p) s t r s' ↔ ∃ t₀, t = t₀.map requested ∧ Ends p s t₀ r s' :=
  Program.runs_translate_iff Move.request

/-- A procedure runs no handler of a command. -/
def RunsNoHandler (p : Procedure α) : Prop :=
  ∀ s t command handler ctx s', ¬ Puts p s t (.handle command handler ctx s')

/-- An act puts requests only. -/
theorem runsNoHandler_ofAct (p : Act α) : RunsNoHandler (ofAct p) := by
  intro s t command handler ctx s' h
  obtain ⟨q, hq⟩ := Program.asks_translate h
  simp at hq

theorem runsNoHandler_pure (a : α) : RunsNoHandler (pure a) :=
  fun _ _ _ _ _ _ => not_puts_pure

theorem RunsNoHandler.bind {p : Procedure α} {f : α → Procedure β} (hp : RunsNoHandler p)
    (hf : ∀ a, RunsNoHandler (f a)) : RunsNoHandler (p >>= f) := by
  intro s t command handler ctx s' h
  rcases puts_bind_iff.1 h with h | ⟨a, s₁, t₁, t₂, -, -, h⟩
  · exact hp _ _ _ _ _ _ h
  · exact hf a _ _ _ _ _ _ h

/-- A handler that a procedure runs and goes on is run by what goes on, if the
procedure runs none. -/
theorem RunsNoHandler.puts_bind {p : Procedure α} {f : α → Procedure β} (hp : RunsNoHandler p)
    {command : Command} {handler : Handler} {ctx : Context} {s₀ : Session}
    (h : Puts (p >>= f) s t (.handle command handler ctx s₀)) :
    ∃ a s₁ t₁ t₂, t = t₁ ++ t₂ ∧ Ends p s t₁ (.ok a) s₁ ∧
      Puts (f a) s₁ t₂ (.handle command handler ctx s₀) := by
  rcases puts_bind_iff.1 h with h | h
  · exact absurd h (hp _ _ _ _ _ _)
  · exact h

/-- A handler that a procedure runs and goes on is run by the procedure, if what goes
on runs none. -/
theorem puts_of_puts_bind {p : Procedure α} {f : α → Procedure β} (hf : ∀ a, RunsNoHandler (f a))
    {command : Command} {handler : Handler} {ctx : Context} {s₀ : Session}
    (h : Puts (p >>= f) s t (.handle command handler ctx s₀)) :
    Puts p s t (.handle command handler ctx s₀) := by
  rcases puts_bind_iff.1 h with h | ⟨a, s₁, t₁, t₂, -, -, h⟩
  · exact h
  · exact absurd h (hf a _ _ _ _ _ _)

/-- A record is a single exchange and cannot fail. -/
theorem ends_record_iff {stage : Stage} {tags : Tags} {r : Except Failing Unit} :
    Ends (record stage tags) s t r s' ↔ t = [recorded stage tags] ∧ r = .ok () ∧ s' = s := by
  rw [record, ends_ofAct_iff]
  constructor
  · rintro ⟨t₀, rfl, h⟩
    obtain ⟨a, t', rfl, h'⟩ := Program.runs_ask_iff.1 h
    obtain ⟨rfl, he⟩ := Program.runs_done_iff.1 h'
    obtain ⟨rfl, rfl⟩ := Prod.mk.inj he
    exact ⟨rfl, rfl, rfl⟩
  · rintro ⟨rfl, rfl, rfl⟩
    exact ⟨[⟨.record stage tags, ()⟩], rfl, .ask (.done _)⟩

theorem ends_record_bind_iff {stage : Stage} {tags : Tags} {f : Unit → Procedure β}
    {r : Except Failing β} :
    Ends (record stage tags >>= f) s t r s' ↔
      ∃ t', t = recorded stage tags :: t' ∧ Ends (f ()) s t' r s' := by
  rw [ends_bind_iff]
  constructor
  · rintro (⟨a, s₁, t₁, t₂, rfl, h₁, h₂⟩ | ⟨failing, rfl, h₁⟩)
    · obtain ⟨rfl, -, rfl⟩ := ends_record_iff.1 h₁
      exact ⟨t₂, rfl, h₂⟩
    · obtain ⟨-, he, -⟩ := ends_record_iff.1 h₁
      simp at he
  · rintro ⟨t', rfl, h⟩
    exact Or.inl ⟨(), s, [recorded stage tags], t', rfl, ends_record_iff.2 ⟨rfl, rfl, rfl⟩, h⟩

/-- A handler that is run after a record is run by what goes on. -/
theorem puts_record_bind {stage : Stage} {tags : Tags} {f : Unit → Procedure β} {command : Command}
    {handler : Handler} {ctx : Context} {s₀ : Session}
    (h : Puts (record stage tags >>= f) s t (.handle command handler ctx s₀)) :
    ∃ t', t = recorded stage tags :: t' ∧ Puts (f ()) s t' (.handle command handler ctx s₀) := by
  obtain ⟨a, s₁, t₁, t₂, rfl, h₁, h₂⟩ := (runsNoHandler_ofAct _).puts_bind h
  obtain ⟨rfl, -, rfl⟩ := ends_record_iff.1 h₁
  exact ⟨t₂, rfl, h₂⟩

/-- The run of a handler answers with how the handler ended and the session it left. -/
theorem ends_handle_iff {command : Command} {handler : Handler} {ctx : Context}
    {r : Except Failing (Except Failing Outcome)} :
    Ends (handle command handler ctx) s t r s' ↔
      ∃ e, r = .ok e ∧ t = [⟨.handle command handler ctx s, (e, s')⟩] := by
  constructor
  · intro h
    obtain ⟨⟨e, s₁⟩, t', rfl, h'⟩ := Program.runs_ask_iff.1 h
    obtain ⟨rfl, he⟩ := Program.runs_done_iff.1 h'
    obtain ⟨rfl, rfl⟩ := Prod.mk.inj he
    exact ⟨e, rfl, rfl⟩
  · rintro ⟨e, rfl, rfl⟩
    exact .ask (.done _)

theorem puts_handle_iff {command : Command} {handler : Handler} {ctx : Context} {m : Move} :
    Puts (handle command handler ctx) s t m ↔ t = [] ∧ m = .handle command handler ctx s := by
  constructor
  · intro h
    rcases Program.asks_ask_iff.1 h with h | ⟨r, t', -, h'⟩
    · exact h
    · exact absurd h' Program.not_asks_done
  · rintro ⟨rfl, rfl⟩
    exact .now _ _

theorem ends_present_iff {handler : OutcomeHandler} {ctx : Context} {outcome : Outcome}
    {r : Except Failing (Except Failing Bool)} :
    Ends (present handler ctx outcome) s t r s' ↔
      ∃ e, r = .ok e ∧ t = [⟨.present handler ctx outcome s, (e, s')⟩] := by
  constructor
  · intro h
    obtain ⟨⟨e, s₁⟩, t', rfl, h'⟩ := Program.runs_ask_iff.1 h
    obtain ⟨rfl, he⟩ := Program.runs_done_iff.1 h'
    obtain ⟨rfl, rfl⟩ := Prod.mk.inj he
    exact ⟨e, rfl, rfl⟩
  · rintro ⟨e, rfl, rfl⟩
    exact .ask (.done _)

theorem runsNoHandler_present (handler : OutcomeHandler) (ctx : Context) (outcome : Outcome) :
    RunsNoHandler (present handler ctx outcome) := by
  intro s t command handler' ctx' s' h
  rcases Program.asks_ask_iff.1 h with ⟨-, hm⟩ | ⟨r, t', -, h'⟩
  · simp at hm
  · exact absurd h' Program.not_asks_done

end Procedure

end ChatCommands
