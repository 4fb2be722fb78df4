import ChatCommands.Effect.Request

set_option autoImplicit false

/-!
# Platforms

A platform answers requests. Its directory answers each question after a fixed time, whatever has
been asked before; all other requests are answered at once and may change the state `σ` of the
platform. `complete` runs a program alone to its end. Lookups side by side are laid out on a common
timeline first: at each moment, those that stand earlier in the list come first.
-/

namespace ChatCommands

/-- What answers requests. -/
structure Platform (σ : Type) where
  /-- The milliseconds that a question takes, and its answer. -/
  answer : (q : Query) → Nat × q.Answer
  /-- A question has been put. -/
  hear : Query → σ → σ
  /-- Access is to be decided for a caller at a place. -/
  openAccess : Option GuildId → ChannelId → UserId → σ → σ
  send : ChannelId → UserId → Option MessageId → ReplySpec → σ → Except Cause SentReply × σ
  edit : SentReply → ReplySpec → σ → Except Cause Unit × σ
  delete : SentReply → σ → Except Cause Unit × σ
  react : ChannelId → MessageId → String → σ → Except Cause Unit × σ
  /-- A stage has been finished. -/
  record : Stage → Tags → σ → σ

/-- The questions of a program with the times at which they are put, the time at which the program
ends, and its end. -/
structure Timeline (α : Type) where
  questions : List (Nat × Query)
  length : Nat
  result : α

namespace Timeline

/-- The timeline of a program that goes on at a time. -/
def ofProgram {α : Type} (answer : (q : Query) → Nat × q.Answer) :
    Program Query Query.Answer α → Nat → Timeline α
  | .done a, t => ⟨[], t, a⟩
  | .ask q k, t =>
    let rest := ofProgram answer (k (answer q).2) (t + (answer q).1)
    ⟨(t, q) :: rest.questions, rest.length, rest.result⟩

/-- The questions of two timelines; at equal times those of the first come first. -/
def mergeQuestions (xs ys : List (Nat × Query)) : List (Nat × Query) :=
  xs.merge ys fun x y => x.1 ≤ y.1

/-- Timelines side by side, each with its end as a value. -/
def together {α : Type} (parts : List (Timeline α)) : Timeline (List α) where
  questions := (parts.map (·.questions)).foldl mergeQuestions []
  length := (parts.map (·.length)).foldl max 0
  result := parts.map (·.result)

/-- The first failure among timelines, by time and then by position: the time, the number of
timelines up to the failing one, and the failure. -/
def firstFailure? {α : Type} : List (Timeline (Except Failing α)) → Option (Nat × Nat × Failing)
  | [] => none
  | part :: parts =>
    let later := (firstFailure? parts).map fun (t, n, e) => (t, n + 1, e)
    match part.result with
    | .ok _ => later
    | .error e =>
      match later with
      | some (t, n, e') => if t < part.length then some (t, n, e') else some (part.length, 1, e)
      | none => some (part.length, 1, e)

/-- The timeline up to a time, for those that come first at that time. -/
def upTo {α : Type} (time : Nat) (p : Timeline α) : Timeline α :=
  { p with questions := p.questions.filter (·.1 ≤ time), length := time }

/-- The timeline before a time. -/
def before {α : Type} (time : Nat) (p : Timeline α) : Timeline α :=
  { p with questions := p.questions.filter (·.1 < time), length := time }

/-- Timelines side by side; the first failure ends them all. -/
def gather {α : Type} (parts : List (Timeline (Except Failing α))) :
    Timeline (Except Failing (List α)) :=
  match firstFailure? parts with
  | none =>
    let all := together parts
    { all with result := .ok (all.result.filterMap Except.toOption) }
  | some (time, count, failure) =>
    let cut := (parts.take count).map (upTo time) ++ (parts.drop count).map (before time)
    ⟨(together cut).questions, time, .error failure⟩

/-- The timeline given up at a time unless it has ended by then. -/
def within {α : Type} (limit : Option Nat) (p : Timeline (Except Failing α)) :
    Timeline (Except Failing (Option α)) :=
  match limit.filter (· < p.length) with
  | none => { p with result := p.result.map some }
  | some time => ⟨p.questions.filter (·.1 ≤ time), time, .ok none⟩

end Timeline

namespace Platform

variable {σ : Type}

/-- The timeline of lookups side by side, given up at a limit when one is set. -/
def gather (p : Platform σ) (lookups : List (Lookup ParameterEnd)) (limit : Option Nat) :
    Timeline (Except Failing (Option (List ParameterEnd))) :=
  (Timeline.gather (lookups.map fun l => .ofProgram p.answer l.run 0)).within limit

/-- How a request is answered: the questions to the directory that it puts from now on, the time it
takes and the answer, and what the platform has become. -/
def respond (p : Platform σ) : (r : Request) → σ → Timeline r.Answer × σ
  | .lookup q, s => (⟨[(0, q)], (p.answer q).1, (p.answer q).2⟩, s)
  | .gather lookups limit, s => (p.gather lookups limit, s)
  | .openAccess guild channel caller, s => (⟨[], 0, ()⟩, p.openAccess guild channel caller s)
  | .send channel recipient reference spec, s =>
    let (r, s) := p.send channel recipient reference spec s
    (⟨[], 0, r⟩, s)
  | .edit reply spec, s =>
    let (r, s) := p.edit reply spec s
    (⟨[], 0, r⟩, s)
  | .delete reply, s =>
    let (r, s) := p.delete reply s
    (⟨[], 0, r⟩, s)
  | .react channel message reaction, s =>
    let (r, s) := p.react channel message reaction s
    (⟨[], 0, r⟩, s)
  | .record stage tags, s => (⟨[], 0, ()⟩, p.record stage tags s)
  | .sleep ms, s => (⟨[], ms, ()⟩, s)

/-- Questions put one after the other. -/
def hearAll (p : Platform σ) (questions : List (Nat × Query)) (s : σ) : σ :=
  questions.foldl (fun s q => p.hear q.2 s) s

/-- A program run alone from an instant to its end, with the instant of the end. -/
def complete {α : Type} (p : Platform σ) : Requests α → Nat → σ → α × Nat × σ
  | .done a, now, s => (a, now, s)
  | .ask r k, now, s =>
    let (line, s) := p.respond r s
    p.complete (k line.result) (now + line.length) (p.hearAll line.questions s)

end Platform

end ChatCommands
