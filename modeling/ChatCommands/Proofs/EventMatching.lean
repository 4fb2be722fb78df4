import ChatCommands.Pipeline.Process
import ChatCommands.Proofs.ChainMatching

set_option autoImplicit false

/-!
# Matching events

How an event matches follows from its reading: the chain at the beginning of its tokens, and the
tokens after it (`Pipeline.matches_matching`). The reasons to ignore an event are stated each by
itself (`Pipeline.applies`); matching and guarding together find the first one that applies, in the
order `IgnoreReason.inOrder` (`Pipeline.reason?_of_ignored`, `Pipeline.guard?_eq_reason?`).
-/

namespace ChatCommands

/-- The reasons to ignore an event, those that are looked at first coming first. -/
def IgnoreReason.inOrder : List IgnoreReason :=
  [.notCommand, .matchViolation, .outOfScope, .notCallable, .invalidChain]

namespace Pipeline

/-- The chain that an event begins with and the tokens after it; absent when a message does
not begin with the lead. -/
def reading (p : Pipeline) (e : Event) : Option (ChainMatch × TokenStream) :=
  (p.tokens? e).map fun tokens => matchChain p.registry e.style (p.aliases.apply tokens).2

/-- The command that an event calls. -/
def invoked? (p : Pipeline) (e : Event) : Option Registration :=
  (p.reading e).bind fun r => r.1.chain.getLast?

/-- A command is called in a style that must match in full, and tokens are left. -/
def leavesInput (p : Pipeline) (e : Event) : Bool :=
  (p.invoked? e).isSome && p.settings.requiresFullMatch e.style &&
    (p.reading e).any fun r => r.2.hasRemaining

/-- Input is left, and the pipeline stops for that. -/
def halts (p : Pipeline) (e : Event) : Bool :=
  p.leavesInput e && p.settings.onMatchViolation == .haltPipeline

/-- The called command and the input that is left. -/
def violation? (p : Pipeline) (e : Event) : Option MatchViolation :=
  (p.reading e).bind fun r => r.1.chain.getLast?.map fun invoked =>
    ⟨invoked.command.id, r.2.remainder⟩

/-- A reason to ignore the event, by itself. -/
def applies (p : Pipeline) (e : Event) : IgnoreReason → Bool
  | .notCommand => (p.invoked? e).isNone
  | .matchViolation => p.leavesInput e && p.settings.onMatchViolation == .dropEvent
  | .outOfScope => (p.invoked? e).any fun r => r.command.scope == .guildOnly && e.guild.isNone
  | .notCallable => (p.invoked? e).any fun r => !r.command.settings.callable
  | .invalidChain => (p.reading e).any fun r =>
    !(checkNormalized (r.1.chain.map (·.command))).isOk

/-- The first reason to ignore the event. -/
def reason? (p : Pipeline) (e : Event) : Option IgnoreReason :=
  IgnoreReason.inOrder.find? (p.applies e)

/-! ## Matching -/

/-- The ways in which an event matches, told from its reading. -/
inductive Matches (p : Pipeline) (e : Event) : Matching → Prop where
  /-- A message that does not begin with the lead. -/
  | unled (hread : p.reading e = none) : Matches p e (.ignored .notCommand)
  | unknown {found : ChainMatch} {rest : TokenStream} (hread : p.reading e = some (found, rest))
      (hlast : found.chain.getLast? = none) : Matches p e (.ignored .notCommand)
  | dropped {found : ChainMatch} {rest : TokenStream} {invoked : Registration}
      (hread : p.reading e = some (found, rest)) (hlast : found.chain.getLast? = some invoked)
      (hleft : (p.settings.requiresFullMatch e.style && rest.hasRemaining) = true)
      (hpolicy : p.settings.onMatchViolation = .dropEvent) :
      Matches p e (.ignored .matchViolation)
  | halted {found : ChainMatch} {rest : TokenStream} {invoked : Registration}
      (hread : p.reading e = some (found, rest)) (hlast : found.chain.getLast? = some invoked)
      (hleft : (p.settings.requiresFullMatch e.style && rest.hasRemaining) = true)
      (hpolicy : p.settings.onMatchViolation = .haltPipeline) :
      Matches p e (.violation ⟨invoked.command.id, rest.remainder⟩)
  | matched {found : ChainMatch} {rest : TokenStream} {invoked : Registration}
      (hread : p.reading e = some (found, rest)) (hlast : found.chain.getLast? = some invoked)
      (hleft : (p.settings.requiresFullMatch e.style && rest.hasRemaining) = false) :
      Matches p e (.matched found (source e rest))

theorem matches_matching (p : Pipeline) (e : Event) : p.Matches e (p.matching e) := by
  rw [matching]
  split
  · rename_i htokens
    exact .unled (by simp [reading, htokens])
  · rename_i tokens htokens
    have hread : p.reading e = some (matchChain p.registry e.style (p.aliases.apply tokens).2) := by
      simp [reading, htokens]
    dsimp only
    split
    · rename_i hlast
      exact .unknown hread hlast
    · rename_i invoked hlast
      split
      · rename_i hleft
        split
        · rename_i hpolicy
          exact .dropped hread hlast hleft hpolicy
        · rename_i hpolicy
          exact .halted hread hlast hleft hpolicy
      · rename_i hleft
        exact .matched hread hlast (by simpa using hleft)

variable {p : Pipeline} {e : Event} {found : ChainMatch} {rest : TokenStream}
  {invoked : Registration}

theorem invoked?_of_reading (hread : p.reading e = some (found, rest)) :
    p.invoked? e = found.chain.getLast? := by
  rw [invoked?, hread, Option.bind_some]

theorem leavesInput_of_reading (hread : p.reading e = some (found, rest))
    (hlast : found.chain.getLast? = some invoked) :
    p.leavesInput e = (p.settings.requiresFullMatch e.style && rest.hasRemaining) := by
  rw [leavesInput, invoked?_of_reading hread, hlast, hread]
  rfl

/-- Each command of a chain that an event begins with is what the registry offers below the path of
the commands before it. -/
theorem offered_of_reading (hread : p.reading e = some (found, rest)) {i : Nat} {r : Registration}
    (hr : found.chain[i]? = some r) : ∃ token,
      p.registry ⟨(found.chain.take i).map (·.command.name) ++ [token]⟩ e.style = some r := by
  obtain ⟨tokens, -, hmatch⟩ := Option.map_eq_some_iff.1 hread
  obtain rfl : (matchChain p.registry e.style (p.aliases.apply tokens).2).1 = found :=
    congrArg Prod.fst hmatch
  exact matchBelow_offered p.registry e.style .root _ hr

/-! ## Reasons -/

/-- An event that is not ignored calls a callable command, in its scope, by a normalized chain. -/
theorem passed_of_guard? {chain : List Command} {c : Command} (h : guard? e chain c = none) :
    c.settings.callable = true ∧ (c.scope = .guildOnly → e.guild ≠ none) ∧
      checkNormalized chain = .ok () := by
  rw [guard?] at h
  split at h
  · simp at h
  · rename_i hscope
    split at h
    · simp at h
    · rename_i hcallable
      split at h
      · rename_i hnormal
        refine ⟨by simpa using hcallable, ?_, hnormal⟩
        intro hguild hnone
        exact hscope ⟨hguild, hnone⟩
      · simp at h

/-- An event that matching ignores is ignored for the first reason that applies. -/
theorem reason?_of_ignored {reason : IgnoreReason} (h : p.matching e = .ignored reason) :
    p.halts e = false ∧ p.reason? e = some reason := by
  have hmatch := p.matches_matching e
  rw [h] at hmatch
  cases hmatch with
  | unled hread =>
    have hinvoked : p.invoked? e = none := by rw [invoked?, hread, Option.bind_none]
    constructor
    · simp [halts, leavesInput, hinvoked]
    · simp [reason?, IgnoreReason.inOrder, applies, hinvoked]
  | unknown hread hlast =>
    have hinvoked : p.invoked? e = none := by rw [invoked?_of_reading hread, hlast]
    constructor
    · simp [halts, leavesInput, hinvoked]
    · simp [reason?, IgnoreReason.inOrder, applies, hinvoked]
  | dropped hread hlast hleft hpolicy =>
    -- a command is called, so the event is no plain message
    rw [← leavesInput_of_reading hread hlast] at hleft
    have hinvoked := invoked?_of_reading hread
    rw [hlast] at hinvoked
    constructor
    · simp [halts, hpolicy]
    · simp [reason?, IgnoreReason.inOrder, applies, hinvoked, hleft, hpolicy]

/-- An event that matching stops for names the called command and the input that is left. -/
theorem halts_of_violation {v : MatchViolation} (h : p.matching e = .violation v) :
    p.halts e = true ∧ p.violation? e = some v := by
  have hmatch := p.matches_matching e
  rw [h] at hmatch
  cases hmatch with
  | halted hread hlast hleft hpolicy =>
    rw [← leavesInput_of_reading hread hlast] at hleft
    constructor
    · simp [halts, hleft, hpolicy]
    · simp [violation?, hread, hlast]

/-- The guards of a matched event find the first reason that applies. -/
theorem guard?_eq_reason? (hread : p.reading e = some (found, rest))
    (hlast : found.chain.getLast? = some invoked)
    (hleft : (p.settings.requiresFullMatch e.style && rest.hasRemaining) = false) :
    p.halts e = false ∧
      guard? e (found.chain.map (·.command)) invoked.command = p.reason? e := by
  rw [← leavesInput_of_reading hread hlast] at hleft
  have hinvoked := invoked?_of_reading hread
  rw [hlast] at hinvoked
  refine ⟨by simp [halts, hleft], ?_⟩
  -- the reasons that matching decides do not apply, so the guards are what is left
  rw [guard?, reason?, IgnoreReason.inOrder]
  simp only [List.find?_cons, applies, hinvoked, hleft, hread, Option.isNone_some, Bool.false_and,
    Option.any_some]
  by_cases hscope : invoked.command.scope = .guildOnly ∧ e.guild = none
  · simp [hscope]
  · have hscope' : (invoked.command.scope == .guildOnly && e.guild.isNone) = false := by
      simpa [Option.isSome_iff_ne_none] using hscope
    simp only [hscope, if_false, hscope']
    cases hcallable : invoked.command.settings.callable with
    | false => simp
    | true =>
      cases hnormal : checkNormalized (found.chain.map (·.command)) with
      | ok u => simp [Except.isOk, Except.toBool]
      | error err => simp [Except.isOk, Except.toBool]

end Pipeline

end ChatCommands
