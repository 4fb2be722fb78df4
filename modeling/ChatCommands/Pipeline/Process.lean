import ChatCommands.Pipeline.Validation
import ChatCommands.Pipeline.Handling
import ChatCommands.Pipeline.Dispatch
import ChatCommands.Pipeline.Settings

set_option autoImplicit false

/-!
# Processing events

An event is tokenized and matched to a chain of commands, guarded, validated, loaded, handled and
its outcome dispatched. An event that calls no command, or one that may not be called, is ignored
before the world is asked anything. Every stage leaves a record.
-/

namespace ChatCommands

/-- Why an event is ignored. -/
inductive IgnoreReason where
  | notCommand
  | matchViolation
  | outOfScope
  | notCallable
  | invalidChain
  deriving DecidableEq, Repr

/-- The title of a reason. -/
def IgnoreReason.title : IgnoreReason → String
  | .notCommand => "NotCommand"
  | .matchViolation => "MatchViolation"
  | .outOfScope => "OutOfScope"
  | .notCallable => "NotCallable"
  | .invalidChain => "InvalidChain"

/-- Input left unmatched by a command whose style must match in full. -/
structure MatchViolation where
  command : String
  leftover : String
  deriving DecidableEq, Repr

/-- How the processing of an event ends. -/
inductive Ending where
  | ignored (reason : IgnoreReason)
  | handled (outcome : Outcome) (dispatch : Dispatch)

/-- What events are processed with. -/
structure Pipeline where
  registry : Registry
  policy : AccessPolicy
  settings : Settings
  aliases : AliasTable
  fallback : OutcomeHandler

namespace Pipeline

/-- The pipeline of settings: their aliases, and the usual presentation of outcomes. -/
def ofSettings (registry : Registry) (policy : AccessPolicy) (settings : Settings) : Pipeline :=
  ⟨registry, policy, settings, settings.aliasTable, presentOutcome⟩

/-- How an event matches: the chain and the arguments, or why there is nothing to do. -/
inductive Matching where
  | ignored (reason : IgnoreReason)
  | violation (violation : MatchViolation)
  | matched (found : ChainMatch) (source : ArgumentSource)

/-- The tokens of an event; absent when a message does not begin with the lead. -/
def tokens? (p : Pipeline) (e : Event) : Option TokenStream :=
  match e.payload with
  | .text _ content _ =>
    (Text.after? (p.settings.leadFor e.guild).toList content.toList).map fun body =>
      .ofText (String.ofList body)
  | .slash path _ _ => some (.ofTokens path)

/-- Where the arguments of an event come from, once its tokens are matched. -/
def source (e : Event) (rest : TokenStream) : ArgumentSource :=
  match e.payload with
  | .text _ _ attachments => .text rest attachments
  | .slash _ options attachments => .slash options attachments

/-- Tokenizes an event and matches its chain. -/
def matching (p : Pipeline) (e : Event) : Matching :=
  match p.tokens? e with
  | none => .ignored .notCommand
  | some tokens =>
    let (found, rest) := matchChain p.registry e.style (p.aliases.apply tokens).2
    match found.chain.getLast? with
    | none => .ignored .notCommand
    | some invoked =>
      if p.settings.requiresFullMatch e.style && rest.hasRemaining then
        match p.settings.onMatchViolation with
        | .dropEvent => .ignored .matchViolation
        | .haltPipeline => .violation ⟨invoked.command.id, rest.remainder⟩
      else .matched found (source e rest)

/-- Why a matched chain must not run. -/
def guard? (e : Event) (chain : List Command) (invoked : Command) : Option IgnoreReason :=
  if invoked.scope = .guildOnly ∧ e.guild = none then some .outOfScope
  else if ¬ invoked.settings.callable then some .notCallable
  else
    match checkNormalized chain with
    | .ok _ => none
    | .error _ => some .invalidChain

/-- Validates, loads and handles an invocation. -/
def execute (ctx : Context) (order : List Registration) (tags : Tags) : Procedure Outcome := do
  let denied ← Procedure.ofAct ctx.validate
  Procedure.record .validate (tags.withOutcome ((denied.map (·.label)).getD "passed"))
  match denied with
  | some outcome => return outcome
  | none =>
    match ← Procedure.ofAct (ctx.load none) with
    | .loaded =>
      Procedure.record .load (tags.withOutcome "loaded")
      let outcome ← ctx.invokeChain tags order
      Procedure.record .invoke (tags.withOutcome outcome.label)
      return outcome
    | .ended outcome =>
      Procedure.record .load (tags.withOutcome outcome.label)
      return outcome
    | _ =>
      Procedure.record .load (tags.withOutcome "error")
      return .ofCause notInitialized

/-- The outcome of a chain of commands, which may be misconfigured. -/
def conclude (ctx : Context) (chain : List Registration) (tags : Tags) : Procedure Outcome :=
  match handlingOrder (·.command) chain with
  | .ok order => execute ctx order tags
  | .error e => return .ofCause (.ofText e.message)

/-- Runs a matched and guarded invocation to its end. -/
def handle (p : Pipeline) (ctx : Context) (chain : List Registration) (invoked : Registration)
    (tags : Tags) : Procedure Ending := do
  Procedure.ofAct ctx.begin
  let outcome ← conclude ctx chain tags
  Procedure.record .execute (tags.withOutcome outcome.label)
  let dispatched ← dispatch ctx invoked.outcomeHandlers p.fallback outcome
  Procedure.record .result (tags.withOutcome outcome.label)
  return .handled outcome dispatched

/-- Processes an event up to the record of its end. -/
def processInner (p : Pipeline) (e : Event) (tags : Tags) :
    Procedure (Except MatchViolation Ending) := do
  match p.matching e with
  | .violation v => return .error v
  | .ignored reason =>
    Procedure.record .parse (tags.withOutcome "ignored")
    return .ok (.ignored reason)
  | .matched found source =>
    match found.chain.getLast? with
    | none => return .ok (.ignored .notCommand)
    | some invoked =>
      let tags := tags.withCommand invoked.command.id
      let chain := found.chain.map (·.command)
      Procedure.record .parse (tags.withOutcome "matched")
      match guard? e chain invoked.command with
      | some reason => return .ok (.ignored reason)
      | none =>
        let ctx : Context := ⟨e, found.invocation, chain, source, p.policy⟩
        return .ok (← p.handle ctx found.chain invoked tags)

/-- The label of how an event ended. -/
def endLabel : Except MatchViolation Ending → String
  | .ok (.handled outcome _) => outcome.label
  | .ok (.ignored _) => "ignored"
  | .error _ => "fatal"

/-- Processes an event, up to and with the record of its end. -/
def procedure (p : Pipeline) (e : Event) : Procedure (Except MatchViolation Ending) := do
  let tags := Tags.ofEvent e
  let ending ← p.processInner e tags
  Procedure.record .event (tags.withOutcome (endLabel ending))
  return ending

/-- The moves that process an event. -/
def moves (p : Pipeline) (e : Event) :
    Program Move Move.Answer (Except Failing (Except MatchViolation Ending)) :=
  (fun r => r.1) <$> (p.procedure e).runFrom .fresh

/-- Processes an event. -/
def process (p : Pipeline) (e : Event) : Requests (Except Failing (Except MatchViolation Ending)) :=
  (p.moves e).substitute Move.carryOut

end Pipeline

end ChatCommands
