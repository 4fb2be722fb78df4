import ChatCommands.Argument.Typed
import ChatCommands.Pipeline.Process
import ChatCommands.Rehearsal.Description
import ChatCommands.Rehearsal.Trace
import ChatCommands.Wire.Settings

set_option autoImplicit false

/-!
# Scripts

The handlers of a rehearsal are scripted. A script is a list of steps, each an act whose value is
written down, and an ending: an outcome, an error, or breaking off. The steps that run or dispatch
to the handlers of the invoked chain are given its registrations.
-/

namespace ChatCommands

open Json (text? bool? word? whole? count? listOf? listOrNone? nullable? orUsual ofSuccess ofError
  ofNat ofTexts ofOption ofWord)

/-- An act of a handler whose value is written down. -/
abbrev Step : Type := Context → Act Json

/-- Finds the registrations of commands by their serial numbers. -/
abbrev Cast : Type := Nat → Option Registration

/-- The registrations of the chain of an invocation; a command that is not found has no handlers. -/
def Cast.chain (cast : Cast) (ctx : Context) : List Registration :=
  ctx.chain.map fun c => (cast c.serial).getD ⟨c, none, []⟩

/-- A step on a chain of replies: its value, and what the chain has become. -/
abbrev ReplyStep : Type := ReplyChain → Requests (Json × ReplyChain)

/-- The step on a chain of replies that a name and its operands describe. -/
def ReplyStep.ofDescription? (name : String) (operands : List Json) : Option ReplyStep :=
  let operand (i : Nat) : Json := (operands[i]?).getD .null
  let sent (r : Except Cause SentReply × ReplyChain) : Json × ReplyChain :=
    (exceptToTrace Cause.toTrace SentReply.toTrace r.1, r.2)
  let done (c : ReplyChain) (r : Except Cause Unit) : Json × ReplyChain :=
    (exceptToTrace Cause.toTrace (fun _ => .null) r, c)
  match name with
  | "reply" => do
    let spec ← ReplySpec.ofJson? .direct (operand 0)
    return fun c => sent <$> c.reply spec
  | "add" => do
    let spec ← ReplySpec.ofJson? .direct (operand 0)
    return fun c => sent <$> c.add spec
  | "get" => do
    let index ← count? (operand 0)
    return fun c => return (ofOption SentReply.toTrace c.replies[index]?, c)
  | "len" => some fun c => return (.list [ofNat c.replies.length, .bool c.replies.isEmpty], c)
  | "edit" => do
    let index ← count? (operand 0)
    let spec ← ReplySpec.ofJson? .direct (operand 1)
    return fun c => done c <$> c.edit index spec
  | "delete" => do
    let index ← count? (operand 0)
    return fun c => done c <$> c.delete index
  | "react" => do
    let reaction ← text? (operand 0)
    return fun c =>
      (fun r => (exceptToTrace Cause.toTrace Json.bool r, c)) <$> c.reactToOrigin reaction
  | "info" =>
    some fun c =>
      return (.list [ofWord c.channel.value, ofOption (fun m => ofWord m.value) c.origin], c)
  | _ => none

/-- The type that words name. -/
def ArgumentType.ofWords? : List String → Option ArgumentType
  | "list" :: words => (ArgumentType.ofWords? words).map .list
  | ["string"] => some .string
  | ["bool"] => some .boolean
  | ["i64"] => some .integer
  | ["u64"] => some .id
  | ["f64"] => some .float
  | ["user"] => some .user
  | ["role"] => some .role
  | ["channel"] => some .channel
  | ["message"] => some .message
  | ["attachment"] => some .attachment
  | _ => none

/-- A value for the store. -/
def StoredValue.ofDescription? : Json → Option StoredValue
  | .text s => some (.text s)
  | .bool b => some (.flag b)
  | j => (whole? j).map .number

/-- A stored value, if it is of the type with a name. -/
def StoredValue.toTrace (type : String) : StoredValue → Json
  | .text s => if type = "string" then .text s else .null
  | .flag b => if type = "bool" then .bool b else .null
  | .number n => if type = "i64" then .int n.toInt else .null

namespace Step

/-- The value that was got, or the error. -/
def answered (p : Act Json) : Act Json :=
  return exceptToTrace Cause.toTrace id (← p.attempt)

/-- Done only in a session that is initialized. -/
def initialized (p : Act Json) : Act Json := do
  if (← Act.session).isInitialized then p
  else return ofError "not_initialized" notInitialized.describe

/-- A number of initializations. -/
def begin : Nat → Context → Act Unit
  | 0, _ => return ()
  | n + 1, ctx => do
    ctx.begin
    begin n ctx

/-- What is known of an invocation. -/
def info (ctx : Context) : Json :=
  .record [("caller", ctx.event.caller.toJson),
    ("guild", ofOption (fun g => ofWord g.value) ctx.event.guild),
    ("channel", ofWord ctx.event.channel.value), ("style", .text ctx.event.style.name),
    ("invocation", .text ctx.invocation.toText), ("chain", ofTexts (ctx.chain.map (·.id))),
    ("command", ofOption (fun c => .text c.id) ctx.chain.getLast?)]

/-- The end of an attempt to load. -/
def loadEndToTrace : Context.LoadEnd → Json
  | .notInitialized => ofError "not_initialized" notInitialized.describe
  | .givenUp => .text "cancelled"
  | .loaded => .text "loaded"
  | .ended outcome => outcome.toTrace

/-- The steps that have to do with arguments. -/
def ofArguments? (name : String) (j : Json) : Option Step :=
  match name with
  | "load" => do
    let limit ← nullable? count? (j.item 1)
    return fun ctx => return loadEndToTrace (← ctx.load limit)
  | "states_during_load" => some fun ctx => do
    let isReady := match ← ctx.load (some 0) with
      | .givenUp => false
      | _ => true
    return .list [.bool isReady, .text (← Act.session).loadName]
  | "argument" => do
    let key ← text? (j.item 1)
    let type ← ArgumentType.ofWords? (Text.wordsOf (← text? (j.item 2)))
    return fun _ => do
      let value := ((← Act.session).argument? key).bind type.read?
      return ofOption (fun v => (type.argument v).toPlainTrace) value
  | "value" => do
    let key ← text? (j.item 1)
    return fun _ => return ofOption Argument.toTrace ((← Act.session).argument? key)
  | _ => none

/-- The steps that have to do with the store and with replies. -/
def ofState? (name : String) (j : Json) : Option Step :=
  match name with
  | "set" => do
    let key ← text? (j.item 1)
    let value ← StoredValue.ofDescription? (j.item 2)
    let replace ← orUsual false bool? (j.item 3)
    return fun _ => do
      let (done, s) := (← Act.session).setStored key value replace
      Act.setSession s
      return .bool done
  | "get" => do
    let key ← text? (j.item 1)
    let type ← text? (j.item 2)
    return fun _ => return ofOption (StoredValue.toTrace type) ((← Act.session).stored? key)
  | "say" => do
    let spec ← ReplySpec.ofJson? .direct (j.item 1)
    return fun _ => answered do return (← Context.reply spec).toTrace
  | "manager" => do
    let step ← ReplyStep.ofDescription? (← text? ((j.item 1).item 0)) (j.item 1).items.tail
    return fun _ => initialized do
      let (value, c) ← Act.ofRequests (step (← Context.replyChain))
      let _ ← Context.replaceReplyChain c
      return value
  | "replace_manager" => do
    let origin ← nullable? MessageId.ofJson? (j.item 1)
    let channel ← nullable? ChannelId.ofJson? (j.item 2)
    return fun ctx => initialized do
      let c := ReplyChain.start (channel.getD ctx.event.channel) ctx.event.caller.id origin
      let former ← Context.replaceReplyChain c
      return .record [("replaced", ofNat former.replies.length)]
  | "long_term" => some fun _ => initialized do
    let former ← Context.replaceReplyChain (← Context.replyChain)
    return .record [("replaced", ofNat former.replies.length)]
  | _ => none

/-- The other steps that put no question to handlers. -/
def ofStages? (name : String) (j : Json) : Option Step :=
  match name with
  | "info" => some fun ctx => return info ctx
  | "states" => some fun _ => do
    let s ← Act.session
    return .list [.text s.initName, .text s.loadName]
  | "initialize" => do
    let times ← orUsual 1 count? (j.item 1)
    return fun ctx => do
      begin times ctx
      return .null
  | "has_access" => do
    let g ← Group.read? (j.item 1)
    return fun ctx => answered do return .bool (← ctx.hasAccess g)
  | "validate" =>
    some fun ctx => return ((← ctx.validate).map Outcome.toTrace).getD (.text "passed")
  | "default_handle" => do
    let outcome ← Outcome.ofDescription? (j.item 1)
    return fun ctx => answered do return .bool (← presentOutcome ctx outcome)
  | "sleep" => do
    let ms ← count? (j.item 1)
    return fun _ => do
      Act.request (.sleep ms)
      return .null
  | _ => none

/-- The handlers of the chain run in their order. -/
def invoke (cast : Cast) : Step := fun ctx => do
  match handlingOrder (·.command) (cast.chain ctx) with
  | .error e => return e.toTrace
  | .ok order => return (← (ctx.invokeChain {} order).act).toTrace

/-- The acts of steps, each value written down. -/
def perform : List Step → Context → Act Unit
  | [], _ => return ()
  | step :: steps, ctx => do
    let value ← step ctx
    Act.lookup (Lookup.note (.list [.text "step", value]))
    perform steps ctx

end Step

/-- How a script ends, if not with a value. -/
inductive BadEnd where
  | breakdown (breakdown : Breakdown)
  | error (cause : Cause)

/-- A script breaks off with a text, or without one; or it fails with a chain of causes. -/
def BadEnd.ofDescription? (j : Json) : Option BadEnd :=
  if j.has "panic" then
    match j.get "panic" with
    | .text s => some (.breakdown ⟨some s⟩)
    | .list [.text s] => some (.breakdown ⟨some s⟩)
    | _ => some (.breakdown ⟨none⟩)
  else (Cause.ofDescription? (j.get "err")).map .error

/-- The bad end as an act. -/
def BadEnd.act {α : Type} : BadEnd → Act α
  | .breakdown b => throw (.breakdown b)
  | .error cause => Act.fail cause

mutual

/-- The step that a list of its name and its operands describes. Steps that contain a script go a
number of levels deep. -/
def Step.ofDescription? (levels : Nat) (j : Json) : Option (Cast → Step) := do
  let name ← text? (j.item 0)
  match name with
  | "invoke" => return Step.invoke
  | "dispatch" =>
    let outcome ← Outcome.ofDescription? (j.item 1)
    let fallback : Cast → OutcomeHandler ← match j.item 2 with
      | .null => some fun _ => presentOutcome
      | f => match levels with
        | 0 => none
        | n + 1 => OutcomeHandler.ofDescription? n "fallback" f
    return fun cast ctx => do
      let handlers := ((cast.chain ctx).getLast?.map (·.outcomeHandlers)).getD []
      return (← (dispatch ctx handlers (fallback cast) outcome).act).toTrace
  | name =>
    let step ← ((Step.ofArguments? name j).or (Step.ofState? name j)).or (Step.ofStages? name j)
    return fun _ => step
termination_by (levels, 0)

/-- The scripted presentation of outcomes. -/
def OutcomeHandler.ofDescription? (levels : Nat) (label : String) (j : Json) :
    Option (Cast → OutcomeHandler) := do
  let steps ← j.get "steps" |>.items.mapM (Step.ofDescription? levels)
  let ending : Act Bool ← match j.get "return" with
    | .bool b => some (pure b)
    | bad => (BadEnd.ofDescription? bad).map BadEnd.act
  return fun cast ctx outcome => do
    Act.lookup (Lookup.note (.list [.text "result_handler", .text label, .text outcome.label]))
    Step.perform (steps.map (· cast)) ctx
    ending
termination_by (levels, 1)

end

/-- The scripted handler of a command. -/
def Handler.ofDescription? (id : String) (j : Json) : Option (Cast → Handler) := do
  let steps ← j.get "steps" |>.items.mapM (Step.ofDescription? Json.maxDepth)
  let last := j.get "return"
  let ending : Act Outcome ←
    if last.has "panic" || last.has "err" then (BadEnd.ofDescription? last).map BadEnd.act
    else (Outcome.ofDescription? last).map pure
  return fun cast ctx => do
    Act.lookup (Lookup.note (.list [.text "handler", .text id]))
    Step.perform (steps.map (· cast)) ctx
    ending

/-- A command with a serial number and its scripts. -/
def Registration.ofDescription? (serial : Nat) (j : Json) : Option (Cast → Registration) := do
  let command ← Command.ofDescription? serial j
  let handler ← nullable? (Handler.ofDescription? command.id) (j.get "handler")
  let outcomeHandlers ← (j.get "result_handlers").items.zipIdx.mapM fun (h, index) =>
    OutcomeHandler.ofDescription? Json.maxDepth (command.id ++ "#" ++ toString index) h
  return fun cast => ⟨command, handler.map (· cast), outcomeHandlers.map (· cast)⟩

/-- The cast of registrations, each of which knows the cast of one level less. -/
def Cast.ofList (rs : List (Cast → Registration)) : Nat → Cast
  | 0 => fun _ => none
  | n + 1 => fun serial => (rs[serial]?).map fun r => r (Cast.ofList rs n)

/-- How deep scripts may run each other. -/
def Cast.levels : Nat := 2000

/-- The cast that described commands make up; their serial numbers are their places. -/
def Cast.ofDescriptions? (js : List Json) : Option Cast := do
  let rs ← js.zipIdx.mapM fun (j, serial) => Registration.ofDescription? serial j
  return Cast.ofList rs Cast.levels

/-- The registrations with the first serial numbers. -/
def Cast.members (cast : Cast) (count : Nat) : List Registration :=
  (List.range count).filterMap cast

/-- A pipeline of described commands, settings and aliases, with the platform it is tried on. -/
structure Production where
  pipeline : Pipeline
  rehearsal : Rehearsal

/-- Two paths side by side. -/
def aliasRow? (j : Json) : Option (Invocation × Invocation) := do
  return (← Invocation.ofDescription? (j.item 0), ← Invocation.ofDescription? (j.item 1))

/-- The pipeline that a record describes, and its platform. -/
def Production.ofDescription? (j : Json) : Option Production := do
  let commands := (j.get "commands").items
  let overlay := (j.get "overlay").items
  let cast ← Cast.ofDescriptions? (commands ++ overlay.map (·.item 1))
  let members := cast.members (commands.length + overlay.length)
  let table := CommandTable.ofList (members.take commands.length)
  let rows := (← overlay.mapM fun row => Invocation.ofDescription? (row.item 0)).zip
    (members.drop commands.length)
  let policy ← AccessPolicy.ofDescription? ((j.get "world").get "policy")
  let settings ← orUsual {} Settings.ofJson? (j.get "settings")
  let aliases ← nullable? (listOf? aliasRow?) (j.get "aliases")
  let fallback ← nullable? (OutcomeHandler.ofDescription? Json.maxDepth "fallback")
    (j.get "fallback")
  let usual := Pipeline.ofSettings (table.registry.overlaid rows) policy settings
  let pipeline := { usual with
    aliases := (aliases.map AliasTable.ofList).getD usual.aliases
    fallback := (fallback.map (· cast)).getD usual.fallback }
  return ⟨pipeline, ← Rehearsal.ofDescription? (j.get "world")⟩

end ChatCommands
