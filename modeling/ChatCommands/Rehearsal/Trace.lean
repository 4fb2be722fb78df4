import ChatCommands.Pipeline.Reception
import ChatCommands.Rehearsal.Platform
import ChatCommands.Wire.Event
import ChatCommands.Wire.Reply

set_option autoImplicit false

/-!
# Traces

How the values that a rehearsal shows are written down as JSON. A float is written by its bits, so
that nothing is lost; a value that can be of several sorts is written with its sort.
-/

namespace ChatCommands

namespace Json

/-- A list of texts. -/
def ofTexts (xs : List String) : Json := .list (xs.map .text)

/-- A natural number. -/
def ofNat (n : Nat) : Json := .int n

/-- The bits of a float as sixteen hexadecimal digits. -/
def ofBits (x : Float) : Json :=
  let digits := Nat.toDigits 16 x.toBits.toNat
  .text (String.ofList (List.replicate (16 - digits.length) '0' ++ digits))

/-- A float, marked as such. -/
def ofFloat (x : Float) : Json := .record [("float", ofBits x)]

/-- A value that was got. -/
def ofSuccess (j : Json) : Json := .record [("ok", j)]

/-- An error of a sort. -/
def ofError (sort message : String) : Json :=
  .record [("error", .text sort), ("message", .text message)]

end Json

open Json (ofTexts ofNat ofSuccess ofError ofWord ofOption)

/-- A slot with its sort. -/
def Slot.toTrace : Slot → Json
  | .boolean b => .record [("boolean", .bool b)]
  | .integer n => .record [("integer", .int n.toInt)]
  | .float x => Json.ofFloat x
  | .text s => .record [("text", .text s)]

mutual

/-- An argument with its sort. -/
def Argument.toTrace : Argument → Json
  | .string s => .record [("string", .text s)]
  | .boolean b => .record [("boolean", .bool b)]
  | .integer n => .record [("integer", .int n.toInt)]
  | .float x => Json.ofFloat x
  | .id n => .record [("id", ofWord n)]
  | .user u => .record [("user", u.toJson)]
  | .role r => .record [("role", r.toJson)]
  | .channel c => .record [("channel", c.toJson)]
  | .message m => .record [("message", m.toJson)]
  | .attachment a => .record [("attachment", a.toJson)]
  | .list xs => .record [("list", .list (Argument.toTraces xs))]

/-- Arguments with their sorts. -/
def Argument.toTraces : List Argument → List Json
  | [] => []
  | a :: as => a.toTrace :: toTraces as

end

mutual

/-- An argument whose sort is known from elsewhere. -/
def Argument.toPlainTrace : Argument → Json
  | .string s => .text s
  | .boolean b => .bool b
  | .integer n => .int n.toInt
  | .float x => Json.ofFloat x
  | .id n => ofWord n
  | .user u => u.toJson
  | .role r => r.toJson
  | .channel c => c.toJson
  | .message m => m.toJson
  | .attachment a => a.toJson
  | .list xs => .list (Argument.toPlainTraces xs)

/-- Arguments whose sorts are known from elsewhere. -/
def Argument.toPlainTraces : List Argument → List Json
  | [] => []
  | a :: as => a.toPlainTrace :: toPlainTraces as

end

/-- A raw argument with its sort. -/
def RawArgument.toTrace : RawArgument → Json
  | .text s => .record [("text", .text s)]
  | .slot s => .record [("slot", s.toTrace)]
  | .attachment a => .record [("attachment", a.toJson)]

/-- A chain of causes in one line. -/
def Cause.toTrace (c : Cause) : Json := ofError "cause" c.describe

/-- A failure with its sort. -/
def Failing.toTrace : Failing → Json
  | .error c => c.toTrace
  | .breakdown b => ofError "panic" b.message

/-- An argument error with its sort. -/
def ArgumentError.toTrace (e : ArgumentError) : Json :=
  ofError (match e with
    | .invalid _ => "invalid"
    | .lookup _ => "resolver") e.message

/-- The error of a chain that cannot run. -/
def ChainError.toTrace (e : ChainError) : Json := ofError "invalid_chain" e.message

/-- A value, or an error in its own form. -/
def exceptToTrace {ε α : Type} (error : ε → Json) (value : α → Json) : Except ε α → Json
  | .ok a => ofSuccess (value a)
  | .error e => error e

/-- The fields of a failure, its sort first. -/
def Failure.traceFields : Failure → List (String × Json)
  | .plain => [("variant", .text "fail")]
  | .message _ => [("variant", .text "message")]
  | .settingDenied _ => [("variant", .text "setting_denied")]
  | .argumentMissing p => [("variant", .text "argument_missing"), ("parameter", .text p)]
  | .argumentInvalid p r =>
    [("variant", .text "argument_invalid"), ("parameter", .text p), ("reason", .text r)]
  | .argumentExtra e => [("variant", .text "argument_extra"), ("extra", ofTexts e)]
  | .notAllowed g => [("variant", .text "user_not_allowed"), ("group", ofOption .text g.name?)]

/-- An outcome with its sort. -/
def Outcome.toTrace : Outcome → Json
  | .proceed => .record [("kind", .text "continue")]
  | .success .ok => .record [("kind", .text "success"), ("variant", .text "ok")]
  | .success (.message m) =>
    .record [("kind", .text "success"), ("variant", .text "message"), ("message", .text m)]
  | .success (.ack r m) =>
    .record [("kind", .text "success"), ("variant", .text "ack"), ("reaction", .text r),
      ("message", .text m)]
  | .failure f =>
    .record ([("kind", .text "failure"), ("shown", ofOption .text f.shown?)] ++ f.traceFields)
  | .error e =>
    .record [("kind", .text "error"), ("message", .text e.message),
      ("cause", ofOption (fun c => .text c.describe) e.cause)]

/-- The labels of a record. -/
def Tags.toTrace (t : Tags) : Json :=
  .record [("style", ofOption (fun s => .text s.name) t.style),
    ("guild", ofOption (fun g => ofWord g.value) t.guild),
    ("channel", ofOption (fun c => ofWord c.value) t.channel),
    ("caller", ofOption (fun u => ofWord u.value) t.caller),
    ("command", ofOption .text t.command), ("outcome", ofOption .text t.outcome)]

/-- Where a reply landed. -/
def SentReply.toTrace (r : SentReply) : Json :=
  .list [ofWord r.channel.value, ofWord r.message.value]

/-- A question to the directory. -/
def Query.toTrace : Query → Json
  | .guild i => .list [.text "guild", ofWord i.value]
  | .channel i => .list [.text "channel", ofWord i.value]
  | .user i => .list [.text "user", ofWord i.value]
  | .role g i => .list [.text "role", ofWord g.value, ofWord i.value]
  | .message c i => .list [.text "message", ofWord c.value, ofWord i.value]
  | .memberRoles g u => .list [.text "member_roles", ofWord g.value, ofWord u.value]
  | .applicationOwner => .list [.text "application_owner"]
  | .note line => line

/-- The answer to a question. -/
def Query.answerToTrace : (q : Query) → q.Answer → Json
  | .guild _, a => exceptToTrace Failing.toTrace (ofOption Guild.toJson) a
  | .channel _, a => exceptToTrace Failing.toTrace (ofOption Channel.toJson) a
  | .user _, a => exceptToTrace Failing.toTrace (ofOption User.toJson) a
  | .role _ _, a => exceptToTrace Failing.toTrace (ofOption Role.toJson) a
  | .message _ _, a => exceptToTrace Failing.toTrace (ofOption Message.toJson) a
  | .memberRoles _ _, a =>
    exceptToTrace Failing.toTrace (fun rs => .list (rs.map fun r => ofWord r.value)) a
  | .applicationOwner, a => exceptToTrace Failing.toTrace (fun u => ofWord u.value) a
  | .note _, _ => .null

/-- An entry of the log. -/
def LogEntry.toTrace : LogEntry → Json
  | .asked q => q.toTrace
  | .accessOpened g c u =>
    .list [.text "validator", ofOption (fun g => ofWord g.value) g, ofWord c.value, ofWord u.value]
  | .sent c u r s =>
    .list [.text "send", ofWord c.value, ofWord u.value, ofOption (fun m => ofWord m.value) r,
      s.toJson]
  | .edited r s => .list [.text "edit", ofWord r.channel.value, ofWord r.message.value, s.toJson]
  | .deleted r => .list [.text "delete", ofWord r.channel.value, ofWord r.message.value]
  | .reacted c m r => .list [.text "react", ofWord c.value, ofWord m.value, .text r]
  | .recorded s t => .list [.text "record", .text s.name, t.toTrace]

/-- The entries of the log after the first ones. -/
def RehearsalState.toTrace (s : RehearsalState) (count : Nat) : Json :=
  .list ((s.entriesFrom count).map LogEntry.toTrace)

/-- Who claimed an outcome. -/
def Dispatch.toTrace : Dispatch → Json
  | .command index => ofNat index
  | .fallback => .text "fallback"
  | .unhandled => .text "unhandled"

/-- How the processing of an event ended. -/
def endingToTrace : Except Failing (Except MatchViolation Ending) → Json
  | .ok (.ok (.ignored reason)) => .record [("ignored", .text reason.title)]
  | .ok (.ok (.handled outcome dispatch)) =>
    .record [("result", outcome.toTrace), ("dispatch", dispatch.toTrace)]
  | .ok (.error v) => ofError "match_violation" v.message
  | .error f => f.toTrace

/-- The sort of an error that ends a run. -/
def RunEnd.sort : RunEnd → String
  | .finished => "finished"
  | .sourceFailed _ => "source"
  | .retriesExhausted _ _ => "retries_exhausted"
  | .matchViolation _ => "match_violation"
  | .broken => "panic"

/-- What a run leaves that broke off by a pause that outgrew its word. -/
def brokenRunToTrace : Json := ofError RunEnd.broken.sort Retry.overflowMessage

/-- How a run ended; a run that was given up has no end. -/
def runEndToTrace : Option RunEnd → Json
  | none => .text "deadline"
  | some e =>
    match e.error? with
    | some message => ofError e.sort message
    | none => .text "ok"

end ChatCommands
