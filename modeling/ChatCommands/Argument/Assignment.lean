import ChatCommands.Argument.Value
import ChatCommands.Outcome

set_option autoImplicit false

/-!
# Assigning raw arguments

Raw arguments are paired with parameters before they are parsed. In text, attachments go to the
attachment parameters and tokens to the others, both in order; the last parameter may take all that
is left. In slash interactions, options and attachments go by name.
-/

namespace ChatCommands

/-- Tokens for the parameters that do not take attachments, and the stream after them. -/
def assignTokens : List Parameter → TokenStream → List (String × RawArgument) × TokenStream
  | [], s => ([], s)
  | [p], s =>
    if p.kind.merges then
      let rest := s.remainder
      (if rest = "" then [] else [(p.name, .text rest)], .empty)
    else
      match s.next? with
      | none => ([], s)
      | some (token, s) => ([(p.name, .text token)], s)
  | p :: ps, s =>
    match s.next? with
    | none => ([], s)
    | some (token, s) =>
      let (rest, s) := assignTokens ps s
      ((p.name, .text token) :: rest, s)

/-- The entries with the last one of equal names. -/
def lastOfEach {α : Type} (entries : List (String × α)) : List (String × α) :=
  entries.foldl (fun kept (name, value) => setValue name value kept) []

/-- The raw arguments of text. -/
def assignText (parameters : List Parameter) (tokens : TokenStream)
    (attachments : List Attachment) : Except Failure (List (String × RawArgument)) :=
  let files := parameters.filter (·.kind.isAttachment)
  let inputs := parameters.filter (!·.kind.isAttachment)
  let given := (files.zip attachments).map fun (p, a) => (p.name, RawArgument.attachment a)
  let extraFiles := (attachments.drop files.length).map (·.filename)
  if extraFiles ≠ [] then .error (.argumentExtra extraFiles)
  else
    let (typed, rest) := assignTokens inputs tokens
    let extra := rest.drain
    if extra ≠ [] then .error (.argumentExtra extra)
    else .ok (lastOfEach (given ++ typed))

/-- The raw arguments of a slash interaction. A name is used up by the first
parameter of its sort. -/
def assignSlash : List Parameter → List (String × Slot) → List (String × Attachment) →
    List (String × RawArgument)
  | [], _, _ => []
  | p :: ps, options, attachments =>
    if p.kind.isAttachment then
      let rest := assignSlash ps options (attachments.filter (·.1 != p.name))
      match valueOf? p.name attachments with
      | some a => (p.name, .attachment a) :: rest
      | none => rest
    else
      let rest := assignSlash ps (options.filter (·.1 != p.name)) attachments
      match valueOf? p.name options with
      | some s => (p.name, .slot s) :: rest
      | none => rest

/-- The raw arguments of the parameters that have one. -/
def assign (parameters : List Parameter) (source : ArgumentSource) :
    Except Failure (List (String × RawArgument)) :=
  match source with
  | .text tokens attachments => assignText parameters tokens attachments
  | .slash options attachments => .ok (lastOfEach (assignSlash parameters options attachments))

end ChatCommands
