import ChatCommands.Invocation.Token

set_option autoImplicit false

/-!
# Token streams

Argument text that is cut into tokens as it is read. Tokens put in front, as an alias does, wait in
a queue before the untouched text, so that the text left over is the same whether or not an alias
applied. `toList` is the view of a stream as the list of all its tokens.
-/

namespace ChatCommands

/-- Tokens ready to be read, and the text after them that is still uncut. -/
structure TokenStream where
  pending : List String
  rest : List Char
  deriving DecidableEq, Repr, Inhabited

namespace TokenStream

/-- The stream without tokens. -/
def empty : TokenStream := ⟨[], []⟩

/-- The stream of the tokens of a text. -/
def ofText (text : String) : TokenStream := ⟨[], Text.trimStart text.toList⟩

/-- The stream of given tokens. -/
def ofTokens (tokens : List String) : TokenStream := ⟨tokens, []⟩

/-- All tokens, in order. -/
def toList (s : TokenStream) : List String := s.pending ++ (Token.all s.rest).map String.ofList

/-- The first tokens of a text, at most `count` of them. -/
def firstTokens : Nat → List Char → List String
  | 0, _ => []
  | n + 1, s =>
    match Token.split? s with
    | none => []
    | some (token, rest) => String.ofList token :: firstTokens n rest

/-- The next tokens without reading them, at most `count` of them. -/
def peekMany (s : TokenStream) (count : Nat) : List String :=
  s.pending.take count ++ firstTokens (count - s.pending.length) s.rest

/-- The next token without reading it. -/
def peek? (s : TokenStream) : Option String := (s.peekMany 1).getLast?

/-- The next token and the stream after it. -/
def next? (s : TokenStream) : Option (String × TokenStream) :=
  match s.pending with
  | token :: pending => some (token, ⟨pending, s.rest⟩)
  | [] =>
    match Token.split? s.rest with
    | none => none
    | some (token, rest) => some (String.ofList token, ⟨[], Text.trimStart rest⟩)

/-- The stream without its next `count` tokens. -/
def skip (s : TokenStream) : Nat → TokenStream
  | 0 => s
  | n + 1 =>
    match s.next? with
    | none => s
    | some (_, s) => s.skip n

/-- The stream with tokens in front of everything unread. -/
def splice (s : TokenStream) (tokens : List String) : TokenStream := ⟨tokens ++ s.pending, s.rest⟩

/-- Everything unread, the uncut text as it stands but for trailing blanks. -/
def remainder (s : TokenStream) : String :=
  let rest := Text.trimEnd s.rest
  " ".intercalate (s.pending ++ if rest = [] then [] else [String.ofList rest])

/-- Something is unread. -/
def hasRemaining (s : TokenStream) : Bool := !s.pending.isEmpty || !(Text.trim s.rest).isEmpty

/-- A measure that each token read lowers. -/
def size (s : TokenStream) : Nat := s.pending.length + s.rest.length

/-- Reading a token lowers the measure. -/
theorem next?_size {s s' : TokenStream} {token : String} (h : s.next? = some (token, s')) :
    s'.size < s.size := by
  obtain ⟨pending, rest⟩ := s
  cases pending with
  | cons t ts =>
    simp [next?] at h
    simp [size, ← h.2]
  | nil =>
    simp only [next?] at h
    split at h
    · simp at h
    · rename_i tok r hr
      simp at h
      have h1 := Token.split?_length hr
      have h2 := Text.length_dropWhile_le Text.isBlank r
      simp [size, ← h.2, Text.trimStart]
      omega

/-- All tokens, read one after the other. -/
def drain (s : TokenStream) : List String :=
  match _h : s.next? with
  | none => []
  | some (token, s') => token :: drain s'
termination_by s.size
decreasing_by exact next?_size _h

/-- The stream after everything has been read. -/
def drained (s : TokenStream) : TokenStream :=
  match _h : s.next? with
  | none => s
  | some (_, s') => drained s'
termination_by s.size
decreasing_by exact next?_size _h

end TokenStream

end ChatCommands
