import ChatCommands.Text.Blank

set_option autoImplicit false

/-!
# Tokens of a text

A text is cut into tokens at blanks, with two kinds of quotes. A token that opens with a quote runs
to the first same quote that stands before a blank or at the end; without such a quote it takes the
whole rest as it stands, the opening quote included.
-/

namespace ChatCommands.Token

open Text (isBlank trimStart)

/-- The text is empty or begins with a blank. -/
def atBreak : List Char → Bool
  | [] => true
  | c :: _ => isBlank c

/-- The text up to the first `quote` that stands at a break, and what follows that quote. -/
def closing? (quote : Char) : List Char → Option (List Char × List Char)
  | [] => none
  | c :: r =>
    if c = quote ∧ atBreak r then some ([], r)
    else (closing? quote r).map fun (body, rest) => (c :: body, rest)

/-- A character that opens a quoted token. -/
def isQuote (c : Char) : Bool := c == '"' || c == '\''

/-- The first token and what follows it; absent when the text is blank. -/
def split? (s : List Char) : Option (List Char × List Char) :=
  match trimStart s with
  | [] => none
  | c :: r =>
    if isQuote c then
      match closing? c r with
      | some found => some found
      | none => some (c :: r, [])
    else some (c :: r.takeWhile (!isBlank ·), r.dropWhile (!isBlank ·))

/-- What follows the closing quote is no longer than the text. -/
theorem closing?_length {q : Char} {s body rest : List Char}
    (h : closing? q s = some (body, rest)) : rest.length < s.length := by
  induction s generalizing body with
  | nil => simp [closing?] at h
  | cons c r ih =>
    simp only [closing?] at h
    split at h
    · simp at h; simp [h.2]
    · simp only [Option.map_eq_some_iff] at h
      obtain ⟨⟨b, t⟩, hb, he⟩ := h
      simp at he
      obtain ⟨_, rfl⟩ := he
      have := ih hb
      simp; omega

/-- What follows a token is shorter than the text. -/
theorem split?_length {s token rest : List Char} (h : split? s = some (token, rest)) :
    rest.length < s.length := by
  have hs := Text.length_dropWhile_le isBlank s
  simp only [split?, trimStart] at h
  split at h
  · simp at h
  · rename_i c r hc
    rw [hc] at hs
    simp at hs
    split at h
    · split at h
      · rename_i found hf
        obtain ⟨b, t⟩ := found
        simp at h
        obtain ⟨rfl, rfl⟩ := h
        have := closing?_length hf
        omega
      · simp at h
        obtain ⟨_, rfl⟩ := h
        simp
        omega
    · simp at h
      have := Text.length_dropWhile_le (fun c => !isBlank c) r
      rw [← h.2]; omega

/-- All tokens of a text, in order. -/
def all (s : List Char) : List (List Char) :=
  match _h : split? s with
  | none => []
  | some (token, rest) => token :: all rest
termination_by s.length
decreasing_by exact split?_length _h

/-- All tokens of a string, in order. -/
def allOf (s : String) : List String := (all s.toList).map String.ofList

end ChatCommands.Token
