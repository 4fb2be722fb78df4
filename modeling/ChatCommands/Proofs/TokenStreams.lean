import ChatCommands.Invocation.TokenStream
import Mathlib.Data.List.DropRight

set_option autoImplicit false

/-!
# Reading token streams

A stream is read through its list view: peeking, reading, skipping and draining are `take`, `head`,
`drop` and the whole of `toList`. `Alike` is the relation of streams that no way of reading tells
apart: they hold the same tokens, and they leave the same remainder after every number of tokens.
-/

namespace ChatCommands

namespace Text

/-- A trimmed text begins with no blank, so trimming it once more changes nothing. -/
theorem trimStart_trimStart (s : List Char) : trimStart (trimStart s) = trimStart s :=
  List.dropWhile_idempotent isBlank s

theorem trimStart_cons {c : Char} {r : List Char} (h : isBlank c = false) :
    trimStart (c :: r) = c :: r := by
  simp [trimStart, h]

theorem trimStart_blank_cons {c : Char} {r : List Char} (h : isBlank c = true) :
    trimStart (c :: r) = trimStart r := by
  simp [trimStart, h]

theorem trimStart_eq_nil_iff (s : List Char) : trimStart s = [] ↔ ∀ c ∈ s, isBlank c = true := by
  simp [trimStart]

theorem trimEnd_eq_nil_iff (s : List Char) : trimEnd s = [] ↔ ∀ c ∈ s, isBlank c = true := by
  simp [trimEnd]

/-- Trimming leaves nothing exactly of blank texts. -/
theorem trim_eq_nil_iff (s : List Char) : trim s = [] ↔ trimStart s = [] := by
  constructor
  · intro h
    rw [trimStart_eq_nil_iff]
    intro c hc
    -- what stands before the trimmed text is blank anyway
    have hrest : ∀ c ∈ trimStart s, isBlank c = true := (trimEnd_eq_nil_iff _).1 h
    have hsplit : s.takeWhile isBlank ++ trimStart s = s := List.takeWhile_append_dropWhile
    rw [← hsplit, List.mem_append] at hc
    rcases hc with hc | hc
    · exact List.mem_takeWhile_imp hc
    · exact hrest c hc
  · intro h
    rw [trim, h]
    rfl

/-- The end of a text is trimmed in its last part, unless that part is blank. -/
theorem trimEnd_append (s t : List Char) :
    trimEnd (s ++ t) = if trimEnd t = [] then trimEnd s else s ++ trimEnd t := by
  simp only [trimEnd, List.reverse_append, List.dropWhile_append, List.isEmpty_iff,
    List.reverse_eq_nil_iff]
  split <;> simp

/-- A text without blanks is trimmed already. -/
theorem trimEnd_of_no_blank {s : List Char} (h : ∀ c ∈ s, isBlank c = false) : trimEnd s = s := by
  show s.rdropWhile isBlank = s
  rw [List.rdropWhile_eq_self_iff]
  intro hne
  simp [h _ (List.getLast_mem hne)]

end Text

namespace Token

open Text (isBlank trimStart)

/-- Blanks in front of a text do not change its first token. -/
theorem split?_trimStart (s : List Char) : split? (trimStart s) = split? s := by
  simp only [split?, Text.trimStart_trimStart]

/-- Only a blank text has no first token: an empty quotation is a token too. -/
theorem split?_eq_none_iff (s : List Char) : split? s = none ↔ trimStart s = [] := by
  simp only [split?]
  split
  · rename_i h
    simp [h]
  · rename_i c r h
    simp only [h, reduceCtorEq, iff_false]
    split
    · split <;> simp
    · simp

theorem all_of_split?_none {s : List Char} (h : split? s = none) : all s = [] := by
  rw [all]
  split
  · rfl
  · rename_i heq
    rw [h] at heq
    simp at heq

/-- The tokens of a text are its first one and those of what is left behind it. -/
theorem all_of_split?_some {s token rest : List Char} (h : split? s = some (token, rest)) :
    all s = token :: all rest := by
  rw [all]
  split
  · rename_i heq
    rw [h] at heq
    simp at heq
  · rename_i heq
    rw [h] at heq
    obtain ⟨rfl, rfl⟩ : token = _ ∧ rest = _ := by simpa using heq
    rfl

/-- A text has no tokens iff it is blank. -/
theorem all_eq_nil_iff (s : List Char) : all s = [] ↔ trimStart s = [] := by
  rw [← split?_eq_none_iff]
  cases h : split? s with
  | none => simp [all_of_split?_none h]
  | some found => simp [all_of_split?_some h]

theorem all_trimStart (s : List Char) : all (trimStart s) = all s := by
  cases h : split? s with
  | none => rw [all_of_split?_none h, all_of_split?_none (by rw [split?_trimStart, h])]
  | some found => rw [all_of_split?_some h, all_of_split?_some (by rw [split?_trimStart, h])]

/-- A text that begins with a word, then a break: the word is the first token. -/
theorem split?_word {c : Char} {w rest : List Char} (hblank : ∀ d ∈ c :: w, isBlank d = false)
    (hquote : isQuote c = false) (hrest : atBreak rest = true) :
    split? (c :: w ++ rest) = some (c :: w, rest) := by
  have hc : trimStart (c :: w ++ rest) = c :: (w ++ rest) :=
    Text.trimStart_cons (hblank c List.mem_cons_self)
  have hw : ∀ d ∈ w, (!isBlank d) = true := by
    intro d hd
    simp [hblank d (List.mem_cons_of_mem c hd)]
  -- the word is taken up to the break, and not beyond it
  have htake : (w ++ rest).takeWhile (!isBlank ·) = w := by
    rw [List.takeWhile_append_of_pos hw]
    cases rest with
    | nil => simp
    | cons d r =>
      have hd : isBlank d = true := hrest
      simp [hd]
  have hdrop : (w ++ rest).dropWhile (!isBlank ·) = rest := by
    rw [List.dropWhile_append_of_pos hw]
    cases rest with
    | nil => rfl
    | cons d r =>
      have hd : isBlank d = true := hrest
      simp [hd]
  simp only [split?, hc]
  simp [hquote, htake, hdrop]

end Token

namespace TokenStream

/-! ## The list view -/

theorem toList_cons (token : String) (pending : List String) (rest : List Char) :
    toList ⟨token :: pending, rest⟩ = token :: toList ⟨pending, rest⟩ := rfl

theorem toList_of_rest (rest : List Char) :
    toList ⟨[], rest⟩ = (Token.all rest).map String.ofList :=
  rfl

@[simp] theorem toList_ofTokens (tokens : List String) : (ofTokens tokens).toList = tokens := by
  have h : Token.all [] = [] := Token.all_of_split?_none rfl
  simp [ofTokens, toList, h]

@[simp] theorem toList_ofText (text : String) : (ofText text).toList = Token.allOf text := by
  simp [ofText, toList, Token.allOf, Token.all_trimStart]

/-- A stream is at its end iff its list view is empty. -/
theorem next?_eq_none_iff (s : TokenStream) : s.next? = none ↔ s.toList = [] := by
  obtain ⟨pending, rest⟩ := s
  cases pending with
  | cons token pending => simp [next?, toList_cons]
  | nil =>
    -- without pending tokens, the uncut text decides
    rw [toList_of_rest, List.map_eq_nil_iff, Token.all_eq_nil_iff, ← Token.split?_eq_none_iff]
    simp only [next?]
    split
    · rename_i h
      simp [h]
    · rename_i h
      simp [h]

/-- Reading a token takes the head of the list view. -/
theorem toList_of_next? {s s' : TokenStream} {token : String} (h : s.next? = some (token, s')) :
    s.toList = token :: s'.toList := by
  obtain ⟨pending, rest⟩ := s
  cases pending with
  | cons first pending =>
    obtain ⟨rfl, rfl⟩ : first = token ∧ ⟨pending, rest⟩ = s' := by simpa [next?] using h
    rfl
  | nil =>
    simp only [next?] at h
    split at h
    · simp at h
    · rename_i found after hsplit
      obtain ⟨rfl, rfl⟩ : String.ofList found = token ∧ ⟨[], Text.trimStart after⟩ = s' := by
        simpa using h
      rw [toList_of_rest, Token.all_of_split?_some hsplit, List.map_cons, toList_of_rest,
        Token.all_trimStart]

/-- The head of the list view can be read, and the tail is left. -/
theorem next?_of_toList_cons {s : TokenStream} {token : String} {tokens : List String}
    (h : s.toList = token :: tokens) : ∃ s', s.next? = some (token, s') ∧ s'.toList = tokens := by
  cases hnext : s.next? with
  | none =>
    rw [next?_eq_none_iff, h] at hnext
    simp at hnext
  | some found =>
    obtain ⟨token', s'⟩ := found
    have htokens := toList_of_next? hnext
    rw [h] at htokens
    obtain ⟨rfl, rfl⟩ := List.cons.inj htokens
    exact ⟨s', rfl, rfl⟩

/-- At its end a stream stays as it is, however much is skipped. -/
theorem skip_of_next?_none {s : TokenStream} (h : s.next? = none) (n : Nat) : s.skip n = s := by
  cases n with
  | zero => rfl
  | succ n => simp [skip, h]

theorem skip_succ_of_next? {s s' : TokenStream} {token : String} (h : s.next? = some (token, s'))
    (n : Nat) : s.skip (n + 1) = s'.skip n := by
  simp [skip, h]

/-- Skipping drops tokens from the front; skipping beyond the end drops all of them. -/
theorem toList_skip (s : TokenStream) (n : Nat) : (s.skip n).toList = s.toList.drop n := by
  induction n generalizing s with
  | zero => rfl
  | succ n ih =>
    cases hnext : s.next? with
    | none =>
      have hnil : s.toList = [] := (next?_eq_none_iff s).1 hnext
      rw [skip_of_next?_none hnext, hnil, List.drop_nil]
    | some found =>
      rw [skip_succ_of_next? hnext, ih, toList_of_next? hnext, List.drop_succ_cons]

/-- Skipping twice is skipping once by the sum, remainder included. -/
theorem skip_add (s : TokenStream) (m n : Nat) : s.skip (m + n) = (s.skip m).skip n := by
  induction m generalizing s with
  | zero => rw [Nat.zero_add]; rfl
  | succ m ih =>
    cases hnext : s.next? with
    -- at the end nothing more is skipped
    | none => rw [skip_of_next?_none hnext, skip_of_next?_none hnext, skip_of_next?_none hnext]
    | some found =>
      rw [Nat.add_right_comm, skip_succ_of_next? hnext, skip_succ_of_next? hnext, ih]

@[simp] theorem toList_splice (s : TokenStream) (tokens : List String) :
    (s.splice tokens).toList = tokens ++ s.toList :=
  List.append_assoc ..

/-- Cutting only as many tokens as are asked for gives the beginning of all tokens. -/
theorem firstTokens_eq_take (n : Nat) (rest : List Char) :
    firstTokens n rest = ((Token.all rest).map String.ofList).take n := by
  induction n generalizing rest with
  | zero => rfl
  | succ n ih =>
    rw [firstTokens]
    split
    · rename_i h
      rw [Token.all_of_split?_none h]
      rfl
    · rename_i token after h
      rw [Token.all_of_split?_some h, ih, List.map_cons, List.take_succ_cons]

/-- Peeking shows the beginning of the list view. -/
theorem peekMany_eq_take (s : TokenStream) (n : Nat) : s.peekMany n = s.toList.take n := by
  rw [peekMany, firstTokens_eq_take, toList, List.take_append]

/-- Something remains, among pending tokens or in the uncut text, iff the list view holds a token.
-/
theorem hasRemaining_iff (s : TokenStream) : s.hasRemaining = true ↔ s.toList ≠ [] := by
  have hrest : (Text.trim s.rest).isEmpty = true ↔ Token.all s.rest = [] := by
    rw [List.isEmpty_iff, Text.trim_eq_nil_iff, Token.all_eq_nil_iff]
  simp [hasRemaining, toList, ← hrest]
  tauto

/-- Draining reads the list view to its end. -/
theorem drain_eq_toList (s : TokenStream) : s.drain = s.toList := by
  fun_induction drain s with
  | case1 s h => exact ((next?_eq_none_iff s).1 h).symm
  | case2 s token s' h ih => rw [ih, toList_of_next? h]

theorem hasRemaining_eq (s : TokenStream) : s.hasRemaining = !s.toList.isEmpty := by
  rw [Bool.eq_iff_iff, hasRemaining_iff]
  simp

/-! ## Streams that read alike -/

/-- Streams of the same tokens, with the same remainder after every number of tokens. -/
structure Alike (s t : TokenStream) : Prop where
  toList_eq : s.toList = t.toList
  remainder_skip : ∀ n, (s.skip n).remainder = (t.skip n).remainder

namespace Alike

variable {s t : TokenStream}

theorem refl (s : TokenStream) : Alike s s := ⟨rfl, fun _ => rfl⟩

theorem remainder_eq (h : Alike s t) : s.remainder = t.remainder := h.remainder_skip 0

/-- Streams that read alike do so after any number of tokens. -/
theorem skip (h : Alike s t) (n : Nat) : Alike (s.skip n) (t.skip n) := by
  refine ⟨?_, fun m => ?_⟩
  · rw [toList_skip, toList_skip, h.toList_eq]
  · rw [← skip_add, ← skip_add]
    exact h.remainder_skip (n + m)

theorem next?_none (h : Alike s t) (hs : s.next? = none) : t.next? = none := by
  rw [next?_eq_none_iff] at hs ⊢
  rw [← h.toList_eq, hs]

/-- Reading a token of one stream reads the same token of the other, and what is left is alike. -/
theorem next?_some (h : Alike s t) {s' : TokenStream} {token : String}
    (hs : s.next? = some (token, s')) : ∃ t', t.next? = some (token, t') ∧ Alike s' t' := by
  have htokens : t.toList = token :: s'.toList := by rw [← h.toList_eq, toList_of_next? hs]
  obtain ⟨t', ht, -⟩ := next?_of_toList_cons htokens
  -- one token less on both sides
  have hskip := h.skip 1
  rw [skip_succ_of_next? hs, skip_succ_of_next? ht] at hskip
  exact ⟨t', ht, hskip⟩

/-- The next token is the same. -/
theorem next?_fst (h : Alike s t) : s.next?.map (·.1) = t.next?.map (·.1) := by
  cases hs : s.next? with
  | none => rw [h.next?_none hs]
  | some found =>
    obtain ⟨t', ht, -⟩ := h.next?_some hs
    rw [ht]
    rfl

theorem peekMany_eq (h : Alike s t) (n : Nat) : s.peekMany n = t.peekMany n := by
  rw [peekMany_eq_take, peekMany_eq_take, h.toList_eq]

theorem hasRemaining_eq (h : Alike s t) : s.hasRemaining = t.hasRemaining := by
  rw [TokenStream.hasRemaining_eq, TokenStream.hasRemaining_eq, h.toList_eq]

theorem drain_eq (h : Alike s t) : s.drain = t.drain := by
  rw [drain_eq_toList, drain_eq_toList, h.toList_eq]

end Alike

end TokenStream

end ChatCommands
