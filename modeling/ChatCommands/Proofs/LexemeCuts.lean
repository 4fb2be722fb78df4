import ChatCommands.Proofs.TextAssignment

set_option autoImplicit false

/-!
# Cutting a text into lexemes

A text is blanks, then lexemes with blanks behind each of them, and what a lexeme is depends on the
text behind it: a quote closes only at a break. `Lexeme.Stands` lists the three kinds of lexemes and
`Cut.IsOf` the texts cut in this way. Reading a token is deterministic, and it reads back every
lexeme that stands at the beginning of a text (`Token.split?_of_stands`), so a text has one cut, and
its tokens are those of the cut's lexemes (`tokens_follow_lexemes`).
-/

namespace ChatCommands

open Text (isBlank trimStart)
open Token (atBreak closing? isQuote split? all)

/-! ## Closing quotes -/

namespace Token

/-- Some `quote` in the text stands at a break. -/
def Closes (quote : Char) (s : List Char) : Prop :=
  ∃ before behind, s = before ++ quote :: behind ∧ atBreak behind = true

theorem closes_of_closing? {q : Char} {s body rest : List Char}
    (h : closing? q s = some (body, rest)) : Closes q s := by
  obtain ⟨hs, hbreak, -⟩ := closing?_append h
  exact ⟨body, rest, hs, hbreak⟩

theorem closing?_eq_none_iff {q : Char} {s : List Char} : closing? q s = none ↔ ¬ Closes q s := by
  constructor
  · intro h
    -- a quote at a break is found, or one before it
    suffices hfound : ∀ before behind, s = before ++ q :: behind → atBreak behind = true → False by
      rintro ⟨before, behind, hs, hbreak⟩
      exact hfound before behind hs hbreak
    induction s with
    | nil => simp
    | cons c r ih =>
      rw [closing?] at h
      split at h
      · cases h
      · rename_i hopen
        rw [Option.map_eq_none_iff] at h
        intro before behind hs hbreak
        cases before with
        | nil =>
          obtain ⟨rfl, rfl⟩ : c = q ∧ r = behind := by simpa using hs
          exact hopen ⟨rfl, hbreak⟩
        | cons d before =>
          obtain ⟨rfl, rfl⟩ : c = d ∧ r = before ++ q :: behind := by simpa using hs
          exact ih h before behind rfl hbreak
  · intro h
    cases hfound : closing? q s with
    | none => rfl
    | some found =>
      obtain ⟨body, rest⟩ := found
      exact absurd (closes_of_closing? hfound) h

/-- The quote at `behind` is the first one that closes when none in front of it
stands at a break. -/
theorem closing?_eq_some_iff {q : Char} {s body rest : List Char} :
    closing? q s = some (body, rest) ↔
      s = body ++ q :: rest ∧ atBreak rest = true ∧
        ∀ before behind, body = before ++ q :: behind → atBreak (behind ++ q :: rest) = false := by
  induction s generalizing body with
  | nil => simp [closing?]
  | cons c r ih =>
    rw [closing?]
    split
    · rename_i hclose
      obtain ⟨rfl, hbreak⟩ := hclose
      constructor
      · intro h
        obtain ⟨rfl, rfl⟩ : [] = body ∧ r = rest := by simpa using h
        exact ⟨rfl, hbreak, by simp⟩
      · rintro ⟨hs, -, hfirst⟩
        cases body with
        | nil =>
          obtain rfl : r = rest := by simpa using hs
          rfl
        | cons d body =>
          obtain ⟨rfl, rfl⟩ : c = d ∧ r = body ++ c :: rest := by simpa using hs
          simp [hfirst [] body rfl] at hbreak
    · rename_i hopen
      rw [Option.map_eq_some_iff]
      constructor
      · rintro ⟨⟨body', rest'⟩, hfound, heq⟩
        obtain ⟨rfl, rfl⟩ : c :: body' = body ∧ rest' = rest := by simpa using heq
        obtain ⟨rfl, hbreak, hfirst⟩ := ih.1 hfound
        refine ⟨rfl, hbreak, fun before behind hbody => ?_⟩
        cases before with
        | nil =>
          obtain ⟨rfl, rfl⟩ : c = q ∧ body' = behind := by simpa using hbody
          simpa using hopen
        | cons d before => exact hfirst before behind (List.cons.inj hbody).2
      · rintro ⟨hs, hbreak, hfirst⟩
        cases body with
        | nil =>
          obtain ⟨rfl, rfl⟩ : c = q ∧ r = rest := by simpa using hs
          exact absurd ⟨rfl, hbreak⟩ hopen
        | cons d body =>
          obtain ⟨rfl, rfl⟩ : c = d ∧ r = body ++ q :: rest := by simpa using hs
          refine ⟨(body, rest), ih.2 ⟨rfl, hbreak, fun before behind hbody => ?_⟩, rfl⟩
          exact hfirst (c :: before) behind (by rw [hbody, List.cons_append])

end Token

/-! ## Lexemes -/

/-- A piece of text that stands for a token. -/
structure Lexeme where
  text : List Char
  token : List Char
deriving DecidableEq, Repr

/-- The lexeme is the one that stands in front of `rest`. Its first character is never a blank. -/
inductive Lexeme.Stands : Lexeme → List Char → Prop
  /-- A quoted text, up to the first closing quote. -/
  | quoted {q : Char} {body rest : List Char} (hquote : isQuote q = true)
      (hbreak : atBreak rest = true)
      (hfirst : ∀ before behind, body = before ++ q :: behind →
        atBreak (behind ++ q :: rest) = false) : Stands ⟨q :: (body ++ [q]), body⟩ rest
  /-- A quote that nothing closes takes all that is left, blanks at the end included. -/
  | unclosed {q : Char} {r : List Char} (hquote : isQuote q = true) (hopen : ¬ Token.Closes q r) :
      Stands ⟨q :: r, q :: r⟩ []
  /-- All characters up to the first blank. -/
  | word {c : Char} {w rest : List Char} (hquote : isQuote c = false)
      (hvisible : ∀ d ∈ c :: w, isBlank d = false) (hbreak : atBreak rest = true) :
      Stands ⟨c :: w, c :: w⟩ rest

namespace Lexeme

variable {l : Lexeme} {rest : List Char}

theorem isBlank_of_isQuote {c : Char} (h : isQuote c = true) : isBlank c = false := by
  obtain rfl | rfl : c = '"' ∨ c = '\'' := by simpa [isQuote] using h
  all_goals decide

theorem Stands.atBreak (h : l.Stands rest) : atBreak rest = true := by
  cases h with
  | quoted _ hbreak _ => exact hbreak
  | unclosed _ _ => rfl
  | word _ _ hbreak => exact hbreak

/-- A lexeme begins with a character that is no blank. -/
theorem Stands.exists_cons (h : l.Stands rest) : ∃ c r, l.text = c :: r ∧ isBlank c = false := by
  cases h with
  | quoted hquote _ _ => exact ⟨_, _, rfl, isBlank_of_isQuote hquote⟩
  | unclosed hquote _ => exact ⟨_, _, rfl, isBlank_of_isQuote hquote⟩
  | word _ hvisible _ => exact ⟨_, _, rfl, hvisible _ List.mem_cons_self⟩

theorem Stands.trimStart_append (h : l.Stands rest) (t : List Char) :
    trimStart (l.text ++ t) = l.text ++ t := by
  obtain ⟨c, r, htext, hvisible⟩ := h.exists_cons
  rw [htext]
  exact Text.trimStart_cons hvisible

end Lexeme

namespace Token

variable {s token rest : List Char}

/-- The lexeme at the beginning of a text is read as its token. -/
theorem split?_of_stands {l : Lexeme} (h : l.Stands rest) :
    split? (l.text ++ rest) = some (l.token, rest) := by
  cases h with
  | @quoted q body _ hquote hbreak hfirst =>
    have hclosed : closing? q (body ++ q :: rest) = some (body, rest) :=
      closing?_eq_some_iff.2 ⟨rfl, hbreak, hfirst⟩
    have hq := Lexeme.isBlank_of_isQuote hquote
    simp [split?, Text.trimStart_cons hq, hquote, hclosed]
  | @unclosed q r hquote hopen =>
    have hq := Lexeme.isBlank_of_isQuote hquote
    simp [split?, Text.trimStart_cons hq, hquote, closing?_eq_none_iff.2 hopen]
  | word hquote hvisible hbreak => exact split?_word hvisible hquote hbreak

theorem atBreak_dropWhile (s : List Char) : atBreak (s.dropWhile (!isBlank ·)) = true := by
  have hhead := List.head?_dropWhile_not (!isBlank ·) s
  cases hdrop : s.dropWhile (!isBlank ·) with
  | nil => rfl
  | cons d t => simpa [hdrop, atBreak] using hhead

/-- What is read as a token is a lexeme behind the blanks at the beginning. -/
theorem exists_stands_of_split? (h : split? s = some (token, rest)) :
    ∃ l : Lexeme, l.Stands rest ∧ l.token = token ∧ trimStart s = l.text ++ rest := by
  rw [split?] at h
  split at h
  · cases h
  rename_i c r hc
  rw [hc]
  split at h
  · rename_i hquote
    split at h
    -- the text up to the quote that closes, or all of it when none does
    · rename_i found hfound
      obtain rfl : found = (token, rest) := Option.some.inj h
      obtain ⟨rfl, hbreak, hfirst⟩ := closing?_eq_some_iff.1 hfound
      exact ⟨_, .quoted hquote hbreak hfirst, rfl, by simp⟩
    · rename_i hopen
      obtain ⟨rfl, rfl⟩ : c :: r = token ∧ [] = rest := by simpa using h
      exact ⟨_, .unclosed hquote (closing?_eq_none_iff.1 hopen), rfl, by simp⟩
  -- the first character is no blank, as the text has been trimmed
  · rename_i hquote
    obtain ⟨rfl, rfl⟩ : c :: r.takeWhile (!isBlank ·) = token ∧
        r.dropWhile (!isBlank ·) = rest := by
      simpa using h
    have hvisible : ∀ d ∈ c :: r.takeWhile (!isBlank ·), isBlank d = false := by
      intro d hd
      rcases List.mem_cons.1 hd with rfl | hd
      · exact Text.head?_trimStart s d (by rw [hc]; rfl)
      · simpa using List.mem_takeWhile_imp hd
    exact ⟨_, .word (by simpa using hquote) hvisible (atBreak_dropWhile r), rfl,
      by simp [List.takeWhile_append_dropWhile]⟩

end Token

/-! ## Cuts -/

/-- Blanks, and lexemes with what follows each of them up to the next. -/
structure Cut where
  lead : List Char
  pieces : List (Lexeme × List Char)
deriving DecidableEq, Repr

namespace Cut

/-- The text of lexemes and what follows them. -/
def textOf (pieces : List (Lexeme × List Char)) : List Char :=
  pieces.flatMap fun p => p.1.text ++ p.2

@[simp] theorem textOf_nil : textOf [] = [] := rfl

@[simp] theorem textOf_cons (l : Lexeme) (gap : List Char) (ps : List (Lexeme × List Char)) :
    textOf ((l, gap) :: ps) = l.text ++ (gap ++ textOf ps) := by
  simp [textOf]

/-- The tokens of the lexemes, in order. -/
def tokens (d : Cut) : List (List Char) := d.pieces.map (·.1.token)

/-- Each lexeme stands before the text that follows, and only the last one may be
without blanks behind it. -/
inductive Lexed : List (Lexeme × List Char) → Prop
  | nil : Lexed []
  | cons {l : Lexeme} {gap : List Char} {ps : List (Lexeme × List Char)}
      (hstands : l.Stands (gap ++ textOf ps)) (hblank : ∀ c ∈ gap, isBlank c = true)
      (hgap : ps ≠ [] → gap ≠ []) (hrest : Lexed ps) : Lexed ((l, gap) :: ps)

/-- The cut is one of the text. -/
structure IsOf (d : Cut) (s : List Char) : Prop where
  blank : ∀ c ∈ d.lead, isBlank c = true
  lexed : Lexed d.pieces
  text_eq : d.lead ++ textOf d.pieces = s

variable {d d' : Cut} {s : List Char} {ps ps' : List (Lexeme × List Char)}

/-- The text of lexemes begins with the first of them, so it has no blanks to trim. -/
theorem Lexed.trimStart_textOf (h : Lexed ps) : trimStart (textOf ps) = textOf ps := by
  cases h with
  | nil => rfl
  | cons hstands _ _ _ =>
    rw [textOf_cons]
    exact hstands.trimStart_append _

/-- Trimming a text in front of lexemes removes the blanks in front of them, and nothing else. -/
theorem Lexed.trimStart_append (h : Lexed ps) {gap : List Char}
    (hblank : ∀ c ∈ gap, isBlank c = true) : trimStart (gap ++ textOf ps) = textOf ps := by
  rw [Text.trimStart_append_of_blank hblank, h.trimStart_textOf]

theorem Lexed.all_textOf (h : Lexed ps) : all (textOf ps) = ps.map (·.1.token) := by
  induction h with
  | nil => exact Token.all_of_split?_none rfl
  | cons hstands hblank _ hrest ih =>
    rw [textOf_cons, Token.all_of_split?_some (Token.split?_of_stands hstands), List.map_cons,
      ← Token.all_trimStart, hrest.trimStart_append hblank, ih]

/-- There are no more lexemes than characters. -/
theorem Lexed.length_le (h : Lexed ps) : ps.length ≤ (textOf ps).length := by
  induction h with
  | nil => exact Nat.le_refl _
  | cons hstands _ _ _ ih =>
    obtain ⟨c, r, htext, -⟩ := hstands.exists_cons
    simp only [textOf_cons, htext, List.length_cons, List.length_append]
    omega

/-- Two ways of cutting a text that begins with a lexeme are the same: reading the first token
determines the text behind it, and with it the lexeme and the blanks. -/
theorem Lexed.unique (h : Lexed ps) (h' : Lexed ps') (heq : textOf ps = textOf ps') : ps = ps' := by
  induction h generalizing ps' with
  -- a lexeme is never empty, so no lexemes and some lexemes differ in their texts
  | nil =>
    cases h' with
    | nil => rfl
    | cons hstands' _ _ _ =>
      obtain ⟨c, r, htext, -⟩ := hstands'.exists_cons
      simp [htext] at heq
  | @cons l gap ps hstands hblank _ hrest ih =>
    cases h' with
    | nil =>
      obtain ⟨c, r, htext, -⟩ := hstands.exists_cons
      simp [htext] at heq
    | @cons l' gap' ps' hstands' hblank' _ hrest' =>
      rw [textOf_cons, textOf_cons] at heq
      have hread := Token.split?_of_stands hstands
      rw [heq, Token.split?_of_stands hstands'] at hread
      obtain ⟨htoken, hbehind⟩ : l'.token = l.token ∧ gap' ++ textOf ps' = gap ++ textOf ps := by
        simpa using hread
      have htext : l.text = l'.text := by
        rw [hbehind] at heq
        exact List.append_cancel_right heq
      obtain rfl : l = l' := by
        cases l
        cases l'
        simp only at htoken htext
        rw [htoken, htext]
      -- the blanks are what trimming removes
      have hps : textOf ps = textOf ps' := by
        rw [← hrest.trimStart_append hblank, ← hrest'.trimStart_append hblank', hbehind]
      obtain rfl := ih hrest' hps
      rw [List.append_cancel_right hbehind]

theorem IsOf.unique (h : d.IsOf s) (h' : d'.IsOf s) : d = d' := by
  have heq : d.lead ++ textOf d.pieces = d'.lead ++ textOf d'.pieces :=
    h.text_eq.trans h'.text_eq.symm
  have hpieces : d.pieces = d'.pieces := by
    refine h.lexed.unique h'.lexed ?_
    rw [← h.lexed.trimStart_append h.blank, ← h'.lexed.trimStart_append h'.blank, heq]
  rw [hpieces] at heq
  have hlead := List.append_cancel_right heq
  cases d
  cases d'
  simp only at hlead hpieces
  rw [hlead, hpieces]

theorem IsOf.all_eq (h : d.IsOf s) : all s = d.tokens := by
  rw [← h.text_eq, ← Token.all_trimStart, h.lexed.trimStart_append h.blank, h.lexed.all_textOf]
  rfl

theorem IsOf.length_tokens_le (h : d.IsOf s) : d.tokens.length ≤ s.length := by
  have hle := h.lexed.length_le
  rw [← h.text_eq, tokens, List.length_map, List.length_append]
  omega

/-- A cut exists: the first lexeme is the one that is read, and the text behind it is
cut in turn. -/
theorem exists_isOf (s : List Char) : ∃ d : Cut, d.IsOf s := by
  obtain ⟨blanks, hblank, hs⟩ := Text.exists_blanks_trimStart s
  cases hread : split? s with
  | none =>
    refine ⟨⟨blanks, []⟩, hblank, .nil, ?_⟩
    rw [(Token.split?_eq_none_iff s).1 hread] at hs
    exact hs.symm
  | some found =>
    obtain ⟨token, rest⟩ := found
    obtain ⟨l, hstands, -, htrim⟩ := Token.exists_stands_of_split? hread
    have hshorter := Token.split?_length hread
    obtain ⟨⟨gap, ps⟩, hgapBlank, hlexed, hrest⟩ := exists_isOf rest
    simp only at hgapBlank hlexed hrest
    refine ⟨⟨blanks, (l, gap) :: ps⟩, hblank,
      .cons (by rw [hrest]; exact hstands) hgapBlank ?_ hlexed, ?_⟩
    -- a break stands behind the lexeme, and the next lexeme does not begin with a blank
    · intro hps hgap
      have hbreak := hstands.atBreak
      rw [← hrest, hgap, List.nil_append] at hbreak
      cases hlexed with
      | nil => exact hps rfl
      | cons hstands' _ _ _ =>
        obtain ⟨c, r, htext, hvisible⟩ := hstands'.exists_cons
        rw [textOf_cons, htext] at hbreak
        simp [Token.atBreak, hvisible] at hbreak
    · rw [textOf_cons, hrest, ← htrim, ← hs]
termination_by s.length

end Cut

/-- Reading one token stops exactly at blank texts, and leaves a shorter end of the text that is
empty or begins with a blank. -/
theorem Token.split?_rest {s token rest : List Char} (h : split? s = some (token, rest)) :
    rest <:+ s ∧ rest.length < s.length ∧ atBreak rest = true := by
  obtain ⟨l, hstands, -, htrim⟩ := exists_stands_of_split? h
  refine ⟨?_, split?_length h, hstands.atBreak⟩
  obtain ⟨blanks, -, hs⟩ := Text.exists_blanks_trimStart s
  exact ⟨blanks ++ l.text, by rw [List.append_assoc, ← htrim, ← hs]⟩

/-- A text has one cut into lexemes, and its tokens are theirs, no more of them than characters.
Reading one token ends without one exactly on blank texts, and otherwise leaves a shorter end of the
text, which is empty or begins with a blank. -/
theorem tokens_follow_lexemes (s : String) :
    (∃! d : Cut, d.IsOf s.toList) ∧
      (∀ d : Cut, d.IsOf s.toList → Token.allOf s = d.tokens.map String.ofList) ∧
      (Token.allOf s).length ≤ s.toList.length ∧
      (split? s.toList = none ↔ ∀ c ∈ s.toList, isBlank c = true) ∧
      ∀ token rest, split? s.toList = some (token, rest) →
        rest <:+ s.toList ∧ rest.length < s.toList.length ∧
          (rest = [] ∨ ∃ c r, rest = c :: r ∧ isBlank c = true) := by
  obtain ⟨d, hd⟩ := Cut.exists_isOf s.toList
  have htokens : ∀ d : Cut, d.IsOf s.toList → Token.allOf s = d.tokens.map String.ofList := by
    intro d hd
    rw [Token.allOf, hd.all_eq]
  refine ⟨⟨d, hd, fun d' hd' => hd'.unique hd⟩, htokens, ?_, ?_, ?_⟩
  · rw [htokens d hd, List.length_map]
    exact hd.length_tokens_le
  · rw [Token.split?_eq_none_iff, Text.trimStart_eq_nil_iff]
  · intro token rest h
    obtain ⟨hsuffix, hshorter, hbreak⟩ := Token.split?_rest h
    refine ⟨hsuffix, hshorter, ?_⟩
    cases rest with
    | nil => exact .inl rfl
    | cons c r => exact .inr ⟨c, r, rfl, hbreak⟩

/-- A quoted lexeme, a word and an open quote. -/
def mixedCut : Cut where
  lead := " ".toList
  pieces := [(⟨"\"a 'b\"".toList, "a 'b".toList⟩, "  ".toList),
    (⟨"x'y".toList, "x'y".toList⟩, " ".toList), (⟨"'open  ".toList, "'open  ".toList⟩, [])]

/-- A quote of the other kind does not close, one inside a word does not open, and an open quote
takes the blanks at the end. -/
theorem mixed_tokens :
    mixedCut.IsOf " \"a 'b\"  x'y 'open  ".toList ∧
      Token.allOf " \"a 'b\"  x'y 'open  " = ["a 'b", "x'y", "'open  "] := by
  have hfirst : ∀ before behind, "a 'b".toList = before ++ '"' :: behind →
      atBreak (behind ++ '"' :: "  x'y 'open  ".toList) = false := by
    intro before behind h
    have hmem : '"' ∈ "a 'b".toList := by rw [h]; simp
    exact absurd hmem (by decide)
  have hopen : ¬ Token.Closes '\'' "open  ".toList := by
    rintro ⟨before, behind, h, -⟩
    have hmem : '\'' ∈ "open  ".toList := by rw [h]; simp
    exact absurd hmem (by decide)
  have hvisible : ∀ d ∈ "x'y".toList, isBlank d = false :=
    fun d hd => Bool.eq_false_iff.2 (List.any_eq_false.1 rfl d hd)
  have hcut : mixedCut.IsOf " \"a 'b\"  x'y 'open  ".toList :=
    { blank := List.all_eq_true.1 rfl
      lexed := .cons (.quoted rfl rfl hfirst) (List.all_eq_true.1 rfl) (by decide)
        (.cons (.word rfl hvisible rfl) (List.all_eq_true.1 rfl) (by decide)
          (.cons (.unclosed rfl hopen) (List.all_eq_true.1 rfl) (by decide) .nil))
      text_eq := rfl }
  exact ⟨hcut, (tokens_follow_lexemes " \"a 'b\"  x'y 'open  ").2.1 mixedCut hcut⟩

end ChatCommands
