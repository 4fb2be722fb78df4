import ChatCommands.Proofs.LexemeCuts

set_option autoImplicit false

/-!
# Tokens of remainders

A parameter that takes the rest of a text cuts it into tokens once more, and what it gets is not the
end of the text as it stands, but that end without the blanks behind it. Cutting off blanks leaves
every lexeme in place but the last, and of the last it changes only a quote that nothing closes
(`Cut.Lexed.all_trimEnd`): no quote closes that did not close before. So the remainder of a stream
of text holds the tokens that the stream would still give, up to the blanks at the end of an open
quote (`remainder_holds_tokens`).
-/

namespace ChatCommands

open Text (isBlank trimStart trimEnd trim)
open Token (atBreak isQuote all)

/-! ## Blanks at the end -/

theorem Token.atBreak_append {s blanks : List Char} (h : atBreak s = true)
    (hblank : ∀ c ∈ blanks, isBlank c = true) : atBreak (s ++ blanks) = true := by
  cases s with
  | cons c r => exact h
  | nil =>
    cases blanks with
    | nil => rfl
    | cons c r => exact hblank c List.mem_cons_self

/-- A quote that closes in front of the end of a text closed before the blanks at the end were cut
off. -/
theorem Token.closes_of_closes_trimEnd {q : Char} {s : List Char} (h : Token.Closes q (trimEnd s)) :
    Token.Closes q s := by
  obtain ⟨before, behind, hs, hbreak⟩ := h
  obtain ⟨blanks, hblank, htext⟩ := Text.exists_trimEnd_blanks s
  refine ⟨before, behind ++ blanks, ?_, Token.atBreak_append hbreak hblank⟩
  rw [htext, hs, List.append_assoc, List.cons_append]

namespace Lexeme

variable {l : Lexeme} {rest gap : List Char}

/-- The lexeme is a quote that nothing closes: its token is all of it, and begins with the quote. -/
def IsOpen (l : Lexeme) : Prop := l.token = l.text ∧ l.text.head?.any isQuote = true

instance (l : Lexeme) : Decidable l.IsOpen := inferInstanceAs (Decidable (_ ∧ _))

/-- The token of a lexeme at the end of a text without the blanks behind the text. -/
def endToken (l : Lexeme) : List Char := if l.IsOpen then trimEnd l.token else l.token

theorem Stands.of_isOpen (h : l.Stands rest) (hopen : l.IsOpen) :
    rest = [] ∧ ∃ q r, isQuote q = true ∧ ¬ Token.Closes q r ∧ l = ⟨q :: r, q :: r⟩ := by
  obtain ⟨hwhole, hfirst⟩ := hopen
  cases h with
  | quoted =>
    -- the token is shorter than the text by the two quotes
    have hlength := congrArg List.length hwhole
    simp only [List.length_cons, List.length_append, List.length_nil] at hlength
    omega
  | unclosed hquote hopen => exact ⟨rfl, _, _, hquote, hopen, rfl⟩
  | word hquote =>
    simp only [List.head?_cons, Option.any_some, hquote] at hfirst
    cases hfirst

/-- What is no open quote ends visibly, and stands before any break. -/
theorem Stands.of_not_isOpen (h : l.Stands rest) (hclosed : ¬ l.IsOpen) :
    (∀ c ∈ l.text.getLast?, isBlank c = false) ∧
      ∀ rest', Token.atBreak rest' = true → l.Stands rest' := by
  cases h with
  | @quoted q body _ hquote hbreak hfirst =>
    refine ⟨?_, fun rest' hrest' => .quoted hquote hrest' fun before behind hbody => ?_⟩
    · intro c hc
      rw [← List.cons_append, List.getLast?_concat] at hc
      obtain rfl := Option.some.inj hc
      exact isBlank_of_isQuote hquote
    -- whether an inner quote closes does not depend on what stands behind the last one
    · have hinner := hfirst before behind hbody
      cases behind with
      | nil => exact isBlank_of_isQuote hquote
      | cons d behind => exact hinner
  | unclosed hquote _ => exact absurd ⟨rfl, hquote⟩ hclosed
  | word hquote hvisible _ =>
    exact ⟨fun c hc => hvisible c (List.mem_of_getLast? hc), fun rest' => .word hquote hvisible⟩

theorem Stands.all_text (h : l.Stands []) : all l.text = [l.token] := by
  have hread := Token.split?_of_stands h
  rw [List.append_nil] at hread
  rw [Token.all_of_split?_some hread, Token.all_of_split?_none rfl]

/-- Of a text that ends in the lexeme and blanks, the lexeme alone is left when the
end is trimmed. -/
theorem Stands.all_trimEnd (h : l.Stands gap) (hblank : ∀ c ∈ gap, isBlank c = true) :
    all (trimEnd (l.text ++ gap)) = [l.endToken] := by
  rw [Text.trimEnd_append, if_pos ((Text.trimEnd_eq_nil_iff gap).2 hblank), endToken]
  split
  · rename_i hopen
    obtain ⟨-, q, r, hquote, hunclosed, rfl⟩ := h.of_isOpen hopen
    have htrim : trimEnd (q :: r) = q :: trimEnd r := by
      have hq : trimEnd [q] = [q] :=
        Text.trimEnd_of_no_blank (by simpa using isBlank_of_isQuote hquote)
      rw [← List.singleton_append, Text.trimEnd_append, hq]
      split
      · rename_i hnil
        rw [hnil]
      · rfl
    have hstill : Stands ⟨q :: trimEnd r, q :: trimEnd r⟩ [] :=
      .unclosed hquote fun hcloses => hunclosed (Token.closes_of_closes_trimEnd hcloses)
    simp only [htrim]
    exact hstill.all_text
  · rename_i hclosed
    obtain ⟨hlast, hany⟩ := h.of_not_isOpen hclosed
    have htrim : trimEnd l.text = l.text := by
      show l.text.rdropWhile isBlank = l.text
      rw [List.rdropWhile_eq_self_iff]
      intro hne
      simp [hlast _ (List.getLast?_eq_getLast_of_ne_nil hne)]
    rw [htrim]
    exact (hany [] rfl).all_text

end Lexeme

namespace Cut

variable {d : Cut} {s : List Char} {l : Lexeme} {gap : List Char} {ps : List (Lexeme × List Char)}

theorem Lexed.trimEnd_textOf_ne_nil (h : Lexed ps) (hne : ps ≠ []) : trimEnd (textOf ps) ≠ [] := by
  cases h with
  | nil => exact absurd rfl hne
  | @cons l gap ps hstands _ _ _ =>
    obtain ⟨c, r, htext, hvisible⟩ := hstands.exists_cons
    rw [Ne, Text.trimEnd_eq_nil_iff]
    intro hblank
    have hc := hblank c (by rw [textOf_cons, htext]; exact List.mem_cons_self)
    rw [hvisible] at hc
    cases hc

/-- Without the blanks at its end, a text holds the same tokens but for the last. -/
theorem Lexed.all_trimEnd (h : Lexed (ps ++ [(l, gap)])) :
    all (trimEnd (textOf (ps ++ [(l, gap)]))) = ps.map (·.1.token) ++ [l.endToken] := by
  induction ps with
  | nil =>
    cases h with
    | cons hstands hblank _ _ =>
      simp only [List.nil_append, textOf_cons, textOf_nil, List.append_nil] at hstands ⊢
      exact hstands.all_trimEnd hblank
  | cons p ps ih =>
    obtain ⟨l', gap'⟩ := p
    cases h with
    | cons hstands hblank hgap hrest =>
      obtain ⟨c, r, rfl⟩ := List.exists_cons_of_ne_nil (hgap (by simp))
      -- something follows, so the lexeme is no open quote, and only what follows is trimmed
      have hclosed : ¬ l'.IsOpen := by
        intro hopen
        cases (hstands.of_isOpen hopen).1
      have hvisible : trimEnd (textOf (ps ++ [(l, gap)])) ≠ [] :=
        hrest.trimEnd_textOf_ne_nil (List.append_ne_nil_of_right_ne_nil ps (by simp))
      have hkept := (hstands.of_not_isOpen hclosed).2
        (c :: r ++ trimEnd (textOf (ps ++ [(l, gap)]))) (hblank c List.mem_cons_self)
      rw [List.cons_append, textOf_cons, ← List.append_assoc, Text.trimEnd_append,
        if_neg hvisible, List.append_assoc,
        Token.all_of_split?_some (Token.split?_of_stands hkept), ← Token.all_trimStart,
        Text.trimStart_append_of_blank hblank, Token.all_trimStart, ih hrest]
      rfl

theorem Lexed.drop (h : Lexed ps) (n : Nat) : Lexed (ps.drop n) := by
  induction n generalizing ps with
  | zero => exact h
  | succ n ih =>
    cases h with
    | nil => exact .nil
    | cons _ _ _ hrest => exact ih hrest

/-- Behind a number of tokens, the text goes on with the lexemes behind theirs. -/
theorem IsOf.trimStart_after (h : d.IsOf s) (n : Nat) :
    trimStart (Token.after n s) = textOf (d.pieces.drop n) := by
  induction n generalizing d s with
  | zero =>
    rw [Token.after, ← h.text_eq]
    exact h.lexed.trimStart_append h.blank
  | succ n ih =>
    obtain ⟨lead, pieces⟩ := d
    have hstart : trimStart s = textOf pieces := by
      rw [← h.text_eq]
      exact h.lexed.trimStart_append h.blank
    have hlexed : Lexed pieces := h.lexed
    rw [Token.after]
    cases hlexed with
    | nil =>
      rw [(Token.split?_eq_none_iff s).2 hstart]
      rfl
    | @cons l gap ps hstands hblank _ hrest =>
      rw [textOf_cons] at hstart
      rw [← Token.split?_trimStart, hstart, Token.split?_of_stands hstands]
      exact ih (d := ⟨gap, ps⟩) ⟨hblank, hrest, rfl⟩

end Cut

/-! ## Remainders -/

/-- The tokens `reread` are the tokens `given`, each at its place, but for the last one if the text
ends in a quote that nothing closes: of that one the blanks at the end are missing. -/
structure SameUpToEnd (endsOpen : Prop) (given reread : List String) : Prop where
  length_eq : reread.length = given.length
  same : ∀ i, i + 1 < given.length ∨ ¬ endsOpen → reread[i]? = given[i]?
  last : endsOpen → reread.getLast? = given.getLast?.map fun t => String.ofList (trimEnd t.toList)

namespace SameUpToEnd

variable {endsOpen : Prop}

theorem nil : SameUpToEnd endsOpen [] [] := ⟨rfl, fun _ _ => rfl, fun _ => rfl⟩

theorem concat {ts : List String} {given reread : String} (hclosed : ¬ endsOpen → reread = given)
    (hopen : endsOpen → reread = String.ofList (trimEnd given.toList)) :
    SameUpToEnd endsOpen (ts ++ [given]) (ts ++ [reread]) := by
  refine ⟨by simp, ?_, fun h => by simp [hopen h]⟩
  rintro i (hbefore | h)
  · have hi : i < ts.length := by simpa using hbefore
    rw [List.getElem?_append_left hi, List.getElem?_append_left hi]
  · rw [hclosed h]

end SameUpToEnd

/-- The last lexeme of the text is a quote that nothing closes. -/
def EndsOpen (s : List Char) : Prop :=
  ∃ d : Cut, d.IsOf s ∧ ∃ p ∈ d.pieces.getLast?, p.1.IsOpen

namespace Cut

variable {d : Cut} {text : String} {l : Lexeme} {gap : List Char}

theorem IsOf.endsOpen_iff {s : List Char} (h : d.IsOf s)
    (hlast : d.pieces.getLast? = some (l, gap)) : EndsOpen s ↔ l.IsOpen := by
  constructor
  · rintro ⟨d', h', p, hp, hopen⟩
    rw [h'.unique h, hlast] at hp
    obtain rfl := Option.some.inj hp
    exact hopen
  · intro hopen
    exact ⟨d, h, (l, gap), hlast, hopen⟩

/-- The tokens of a stream that has been read in are those of the lexemes not yet read. -/
theorem IsOf.toList_skip (h : d.IsOf text.toList) (n : Nat) :
    ((TokenStream.ofText text).skip n).toList =
      (d.pieces.drop n).map fun p => String.ofList p.1.token := by
  rw [TokenStream.toList_skip, TokenStream.toList_ofText, Token.allOf, h.all_eq, tokens,
    List.map_map, List.map_drop]
  rfl

/-- Its remainder is the text of these lexemes, trimmed. -/
theorem IsOf.remainder_skip (h : d.IsOf text.toList) (n : Nat) :
    ((TokenStream.ofText text).skip n).remainder =
      String.ofList (trimEnd (textOf (d.pieces.drop n))) := by
  rw [TokenStream.remainder_skip_ofText, trim, h.trimStart_after]

theorem IsOf.sameUpToEnd (h : d.IsOf text.toList) (n : Nat) :
    SameUpToEnd (EndsOpen text.toList) ((TokenStream.ofText text).skip n).toList
      (Token.allOf ((TokenStream.ofText text).skip n).remainder) := by
  rw [h.toList_skip, h.remainder_skip, Token.allOf, String.toList_ofList]
  rcases List.eq_nil_or_concat (d.pieces.drop n) with hnil | ⟨ps, ⟨l, gap⟩, hpieces⟩
  · have hnone : all (trimEnd (textOf [])) = [] := Token.all_of_split?_none rfl
    rw [hnil, hnone]
    exact .nil
  · rw [List.concat_eq_append] at hpieces
    -- the last lexeme that is left is the last one of the text
    have hlast : d.pieces.getLast? = some (l, gap) := by
      rw [← List.take_append_drop n d.pieces, hpieces, ← List.append_assoc, List.getLast?_concat]
    have hlexed : Lexed (ps ++ [(l, gap)]) := hpieces ▸ h.lexed.drop n
    rw [hpieces, hlexed.all_trimEnd, List.map_append, List.map_append, List.map_map,
      h.endsOpen_iff hlast]
    apply SameUpToEnd.concat
    · intro hclosed
      rw [Lexeme.endToken, if_neg hclosed]
    · intro hopen
      rw [Lexeme.endToken, if_pos hopen, String.toList_ofList]

end Cut

namespace TokenStream

theorem exists_skip_of_read (s : TokenStream) (reading : Reading) :
    ∃ n, s.read reading = s.skip n := by
  cases reading with
  | skip count => exact ⟨count, rfl⟩
  | next =>
    refine ⟨1, ?_⟩
    rw [read]
    cases hnext : s.next? with
    | none => rw [skip_of_next?_none hnext]; rfl
    | some found => exact (skip_succ_of_next? hnext 0).symm

/-- Whatever is read of a stream, it is a number of its first tokens. -/
theorem exists_skip_of_readAll (s : TokenStream) (readings : List Reading) :
    ∃ n, s.readAll readings = s.skip n := by
  induction readings generalizing s with
  | nil => exact ⟨0, rfl⟩
  | cons reading readings ih =>
    obtain ⟨m, hm⟩ := exists_skip_of_read s reading
    obtain ⟨n, hn⟩ := ih (s.read reading)
    exact ⟨m + n, by rw [skip_add, ← hm]; exact hn⟩

theorem remainder_skip_eq_empty_iff (text : String) (n : Nat) :
    ((ofText text).skip n).remainder = "" ↔ ((ofText text).skip n).toList = [] := by
  rw [remainder_skip_ofText, String.ofList_eq_empty_iff, Token.trim_after_eq_nil_iff, toList_skip,
    toList_ofText, List.drop_eq_nil_iff, Token.allOf, List.length_map]

end TokenStream

/-- The piece of the text runs from a visible character to the last visible character
of the text. -/
structure IsVisibleEnd (text piece : List Char) : Prop where
  within : ∃ before blanks, text = before ++ piece ++ blanks ∧ ∀ c ∈ blanks, isBlank c = true
  first : ∃ c, piece.head? = some c ∧ isBlank c = false
  last : ∃ c, piece.getLast? = some c ∧ isBlank c = false

theorem Token.CutBehind.isVisibleEnd {n : Nat} {text before raw blanks : List Char}
    (h : Token.CutBehind n text before raw blanks) (hraw : raw ≠ []) : IsVisibleEnd text raw := by
  have hfirst := List.head?_eq_some_head hraw
  have hlast := List.getLast?_eq_some_getLast hraw
  exact ⟨⟨before, blanks, h.text_eq, h.blank_end⟩, ⟨_, hfirst, h.first_visible _ hfirst⟩,
    ⟨_, hlast, h.last_visible _ hlast⟩⟩

/-- Whatever has been read of a text, what is left over holds as many tokens as the stream would
still give, and the same ones, but for the blanks at the end of a quote that nothing closes. It is
empty or runs from a visible character to the last visible character of the text, and it is empty
exactly if nothing remains, which is if no token is left. -/
theorem remainder_holds_tokens (text : String) (readings : List TokenStream.Reading) :
    let s := (TokenStream.ofText text).readAll readings
    SameUpToEnd (EndsOpen text.toList) s.drain (Token.allOf s.remainder) ∧
      (s.remainder = "" ∨ IsVisibleEnd text.toList s.remainder.toList) ∧
      (s.remainder = "" ↔ s.hasRemaining = false) ∧ (s.hasRemaining = false ↔ s.drain = []) := by
  intro s
  obtain ⟨n, hs⟩ := TokenStream.exists_skip_of_readAll (.ofText text) readings
  replace hs : s = (TokenStream.ofText text).skip n := hs
  have hremains : s.hasRemaining = false ↔ s.toList = [] := by
    rw [TokenStream.hasRemaining_eq]
    simp
  rw [hremains, TokenStream.drain_eq_toList, hs, TokenStream.remainder_skip_eq_empty_iff]
  obtain ⟨d, hd⟩ := Cut.exists_isOf text.toList
  refine ⟨hd.sameUpToEnd n, ?_, Iff.rfl, Iff.rfl⟩
  rw [← TokenStream.remainder_skip_eq_empty_iff, or_iff_not_imp_left,
    TokenStream.remainder_skip_ofText, String.ofList_eq_empty_iff, String.toList_ofList]
  intro hraw
  obtain ⟨before, blanks, hcut⟩ := Token.exists_cutBehind n text.toList
  exact hcut.isVisibleEnd hraw

end ChatCommands
