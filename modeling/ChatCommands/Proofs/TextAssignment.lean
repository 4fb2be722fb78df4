import ChatCommands.Proofs.AliasExpansion
import Mathlib.Data.List.Nodup

set_option autoImplicit false

/-!
# Assigning the arguments of a text

The text after a number of tokens is a suffix of the text, and what stands before it holds exactly
these tokens (`Token.exists_before_after`). So the assignment of text accounts for all of its input:
each attachment and each token goes to the parameter at its place, the last parameter may take the
rest of the text as it stands, and what is left over is reported in order
(`text_assignment_accounts_for_input`).
-/

namespace ChatCommands

open Text (isBlank trimStart trimEnd trim)

namespace Text

theorem trimStart_append_of_blank {blanks : List Char} (h : ∀ c ∈ blanks, isBlank c = true)
    (s : List Char) : trimStart (blanks ++ s) = trimStart s :=
  List.dropWhile_append_of_pos h

/-- A text begins with blanks, then with what is left of it when they are trimmed. -/
theorem exists_blanks_trimStart (s : List Char) :
    ∃ blanks, (∀ c ∈ blanks, isBlank c = true) ∧ s = blanks ++ trimStart s :=
  ⟨s.takeWhile isBlank, fun _ hc => List.mem_takeWhile_imp hc, List.takeWhile_append_dropWhile.symm⟩

theorem exists_trimEnd_blanks (s : List Char) :
    ∃ blanks, (∀ c ∈ blanks, isBlank c = true) ∧ s = trimEnd s ++ blanks := by
  obtain ⟨blanks, hblank, hs⟩ := exists_blanks_trimStart s.reverse
  refine ⟨blanks.reverse, fun c hc => hblank c (List.mem_reverse.1 hc), ?_⟩
  have hreversed := congrArg List.reverse hs
  rwa [List.reverse_reverse, List.reverse_append] at hreversed

theorem head?_trimStart (s : List Char) : ∀ c ∈ (trimStart s).head?, isBlank c = false := by
  intro c hc
  have h := List.head?_dropWhile_not isBlank s
  have hhead : (s.dropWhile isBlank).head? = some c := hc
  rw [hhead] at h
  simpa using h

theorem getLast?_trimEnd (s : List Char) : ∀ c ∈ (trimEnd s).getLast?, isBlank c = false := by
  intro c hc
  rw [trimEnd, List.getLast?_reverse] at hc
  exact head?_trimStart s.reverse c hc

/-- The first character stays the first when the end is trimmed, unless all of it is trimmed. -/
theorem head?_trim (s : List Char) : ∀ c ∈ (trim s).head?, isBlank c = false := by
  intro c hc
  obtain ⟨blanks, -, hs⟩ := exists_trimEnd_blanks (trimStart s)
  refine head?_trimStart s c ?_
  rw [hs]
  rw [trim] at hc
  simp only [Option.mem_def, List.head?_append] at hc ⊢
  rw [hc]
  rfl

/-- A text whose ends are visible is what trimming leaves of it among blanks. -/
theorem trim_among_blanks {lead s tail : List Char} (hlead : ∀ c ∈ lead, isBlank c = true)
    (htail : ∀ c ∈ tail, isBlank c = true) (hfirst : ∀ c ∈ s.head?, isBlank c = false)
    (hlast : ∀ c ∈ s.getLast?, isBlank c = false) : trim (lead ++ s ++ tail) = s := by
  cases s with
  | nil =>
    rw [trim_eq_nil_iff, trimStart_eq_nil_iff, List.append_nil]
    intro c hc
    rcases List.mem_append.1 hc with hc | hc
    · exact hlead c hc
    · exact htail c hc
  | cons c r =>
    have hstart : trimStart (lead ++ (c :: r ++ tail)) = c :: r ++ tail := by
      rw [trimStart_append_of_blank hlead]
      exact trimStart_cons (hfirst c rfl)
    have hend : trimEnd (c :: r) = c :: r := by
      show (c :: r).rdropWhile isBlank = c :: r
      rw [List.rdropWhile_eq_self_iff]
      intro hne
      simp [hlast _ (List.getLast?_eq_getLast_of_ne_nil hne)]
    rw [trim, List.append_assoc, hstart, trimEnd_append, if_pos ((trimEnd_eq_nil_iff tail).2 htail),
      hend]

theorem trim_of_no_blank {s : List Char} (h : ∀ c ∈ s, isBlank c = false) : trim s = s := by
  have hkept : trim ([] ++ s ++ []) = s := trim_among_blanks (by simp) (by simp)
    (fun c hc => h c (List.mem_of_mem_head? hc)) (fun c hc => h c (List.mem_of_getLast? hc))
  rwa [List.nil_append, List.append_nil] at hkept

/-- Trimming once is enough. -/
theorem trim_trim (s : List Char) : trim (trim s) = trim s := by
  have hkept : trim ([] ++ trim s ++ []) = trim s := trim_among_blanks (by simp) (by simp)
    (head?_trim s) (getLast?_trimEnd (trimStart s))
  rwa [List.nil_append, List.append_nil] at hkept

end Text

namespace Token

/-! ## The text after some tokens -/

/-- The text after its first tokens, `count` of them. -/
def after : Nat → List Char → List Char
  | 0, s => s
  | n + 1, s =>
    match split? s with
    | none => []
    | some (_, rest) => after n rest

theorem all_after (n : Nat) (s : List Char) : all (after n s) = (all s).drop n := by
  induction n generalizing s with
  | zero => rfl
  | succ n ih =>
    rw [after]
    split
    · rename_i h
      rw [all_of_split?_none h, all_of_split?_none rfl, List.drop_nil]
    · rename_i token rest h
      rw [all_of_split?_some h, ih, List.drop_succ_cons]

/-- A closing quote is found in front of any text at which a token can end. -/
theorem closing?_append {q : Char} {s body rest : List Char}
    (h : closing? q s = some (body, rest)) :
    s = body ++ q :: rest ∧ atBreak rest = true ∧
      ∀ rest', atBreak rest' = true → closing? q (body ++ q :: rest') = some (body, rest') := by
  induction s generalizing body with
  | nil => simp [closing?] at h
  | cons c r ih =>
    rw [closing?] at h
    split at h
    · rename_i hclose
      obtain ⟨rfl, rfl⟩ : [] = body ∧ r = rest := by simpa using h
      obtain ⟨rfl, hbreak⟩ := hclose
      exact ⟨rfl, hbreak, fun rest' hrest' => by simp [closing?, hrest']⟩
    · rename_i hopen
      obtain ⟨⟨body', rest'⟩, hfound, hbody⟩ := Option.map_eq_some_iff.1 h
      obtain ⟨rfl, rfl⟩ : c :: body' = body ∧ rest' = rest := by simpa using hbody
      obtain ⟨rfl, hbreak, hany⟩ := ih hfound
      refine ⟨rfl, hbreak, fun rest' hrest' => ?_⟩
      -- whether a quote before the closing one closes does not depend on what follows that one
      have hstill : ¬ (c = q ∧ atBreak (body' ++ q :: rest') = true) := by
        rintro ⟨rfl, hb⟩
        refine hopen ⟨rfl, ?_⟩
        cases body' with
        | nil => simpa [atBreak] using hb
        | cons d body' => simpa [atBreak] using hb
      rw [List.cons_append, closing?, if_neg hstill, hany rest' hrest']
      rfl

theorem atBreak_of_beginning {rest rest' : List Char} (h : atBreak rest = true)
    (hbeginning : rest' <+: rest) : atBreak rest' = true := by
  obtain ⟨tail, rfl⟩ := hbeginning
  cases rest' with
  | nil => rfl
  | cons c r => exact h

/-- The part of a text that holds its first token holds it also when less of the text follows. -/
theorem split?_of_beginning {s token rest : List Char} (h : split? s = some (token, rest)) :
    ∃ lexeme, s = lexeme ++ rest ∧
      ∀ rest', rest' <+: rest → split? (lexeme ++ rest') = some (token, rest') := by
  obtain ⟨blanks, hblank, hs⟩ := Text.exists_blanks_trimStart s
  -- it suffices to look at what stands after the blanks at the beginning
  suffices hfirst : ∃ lexeme, trimStart s = lexeme ++ rest ∧
      ∀ rest', rest' <+: rest → split? (lexeme ++ rest') = some (token, rest') by
    obtain ⟨lexeme, hlexeme, hany⟩ := hfirst
    refine ⟨blanks ++ lexeme, by rw [hs, hlexeme, List.append_assoc], fun rest' hrest' => ?_⟩
    rw [← split?_trimStart, List.append_assoc, Text.trimStart_append_of_blank hblank,
      split?_trimStart]
    exact hany rest' hrest'
  rw [split?] at h
  split at h
  · cases h
  · rename_i c r hc
    have hvisible : isBlank c = false := Text.head?_trimStart s c (by rw [hc]; rfl)
    rw [hc]
    split at h
    · rename_i hquote
      split at h
      -- a quoted token
      · rename_i found hfound
        obtain rfl : found = (token, rest) := Option.some.inj h
        obtain ⟨rfl, hbreak, hany⟩ := closing?_append hfound
        refine ⟨c :: token ++ [c], by simp, fun rest' hrest' => ?_⟩
        have hclosed := hany rest' (atBreak_of_beginning hbreak hrest')
        simp [split?, Text.trimStart_cons hvisible, hquote, hclosed]
      -- an open quote takes all that is left, and nothing follows it
      · rename_i hopen
        obtain ⟨rfl, rfl⟩ : c :: r = token ∧ [] = rest := by simpa using h
        refine ⟨c :: r, by simp, fun rest' hrest' => ?_⟩
        obtain rfl := List.prefix_nil.1 hrest'
        simp [split?, Text.trimStart_cons hvisible, hquote, hopen]
    -- a word
    · rename_i hquote
      obtain ⟨rfl, rfl⟩ : c :: r.takeWhile (!isBlank ·) = token ∧
          r.dropWhile (!isBlank ·) = rest := by
        simpa using h
      have hbreak : atBreak (r.dropWhile (!isBlank ·)) = true := by
        have hhead := List.head?_dropWhile_not (!isBlank ·) r
        cases hdrop : r.dropWhile (!isBlank ·) with
        | nil => rfl
        | cons d t => simpa [hdrop, atBreak] using hhead
      have hword : ∀ d ∈ c :: r.takeWhile (!isBlank ·), isBlank d = false := by
        intro d hd
        rcases List.mem_cons.1 hd with rfl | hd
        · exact hvisible
        · simpa using List.mem_takeWhile_imp hd
      refine ⟨c :: r.takeWhile (!isBlank ·), by simp [List.takeWhile_append_dropWhile],
        fun rest' hrest' => ?_⟩
      exact split?_word hword (by simpa using hquote) (atBreak_of_beginning hbreak hrest')

/-- What stands before the first visible character after a number of tokens holds these tokens. -/
theorem exists_before_after (n : Nat) (s : List Char) :
    ∃ before, s = before ++ trimStart (after n s) ∧ all before = (all s).take n := by
  induction n generalizing s with
  | zero =>
    obtain ⟨blanks, hblank, hs⟩ := Text.exists_blanks_trimStart s
    exact ⟨blanks, hs, (all_eq_nil_iff _).2 ((Text.trimStart_eq_nil_iff _).2 hblank)⟩
  | succ n ih =>
    rw [after]
    split
    · rename_i h
      have hnone := all_of_split?_none h
      exact ⟨s, by simp [trimStart], by rw [hnone, List.take_nil]⟩
    · rename_i token rest h
      obtain ⟨lexeme, hs, hany⟩ := split?_of_beginning h
      obtain ⟨before, hrest, hbefore⟩ := ih rest
      refine ⟨lexeme ++ before, by rw [List.append_assoc, ← hrest, ← hs], ?_⟩
      rw [all_of_split?_some h, List.take_succ_cons, ← hbefore]
      exact all_of_split?_some (hany before ⟨_, hrest.symm⟩)

/-- A text cut behind its first tokens, `count` of them: what stands before the cut, what
is visible after it, and the blanks at the end. The tokens before the cut and behind it
are those of the text. -/
structure CutBehind (count : Nat) (text before raw blanks : List Char) : Prop where
  text_eq : text = before ++ raw ++ blanks
  all_before : all before = (all text).take count
  all_behind : all (raw ++ blanks) = (all text).drop count
  first_visible : ∀ c ∈ raw.head?, isBlank c = false
  last_visible : ∀ c ∈ raw.getLast?, isBlank c = false
  blank_end : ∀ c ∈ blanks, isBlank c = true

/-- Behind any number of tokens, what is visible is what is left over, trimmed. -/
theorem exists_cutBehind (count : Nat) (text : List Char) :
    ∃ before blanks, CutBehind count text before (trim (after count text)) blanks := by
  obtain ⟨before, htext, hbefore⟩ := exists_before_after count text
  obtain ⟨blanks, hblank, hrest⟩ := Text.exists_trimEnd_blanks (trimStart (after count text))
  refine ⟨before, blanks, ?_, hbefore, ?_, Text.head?_trim _, Text.getLast?_trimEnd _, hblank⟩
  · rw [List.append_assoc, trim, ← hrest]
    exact htext
  · rw [trim, ← hrest, all_trimStart, all_after]

/-- Nothing is visible behind the tokens of a text that has no more of them. -/
theorem trim_after_eq_nil_iff (count : Nat) (text : List Char) :
    trim (after count text) = [] ↔ (all text).length ≤ count := by
  rw [Text.trim_eq_nil_iff, ← all_eq_nil_iff, all_after, List.drop_eq_nil_iff]

end Token

namespace TokenStream

theorem skip_of_rest (n : Nat) (s : List Char) :
    (⟨[], trimStart s⟩ : TokenStream).skip n = ⟨[], trimStart (Token.after n s)⟩ := by
  induction n generalizing s with
  | zero => rfl
  | succ n ih =>
    rw [skip, Token.after]
    simp only [next?, Token.split?_trimStart]
    cases hsplit : Token.split? s with
    | none => rw [(Token.split?_eq_none_iff s).1 hsplit]; rfl
    | some found => exact ih found.2

/-- The remainder after a number of tokens is what is visible behind them. -/
theorem remainder_skip_ofText (n : Nat) (text : String) :
    ((ofText text).skip n).remainder = String.ofList (trim (Token.after n text.toList)) := by
  rw [ofText, skip_of_rest, remainder_of_rest, trim]

theorem toList_empty : empty.toList = [] := toList_ofTokens []

theorem remainder_of_toList_nil {s : TokenStream} (h : s.toList = []) : s.remainder = "" := by
  obtain ⟨pending, rest⟩ := s
  obtain ⟨rfl, hall⟩ := List.append_eq_nil_iff.1 h
  have hblank := (Token.all_eq_nil_iff rest).1 (List.map_eq_nil_iff.1 hall)
  rw [remainder_of_rest,
    (Text.trimEnd_eq_nil_iff rest).2 ((Text.trimStart_eq_nil_iff rest).1 hblank)]

end TokenStream

/-! ## Tokens and parameters -/

section Paired

variable {α : Type} (raw : α → RawArgument)

/-- The parameters with the values at their places, as raw arguments. -/
def paired (parameters : List Parameter) (values : List α) : List (String × RawArgument) :=
  (parameters.zip values).map fun (p, value) => (p.name, raw value)

theorem paired_nil_right (parameters : List Parameter) : paired raw parameters [] = [] := by
  simp [paired]

theorem paired_cons (p : Parameter) (ps : List Parameter) (value : α) (values : List α) :
    paired raw (p :: ps) (value :: values) = (p.name, raw value) :: paired raw ps values := rfl

theorem names_paired (parameters : List Parameter) (values : List α) :
    (paired raw parameters values).map (·.1) = (parameters.take values.length).map (·.name) := by
  induction parameters generalizing values with
  | nil => simp [paired]
  | cons p parameters ih =>
    cases values with
    | nil => rfl
    | cons value values =>
      rw [paired_cons, List.map_cons, ih, List.length_cons, List.take_succ_cons, List.map_cons]

end Paired

/-- More than one parameter: the first of them takes a token, never the rest of the text. -/
theorem assignTokens_cons_cons (p q : Parameter) (ps : List Parameter) (s : TokenStream) :
    assignTokens (p :: q :: ps) s =
      match s.next? with
      | none => ([], s)
      | some (token, s) =>
        ((p.name, .text token) :: (assignTokens (q :: ps) s).1, (assignTokens (q :: ps) s).2) := rfl

/-- Without a merging last parameter, each parameter takes the token at its place. -/
theorem assignTokens_of_not_merges {ps : List Parameter}
    (hlast : ∀ last ∈ ps.getLast?, last.kind.merges = false) (s : TokenStream) :
    assignTokens ps s = (paired .text ps s.toList, s.skip ps.length) := by
  induction ps generalizing s with
  | nil => rfl
  | cons p ps ih =>
    cases hnext : s.next? with
    | none =>
      have hnil := (TokenStream.next?_eq_none_iff s).1 hnext
      rw [TokenStream.skip_of_next?_none hnext, hnil, paired_nil_right]
      cases ps with
      | nil => simp [assignTokens, hlast p rfl, hnext]
      | cons q ps => rw [assignTokens_cons_cons, hnext]
    | some found =>
      obtain ⟨token, s'⟩ := found
      rw [TokenStream.toList_of_next? hnext, List.length_cons,
        TokenStream.skip_succ_of_next? hnext, paired_cons]
      cases ps with
      | nil => simp [assignTokens, hlast p rfl, hnext, paired, TokenStream.skip]
      | cons q ps =>
        rw [assignTokens_cons_cons, hnext]
        simp only [ih fun last h => hlast last (by simpa using h)]

/-- A merging last parameter takes what the tokens of the others leave, unless nothing is left. -/
theorem assignTokens_of_merges {last : Parameter} (hlast : last.kind.merges = true)
    (others : List Parameter) (s : TokenStream) :
    let rest := (s.skip others.length).remainder
    (assignTokens (others ++ [last]) s).1 =
        paired .text others s.toList ++ (if rest = "" then [] else [(last.name, .text rest)]) ∧
      (assignTokens (others ++ [last]) s).2.toList = [] := by
  induction others generalizing s with
  | nil => simp [assignTokens, hlast, paired, TokenStream.skip, TokenStream.toList_empty]
  | cons p others ih =>
    obtain ⟨q, qs, hbelow⟩ : ∃ q qs, others ++ [last] = q :: qs :=
      List.exists_cons_of_ne_nil (by simp)
    rw [List.cons_append, hbelow, assignTokens_cons_cons, ← hbelow]
    cases hnext : s.next? with
    | none =>
      have hnil := (TokenStream.next?_eq_none_iff s).1 hnext
      simp [TokenStream.skip_of_next?_none hnext, TokenStream.remainder_of_toList_nil hnil, hnil,
        paired_nil_right]
    | some found =>
      obtain ⟨token, s'⟩ := found
      obtain ⟨htyped, hempty⟩ := ih s'
      rw [TokenStream.toList_of_next? hnext, List.length_cons,
        TokenStream.skip_succ_of_next? hnext, paired_cons]
      exact ⟨by simp only [htyped, List.cons_append], hempty⟩

/-- The merging last parameter of a text takes what is visible behind the tokens of the others. -/
theorem assignTokens_ofText_of_merges {last : Parameter} (hlast : last.kind.merges = true)
    (others : List Parameter) (text : String) :
    let raw := trim (Token.after others.length text.toList)
    (assignTokens (others ++ [last]) (.ofText text)).1 = paired .text others (Token.allOf text) ++
        (if raw = [] then [] else [(last.name, .text (String.ofList raw))]) ∧
      (assignTokens (others ++ [last]) (.ofText text)).2.toList = [] := by
  obtain ⟨htyped, hempty⟩ := assignTokens_of_merges hlast others (.ofText text)
  refine ⟨?_, hempty⟩
  rw [htyped, TokenStream.toList_ofText, TokenStream.remainder_skip_ofText]
  simp only [String.ofList_eq_empty_iff]

/-- The parameters that take something of a text are the first ones, as many as it has tokens. -/
theorem names_assignTokens_ofText (ps : List Parameter) (text : String) :
    (assignTokens ps (.ofText text)).1.map (·.1) =
      (ps.take (Token.allOf text).length).map (·.name) := by
  by_cases hmerging : ∃ last ∈ ps.getLast?, last.kind.merges = true
  · obtain ⟨last, hmem, hlast⟩ := hmerging
    obtain ⟨others, rfl⟩ := List.getLast?_eq_some_iff.1 hmem
    have hraw : trim (Token.after others.length text.toList) = [] ↔
        (Token.allOf text).length ≤ others.length := by
      rw [Token.trim_after_eq_nil_iff, Token.allOf, List.length_map]
    rw [(assignTokens_ofText_of_merges hlast others text).1, List.map_append, names_paired,
      List.take_append, List.map_append]
    congr 1
    rcases Nat.lt_or_ge others.length (Token.allOf text).length with hmore | hfew
    · rw [if_neg (mt hraw.1 (Nat.not_le_of_lt hmore)),
        List.take_of_length_le (Nat.sub_pos_of_lt hmore)]
      rfl
    · rw [if_pos (hraw.2 hfew), Nat.sub_eq_zero_of_le hfew]
      rfl
  · have hlast : ∀ last ∈ ps.getLast?, last.kind.merges = false := by
      intro last hmem
      by_contra hmerges
      exact hmerging ⟨last, hmem, by simpa using hmerges⟩
    rw [assignTokens_of_not_merges hlast, names_paired, TokenStream.toList_ofText]

/-! ## Names -/

theorem setValue_of_fresh {α : Type} {name : String} {kept : List (String × α)}
    (h : name ∉ kept.map (·.1)) (value : α) :
    setValue name value kept = kept ++ [(name, value)] := by
  rw [setValue, List.filter_eq_self.2]
  intro e he
  simp only [bne_iff_ne]
  rintro rfl
  exact h (List.mem_map_of_mem he)

/-- Entries of different names are all kept, in order. -/
theorem lastOfEach_of_nodup {α : Type} {entries : List (String × α)}
    (h : (entries.map (·.1)).Nodup) : lastOfEach entries = entries := by
  suffices hkept : ∀ kept : List (String × α), ((kept ++ entries).map (·.1)).Nodup →
      entries.foldl (fun kept e => setValue e.1 e.2 kept) kept = kept ++ entries from
    hkept [] h
  clear h
  induction entries with
  | nil => simp
  | cons e entries ih =>
    intro kept h
    have hfresh : e.1 ∉ kept.map (·.1) := by
      rw [List.map_append, List.map_cons] at h
      intro he
      exact (List.nodup_append.1 h).2.2 _ he _ List.mem_cons_self rfl
    rw [List.foldl_cons]
    simp only [setValue_of_fresh hfresh]
    rw [ih _ (by simpa using h), List.append_assoc, List.singleton_append]

theorem assign_of_extra_files {parameters : List Parameter} {attachments : List Attachment}
    (h : (parameters.filter (·.kind.isAttachment)).length < attachments.length) (s : TokenStream) :
    assign parameters (.text s attachments) = .error (.argumentExtra
      ((attachments.drop (parameters.filter (·.kind.isAttachment)).length).map (·.filename))) := by
  have hextra : (attachments.drop (parameters.filter (·.kind.isAttachment)).length).map
      (·.filename) ≠ [] := by
    simpa using h
  rw [assign, assignText]
  simp only [if_pos hextra]

section Fitting

variable {parameters : List Parameter} (hnames : (parameters.map (·.name)).Nodup)
include hnames

/-- The names of the first attachment parameters and of the first others are different. -/
theorem nodup_names_take (m n : Nat) :
    (((parameters.filter (·.kind.isAttachment)).take m).map (·.name) ++
      ((parameters.filter (!·.kind.isAttachment)).take n).map (·.name)).Nodup := by
  have hall : ((parameters.filter (·.kind.isAttachment) ++
      parameters.filter (!·.kind.isAttachment)).map (·.name)).Nodup :=
    ((List.filter_append_perm _ parameters).map _).nodup_iff.2 hnames
  rw [← List.map_append]
  exact hall.sublist (((List.take_sublist m _).append (List.take_sublist n _)).map _)

/-- With enough attachment parameters, only tokens that no parameter takes are in the way. -/
theorem assign_of_fitting_files {attachments : List Attachment}
    (hfit : attachments.length ≤ (parameters.filter (·.kind.isAttachment)).length)
    {s : TokenStream} {n : Nat}
    (htyped : (assignTokens (parameters.filter (!·.kind.isAttachment)) s).1.map (·.1) =
      ((parameters.filter (!·.kind.isAttachment)).take n).map (·.name)) :
    assign parameters (.text s attachments) =
      if (assignTokens (parameters.filter (!·.kind.isAttachment)) s).2.toList = [] then
        .ok (paired .attachment (parameters.filter (·.kind.isAttachment)) attachments ++
          (assignTokens (parameters.filter (!·.kind.isAttachment)) s).1)
      else .error (.argumentExtra
        (assignTokens (parameters.filter (!·.kind.isAttachment)) s).2.toList) := by
  have hnone : (attachments.drop (parameters.filter (·.kind.isAttachment)).length).map
      (·.filename) = [] := by
    simpa using hfit
  have hdistinct : ((paired .attachment (parameters.filter (·.kind.isAttachment)) attachments ++
      (assignTokens (parameters.filter (!·.kind.isAttachment)) s).1).map (·.1)).Nodup := by
    rw [List.map_append, names_paired, htyped]
    exact nodup_names_take hnames _ _
  have hkept := lastOfEach_of_nodup hdistinct
  rw [paired] at hkept ⊢
  rw [assign, assignText]
  simp only [hnone, ne_eq, not_true_eq_false, if_false, TokenStream.drain_eq_toList, ite_not, hkept]

end Fitting

/-- The assignment of text accounts for all of its input. Attachments beyond the attachment
parameters are refused whatever the tokens are; the others go to the parameters at their places. A
merging last parameter takes what is visible behind the tokens of the others, as it stands, and
nothing fails. Without one each token goes to the parameter at its place, and tokens beyond the
parameters are refused. The names of what is assigned are those of the first parameters of both
sorts, all different. -/
theorem text_assignment_accounts_for_input (parameters : List Parameter)
    (hnames : (parameters.map (·.name)).Nodup) (text : String) (attachments : List Attachment) :
    let files := parameters.filter (·.kind.isAttachment)
    let inputs := parameters.filter (!·.kind.isAttachment)
    let tokens := Token.allOf text
    let result := assign parameters (.text (.ofText text) attachments)
    (files.length < attachments.length → ∀ s,
      assign parameters (.text s attachments) =
        .error (.argumentExtra ((attachments.drop files.length).map (·.filename)))) ∧
    (attachments.length ≤ files.length →
      (∀ others last, inputs = others ++ [last] → last.kind.merges = true →
        let raw := trim (Token.after others.length text.toList)
        (∃ before blanks, Token.CutBehind others.length text.toList before raw blanks) ∧
          result = .ok (paired .attachment files attachments ++ (paired .text others tokens ++
            if raw = [] then [] else [(last.name, .text (String.ofList raw))]))) ∧
      ((∀ last ∈ inputs.getLast?, last.kind.merges = false) →
        result = if tokens.length ≤ inputs.length
          then .ok (paired .attachment files attachments ++ paired .text inputs tokens)
          else .error (.argumentExtra (tokens.drop inputs.length)))) ∧
    ∀ entries, result = .ok entries →
      entries.map (·.1) = (files.take attachments.length).map (·.name) ++
          (inputs.take tokens.length).map (·.name) ∧
        (entries.map (·.1)).Nodup := by
  intro files inputs tokens result
  have htokens : (TokenStream.ofText text).toList = tokens := TokenStream.toList_ofText text
  have hfitting : attachments.length ≤ files.length → result =
      if (assignTokens inputs (.ofText text)).2.toList = [] then
        .ok (paired .attachment files attachments ++ (assignTokens inputs (.ofText text)).1)
      else .error (.argumentExtra (assignTokens inputs (.ofText text)).2.toList) := fun hfit =>
    assign_of_fitting_files hnames hfit (names_assignTokens_ofText inputs text)
  refine ⟨fun hextra s => assign_of_extra_files hextra s, fun hfit => ⟨?_, ?_⟩, ?_⟩
  · intro others last hinputs hlast
    obtain ⟨htyped, hempty⟩ := assignTokens_ofText_of_merges hlast others text
    rw [← hinputs] at htyped hempty
    exact ⟨Token.exists_cutBehind _ _, by rw [hfitting hfit, if_pos hempty, htyped]⟩
  · intro hlast
    rw [hfitting hfit, assignTokens_of_not_merges hlast, TokenStream.toList_skip, htokens]
    simp only [List.drop_eq_nil_iff]
  · intro entries hentries
    have hfit : attachments.length ≤ files.length := by
      by_contra hextra
      have hrefused : result = _ := assign_of_extra_files (Nat.lt_of_not_le hextra) (.ofText text)
      rw [hrefused] at hentries
      cases hentries
    rw [hfitting hfit] at hentries
    split at hentries
    · obtain rfl := Except.ok.inj hentries
      rw [List.map_append, names_paired, names_assignTokens_ofText]
      exact ⟨rfl, nodup_names_take hnames _ _⟩
    · cases hentries

/-- A person, a file and a note that takes the rest of the text. -/
def noteParameters : List Parameter :=
  [.ofRequired "who" (.string none none [] false), .ofRequired "file" (.attachment none []),
    .ofRequired "note" .freeText]

/-- A quoted token, and then a quote that is never closed. -/
def noteText : String := " \"a b\"   'c  d "

theorem allOf_noteText : Token.allOf noteText = ["a b", "'c  d "] := by
  have hfirst : Token.split? noteText.toList = some ("a b".toList, "   'c  d ".toList) := by decide
  have hsecond : Token.split? "   'c  d ".toList = some ("'c  d ".toList, []) := by decide
  rw [Token.allOf, Token.all_of_split?_some hfirst, Token.all_of_split?_some hsecond,
    Token.all_of_split?_none rfl]
  rfl

/-- A file that is sent along with the text. -/
def photo : Attachment := ⟨⟨7⟩, "photo.png", 12, "https://cdn.example/photo.png", none⟩

/-- The note keeps its open quote and the blanks within; as a token it is one too many for the
parameters before it. -/
theorem note_keeps_open_quote :
    (noteParameters.map (·.name)).Nodup ∧ ((noteParameters.take 2).map (·.name)).Nodup ∧
      (∃ before blanks,
        Token.CutBehind 1 noteText.toList before "'c  d".toList blanks ∧
          assign noteParameters (.text (.ofText noteText) [photo]) =
            .ok [("file", .attachment photo), ("who", .text "a b"), ("note", .text "'c  d")]) ∧
      assign (noteParameters.take 2) (.text (.ofText noteText) [photo]) =
        .error (.argumentExtra ["'c  d "]) ∧
      assign noteParameters (.text .empty [photo, photo]) =
        .error (.argumentExtra ["photo.png"]) := by
  have hnames : (noteParameters.map (·.name)).Nodup := by decide
  have hfirst : ((noteParameters.take 2).map (·.name)).Nodup := by decide
  obtain ⟨-, hfit, -⟩ :=
    text_assignment_accounts_for_input noteParameters hnames noteText [photo]
  refine ⟨hnames, hfirst, ?_, ?_, ?_⟩
  · have hraw : trim (Token.after 1 noteText.toList) = "'c  d".toList := by decide
    have hmerging := (hfit (by decide)).1
      [.ofRequired "who" (.string none none [] false)] (.ofRequired "note" .freeText) rfl rfl
    simp only [List.length_singleton, hraw, allOf_noteText] at hmerging
    obtain ⟨⟨before, blanks, hcut⟩, hresult⟩ := hmerging
    exact ⟨before, blanks, hcut, hresult⟩
  · have h := ((text_assignment_accounts_for_input (noteParameters.take 2) hfirst noteText
      [photo]).2.1 (by decide)).2 (by rintro last ⟨⟩; rfl)
    rw [h, allOf_noteText]
    rfl
  · exact (text_assignment_accounts_for_input noteParameters hnames noteText
      [photo, photo]).1 (by decide) .empty

end ChatCommands
