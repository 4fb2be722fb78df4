import ChatCommands.Argument.Parsing
import ChatCommands.Proofs.IntegerGrammar
import ChatCommands.Proofs.RemainderTokens
import Mathlib.Data.List.Chain

set_option autoImplicit false

/-!
# Tokens as they are typed

Whatever the tokens are, they can be typed: enclosed in double quotes and with a space between them,
they are the tokens of the text (`Token.allOf_typed`). A double quote within a token does no harm
unless a blank follows it, not even at the end, where it stands in front of the quote that closes.
The same holds of words without quotes. So lists are read back from what is typed for them, and
lists of lists too, as the tokens of a list are cut into tokens once more (`typed_lists_are_read`).
-/

namespace ChatCommands

open Text (isBlank trim trimmed)
open Token (atBreak isQuote all)
open Reference (Place)

/-! ## Lexemes with a space between them -/

/-- The lexeme is read in front of every break. -/
def Lexeme.StandsAlone (l : Lexeme) : Prop := ∀ rest, atBreak rest = true → l.Stands rest

theorem Lexeme.StandsAlone.not_isOpen {l : Lexeme} (h : l.StandsAlone) : ¬ l.IsOpen := by
  intro hopen
  cases ((h [' '] rfl).of_isOpen hopen).1

namespace Cut

variable {ls : List Lexeme}

/-- The lexemes in order, with a space between them. -/
def spaced : List Lexeme → List (Lexeme × List Char)
  | [] => []
  | [l] => [(l, [])]
  | l :: next :: ls => (l, [' ']) :: spaced (next :: ls)

theorem map_fst_spaced (ls : List Lexeme) : (spaced ls).map (·.1) = ls := by
  fun_induction spaced ls with
  | case1 => rfl
  | case2 => rfl
  | case3 l next ls ih => rw [List.map_cons, ih]

theorem textOf_spaced (ls : List Lexeme) :
    textOf (spaced ls) = [' '].intercalate (ls.map (·.text)) := by
  fun_induction spaced ls with
  | case1 => rfl
  | case2 l => simp [List.intercalate]
  | case3 l next ls ih => simp [textOf_cons, ih, List.intercalate]

theorem lexed_spaced (h : ∀ l ∈ ls, l.StandsAlone) : Lexed (spaced ls) := by
  fun_induction spaced ls with
  | case1 => exact .nil
  | case2 l => exact .cons (h l List.mem_cons_self [] rfl) (by simp) (by simp) .nil
  | case3 l next ls ih =>
    refine .cons (h l List.mem_cons_self _ rfl) (List.forall_mem_singleton.2 rfl) (by simp)
      (ih fun l' hl' => ?_)
    exact h l' (List.mem_cons_of_mem l hl')

/-- Where the last lexeme is no open quote, trimming keeps all tokens. -/
theorem Lexed.all_trim {ps : List (Lexeme × List Char)} (h : Lexed ps)
    (hclosed : ∀ p ∈ ps.getLast?, ¬ p.1.IsOpen) : all (trim (textOf ps)) = ps.map (·.1.token) := by
  rw [trim, h.trimStart_textOf]
  rcases List.eq_nil_or_concat ps with rfl | ⟨ps, ⟨l, gap⟩, rfl⟩
  · exact Token.all_of_split?_none rfl
  · rw [List.concat_eq_append] at h hclosed ⊢
    rw [h.all_trimEnd, Lexeme.endToken, if_neg (hclosed (l, gap) List.getLast?_concat),
      List.map_append]
    rfl

/-- Lexemes with a space between them are read back, and so they are when the text is
trimmed first. -/
theorem all_spaced (h : ∀ l ∈ ls, l.StandsAlone) :
    all ([' '].intercalate (ls.map (·.text))) = ls.map (·.token) ∧
      all (trim ([' '].intercalate (ls.map (·.text)))) = ls.map (·.token) := by
  have hlexed := lexed_spaced h
  have htokens : (spaced ls).map (·.1.token) = ls.map (·.token) := by
    rw [← map_fst_spaced ls, List.map_map, map_fst_spaced]
    rfl
  rw [← textOf_spaced, ← htokens]
  refine ⟨hlexed.all_textOf, hlexed.all_trim fun p hp => (h p.1 ?_).not_isOpen⟩
  rw [← map_fst_spaced ls]
  exact List.mem_map_of_mem (List.mem_of_getLast? hp)

end Cut

/-! ## Typed tokens -/

namespace Token

/-- The token between double quotes. -/
def enclosed (token : String) : String := "\"" ++ token ++ "\""

/-- Tokens as they can be typed: each between double quotes, with a space between them. -/
def typed (tokens : List String) : String := " ".intercalate (tokens.map enclosed)

/-- No double quote in the token is followed by a blank. -/
def IsTypeable (token : String) : Prop :=
  token.toList.IsChain fun c d => c = '"' → isBlank d = false

instance (token : String) : Decidable (IsTypeable token) :=
  inferInstanceAs (Decidable (List.IsChain _ _))

variable {token : String} {tokens words : List String}

/-- No quote in the token closes in front of the one that encloses it. -/
theorem standsAlone_enclosed (h : IsTypeable token) :
    Lexeme.StandsAlone ⟨(enclosed token).toList, token.toList⟩ := by
  intro rest hbreak
  have htext : (enclosed token).toList = '"' :: (token.toList ++ ['"']) := by
    simp [enclosed]
  rw [htext]
  refine .quoted rfl hbreak fun before behind htoken => ?_
  -- a quote at the end stands in front of the one that closes, and any other in front of a
  -- character of the token
  cases behind with
  | nil => rfl
  | cons c behind =>
    rw [IsTypeable, htoken] at h
    exact (List.isChain_append_cons_cons.1 h).2.1 rfl

theorem standsAlone_word (h : IsPlainName token) :
    Lexeme.StandsAlone ⟨token.toList, token.toList⟩ := by
  intro rest hbreak
  obtain ⟨c, w, hword⟩ := h.exists_cons
  have hquote := h.no_quote
  have hvisible := h.no_blank
  rw [hword] at hquote hvisible ⊢
  exact .word (hquote c rfl) hvisible hbreak

/-- Texts whose lexemes are read alone, joined by spaces, hold the tokens of the lexemes. -/
theorem allOf_joined {ι : Type} {xs : List ι} (written token : ι → String)
    (h : ∀ x ∈ xs, Lexeme.StandsAlone ⟨(written x).toList, (token x).toList⟩) :
    allOf (" ".intercalate (xs.map written)) = xs.map token ∧
      allOf (trimmed (" ".intercalate (xs.map written))) = xs.map token := by
  have hlexemes : ∀ l ∈ xs.map fun x => (⟨(written x).toList, (token x).toList⟩ : Lexeme),
      l.StandsAlone := List.forall_mem_map.2 h
  have hall := Cut.all_spaced hlexemes
  rw [List.map_map, List.map_map] at hall
  have htext : (" ".intercalate (xs.map written)).toList =
      [' '].intercalate (xs.map fun x => (written x).toList) := by
    rw [String.toList_intercalate, List.map_map]
    rfl
  have htokens : (xs.map fun x => (token x).toList).map String.ofList = xs.map token := by
    rw [List.map_map]
    exact List.map_congr_left fun x _ => String.ofList_toList
  rw [allOf, allOf, trimmed, String.toList_ofList, htext]
  exact ⟨(congrArg _ hall.1).trans htokens, (congrArg _ hall.2).trans htokens⟩

theorem allOf_typed (h : ∀ t ∈ tokens, IsTypeable t) :
    allOf (typed tokens) = tokens ∧ allOf (trimmed (typed tokens)) = tokens := by
  have hjoined := allOf_joined enclosed id fun t ht => standsAlone_enclosed (h t ht)
  rwa [List.map_id] at hjoined

theorem allOf_words (h : ∀ w ∈ words, IsPlainName w) :
    allOf (trimmed (" ".intercalate words)) = words := by
  have hjoined := allOf_joined id id fun w hw => standsAlone_word (h w hw)
  rw [List.map_id] at hjoined
  exact hjoined.2

theorem forall_mem_intercalate {P : Char → Prop} {sep : List Char} {texts : List (List Char)}
    (hsep : ∀ c ∈ sep, P c) (htexts : ∀ t ∈ texts, ∀ c ∈ t, P c) :
    ∀ c ∈ sep.intercalate texts, P c := by
  match texts with
  | [] => simp
  | [t] => simpa using htexts
  | t :: next :: texts =>
    have hbelow := forall_mem_intercalate hsep fun t' ht' => htexts t' (List.mem_cons_of_mem t ht')
    rw [List.intercalate_cons_cons, List.forall_mem_append, List.forall_mem_append]
    exact ⟨⟨htexts t List.mem_cons_self, hsep⟩, hbelow⟩

/-- Without double quotes there is nothing that would have to be kept from a blank. -/
theorem isTypeable_of_no_quote (h : ∀ c ∈ token.toList, c ≠ '"') : IsTypeable token :=
  (List.pairwise_of_forall_mem_list fun c hc _ _ hquote => absurd hquote (h c hc)).isChain

end Token

/-! ## Numbers -/

namespace Primitive

/-- The whole numbers in decimal, with a space between them. -/
def decimals (ns : List Int64) : String := " ".intercalate (ns.map fun n => toString n.toInt)

theorem no_quote_toString (z : Int) : ∀ c ∈ (toString z).toList, isQuote c = false := by
  intro c hc
  rcases isDigit_or_minus_of_mem_toString hc with hdigit | rfl
  -- neither of the two quotes is a digit
  · cases hquote : isQuote c with
    | false => rfl
    | true =>
      rcases (by simpa [isQuote] using hquote : c = '"' ∨ c = '\'') with rfl | rfl
      all_goals cases hdigit
  · rfl

theorem isPlainName_toString (z : Int) : IsPlainName (toString z) where
  ne_empty hempty := by
    rcases toList_toString_int z with ⟨m, -, htext⟩ | ⟨m, -, htext⟩
    · rw [hempty] at htext
      exact Nat.toDigits_ne_nil htext.symm
    · rw [hempty] at htext
      cases htext
  no_blank _ hc := isBlank_of_mem_toString hc
  no_quote c hc := no_quote_toString z c (List.mem_of_mem_head? hc)

theorem isTypeable_decimals (ns : List Int64) : Token.IsTypeable (decimals ns) := by
  apply Token.isTypeable_of_no_quote
  rw [decimals, String.toList_intercalate]
  apply Token.forall_mem_intercalate
  · simp
  · simp only [List.forall_mem_map]
    rintro n - c hc rfl
    cases no_quote_toString n.toInt _ hc

theorem allOf_decimals (ns : List Int64) :
    Token.allOf (trimmed (decimals ns)) = ns.map fun n => toString n.toInt :=
  Token.allOf_words (List.forall_mem_map.2 fun n _ => isPlainName_toString n.toInt)

end Primitive

/-! ## Lists -/

section Lists

variable {place : Place} {item : Kind} {minItems : Nat} {raw : RawArgument} {text : String}

/-- A list without upper bound is read item by item, where every token is read. -/
theorem parseValue_list {ι : Type} {xs : List ι} {written : ι → String} {value : ι → Argument}
    (htext : raw.asText = .ok text) (htokens : Token.allOf (trimmed text) = xs.map written)
    (hitem : ∀ x, parseValue place item (.text (written x)) = pure (value x))
    (hlength : minItems ≤ xs.length) :
    parseValue place (.list item minItems none) raw = pure (.list (xs.map value)) := by
  have hraw : Parse.ofExcept raw.asText = pure text := by rw [htext]; rfl
  have hitems : (xs.map written).mapM (fun token => parseValue place item (.text token)) =
      pure (xs.map value) := by
    rw [List.mapM_map, ← List.mapM_pure]
    exact congrArg (xs.mapM ·) (funext hitem)
  have henough : ¬ (xs.map value).length < minItems := by
    rw [List.length_map]
    exact Nat.not_lt.2 hlength
  rw [parseValue, hraw, pure_bind, htokens]
  simp only [Option.filter_none, hitems, pure_bind, if_neg henough]

theorem parseValue_string (place : Place) (merges : Bool) (s : String) :
    parseValue place (.string none none [] merges) (.text s) = pure (.string s) := rfl

theorem parseValue_integer (place : Place) (n : Int64) :
    parseValue place (.integer none none []) (.text (toString n.toInt)) = pure (.integer n) := by
  have hread : parseInteger (.text (toString n.toInt)) = .ok n := Primitive.readInteger_toString n
  rw [parseValue, hread]
  rfl

end Lists

/-- Every list of tokens can be typed, unless a token holds a double quote with a blank behind it:
between double quotes, with a space between them, the tokens are read back, and a list of strings
without restrictions gets them. Numbers typed with a space between them are typed once more in the
same way for a list of lists of numbers. -/
theorem typed_lists_are_read (place : Place) :
    (∀ ts : List String, (∀ t ∈ ts, Token.IsTypeable t) →
      Token.allOf (Token.typed ts) = ts ∧
      ∀ raw merges minItems, raw.asText = .ok (Token.typed ts) → minItems ≤ ts.length →
        parseValue place (.list (.string none none [] merges) minItems none) raw =
          pure (.list (ts.map .string))) ∧
    ∀ (nss : List (List Int64)) raw, raw.asText = .ok (Token.typed (nss.map Primitive.decimals)) →
      parseValue place (.list (.list (.integer none none []) 0 none) 0 none) raw =
        pure (.list (nss.map fun ns => .list (ns.map .integer))) := by
  constructor
  · intro ts htypeable
    obtain ⟨hall, htrimmed⟩ := Token.allOf_typed htypeable
    refine ⟨hall, fun raw merges minItems htext hlength => ?_⟩
    have htokens : Token.allOf (trimmed (Token.typed ts)) =
        ts.map id := by rw [htrimmed, List.map_id]
    exact parseValue_list htext htokens (parseValue_string place merges) hlength
  · intro nss raw htext
    have htypeable : ∀ t ∈ nss.map Primitive.decimals, Token.IsTypeable t :=
      List.forall_mem_map.2 fun ns _ => Primitive.isTypeable_decimals ns
    -- the text of an inner list is one token of the outer one, and is cut into tokens itself
    have hinner : ∀ ns, parseValue place (.list (.integer none none []) 0 none)
        (.text (Primitive.decimals ns)) = pure (.list (ns.map .integer)) := by
      intro ns
      have htext : RawArgument.asText (.text (Primitive.decimals ns)) =
          .ok (Primitive.decimals ns) := rfl
      exact parseValue_list htext (Primitive.allOf_decimals ns) (parseValue_integer place)
        (Nat.zero_le _)
    exact parseValue_list htext (Token.allOf_typed htypeable).2 hinner (Nat.zero_le _)

/-- Tokens that are empty, begin or end with a blank, or have quotes in them and at the end, and
lists of numbers of which one is empty and one holds the least number. -/
theorem odd_tokens_are_read :
    parseValue ⟨none, ⟨1⟩⟩ (.list (.string none none [] false) 5 none)
        (.text "\"\" \" a \" \"'x\" \"\"y\"\" \"\"\"") =
      pure (.list (["", " a ", "'x", "\"y\"", "\""].map .string)) ∧
    parseValue ⟨none, ⟨1⟩⟩ (.list (.list (.integer none none []) 0 none) 0 none)
        (.text "\"\" \"-9223372036854775808 7\"") =
      pure (.list ([[], [Int64.minValue, 7]].map fun ns => .list (ns.map .integer))) := by
  have htokens : "\"\" \" a \" \"'x\" \"\"y\"\" \"\"\"" =
      Token.typed ["", " a ", "'x", "\"y\"", "\""] := by decide
  have hnumbers : "\"\" \"-9223372036854775808 7\"" =
      Token.typed ([[], [Int64.minValue, 7]].map Primitive.decimals) := by decide
  have hread := typed_lists_are_read ⟨none, ⟨1⟩⟩
  exact ⟨(hread.1 _ (by decide)).2 _ false 5 (congrArg Except.ok htokens) (by decide),
    hread.2 _ _ (congrArg Except.ok hnumbers)⟩

end ChatCommands
