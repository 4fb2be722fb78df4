import ChatCommands.Argument.Assignment
import ChatCommands.Proofs.AliasTables

set_option autoImplicit false

/-!
# Aliases as typed text

Expanding an alias puts the names of its target in front of the text that is left. This module shows
that the stream so made reads like the stream of one text: the names, each followed by a space, and
the text that is left (`alike_written`). Nothing that is done with the stream afterwards can tell
the two apart (`alias_expansion_reads_as_typed_text`).
-/

namespace ChatCommands

open Text (isBlank trimStart trimEnd)

/-- A name that a text holds as one token: it is not empty, has no blanks, and opens no quote. -/
structure IsPlainName (name : String) : Prop where
  ne_empty : name ≠ ""
  no_blank : ∀ c ∈ name.toList, isBlank c = false
  no_quote : ∀ c ∈ name.toList.head?, Token.isQuote c = false

theorem isPlainName_iff (name : String) :
    IsPlainName name ↔ name ≠ "" ∧ name.toList.all (!isBlank ·) = true ∧
      name.toList.head?.all (!Token.isQuote ·) = true := by
  constructor
  · rintro ⟨hne, hblank, hquote⟩
    exact ⟨hne, by simpa using hblank, by simpa [Option.all_eq_true] using hquote⟩
  · rintro ⟨hne, hblank, hquote⟩
    exact ⟨hne, by simpa using hblank, by simpa [Option.all_eq_true] using hquote⟩

instance (name : String) : Decidable (IsPlainName name) :=
  decidable_of_iff' _ (isPlainName_iff name)

/-- The names, each followed by a space, and a text after them. -/
def writtenBefore (rest : List Char) : List String → List Char
  | [] => rest
  | name :: names => name.toList ++ ' ' :: writtenBefore rest names

namespace IsPlainName

variable {name : String}

theorem exists_cons (h : IsPlainName name) : ∃ c w, name.toList = c :: w := by
  cases hname : name.toList with
  | nil => exact absurd (String.toList_eq_nil_iff.1 hname) h.ne_empty
  | cons c w => exact ⟨c, w, rfl⟩

/-- A plain name at the beginning of a text is the first token. -/
theorem split? (h : IsPlainName name) (rest : List Char) :
    Token.split? (name.toList ++ ' ' :: rest) = some (name.toList, ' ' :: rest) := by
  obtain ⟨c, w, hname⟩ := h.exists_cons
  have hblank := h.no_blank
  have hquote := h.no_quote
  rw [hname] at hblank hquote ⊢
  exact Token.split?_word hblank (hquote c rfl) rfl

theorem trimStart_append (h : IsPlainName name) (rest : List Char) :
    trimStart (name.toList ++ rest) = name.toList ++ rest := by
  obtain ⟨c, w, hname⟩ := h.exists_cons
  have hc : isBlank c = false := h.no_blank c (by simp [hname])
  rw [hname]
  exact Text.trimStart_cons hc

theorem trimEnd (h : IsPlainName name) : Text.trimEnd name.toList = name.toList :=
  Text.trimEnd_of_no_blank h.no_blank

end IsPlainName

/-! ## The text of a target and of what follows it -/

theorem toList_toText_append (names : List String) (hne : names ≠ []) (rest : List Char) :
    ((⟨names⟩ : Invocation).toText ++ " " ++ String.ofList rest).toList =
      writtenBefore rest names := by
  induction names with
  | nil => exact absurd rfl hne
  | cons name names ih =>
    cases names with
    | nil => simp [Invocation.toText, writtenBefore]
    | cons next names =>
      have h := ih (by simp)
      simp only [Invocation.toText, String.toList_append] at h ⊢
      rw [String.intercalate_cons_cons, writtenBefore, ← h]
      simp

/-- The text of a target, a space and what follows, without leading blanks. -/
theorem ofText_toText_append (names : List String) (rest : List Char) :
    TokenStream.ofText ((⟨names⟩ : Invocation).toText ++ " " ++ String.ofList rest) =
      ⟨[], trimStart (writtenBefore rest names)⟩ := by
  by_cases hne : names = []
  · subst hne
    simp only [TokenStream.ofText, Invocation.toText, String.toList_append, String.toList_ofList,
      writtenBefore]
    congr 1
  · rw [TokenStream.ofText, toList_toText_append names hne]

theorem trimStart_writtenBefore {name : String} {names : List String} {rest : List Char}
    (h : IsPlainName name) :
    trimStart (writtenBefore rest (name :: names)) = writtenBefore rest (name :: names) :=
  h.trimStart_append _

theorem all_writtenBefore {names : List String} {rest : List Char}
    (plain : ∀ name ∈ names, IsPlainName name) :
    (Token.all (writtenBefore rest names)).map String.ofList =
      names ++ (Token.all rest).map String.ofList := by
  induction names with
  | nil => rfl
  | cons name names ih =>
    have hsplit := (plain name List.mem_cons_self).split? (writtenBefore rest names)
    -- the space after a name begins no token
    have hblank : Token.all (' ' :: writtenBefore rest names) =
        Token.all (writtenBefore rest names) := by
      rw [← Token.all_trimStart, Text.trimStart_blank_cons rfl, Token.all_trimStart]
    rw [writtenBefore, Token.all_of_split?_some hsplit, hblank, List.map_cons,
      ih fun other hother => plain other (List.mem_cons_of_mem name hother), String.ofList_toList,
      List.cons_append]

/-! ## The remainder -/

theorem intercalate_ne_empty {words : List String} (hne : words ≠ [])
    (hwords : ∀ word ∈ words, word ≠ "") : " ".intercalate words ≠ "" := by
  cases words with
  | nil => exact absurd rfl hne
  | cons word words =>
    have hword := hwords word List.mem_cons_self
    cases words with
    | nil => simpa using hword
    | cons next words =>
      rw [String.intercalate_cons_cons]
      simp [hword]

theorem remainder_of_rest (rest : List Char) :
    TokenStream.remainder ⟨[], rest⟩ = String.ofList (trimEnd rest) := by
  simp only [TokenStream.remainder, List.nil_append]
  split
  · rename_i h
    rw [h]
    rfl
  · simp

/-- Without trailing blanks, the written names and the text after them are what the remainder of the
stream shows: the names, and the text unless it is blank, with single spaces between them. -/
theorem trimEnd_writtenBefore {names : List String} (rest : List Char)
    (plain : ∀ name ∈ names, IsPlainName name) :
    trimEnd (writtenBefore rest names) = (TokenStream.remainder ⟨names, rest⟩).toList := by
  induction names with
  | nil => rw [remainder_of_rest, String.toList_ofList]; rfl
  | cons name names ih =>
    have hname := plain name List.mem_cons_self
    have hnames : ∀ other ∈ names, IsPlainName other := fun other hother =>
      plain other (List.mem_cons_of_mem name hother)
    -- What stands after the first name and its space.
    generalize hwords : (names ++ if trimEnd rest = [] then [] else [String.ofList (trimEnd rest)])
      = words
    have hbelow : trimEnd (writtenBefore rest names) = (" ".intercalate words).toList := by
      rw [ih hnames, TokenStream.remainder, ← hwords]
    have hspace : trimEnd [' '] = [] := rfl
    have hright : TokenStream.remainder ⟨name :: names, rest⟩ =
        " ".intercalate (name :: words) := by
      rw [TokenStream.remainder, ← hwords, List.cons_append]
    rw [writtenBefore, Text.trimEnd_append, ← List.singleton_append, Text.trimEnd_append, hbelow,
      hspace, hright]
    -- the end is trimmed in the name itself only if nothing visible follows
    by_cases hnone : words = []
    · subst hnone
      simp [hname.trimEnd]
    · have hne : (" ".intercalate words).toList ≠ [] := by
        rw [Ne, String.toList_eq_nil_iff]
        refine intercalate_ne_empty hnone ?_
        intro word hword
        rw [← hwords, List.mem_append] at hword
        rcases hword with hword | hword
        · exact (hnames word hword).ne_empty
        · split at hword
          · simp at hword
          · rename_i hrest
            obtain rfl : word = String.ofList (trimEnd rest) := by simpa using hword
            simpa using hrest
      rw [if_neg hne, if_neg (by simp), String.intercalate_cons_of_ne_nil hnone]
      simp

/-- A stream with plain names in front reads like the stream of the text in which
they are written. -/
theorem alike_written {names : List String} {rest : List Char} (hrest : trimStart rest = rest)
    (plain : ∀ name ∈ names, IsPlainName name) :
    TokenStream.Alike ⟨names, rest⟩ ⟨[], trimStart (writtenBefore rest names)⟩ := by
  refine ⟨?_, fun n => ?_⟩
  · rw [TokenStream.toList_of_rest, Token.all_trimStart, all_writtenBefore plain]
    rfl
  · induction n generalizing names with
    | zero =>
      cases names with
      | nil => rw [writtenBefore, hrest]
      | cons name names =>
        -- before anything is read, the remainders are two spellings of one text
        have hleft := trimEnd_writtenBefore rest plain
        rw [trimStart_writtenBefore (plain name List.mem_cons_self)]
        show TokenStream.remainder ⟨name :: names, rest⟩ = TokenStream.remainder ⟨[], _⟩
        rw [remainder_of_rest, hleft, String.ofList_toList]
    | succ n ih =>
      cases names with
      | nil => rw [writtenBefore, hrest]
      | cons name names =>
        have hname := plain name List.mem_cons_self
        have hfirst : TokenStream.next? ⟨name :: names, rest⟩ = some (name, ⟨names, rest⟩) := rfl
        have hsecond : TokenStream.next? ⟨[], trimStart (writtenBefore rest (name :: names))⟩ =
            some (name, ⟨[], trimStart (writtenBefore rest names)⟩) := by
          rw [trimStart_writtenBefore hname, writtenBefore]
          simp only [TokenStream.next?, hname.split? (writtenBefore rest names),
            String.ofList_toList]
          rw [Text.trimStart_blank_cons rfl]
        -- both streams give the same name and go on below it
        rw [TokenStream.skip_succ_of_next? hfirst, TokenStream.skip_succ_of_next? hsecond]
        exact ih fun other hother => plain other (List.mem_cons_of_mem name hother)

/-! ## Assigning arguments -/

/-- Streams that read alike give the same raw arguments and leave streams that read alike. -/
theorem TokenStream.Alike.assignTokens {s t : TokenStream} (h : Alike s t) (ps : List Parameter) :
    (ChatCommands.assignTokens ps s).1 = (ChatCommands.assignTokens ps t).1 ∧
      Alike (ChatCommands.assignTokens ps s).2 (ChatCommands.assignTokens ps t).2 := by
  induction ps generalizing s t with
  | nil => exact ⟨rfl, h⟩
  | cons p ps ih =>
    cases ps with
    | nil =>
      -- only the last parameter can take the remainder instead of a token
      by_cases hm : p.kind.merges = true
      · simp only [ChatCommands.assignTokens, hm, if_true, h.remainder_eq]
        exact ⟨trivial, Alike.refl _⟩
      · simp only [ChatCommands.assignTokens, hm]
        cases hs : s.next? with
        | none =>
          rw [h.next?_none hs]
          exact ⟨rfl, h⟩
        | some found =>
          obtain ⟨t', ht, hrest⟩ := h.next?_some hs
          rw [ht]
          exact ⟨rfl, hrest⟩
    | cons q ps =>
      simp only [ChatCommands.assignTokens]
      cases hs : s.next? with
      | none =>
        rw [h.next?_none hs]
        exact ⟨rfl, h⟩
      | some found =>
        obtain ⟨t', ht, hrest⟩ := h.next?_some hs
        obtain ⟨htyped, halike⟩ := ih hrest
        rw [ht]
        exact ⟨by simp only [htyped], halike⟩

theorem TokenStream.Alike.assign {s t : TokenStream} (h : Alike s t) (ps : List Parameter)
    (attachments : List Attachment) :
    ChatCommands.assign ps (.text s attachments) =
      ChatCommands.assign ps (.text t attachments) := by
  obtain ⟨htyped, halike⟩ := h.assignTokens (ps.filter (!·.kind.isAttachment))
  simp only [ChatCommands.assign, assignText, htyped, halike.drain_eq]

/-! ## Applying an alias -/

namespace AliasTable

/-- An applied alias stands in the table; its target is put in front of what its names leave. -/
theorem apply_eq_some {table : AliasTable} {s s' : TokenStream} {name : Invocation}
    (h : table.apply s = (some name, s')) :
    ∃ target, table.target? name = some target ∧
      s' = (s.skip name.length).splice target.names := by
  simp only [apply] at h
  split at h
  · simp at h
  · split at h
    · rename_i found target hmatch
      obtain ⟨rfl, rfl⟩ : found = name ∧ (s.skip found.length).splice target.names = s' := by
        simpa using h
      obtain ⟨_, -, -, -, hfound, -⟩ := longestMatch?_eq_some hmatch
      exact ⟨target, hfound, rfl⟩
    · simp at h

theorem mem_entries_of_target? {table : AliasTable} {name target : Invocation}
    (h : table.target? name = some target) : ∃ row ∈ table.entries, row.2 = target := by
  simp only [target?, Option.map_eq_some_iff] at h
  obtain ⟨row, hrow, rfl⟩ := h
  exact ⟨row, List.mem_of_find?_eq_some hrow, rfl⟩

end AliasTable

namespace TokenStream

/-- A stream of a text holds no pending tokens, and its text has no leading blanks. -/
structure IsUncut (s : TokenStream) : Prop where
  pending : s.pending = []
  trimmed : trimStart s.rest = s.rest

theorem isUncut_ofText (text : String) : (ofText text).IsUncut :=
  ⟨rfl, Text.trimStart_trimStart _⟩

theorem IsUncut.skip {s : TokenStream} (h : s.IsUncut) (n : Nat) : (s.skip n).IsUncut := by
  induction n generalizing s with
  | zero => exact h
  | succ n ih =>
    obtain ⟨pending, rest⟩ := s
    obtain rfl : pending = [] := h.pending
    simp only [TokenStream.skip, next?]
    cases hsplit : Token.split? rest with
    | none => exact h
    | some found => exact ih ⟨rfl, Text.trimStart_trimStart _⟩

/-- One way of reading on. -/
inductive Reading where
  | next
  | skip (count : Nat)

/-- The stream after one reading; where nothing is left, nothing is read. -/
def read (s : TokenStream) : Reading → TokenStream
  | .next => (s.next?.map (·.2)).getD s
  | .skip count => s.skip count

/-- The stream after readings in order. -/
def readAll (s : TokenStream) (readings : List Reading) : TokenStream := readings.foldl read s

/-- What can be seen of two streams is the same. -/
structure SameView (s t : TokenStream) : Prop where
  peekMany : ∀ count, s.peekMany count = t.peekMany count
  next : s.next?.map (·.1) = t.next?.map (·.1)
  remainder : s.remainder = t.remainder
  hasRemaining : s.hasRemaining = t.hasRemaining
  drain : s.drain = t.drain

namespace Alike

variable {s t : TokenStream}

theorem sameView (h : Alike s t) : SameView s t :=
  ⟨h.peekMany_eq, h.next?_fst, h.remainder_eq, h.hasRemaining_eq, h.drain_eq⟩

theorem read (h : Alike s t) (reading : Reading) : Alike (s.read reading) (t.read reading) := by
  cases reading with
  | skip count => exact h.skip count
  | next =>
    simp only [TokenStream.read]
    cases hs : s.next? with
    | none =>
      rw [h.next?_none hs]
      exact h
    | some found =>
      obtain ⟨t', ht, hrest⟩ := h.next?_some hs
      rw [ht]
      exact hrest

theorem readAll (h : Alike s t) (readings : List Reading) :
    Alike (s.readAll readings) (t.readAll readings) := by
  induction readings generalizing s t with
  | nil => exact h
  | cons reading readings ih => exact ih (h.read reading)

end Alike

end TokenStream

/-- The stream that an alias leaves of a text reads like the stream of the text in which the target
is written in place of the alias. -/
theorem AliasTable.alike_apply {table : AliasTable} {body : String} {name : Invocation}
    {s : TokenStream} (plain : ∀ row ∈ table.entries, ∀ word ∈ row.2.names, IsPlainName word)
    (h : table.apply (.ofText body) = (some name, s)) :
    ∃ target, table.target? name = some target ∧
      s.Alike (.ofText (target.toText ++ " "
        ++ String.ofList ((TokenStream.ofText body).skip name.length).rest)) := by
  obtain ⟨target, htarget, rfl⟩ := apply_eq_some h
  obtain ⟨row, hrow, rfl⟩ := mem_entries_of_target? htarget
  -- the alias was read off a text, so no tokens are pending behind the target
  have huncut := (TokenStream.isUncut_ofText body).skip name.length
  refine ⟨row.2, htarget, ?_⟩
  rw [ofText_toText_append, TokenStream.splice, huncut.pending, List.append_nil]
  exact alike_written huncut.trimmed (plain row hrow)

/-- Aliases are textually transparent: after any readings, the stream that an alias leaves of
a text shows what the stream of the text shows in which the target is written in place of the
alias. So both match the same chains, and the arguments assigned from them are the same,
before and after matching. -/
theorem alias_expansion_reads_as_typed_text (table : AliasTable)
    (plain : ∀ row ∈ table.entries, ∀ word ∈ row.2.names, IsPlainName word) (body : String)
    (name : Invocation) (s : TokenStream) (h : table.apply (.ofText body) = (some name, s)) :
    ∃ target, table.target? name = some target ∧
      let left := String.ofList ((TokenStream.ofText body).skip name.length).rest
      let typed := TokenStream.ofText (target.toText ++ " " ++ left)
      (∀ readings, (s.readAll readings).SameView (typed.readAll readings)) ∧
      (∀ registry style,
        (matchChain registry style s).1 = (matchChain registry style typed).1 ∧
        ∀ parameters attachments,
          assign parameters (.text (matchChain registry style s).2 attachments) =
            assign parameters (.text (matchChain registry style typed).2 attachments)) ∧
      ∀ parameters attachments,
        assign parameters (.text s attachments) = assign parameters (.text typed attachments) := by
  obtain ⟨target, htarget, halike⟩ := AliasTable.alike_apply plain h
  refine ⟨target, htarget, ?_, ?_, ?_⟩
  · intro readings
    exact (halike.readAll readings).sameView
  · intro registry style
    obtain ⟨hchain, hrest⟩ := halike.matchChain registry style
    exact ⟨hchain, fun parameters attachments => hrest.assign parameters attachments⟩
  · intro parameters attachments
    exact halike.assign parameters attachments

/-- Two aliases, the longer of which extends the shorter. -/
def echoAliases : AliasTable :=
  .ofList [(⟨["say"]⟩, ⟨["shout"]⟩), (⟨["say", "it"]⟩, ⟨["echo", "loud"]⟩)]

/-- The longer alias before a quote that is never closed: the blanks around what is left stay
apart from the names. -/
theorem echo_alias_before_unclosed_quote :
    (∀ row ∈ echoAliases.entries, ∀ word ∈ row.2.names, IsPlainName word) ∧
      echoAliases.apply (.ofText " say it   'x  y ") =
        (some ⟨["say", "it"]⟩, ⟨["echo", "loud"], "'x  y ".toList⟩) ∧
      ∃ target, echoAliases.target? ⟨["say", "it"]⟩ = some target ∧
        let left := String.ofList ((TokenStream.ofText " say it   'x  y ").skip 2).rest
        let typed := TokenStream.ofText (target.toText ++ " " ++ left)
        let s : TokenStream := ⟨["echo", "loud"], "'x  y ".toList⟩
        (∀ readings, (s.readAll readings).SameView (typed.readAll readings)) ∧
        (∀ registry style,
          (matchChain registry style s).1 = (matchChain registry style typed).1 ∧
          ∀ parameters attachments,
            assign parameters (.text (matchChain registry style s).2 attachments) =
              assign parameters (.text (matchChain registry style typed).2 attachments)) ∧
        ∀ parameters attachments,
          assign parameters (.text s attachments) =
            assign parameters (.text typed attachments) := by
  have plain : ∀ row ∈ echoAliases.entries, ∀ word ∈ row.2.names, IsPlainName word := by
    decide
  have applied : echoAliases.apply (.ofText " say it   'x  y ") =
      (some ⟨["say", "it"]⟩, ⟨["echo", "loud"], "'x  y ".toList⟩) := by decide
  exact ⟨plain, applied, alias_expansion_reads_as_typed_text echoAliases plain _ _ _ applied⟩

end ChatCommands
