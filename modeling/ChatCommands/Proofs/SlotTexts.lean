import ChatCommands.Proofs.IntegerGrammar
import ChatCommands.Proofs.StageRuns

set_option autoImplicit false

/-!
# Slots and their texts

A slot of a slash interaction has a text, which is what a caller would type. Truth values and whole
numbers are taken from their slots without that text; as the text of such a slot is read back as the
value of the slot, this makes no difference (`parseValue_slot`). So the parsing of an argument is
the same program for the slot as for its text, unless the kind is that of floats, and a parameter is
bound alike by an option of a slash interaction and by a message that has the text of the option in
its place (`slots_bind_as_their_texts`).
-/

namespace ChatCommands

open Reference (Place)

/-! ## One argument -/

theorem parseBoolean_slot (v : Slot) : parseBoolean (.slot v) = parseBoolean (.text v.asText) := by
  cases v with
  | boolean b => cases b <;> rfl
  | integer n => rfl
  | float x => rfl
  | text s => rfl

theorem parseInteger_slot (v : Slot) : parseInteger (.slot v) = parseInteger (.text v.asText) := by
  cases v with
  | boolean b => rfl
  | integer n => exact (Primitive.readInteger_toString n).symm
  | float x => rfl
  | text s => rfl

/-- A slot is parsed as its text is, by the same lookups, under every kind but that of floats. -/
theorem parseValue_slot (place : Place) {kind : Kind}
    (hkind : ∀ min max choices, kind ≠ .float min max choices) (v : Slot) :
    parseValue place kind (.slot v) = parseValue place kind (.text v.asText) := by
  cases kind with
  | boolean =>
    unfold parseValue
    rw [parseBoolean_slot]
  | integer min max choices =>
    unfold parseValue
    rw [parseInteger_slot]
  | float min max choices => exact absurd rfl (hkind min max choices)
  -- all other kinds look at the text alone, or at attachments
  | string | id | user | role | channel | message | attachment | list => rfl

theorem parseParameter_slot (place : Place) {p : Parameter}
    (hkind : ∀ min max choices, p.kind ≠ .float min max choices) (v : Slot) :
    parseParameter place p (some (.slot v)) = parseParameter place p (some (.text v.asText)) := by
  simp only [parseParameter, parseValue_slot place hkind]

/-! ## Names -/

theorem valueOf?_of_mem {α : Type} {name : String} {a : α} {entries : List (String × α)}
    (hnames : (entries.map (·.1)).Nodup) (h : (name, a) ∈ entries) :
    valueOf? name entries = some a := by
  induction entries with
  | nil => cases h
  | cons e entries ih =>
    rw [List.map_cons, List.nodup_cons] at hnames
    rcases List.mem_cons.1 h with rfl | hlater
    · exact valueOf?_cons_self name a entries
    · have hother : name ≠ e.1 := ne_of_mem_of_not_mem (List.mem_map_of_mem hlater) hnames.1
      rw [valueOf?_cons_of_ne e.2 entries hother.symm]
      exact ih hnames.2 hlater

/-- With different names, each parameter is parsed from the raw argument of its name. -/
theorem getElem?_parameterLookups (place : Place) {ps : List Parameter}
    (hnames : (ps.map (·.name)).Nodup) (raw : List (String × RawArgument)) (k : Nat) :
    (parameterLookups place ps raw)[k]? =
      ps[k]?.map fun p => parseParameter place p (valueOf? p.name raw) := by
  induction ps generalizing raw k with
  | nil => rfl
  | cons p ps ih =>
    rw [List.map_cons, List.nodup_cons] at hnames
    cases k with
    | zero => rfl
    | succ k =>
      rw [parameterLookups, List.getElem?_cons_succ, List.getElem?_cons_succ, ih hnames.2]
      cases hq : ps[k]? with
      | none => rfl
      | some q =>
        -- what the first parameter uses up is not the raw argument of another one
        have hother : q.name ≠ p.name :=
          ne_of_mem_of_not_mem (List.mem_map_of_mem (List.mem_of_getElem? hq)) hnames.1
        rw [Option.map_some, Option.map_some, valueOf?_filter raw hother]

/-! ## Options -/

/-- The first parameter is assigned something or not. The others are assigned as without it, from
the options that it leaves. -/
theorem assignSlash_cons (p : Parameter) (ps : List Parameter) (options : List (String × Slot))
    (attachments : List (String × Attachment)) :
    ∃ options' attachments', (options' = options ∨ options' = options.filter (·.1 != p.name)) ∧
      (assignSlash (p :: ps) options attachments = assignSlash ps options' attachments' ∨
        ∃ raw, assignSlash (p :: ps) options attachments =
          (p.name, raw) :: assignSlash ps options' attachments') := by
  rw [assignSlash]
  dsimp only
  split
  · refine ⟨options, attachments.filter (·.1 != p.name), Or.inl rfl, ?_⟩
    split
    · exact Or.inr ⟨_, rfl⟩
    · exact Or.inl rfl
  · refine ⟨options.filter (·.1 != p.name), attachments, Or.inr rfl, ?_⟩
    split
    · exact Or.inr ⟨_, rfl⟩
    · exact Or.inl rfl

theorem names_assignSlash (parameters : List Parameter) (options : List (String × Slot))
    (attachments : List (String × Attachment)) :
    ((assignSlash parameters options attachments).map (·.1)).Sublist (parameters.map (·.name)) := by
  induction parameters generalizing options attachments with
  | nil => exact List.Sublist.refl _
  | cons p ps ih =>
    obtain ⟨options', attachments', -, h | ⟨raw, h⟩⟩ := assignSlash_cons p ps options attachments
    · rw [h]
      exact (ih options' attachments').cons p.name
    · rw [h]
      exact (ih options' attachments').cons_cons p.name

/-- A parameter that takes no attachment is assigned the option of its name. -/
theorem mem_assignSlash {parameters : List Parameter} (hnames : (parameters.map (·.name)).Nodup)
    {p : Parameter} (hp : p ∈ parameters) (hinput : p.kind.isAttachment = false)
    {options : List (String × Slot)} {v : Slot} (hv : valueOf? p.name options = some v)
    (attachments : List (String × Attachment)) :
    (p.name, .slot v) ∈ assignSlash parameters options attachments := by
  induction parameters generalizing options attachments with
  | nil => cases hp
  | cons q ps ih =>
    rw [List.map_cons, List.nodup_cons] at hnames
    rcases List.mem_cons.1 hp with rfl | hlater
    · rw [assignSlash, hinput, hv]
      exact List.mem_cons_self
    · have hother : p.name ≠ q.name :=
        ne_of_mem_of_not_mem (List.mem_map_of_mem hlater) hnames.1
      obtain ⟨options', attachments', hleft, h⟩ := assignSlash_cons q ps options attachments
      have hkept : valueOf? p.name options' = some v := by
        rcases hleft with rfl | rfl
        · exact hv
        · rw [valueOf?_filter options hother, hv]
      have hrest := ih hnames.2 hlater hkept attachments'
      rcases h with h | ⟨raw, h⟩
      · rw [h]
        exact hrest
      · rw [h]
        exact List.mem_cons_of_mem _ hrest

/-! ## Messages -/

/-- The text that a message has for the parameter at a place: its token, or, for a last parameter
that merges, what is left of the message as it stands, if anything is. -/
def textFor? (inputs : List Parameter) (i : Nat) (tokens : TokenStream) : Option String :=
  if i + 1 = inputs.length ∧ inputs[i]?.any (·.kind.merges) then
    if (tokens.skip i).remainder = "" then none else some (tokens.skip i).remainder
  else tokens.toList[i]?

/-- A parameter behind the first one has the text that the message without its first token has for
it. -/
theorem textFor?_cons_succ {tokens rest : TokenStream} {token : String}
    (hnext : tokens.next? = some (token, rest)) (p : Parameter) (ps : List Parameter) (i : Nat) :
    textFor? (p :: ps) (i + 1) tokens = textFor? ps i rest := by
  simp only [textFor?, List.length_cons, Nat.add_right_cancel_iff, List.getElem?_cons_succ,
    TokenStream.skip_succ_of_next? hnext, TokenStream.toList_of_next? hnext]

theorem textFor?_of_next?_none {tokens : TokenStream} (hnext : tokens.next? = none)
    (ps : List Parameter) (i : Nat) : textFor? ps i tokens = none := by
  have hnil := (TokenStream.next?_eq_none_iff tokens).1 hnext
  simp [textFor?, TokenStream.skip_of_next?_none hnext, TokenStream.remainder_of_toList_nil hnil,
    hnil]

section Word

variable {word : String} (hne : word ≠ "") (hblank : ∀ c ∈ word.toList, Text.isBlank c = false)
  (hquote : ∀ c ∈ word.toList.head?, Token.isQuote c = false)
include hne hblank hquote

theorem allOf_word : Token.allOf word = [word] := by
  obtain ⟨c, w, hword⟩ := List.exists_cons_of_ne_nil (mt String.toList_eq_nil_iff.1 hne)
  have hsplit : Token.split? (c :: w ++ []) = some (c :: w, []) := by
    apply Token.split?_word
    · rw [← hword]
      exact hblank
    · apply hquote
      rw [hword]
      rfl
    · rfl
  rw [List.append_nil, ← hword] at hsplit
  rw [Token.allOf, Token.all_of_split?_some hsplit, Token.all_of_split?_none rfl, List.map_cons,
    List.map_nil, String.ofList_toList]

/-- A word that is left of the message, without quotes, is the text for the parameter at its place,
whether that merges or not. -/
theorem textFor?_of_word {tokens : TokenStream} {i : Nat} (hleft : tokens.skip i = .ofText word)
    (inputs : List Parameter) : textFor? inputs i tokens = some word := by
  have hremainder : (TokenStream.ofText word).remainder = word := by
    have hvisible := TokenStream.remainder_skip_ofText 0 word
    rwa [TokenStream.skip, Token.after, Text.trim_of_no_blank hblank,
      String.ofList_toList] at hvisible
  have hthere : tokens.toList[i]? = some word := by
    have hdrop := TokenStream.toList_skip tokens i
    rw [hleft, TokenStream.toList_ofText, allOf_word hne hblank hquote] at hdrop
    rw [← Nat.add_zero i, ← List.getElem?_drop, ← hdrop]
    rfl
  rw [textFor?]
  split
  · rw [hleft, hremainder, if_neg hne]
  · exact hthere

end Word

/-- Each parameter is assigned the text that the message has for it. -/
theorem mem_assignTokens {inputs : List Parameter} {i : Nat} {p : Parameter}
    (hp : inputs[i]? = some p) {tokens : TokenStream} {text : String}
    (htext : textFor? inputs i tokens = some text) :
    (p.name, .text text) ∈ (assignTokens inputs tokens).1 := by
  induction inputs generalizing i tokens with
  | nil => simp at hp
  | cons q ps ih =>
    cases hnext : tokens.next? with
    | none =>
      rw [textFor?_of_next?_none hnext] at htext
      cases htext
    | some found =>
      obtain ⟨token, rest⟩ := found
      cases i with
      | zero =>
        obtain rfl : q = p := by simpa using hp
        cases ps with
        | nil =>
          rw [assignTokens]
          by_cases hmerges : q.kind.merges = true
          · rw [textFor?, if_pos ⟨rfl, hmerges⟩, TokenStream.skip] at htext
            split at htext
            · cases htext
            · rename_i hvisible
              obtain rfl := Option.some.inj htext
              simp [hmerges, hvisible]
          · have htoken : textFor? [q] 0 tokens = some token := by
              simp [textFor?, hmerges, TokenStream.toList_of_next? hnext]
            obtain rfl := Option.some.inj (htoken.symm.trans htext)
            simp [hmerges, hnext]
        | cons r ps =>
          have htoken : textFor? (q :: r :: ps) 0 tokens = some token := by
            simp [textFor?, TokenStream.toList_of_next? hnext]
          obtain rfl := Option.some.inj (htoken.symm.trans htext)
          rw [assignTokens_cons_cons, hnext]
          exact List.mem_cons_self
      | succ i =>
        rw [List.getElem?_cons_succ] at hp
        rw [textFor?_cons_succ hnext] at htext
        obtain ⟨r, rs, rfl⟩ : ∃ r rs, ps = r :: rs :=
          List.exists_cons_of_ne_nil (List.ne_nil_of_mem (List.mem_of_getElem? hp))
        rw [assignTokens_cons_cons, hnext]
        exact List.mem_cons_of_mem _ (ih hp htext)

/-- Only the first parameters are assigned tokens. -/
theorem names_assignTokens (ps : List Parameter) (s : TokenStream) :
    ∃ n, (assignTokens ps s).1.map (·.1) = (ps.take n).map (·.name) := by
  fun_induction assignTokens ps s with
  | case1 => exact ⟨0, rfl⟩
  | case2 s p hmerges rest =>
    by_cases hempty : rest = ""
    · exact ⟨0, by simp [hempty]⟩
    · exact ⟨1, by simp [hempty]⟩
  | case3 => exact ⟨0, rfl⟩
  | case4 => exact ⟨1, rfl⟩
  | case5 => exact ⟨0, rfl⟩
  | case6 s p ps _ token s' hnext rest s'' hrest ih =>
    obtain ⟨n, hn⟩ := ih
    refine ⟨n + 1, ?_⟩
    rw [hrest] at hn
    rw [List.map_cons, List.take_succ_cons, List.map_cons, ← hn]

/-! ## Binding -/

section Binding

variable {parameters : List Parameter} (hnames : (parameters.map (·.name)).Nodup)
include hnames

/-- An option is the raw argument of the parameter of its name. -/
theorem valueOf?_of_assign_slash {options : List (String × Slot)}
    {attachments : List (String × Attachment)} {raw : List (String × RawArgument)}
    (hraw : assign parameters (.slash options attachments) = .ok raw) {p : Parameter}
    (hp : p ∈ parameters.filter (!·.kind.isAttachment)) {v : Slot}
    (hv : valueOf? p.name options = some v) : valueOf? p.name raw = some (.slot v) := by
  have hdistinct := hnames.sublist (names_assignSlash parameters options attachments)
  rw [assign, lastOfEach_of_nodup hdistinct] at hraw
  obtain rfl := Except.ok.inj hraw
  obtain ⟨hmem, hinput⟩ := List.mem_filter.1 hp
  exact valueOf?_of_mem hdistinct
    (mem_assignSlash hnames hmem (by simpa using hinput) hv attachments)

/-- The text that a message has for a parameter is its raw argument. -/
theorem valueOf?_of_assign_text {tokens : TokenStream} {attachments : List Attachment}
    {raw : List (String × RawArgument)}
    (hraw : assign parameters (.text tokens attachments) = .ok raw) {i : Nat} {p : Parameter}
    (hp : (parameters.filter (!·.kind.isAttachment))[i]? = some p) {text : String}
    (htext : textFor? (parameters.filter (!·.kind.isAttachment)) i tokens = some text) :
    valueOf? p.name raw = some (.text text) := by
  obtain ⟨n, hn⟩ := names_assignTokens (parameters.filter (!·.kind.isAttachment)) tokens
  have hfit : attachments.length ≤ (parameters.filter (·.kind.isAttachment)).length := by
    by_contra hextra
    rw [assign_of_extra_files (Nat.lt_of_not_le hextra)] at hraw
    cases hraw
  rw [assign_of_fitting_files hnames hfit hn] at hraw
  split at hraw
  · obtain rfl := Except.ok.inj hraw
    apply valueOf?_of_mem
    · rw [List.map_append, names_paired, hn]
      exact nodup_names_take hnames _ _
    · exact List.mem_append_right _ (mem_assignTokens hp htext)
  · cases hraw

end Binding

/-- A slot and its text are parsed alike under every kind but that of floats: by the same
lookups, to the same value or the same error. So, under different names, an option of a slash
interaction binds its parameter as a message does that has the text of the option in the
parameter's place. A word without quotes that is the last of the message is such a text, even for
a parameter that merges. -/
theorem slots_bind_as_their_texts :
    (∀ (place : Place) (kind : Kind), (∀ min max choices, kind ≠ .float min max choices) →
      ∀ v : Slot, parseValue place kind (.slot v) = parseValue place kind (.text v.asText)) ∧
    (∀ (place : Place) (parameters : List Parameter), (parameters.map (·.name)).Nodup →
      ∀ options attachments tokens files picked typed,
        assign parameters (.slash options attachments) = .ok picked →
        assign parameters (.text tokens files) = .ok typed →
        let inputs := parameters.filter (!·.kind.isAttachment)
        ∀ (i : Nat) (p : Parameter) (v : Slot), inputs[i]? = some p →
          (∀ min max choices, p.kind ≠ .float min max choices) →
          valueOf? p.name options = some v → textFor? inputs i tokens = some v.asText →
          ∀ k : Nat, parameters[k]? = some p →
            (parameterLookups place parameters picked)[k]? =
                some (parseParameter place p (some (.slot v))) ∧
              (parameterLookups place parameters typed)[k]? =
                some (parseParameter place p (some (.slot v)))) ∧
    ∀ (inputs : List Parameter) (i : Nat) (tokens : TokenStream) (word : String),
      tokens.skip i = .ofText word → word ≠ "" → (∀ c ∈ word.toList, Text.isBlank c = false) →
      (∀ c ∈ word.toList.head?, Token.isQuote c = false) →
      textFor? inputs i tokens = some word := by
  refine ⟨?_, ?_, ?_⟩
  · intro place kind hkind v
    exact parseValue_slot place hkind v
  · intro place parameters hnames options attachments tokens files picked typed hpicked htyped
      inputs i p v hp hkind hv htext k hk
    have hslot := valueOf?_of_assign_slash hnames hpicked (List.mem_of_getElem? hp) hv
    have hthere := valueOf?_of_assign_text hnames htyped hp htext
    rw [getElem?_parameterLookups place hnames, getElem?_parameterLookups place hnames, hk,
      Option.map_some, Option.map_some, hslot, hthere, parseParameter_slot place hkind]
    exact ⟨rfl, rfl⟩
  · intro inputs i tokens word hleft hne hblank hquote
    exact textFor?_of_word hne hblank hquote hleft inputs

/-- One whole number. -/
def countParameters : List Parameter := [.ofRequired "count" (.integer none none [])]

/-- The text of the least whole number. -/
def leastText : String := "-9223372036854775808"

theorem not_isBlank_leastText : ∀ c ∈ leastText.toList, Text.isBlank c = false := by
  have hall : (leastText.toList.all fun c => Text.isBlank c = false) = true := by
    decide
  intro c hc
  exact of_decide_eq_true (List.all_eq_true.1 hall c hc)

theorem not_isQuote_leastText : ∀ c ∈ leastText.toList.head?, Token.isQuote c = false := by
  intro c hc
  obtain rfl : '-' = c := Option.some.inj hc
  rfl

theorem allOf_leastText : Token.allOf leastText = [leastText] :=
  allOf_word (by decide) not_isBlank_leastText not_isQuote_leastText

theorem assign_leastText :
    assign countParameters (.text (.ofText leastText) []) = .ok [("count", .text leastText)] := by
  have hnames : (countParameters.map (·.name)).Nodup := by decide
  have hinputs : countParameters.filter (!·.kind.isAttachment) = countParameters := rfl
  have htyped : assignTokens countParameters (.ofText leastText) =
      (paired .text countParameters [leastText], (TokenStream.ofText leastText).skip 1) := by
    rw [assignTokens_of_not_merges (by rintro last ⟨⟩; rfl), TokenStream.toList_ofText,
      allOf_leastText]
    rfl
  rw [assign_of_fitting_files hnames (Nat.zero_le _) (n := 1) (by rw [hinputs, htyped]; rfl),
    hinputs, htyped, TokenStream.toList_skip, TokenStream.toList_ofText, allOf_leastText]
  rfl

/-- The least whole number binds its parameter as an option and as a token. -/
theorem least_number_binds_alike :
    let place : Place := ⟨none, ⟨2⟩⟩
    let least : Slot := .integer Int64.minValue
    parseValue place (.integer none none []) (.slot least) =
        parseValue place (.integer none none []) (.text leastText) ∧
      (parameterLookups place countParameters [("count", .slot least)])[0]? =
        (parameterLookups place countParameters [("count", .text leastText)])[0]? := by
  intro place least
  have hleast : least.asText = leastText := by decide
  have hcount : ∀ min max choices, Kind.integer none none [] ≠ .float min max choices := by
    intro min max choices h
    cases h
  obtain ⟨hparse, hbind, hword⟩ := slots_bind_as_their_texts
  have htext : textFor? (countParameters.filter (!·.kind.isAttachment)) 0 (.ofText leastText) =
      some least.asText := by
    rw [hleast]
    exact hword _ 0 (.ofText leastText) leastText rfl (by decide)
      not_isBlank_leastText not_isQuote_leastText
  obtain ⟨hpicked, htyped⟩ := hbind place countParameters (by decide) [("count", least)] []
    (.ofText leastText) [] [("count", .slot least)] [("count", .text leastText)] rfl
    assign_leastText 0 (.ofRequired "count" (.integer none none [])) least rfl hcount rfl htext 0
      rfl
  constructor
  · rw [hparse place _ hcount least, hleast]
  · rw [hpicked, htyped]

end ChatCommands
