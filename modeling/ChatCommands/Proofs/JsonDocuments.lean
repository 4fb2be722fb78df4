import ChatCommands.Json.Reader
import ChatCommands.Json.Writer
import ChatCommands.Proofs.WrittenNumbers

set_option autoImplicit false

/-!
# Written JSON documents

A written value is read back as it was, if its numbers are whole and fit a word. The proof
goes through tokens: `Json.spell` lists the tokens of a value, writing spells them
(`Json.tokens_render`), and the machine that reads tokens takes them for the value,
whatever it has already read and whatever follows (`Json.Reading.run_spell`). The main
statement is `Json.parse_render`.
-/

namespace ChatCommands.Json

/-! ## Text literals -/

theorem hexValue?_hexDigit : ∀ n < 16, hexValue? (hexDigit n) = some n := by decide

/-- A character as it is written is read as a unit. -/
theorem textUnits_escape (c : Char) (acc : List TextUnit) (r : List Char) :
    textUnits acc (escape c ++ r) = textUnits (.char c :: acc) r := by
  unfold escape
  split
  -- characters that have an escape of their own
  all_goals try rfl
  rename_i hquote hback _ _ _ _ _
  split
  -- a control character without a letter of its own
  · rename_i hcontrol
    have hhigh := hexValue?_hexDigit (c.toNat / 16) (by omega)
    have hlow := hexValue?_hexDigit (c.toNat % 16) (by omega)
    have hquad : hexQuad? '0' '0' (hexDigit (c.toNat / 16)) (hexDigit (c.toNat % 16)) =
        some c.toNat := by
      have hzero : hexValue? '0' = some 0 := by decide
      simp only [hexQuad?, hzero, hhigh, hlow, Option.bind_eq_bind, Option.bind_some,
        Option.pure_def]
      congr 1
      omega
    have hwhole : ¬ (0xD800 ≤ c.toNat ∧ c.toNat < 0xE000) := by omega
    simp only [List.cons_append, List.nil_append]
    rw [textUnits, hquad]
    simp only [if_neg hwhole, Char.ofNat_toNat]
  · rename_i hplain
    rw [List.singleton_append, textUnits]
    · rw [if_neg hplain]
    · exact hquote
    · rintro a b c' d r' rfl
      exact absurd rfl hback
    · rintro e r' rfl
      exact absurd rfl hback

/-- A written text is read up to its closing quote. -/
theorem textUnits_written (s : List Char) (acc : List TextUnit) (rest : List Char) :
    textUnits acc (s.flatMap escape ++ '"' :: rest) =
      some (acc.reverse ++ s.map .char, rest) := by
  induction s generalizing acc with
  | nil => simp [textUnits]
  | cons c s ih =>
    rw [List.flatMap_cons, List.append_assoc, textUnits_escape, ih]
    simp

/-- A text written character by character is the leaf of that text. -/
theorem textLeaf_written (s : String) : textLeaf (s.toList.map .char) = .text s := by
  have hjoin : ∀ cs : List Char, joinUnits (cs.map .char) = some cs := by
    intro cs
    induction cs with
    | nil => rfl
    | cons c cs ih => rw [List.map_cons, joinUnits, ih, Option.map_some]
  rw [textLeaf, hjoin]
  dsimp only
  rw [String.ofList_toList]

/-! ## Tokens -/

/-- No number or word goes on at the beginning of the text. -/
def Detached (s : List Char) : Prop := ∀ c ∈ s.head?, isNumberChar c = false ∧ c.isAlpha = false

theorem detached_nil : Detached [] := by simp [Detached]

theorem detached_cons {c : Char} {r : List Char} (h : isNumberChar c = false ∧ c.isAlpha = false) :
    Detached (c :: r) := by
  intro d hd
  obtain rfl : c = d := by simpa using hd
  exact h

/-- What goes together is taken up to the first character of another kind. -/
theorem takeWhile_of_detached {p : Char → Bool} {s rest : List Char} (hs : ∀ c ∈ s, p c = true)
    (hrest : ∀ c ∈ rest.head?, p c = false) :
    (s ++ rest).takeWhile p = s ∧ (s ++ rest).dropWhile p = rest := by
  rw [List.takeWhile_append_of_pos hs, List.dropWhile_append_of_pos hs]
  cases rest with
  | nil => simp
  | cons c r => simp [hrest c rfl]

/-- A bracket, a comma or a colon is a token of its own. -/
theorem tokens_mark (r : List Char) :
    tokens ('[' :: r) = (tokens r).map (.openList :: ·) ∧
      tokens (']' :: r) = (tokens r).map (.closeList :: ·) ∧
      tokens ('\x7b' :: r) = (tokens r).map (.openRecord :: ·) ∧
      tokens ('\x7d' :: r) = (tokens r).map (.closeRecord :: ·) ∧
      tokens (',' :: r) = (tokens r).map (.comma :: ·) ∧
      tokens (':' :: r) = (tokens r).map (.colon :: ·) := by
  refine ⟨?_, ?_, ?_, ?_, ?_, ?_⟩
  all_goals
    rw [tokens]
    simp [isSpace]

theorem tokens_text {r rest : List Char} {units : List TextUnit}
    (h : textUnits [] r = some (units, rest)) :
    tokens ('"' :: r) = (tokens rest).map (.leaf (textLeaf units) :: ·) := by
  rw [tokens]
  have hspace : ¬ isSpace '"' = true := by decide
  rw [if_neg hspace]
  split
  · rename_i units' rest' heq
    rw [h] at heq
    obtain ⟨rfl, rfl⟩ := Prod.mk.inj (Option.some.inj heq)
    rfl
  · rename_i heq
    rw [h] at heq
    cases heq

/-- A character that begins a number or a word is no blank, and no mark or quote either. -/
def BeginsLeaf (c : Char) : Prop :=
  isSpace c = false ∧ c ∉ ['[', ']', '\x7b', '\x7d', ',', ':', '"']

theorem beginsLeaf_of_isNumberChar {c : Char} (h : isNumberChar c = true) : BeginsLeaf c := by
  constructor
  · rw [Bool.eq_false_iff]
    intro hspace
    simp only [isSpace, Bool.or_eq_true, beq_iff_eq] at hspace
    rcases hspace with ((rfl | rfl) | rfl) | rfl
    all_goals exact absurd h (by decide)
  · intro hmem
    simp only [List.mem_cons, List.not_mem_nil, or_false] at hmem
    rcases hmem with rfl | rfl | rfl | rfl | rfl | rfl | rfl
    all_goals exact absurd h (by decide)

theorem beginsLeaf_of_isAlpha {c : Char} (h : c.isAlpha = true) : BeginsLeaf c := by
  constructor
  · rw [Bool.eq_false_iff]
    intro hspace
    simp only [isSpace, Bool.or_eq_true, beq_iff_eq] at hspace
    rcases hspace with ((rfl | rfl) | rfl) | rfl
    all_goals exact absurd h (by decide)
  · intro hmem
    simp only [List.mem_cons, List.not_mem_nil, or_false] at hmem
    rcases hmem with rfl | rfl | rfl | rfl | rfl | rfl | rfl
    all_goals exact absurd h (by decide)

theorem tokens_of_beginsLeaf {c : Char} {r : List Char} (h : BeginsLeaf c) :
    tokens (c :: r) =
      if isNumberChar c then
        match numberLeaf? (c :: r.takeWhile isNumberChar) with
        | some j => (tokens (r.dropWhile isNumberChar)).map (.leaf j :: ·)
        | none => none
      else
        match wordLeaf? (c :: r.takeWhile Char.isAlpha) with
        | some j => (tokens (r.dropWhile Char.isAlpha)).map (.leaf j :: ·)
        | none => none := by
  obtain ⟨hspace, hmark⟩ := h
  have hspace' : ¬ isSpace c = true := by simp [hspace]
  rw [tokens.eq_def]
  dsimp only
  rw [if_neg hspace']
  split
  all_goals first | rfl | exact absurd (by simp) hmark

theorem tokens_number {c : Char} {w rest : List Char} {j : Json}
    (hw : ∀ d ∈ c :: w, isNumberChar d = true) (hrest : Detached rest)
    (hleaf : numberLeaf? (c :: w) = some j) :
    tokens (c :: w ++ rest) = (tokens rest).map (.leaf j :: ·) := by
  obtain ⟨hc, hw⟩ := List.forall_mem_cons.1 hw
  obtain ⟨htake, hdrop⟩ := takeWhile_of_detached hw fun d hd => (hrest d hd).1
  rw [List.cons_append, tokens_of_beginsLeaf (beginsLeaf_of_isNumberChar hc), if_pos hc, htake,
    hdrop, hleaf]

theorem tokens_word {c : Char} {w rest : List Char} {j : Json} (hc : isNumberChar c = false)
    (hw : ∀ d ∈ c :: w, d.isAlpha = true) (hrest : Detached rest)
    (hleaf : wordLeaf? (c :: w) = some j) :
    tokens (c :: w ++ rest) = (tokens rest).map (.leaf j :: ·) := by
  obtain ⟨hfirst, hw⟩ := List.forall_mem_cons.1 hw
  obtain ⟨htake, hdrop⟩ := takeWhile_of_detached hw fun d hd => (hrest d hd).2
  rw [List.cons_append, tokens_of_beginsLeaf (beginsLeaf_of_isAlpha hfirst),
    if_neg (by simp [hc]), htake, hdrop, hleaf]

/-! ## Spelling -/

mutual

/-- Every number in the value is whole and fits a word, and every leaf carries a value. -/
def isPlain : Json → Bool
  | .null => true
  | .bool _ => true
  | .int n => fitsWord n
  | .float _ => false
  | .text _ => true
  | .list items => itemsPlain items
  | .record fields => fieldsPlain fields
  | .hugeNumber => false
  | .broken => false

/-- Every item is plain. -/
def itemsPlain : List Json → Bool
  | [] => true
  | j :: js => isPlain j && itemsPlain js

/-- The value of every field is plain. -/
def fieldsPlain : List (String × Json) → Bool
  | [] => true
  | (_, j) :: fs => isPlain j && fieldsPlain fs

end

mutual

/-- The tokens of a value. -/
def spell : Json → List Token
  | .list items => .openList :: (spellItems items ++ [.closeList])
  | .record fields => .openRecord :: (spellFields fields ++ [.closeRecord])
  | .null => [.leaf .null]
  | .bool b => [.leaf (.bool b)]
  | .int n => [.leaf (.int n)]
  | .float x => [.leaf (.float x)]
  | .text s => [.leaf (.text s)]
  | .hugeNumber => [.leaf .hugeNumber]
  | .broken => [.leaf .broken]

/-- The tokens of items, with commas between them. -/
def spellItems : List Json → List Token
  | [] => []
  | [j] => spell j
  | j :: js => spell j ++ .comma :: spellItems js

/-- The tokens of fields, with commas between them. -/
def spellFields : List (String × Json) → List Token
  | [] => []
  | [(k, j)] => .leaf (.text k) :: .colon :: spell j
  | (k, j) :: fs => .leaf (.text k) :: .colon :: (spell j ++ .comma :: spellFields fs)

end

/-- A quoted text is a single leaf, whatever it holds. -/
theorem tokens_quote (s : String) (rest : List Char) :
    tokens ((quote s).toList ++ rest) = (tokens rest).map (.leaf (.text s) :: ·) := by
  have hunits := textUnits_written s.toList [] rest
  have hwritten : (quote s).toList ++ rest = '"' :: (s.toList.flatMap escape ++ '"' :: rest) := by
    simp [quote]
  rw [hwritten, tokens_text hunits, List.reverse_nil, List.nil_append, textLeaf_written]

/-- A written whole number is a number literal. -/
theorem tokens_int {n : Int} (h : fitsWord n = true) {rest : List Char} (hrest : Detached rest) :
    tokens ((toString n).toList ++ rest) = (tokens rest).map (.leaf (.int n) :: ·) := by
  have hdigit : ∀ c : Char, c.isDigit = true → isNumberChar c = true := by
    intro c hc
    have hboth : ('0' ≤ c && c ≤ '9') = true := hc
    simp [isNumberChar, hboth]
  have hchars : ∀ c ∈ (toString n).toList, isNumberChar c = true := by
    intro c hc
    cases n with
    | ofNat m => exact hdigit c (Text.allDigits_toDigits m c (by rwa [← Text.toList_toString_nat]))
    | negSucc m =>
      have hsplit : toString (Int.negSucc m) = "-" ++ toString (m + 1) := rfl
      rw [hsplit, String.toList_append, Text.toList_toString_nat] at hc
      rcases List.mem_append.1 hc with hc | hc
      · obtain rfl : c = '-' := by simpa using hc
        decide
      · exact hdigit c (Text.allDigits_toDigits (m + 1) c hc)
  have hleaf := numberLeaf?_ofInt h
  cases hcs : (toString n).toList with
  | nil =>
    rw [hcs] at hleaf
    simp [numberLeaf?, numberParts?, wholePartOk] at hleaf
  | cons c w =>
    rw [hcs] at hchars hleaf
    exact tokens_number hchars hrest hleaf

theorem tokens_words {rest : List Char} (hrest : Detached rest) :
    tokens ("null".toList ++ rest) = (tokens rest).map (.leaf .null :: ·) ∧
      tokens ("true".toList ++ rest) = (tokens rest).map (.leaf (.bool true) :: ·) ∧
      tokens ("false".toList ++ rest) = (tokens rest).map (.leaf (.bool false) :: ·) :=
  ⟨tokens_word (c := 'n') (w := ['u', 'l', 'l']) rfl (List.all_eq_true.1 rfl) hrest rfl,
    tokens_word (c := 't') (w := ['r', 'u', 'e']) rfl (List.all_eq_true.1 rfl) hrest rfl,
    tokens_word (c := 'f') (w := ['a', 'l', 's', 'e']) rfl (List.all_eq_true.1 rfl) hrest rfl⟩

/-- A mark keeps what stands before it apart from what follows. -/
theorem detached_mark (r : List Char) :
    Detached (']' :: r) ∧ Detached ('\x7d' :: r) ∧ Detached (',' :: r) :=
  ⟨detached_cons (by decide), detached_cons (by decide), detached_cons (by decide)⟩

mutual

/-- Writing a value spells its tokens. -/
theorem tokens_render : ∀ (j : Json), j.isPlain = true → ∀ {rest : List Char}, Detached rest →
    tokens ((render j).toList ++ rest) = (tokens rest).map (spell j ++ ·)
  | .null, _, _, hrest => (tokens_words hrest).1
  | .bool true, _, _, hrest => (tokens_words hrest).2.1
  | .bool false, _, _, hrest => (tokens_words hrest).2.2
  | .int n, h, _, hrest => tokens_int (by simpa [isPlain] using h) hrest
  | .text s, _, rest, _ => tokens_quote s rest
  -- a bracket stands behind the items, so whatever follows the list does not touch them
  | .list items, h, rest, _ => by
    have hitems := tokens_renderItems items (by simpa [isPlain] using h) (detached_mark rest).1
    have hwritten : (render (.list items)).toList ++ rest =
        '[' :: ((renderItems items).toList ++ ']' :: rest) := by
      simp [render]
    rw [hwritten, (tokens_mark _).1, hitems, (tokens_mark _).2.1]
    cases tokens rest <;> simp [spell]
  | .record fields, h, rest, _ => by
    have hfields := tokens_renderFields fields (by simpa [isPlain] using h) (detached_mark rest).2.1
    have hwritten : (render (.record fields)).toList ++ rest =
        '\x7b' :: ((renderFields fields).toList ++ '\x7d' :: rest) := by
      simp [render]
    rw [hwritten, (tokens_mark _).2.2.1, hfields, (tokens_mark _).2.2.2.1]
    cases tokens rest <;> simp [spell]
  | .float _, h, _, _ | .hugeNumber, h, _, _ | .broken, h, _, _ => by simp [isPlain] at h

theorem tokens_renderItems : ∀ (js : List Json), itemsPlain js = true →
    ∀ {rest : List Char}, Detached rest →
      tokens ((renderItems js).toList ++ rest) = (tokens rest).map (spellItems js ++ ·)
  | [], _, rest, _ => by simp [renderItems, spellItems]
  | [j], h, rest, hrest => by
    have hj := tokens_render j (by simpa [itemsPlain] using h) hrest
    simpa [renderItems, spellItems] using hj
  | j :: j' :: js, h, rest, hrest => by
    obtain ⟨hj, hjs⟩ : j.isPlain = true ∧ itemsPlain (j' :: js) = true := by
      simpa [itemsPlain] using h
    have hrest' := tokens_renderItems (j' :: js) hjs hrest
    have hwritten : (renderItems (j :: j' :: js)).toList ++ rest =
        (render j).toList ++ ',' :: ((renderItems (j' :: js)).toList ++ rest) := by
      simp [renderItems]
    rw [hwritten, tokens_render j hj (detached_mark _).2.2, (tokens_mark _).2.2.2.2.1, hrest']
    cases tokens rest <;> simp [spellItems]

theorem tokens_renderFields : ∀ (fs : List (String × Json)), fieldsPlain fs = true →
    ∀ {rest : List Char}, Detached rest →
      tokens ((renderFields fs).toList ++ rest) = (tokens rest).map (spellFields fs ++ ·)
  | [], _, rest, _ => by simp [renderFields, spellFields]
  | [(k, j)], h, rest, hrest => by
    have hj := tokens_render j (by simpa [fieldsPlain] using h) hrest
    have hwritten : (renderFields [(k, j)]).toList ++ rest =
        (quote k).toList ++ ':' :: ((render j).toList ++ rest) := by
      simp [renderFields]
    rw [hwritten, tokens_quote, (tokens_mark _).2.2.2.2.2, hj]
    cases tokens rest <;> simp [spellFields]
  | (k, j) :: f :: fs, h, rest, hrest => by
    obtain ⟨hj, hfs⟩ : j.isPlain = true ∧ fieldsPlain (f :: fs) = true := by
      simpa [fieldsPlain] using h
    have hrest' := tokens_renderFields (f :: fs) hfs hrest
    have hwritten : (renderFields ((k, j) :: f :: fs)).toList ++ rest =
        (quote k).toList ++
          ':' :: ((render j).toList ++ ',' :: ((renderFields (f :: fs)).toList ++ rest)) := by
      simp [renderFields]
    rw [hwritten, tokens_quote, (tokens_mark _).2.2.2.2.2, tokens_render j hj (detached_mark _).2.2,
      (tokens_mark _).2.2.2.2.1, hrest']
    cases tokens rest <;> simp [spellFields]

end

/-! ## The machine -/

namespace Reading

theorem run_cons {s s' : Reading} {t : Token} (h : s.step t = some s') (ts : List Token) :
    s.run (t :: ts) = s'.run ts := by
  rw [run, h, Option.bind_some]

/-- Where a list may end, a value may stand as well. -/
theorem run_valueOrEnd (stack : List Frame) (j : Json) (ts : List Token) :
    run ⟨stack, .valueOrEnd⟩ (spell j ++ ts) = run ⟨stack, .value⟩ (spell j ++ ts) := by
  cases j <;> rfl

theorem exists_spellItems_cons (j : Json) (js : List Json) :
    ∃ more, spellItems (j :: js) = spell j ++ more := by
  cases js with
  | nil => exact ⟨[], by simp [spellItems]⟩
  | cons j' js => exact ⟨.comma :: spellItems (j' :: js), by simp [spellItems]⟩

/-- Where a record may end, a name may stand as well. -/
theorem run_nameOrEnd (stack : List Frame) (f : String × Json) (fs : List (String × Json))
    (ts : List Token) :
    run ⟨stack, .nameOrEnd⟩ (spellFields (f :: fs) ++ ts) =
      run ⟨stack, .name []⟩ (spellFields (f :: fs) ++ ts) := by
  cases fs <;> rfl

/-- A record whose fields all have names is read as it is. -/
theorem recordOf_named (fields : List (String × Json)) :
    recordOf (fields.map fun f => (some f.1, f.2)) = .record fields := by
  rw [recordOf, mapM_map_eq_some]
  exact fun _ _ => rfl

mutual

/-- The machine takes the tokens of a value for it. -/
theorem run_spell : ∀ (j : Json) (stack : List Frame) (ts : List Token),
    run ⟨stack, .value⟩ (spell j ++ ts) = run ⟨stack, .afterValue j⟩ ts
  | .null, _, _ | .bool _, _, _ | .int _, _, _ | .float _, _, _ | .text _, _, _ | .hugeNumber, _, _
  | .broken, _, _ => rfl
  | .list [], _, _ => rfl
  | .list (j :: js), stack, ts => by
    have hitems := run_spellItems (j :: js) (by simp) [] stack ts
    obtain ⟨more, hmore⟩ := exists_spellItems_cons j js
    have hopened := run_valueOrEnd (.list [] :: stack) j (more ++ .closeList :: ts)
    rw [← List.append_assoc, ← hmore] at hopened
    rw [spell, List.cons_append, List.append_assoc, run_cons rfl]
    exact hopened.trans hitems
  | .record [], _, _ => rfl
  -- the opening bracket waits for a name or the end; here it is a name
  | .record (f :: fs), stack, ts => by
    have hfields := run_spellFields (f :: fs) (by simp) [] stack ts
    rw [List.reverse_nil, List.nil_append, recordOf_named] at hfields
    rw [spell, List.cons_append, List.append_assoc, run_cons rfl]
    exact (run_nameOrEnd stack f fs _).trans hfields

theorem run_spellItems : ∀ (js : List Json), js ≠ [] → ∀ (done : List Json) (stack : List Frame)
    (ts : List Token), run ⟨.list done :: stack, .value⟩ (spellItems js ++ .closeList :: ts) =
      run ⟨stack, .afterValue (.list (done.reverse ++ js))⟩ ts
  | [], h, _, _, _ => absurd rfl h
  | [j], _, done, stack, ts => by
    rw [spellItems, run_spell j, run_cons rfl, List.reverse_cons]
  | j :: j' :: js, _, done, stack, ts => by
    have hrest := run_spellItems (j' :: js) (by simp) (j :: done) stack ts
    rw [List.reverse_cons, List.append_assoc, List.singleton_append] at hrest
    have hspelled : spellItems (j :: j' :: js) = spell j ++ .comma :: spellItems (j' :: js) := by
      simp [spellItems]
    rw [hspelled, List.append_assoc, run_spell j, List.cons_append, run_cons rfl]
    exact hrest

theorem run_spellFields : ∀ (fs : List (String × Json)), fs ≠ [] →
    ∀ (done : List (Option String × Json)) (stack : List Frame) (ts : List Token),
      run ⟨stack, .name done⟩ (spellFields fs ++ .closeRecord :: ts) =
        run ⟨stack, .afterValue (recordOf (done.reverse ++ fs.map fun f => (some f.1, f.2)))⟩ ts
  | [], h, _, _, _ => absurd rfl h
  | [(k, j)], _, done, stack, ts => by
    rw [spellFields, List.cons_append, run_cons rfl, List.cons_append, run_cons rfl, run_spell j,
      run_cons rfl, List.reverse_cons]
    rfl
  | (k, j) :: f :: fs, _, done, stack, ts => by
    have hrest := run_spellFields (f :: fs) (by simp) ((some k, j) :: done) stack ts
    rw [List.reverse_cons, List.append_assoc, List.singleton_append] at hrest
    have hspelled : spellFields ((k, j) :: f :: fs) =
        .leaf (.text k) :: .colon :: (spell j ++ .comma :: spellFields (f :: fs)) := by
      simp [spellFields]
    rw [hspelled, List.cons_append, run_cons rfl, List.cons_append, run_cons rfl, List.append_assoc,
      run_spell j, List.cons_append, run_cons rfl]
    exact hrest

end

end Reading

theorem ofTokens?_spell (j : Json) : ofTokens? (spell j) = some j := by
  have hrun := Reading.run_spell j [] []
  rw [List.append_nil] at hrun
  rw [ofTokens?, Reading.start, hrun]
  rfl

/-- A written plain value is read back, if it is not nested too deep. -/
theorem parse_render {j : Json} (hplain : j.isPlain = true) (hsound : j.isSound maxDepth = true) :
    parse (render j) = some j := by
  have hnone : tokens [] = some [] := by rw [tokens]
  have htokens := tokens_render j hplain detached_nil
  rw [List.append_nil, hnone, Option.map_some, List.append_nil] at htokens
  rw [parse, parseLoosely, htokens, Option.bind_some, ofTokens?_spell]
  simp [hsound]

end ChatCommands.Json
