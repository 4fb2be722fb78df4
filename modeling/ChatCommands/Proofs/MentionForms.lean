import ChatCommands.Argument.Reference
import ChatCommands.Proofs.Numerals
import ChatCommands.Proofs.TextAssignment

set_option autoImplicit false

/-!
# The forms of mentions

A text in angle brackets is a mention or nothing. `IdKind.marks` lists what may stand between the
opening bracket and the identifier, for each kind of identifier; behind such a mark there has to be
an unsigned numeral that fits a word, and nothing else (`readId_of_brackets`). Although `@`, `@!`
and `@&` begin alike, no text is a mention of two kinds, as no numeral begins with `!` or `&`. An
identifier is read back from its mentions and from its decimal text, whatever blanks are around
(`mentions_are_unambiguous`).
-/

namespace ChatCommands

/-! ## Beginnings and ends of texts -/

namespace Text

theorem after?_eq_some_iff {lead s rest : List Char} :
    after? lead s = some rest ↔ s = lead ++ rest := by
  induction lead generalizing s with
  | nil => rw [after?, Option.some.injEq, List.nil_append]
  | cons a lead ih =>
    cases s with
    | nil => simp [after?]
    | cons c s =>
      rw [after?, List.cons_append, List.cons.injEq]
      split
      · rename_i heq
        rw [ih]
        exact ⟨fun hs => ⟨heq.symm, hs⟩, And.right⟩
      · rename_i hne
        simp only [reduceCtorEq, false_iff]
        rintro ⟨rfl, -⟩
        exact hne rfl

theorem before?_eq_some_iff {tail s rest : List Char} :
    before? tail s = some rest ↔ s = rest ++ tail := by
  rw [before?, Option.map_eq_some_iff]
  constructor
  · rintro ⟨r, hr, rfl⟩
    rw [after?_eq_some_iff] at hr
    rw [← List.reverse_reverse s, hr, List.reverse_append, List.reverse_reverse]
  · rintro rfl
    refine ⟨rest.reverse, ?_, List.reverse_reverse rest⟩
    rw [after?_eq_some_iff, List.reverse_append]

end Text

open Text (trim trimStart isBlank IsUnsigned unsignedChars)

/-- What may stand before the identifier in a mention for an identifier of a kind. -/
def IdKind.marks : IdKind → List (List Char)
  | .user => [['@'], ['@', '!']]
  | .channel => [['#']]
  | .role => [['@', '&']]
  | .any | .message => []

namespace IdKind

/-- All kinds of identifiers. -/
def all : List IdKind := [.any, .channel, .message, .role, .user]

theorem mem_all (kind : IdKind) : kind ∈ all := by
  cases kind <;> decide

/-- No mark is shared by two kinds. -/
theorem eq_of_mem_marks {kind kind' : IdKind} {mark : List Char} (h : mark ∈ kind.marks)
    (h' : mark ∈ kind'.marks) : kind = kind' := by
  have hall : ∀ kind ∈ all, ∀ kind' ∈ all, ∀ mark ∈ kind.marks, mark ∈ kind'.marks →
      kind = kind' := by
    decide
  exact hall kind (mem_all kind) kind' (mem_all kind') mark h h'

/-- A mark holds no character of numerals. -/
theorem not_mem_of_mem_marks {kind : IdKind} {mark : List Char} (h : mark ∈ kind.marks) {c : Char}
    (hc : c ∈ mark) : c ∉ unsignedChars := by
  have hall : ∀ kind ∈ all, ∀ mark ∈ kind.marks,
      (mark.all fun c => c ∉ unsignedChars) = true := by
    decide
  exact of_decide_eq_true (List.all_eq_true.1 (hall kind (mem_all kind) mark h) c hc)

end IdKind

namespace Reference

/-- The kind of the identifiers that are mentioned so. -/
def MentionKind.idKind : MentionKind → IdKind
  | .user => .user
  | .channel => .channel
  | .role => .role

/-- The text is a mark of the kind and an unsigned numeral of the value behind it. -/
def IsMarked (kind : IdKind) (inner : List Char) (v : Nat) : Prop :=
  ∃ mark ∈ kind.marks, ∃ numeral, inner = mark ++ numeral ∧ IsUnsigned numeral v

/-! ## The inside of a mention -/

theorem inBrackets?_eq_some_iff {s inner : List Char} :
    inBrackets? s = some inner ↔ s = '<' :: (inner ++ ['>']) := by
  rw [inBrackets?, Option.bind_eq_some_iff]
  simp only [Text.after?_eq_some_iff, Text.before?_eq_some_iff]
  constructor
  · rintro ⟨rest, rfl, rfl⟩
    rfl
  · rintro rfl
    exact ⟨_, rfl, rfl⟩

theorem exists_mark_of_body? {kind : MentionKind} {inner body : List Char}
    (h : kind.body? inner = some body) : ∃ mark ∈ kind.idKind.marks, inner = mark ++ body := by
  unfold MentionKind.body? at h
  split at h
  · obtain rfl := Option.some.inj h
    exact ⟨['@', '!'], by decide, rfl⟩
  · cases h
  · obtain rfl := Option.some.inj h
    exact ⟨['@'], by decide, rfl⟩
  · obtain rfl := Option.some.inj h
    exact ⟨['#'], by decide, rfl⟩
  · obtain rfl := Option.some.inj h
    exact ⟨['@', '&'], by decide, rfl⟩
  · cases h

/-- A numeral behind a mark is found. No numeral begins with `!` or `&`, so it does not matter that
the shorter mark of users is the beginning of other marks. -/
theorem body?_of_mark {kind : MentionKind} {mark numeral : List Char} {v : Nat}
    (hmark : mark ∈ kind.idKind.marks) (h : IsUnsigned numeral v) :
    kind.body? (mark ++ numeral) = some numeral := by
  obtain ⟨c, r, rfl, hc⟩ := h.exists_cons
  have hbang : c ≠ '!' := ne_of_mem_of_not_mem hc (by decide)
  have hamp : c ≠ '&' := ne_of_mem_of_not_mem hc (by decide)
  cases kind with
  | user =>
    rcases List.mem_cons.1 hmark with rfl | hlonger
    · simp [MentionKind.body?, hbang, hamp]
    · obtain rfl := List.mem_singleton.1 hlonger
      rfl
  | channel =>
    obtain rfl := List.mem_singleton.1 hmark
    rfl
  | role =>
    obtain rfl := List.mem_singleton.1 hmark
    rfl

/-- The identifier in brackets is what stands behind a mark. -/
theorem readMention_of_brackets {kind : MentionKind} {raw : String} {inner : List Char}
    (hraw : trim raw.toList = '<' :: (inner ++ ['>'])) {n : UInt64} :
    readMention kind raw = .ok n ↔ IsMarked kind.idKind inner n.toNat := by
  rw [readMention, inBrackets?_eq_some_iff.2 hraw]
  dsimp only
  constructor
  · intro h
    split at h
    · cases h
    · rename_i body hbody
      split at h
      · rename_i m hm
        obtain rfl := Except.ok.inj h
        obtain ⟨mark, hmark, rfl⟩ := exists_mark_of_body? hbody
        exact ⟨mark, hmark, body, rfl, Text.readWord64_eq_ok_iff.1 hm⟩
      · cases h
  · rintro ⟨mark, hmark, numeral, rfl, hnumeral⟩
    rw [body?_of_mark hmark hnumeral]
    dsimp only
    rw [Text.readWord64_eq_ok_iff.2 hnumeral]

/-- The marks end where the numeral begins, so a text is marked for one kind at most. -/
theorem IsMarked.unique {kind kind' : IdKind} {inner : List Char} {v v' : Nat}
    (h : IsMarked kind inner v) (h' : IsMarked kind' inner v') : kind = kind' := by
  have htaken : ∀ {kind : IdKind} {mark numeral : List Char} {v : Nat}, mark ∈ kind.marks →
      IsUnsigned numeral v →
        (mark ++ numeral).takeWhile (· ∉ unsignedChars) = mark := by
    intro kind mark numeral v hmark hnumeral
    obtain ⟨c, r, rfl, hc⟩ := hnumeral.exists_cons
    rw [List.takeWhile_append_of_pos, List.takeWhile_cons_of_neg, List.append_nil]
    · intro hout
      exact of_decide_eq_true hout hc
    · intro d hd
      exact decide_eq_true (IdKind.not_mem_of_mem_marks hmark hd)
  obtain ⟨mark, hmark, numeral, rfl, hnumeral⟩ := h
  obtain ⟨mark', hmark', numeral', heq, hnumeral'⟩ := h'
  have hmarks : mark = mark' := by
    rw [← htaken hmark hnumeral, heq, htaken hmark' hnumeral']
  exact IdKind.eq_of_mem_marks hmark (hmarks ▸ hmark')

/-! ## Reading -/

/-- A text that is visibly no link is not meant as one. -/
theorem isLink_eq_false {raw : String} {c : Char} {r : List Char} (hraw : trim raw.toList = c :: r)
    (hc : c ≠ 'h') : isLink raw = false := by
  obtain ⟨blanks, -, hstart⟩ := Text.exists_trimEnd_blanks (trimStart raw.toList)
  rw [isLink, Option.isSome_eq_false_iff, Option.isNone_iff_eq_none,
    Option.eq_none_iff_forall_ne_some]
  intro rest hrest
  rw [Text.after?_eq_some_iff, hstart] at hrest
  have hhead := congrArg List.head? hrest
  rw [← trim, hraw] at hhead
  exact hc (Option.some.inj hhead)

theorem readSnowflake_eq_ok_iff {raw : String} {n : UInt64} :
    readSnowflake raw = .ok n ↔ IsUnsigned (trim raw.toList) n.toNat := by
  rw [← Text.readWord64_eq_ok_iff, readSnowflake]
  constructor
  · intro h
    split at h
    · rename_i m hm
      obtain rfl := Except.ok.inj h
      exact hm
    · cases h
  · intro h
    rw [h]

theorem readMention_trimmed (kind : MentionKind) (raw : String) :
    readMention kind (String.ofList (trim raw.toList)) = readMention kind raw := by
  simp only [readMention, String.toList_ofList, Text.trim_trim]

section Visible

variable (place : Place) {raw : String} {c : Char} {r : List Char}

/-- Without links, messages are referred to by plain identifiers. -/
theorem readId_message (hraw : trim raw.toList = c :: r) (hlink : c ≠ 'h') :
    readId place .message raw = readSnowflake raw := by
  simp only [readId, readMessage, isLink_eq_false hraw hlink, Bool.false_eq_true, if_false]
  cases readSnowflake raw <;> rfl

/-- A text that is neither a link nor a name for everyone is read as a mention. -/
theorem readId_idKind (hraw : trim raw.toList = c :: r) (hlink : c ≠ 'h') (hall : c ≠ '@')
    (kind : MentionKind) : readId place kind.idKind raw = readMention kind raw := by
  cases kind with
  | user =>
    simp only [readId, MentionKind.idKind, readUser]
    cases readMention .user raw <;> rfl
  | channel =>
    simp only [readId, MentionKind.idKind, readChannel, isLink_eq_false hraw hlink,
      Bool.false_eq_true, if_false]
    cases readMention .channel raw <;> rfl
  | role =>
    have hheads : ∀ name ∈ ["@everyone", "@here"], name.toList.head? = some '@' := by
      decide
    have hnames : ∀ name ∈ ["@everyone", "@here"], String.ofList (trim raw.toList) ≠ name := by
      intro name hname heq
      have hhead := hheads name hname
      rw [← heq, String.toList_ofList, hraw] at hhead
      exact hall (Option.some.inj hhead)
    simp only [readId, MentionKind.idKind, readRole, hnames "@everyone" (by decide),
      hnames "@here" (by decide), or_self, if_false, readMention_trimmed]
    cases readMention .role raw <;> rfl

end Visible

/-- A text in brackets refers to what stands behind a mark of the kind, and to nothing else. -/
theorem readId_of_brackets (place : Place) (kind : IdKind) {raw : String} {inner : List Char}
    (hraw : trim raw.toList = '<' :: (inner ++ ['>'])) {n : UInt64} :
    readId place kind raw = .ok n ↔ IsMarked kind inner n.toNat := by
  -- a bracket is no character of numerals, and there are no marks for the kinds without mentions
  have hplain : readSnowflake raw = .ok n ↔ False := by
    rw [readSnowflake_eq_ok_iff, hraw, iff_false]
    intro h
    exact absurd (h.mem_of_mem List.mem_cons_self) (by decide)
  have hunmarked : ∀ kind : IdKind, kind.marks = [] → (IsMarked kind inner n.toNat ↔ False) := by
    intro kind hnone
    rw [iff_false]
    rintro ⟨mark, hmark, -⟩
    rw [hnone] at hmark
    cases hmark
  have hmention : ∀ kind : MentionKind,
      readId place kind.idKind raw = .ok n ↔ IsMarked kind.idKind inner n.toNat := by
    intro kind
    rw [readId_idKind place hraw (by decide) (by decide), readMention_of_brackets hraw]
  cases kind with
  | any => rw [readId, hplain, hunmarked .any rfl]
  | message => rw [readId_message place hraw (by decide), hplain, hunmarked .message rfl]
  | channel => exact hmention .channel
  | role => exact hmention .role
  | user => exact hmention .user

/-- A plain numeral refers to its value under every kind. -/
theorem readId_of_numeral (place : Place) (kind : IdKind) {raw : String} {n : UInt64}
    (hraw : IsUnsigned (trim raw.toList) n.toNat) : readId place kind raw = .ok n := by
  obtain ⟨c, r, hcons, hc⟩ := hraw.exists_cons
  have hlink : c ≠ 'h' := ne_of_mem_of_not_mem hc (by decide)
  have hall : c ≠ '@' := ne_of_mem_of_not_mem hc (by decide)
  have hplain : readSnowflake raw = .ok n := readSnowflake_eq_ok_iff.2 hraw
  have hbare : inBrackets? (trim raw.toList) = none := by
    rw [Option.eq_none_iff_forall_ne_some]
    intro inner hinner
    rw [inBrackets?_eq_some_iff, hcons] at hinner
    exact ne_of_mem_of_not_mem hc (by decide) (List.cons.inj hinner).1
  have hmention : ∀ kind : MentionKind, readId place kind.idKind raw = .ok n := by
    intro kind
    rw [readId_idKind place hcons hlink hall, readMention, hbare]
    apply readSnowflake_eq_ok_iff.2
    rw [String.toList_ofList, Text.trim_trim]
    exact hraw
  cases kind with
  | any => exact hplain
  | message => rw [readId_message place hcons hlink, hplain]
  | channel => exact hmention .channel
  | role => exact hmention .role
  | user => exact hmention .user

/-- An identifier is read back from its mentions and from its decimal text, among any blanks. A text
in brackets refers to what stands behind a mark of the kind, and there is at most one such kind. -/
theorem mentions_are_unambiguous (place : Place) :
    (∀ (n : UInt64) (lead tail : String), (∀ c ∈ lead.toList, isBlank c = true) →
      (∀ c ∈ tail.toList, isBlank c = true) → ∀ kind : IdKind,
        (∀ mark ∈ kind.marks, readId place kind
          (lead ++ "<" ++ String.ofList mark ++ toString n ++ ">" ++ tail) = .ok n) ∧
        readId place kind (lead ++ toString n ++ tail) = .ok n) ∧
    ∀ (text : String) (inner : List Char), trim text.toList = '<' :: (inner ++ ['>']) →
      (∀ kind n, readId place kind text = .ok n ↔
        ∃ mark ∈ kind.marks, ∃ numeral, inner = mark ++ numeral ∧ IsUnsigned numeral n.toNat) ∧
      ∀ kind kind' n n', readId place kind text = .ok n → readId place kind' text = .ok n' →
        kind = kind' ∧ n = n' := by
  refine ⟨?_, ?_⟩
  · intro n lead tail hlead htail kind
    have hnumeral : IsUnsigned (toString n).toList n.toNat := Text.isUnsigned_toString n.toNat
    have hvisible : ∀ c ∈ (toString n).toList, isBlank c = false := by
      intro c hc
      have hall : (unsignedChars.all fun c => isBlank c = false) = true := by
        decide
      exact of_decide_eq_true (List.all_eq_true.1 hall c (hnumeral.mem_of_mem hc))
    constructor
    · intro mark hmark
      apply (readId_of_brackets place kind ?_).2 ⟨mark, hmark, _, rfl, hnumeral⟩
      have htrim :
          trim (lead.toList ++ '<' :: (mark ++ (toString n).toList ++ ['>']) ++ tail.toList) =
            '<' :: (mark ++ (toString n).toList ++ ['>']) := by
        apply Text.trim_among_blanks hlead htail
        · rintro c ⟨⟩
          decide
        · intro c hc
          rw [← List.cons_append, List.getLast?_concat] at hc
          obtain rfl := Option.some.inj hc
          decide
      rw [← htrim]
      simp
    · apply readId_of_numeral
      rw [String.toList_append, String.toList_append, Text.trim_among_blanks hlead htail]
      · exact hnumeral
      · intro c hc
        exact hvisible c (List.mem_of_mem_head? hc)
      · intro c hc
        exact hvisible c (List.mem_of_getLast? hc)
  · intro text inner htext
    refine ⟨fun kind n => readId_of_brackets place kind htext, ?_⟩
    intro kind kind' n n' h h'
    have hkind : kind = kind' := ((readId_of_brackets place kind htext).1 h).unique
      ((readId_of_brackets place kind' htext).1 h')
    subst hkind
    exact ⟨rfl, Except.ok.inj (h.symm.trans h')⟩

/-- The greatest identifier is read back, a padded numeral with a sign is accepted too, and the
mention of a user is none of a role. -/
theorem padded_mention_is_read :
    let place : Place := ⟨none, ⟨2⟩⟩
    readId place .user " <@!18446744073709551615>" = .ok 18446744073709551615 ∧
      readId place .message "7 " = .ok 7 ∧
      readId place .user "<@+007>" = .ok 7 ∧ readId place .role "<@+007>" ≠ .ok 7 := by
  intro place
  obtain ⟨hwritten, hbrackets⟩ := mentions_are_unambiguous place
  obtain ⟨hforms, hone⟩ := hbrackets "<@+007>" "@+007".toList (by decide)
  have hblank : ∀ c ∈ " ".toList, isBlank c = true := by
    simp [isBlank]
  have hempty : ∀ c ∈ "".toList, isBlank c = true := by
    simp
  have hseven : IsUnsigned "+007".toList 7 :=
    Text.readWord64_eq_ok_iff (n := 7).1 (by rfl)
  have hmention : readId place .user "<@+007>" = .ok 7 :=
    (hforms .user 7).2 ⟨['@'], by decide, "+007".toList, rfl, hseven⟩
  refine ⟨?_, ?_, hmention, ?_⟩
  · exact (hwritten 18446744073709551615 " " "" hblank hempty .user).1 ['@', '!'] (by decide)
  · exact (hwritten 7 "" " " hempty hblank .message).2
  · intro hrole
    cases (hone .user .role 7 7 hmention hrole).1

end Reference

end ChatCommands
