import ChatCommands.Argument.Primitive
import ChatCommands.Proofs.Numerals
import ChatCommands.Proofs.TextAssignment

set_option autoImplicit false

/-!
# The grammar of whole numbers

`Primitive.IsInteger` is the grammar of whole numbers, apart from how they are read: an optional
sign, what announces the radix, and the digits, of any length. Reading accepts a text exactly if the
text without the blanks around it is of the grammar and its value fits a signed word of 64 bits
(`integers_follow_grammar`); the decimal text of every such word is among these texts
(`readInteger_toString`).
-/

namespace ChatCommands.Primitive

open Text (IsDigit IsNumeral readDigits maxWord64 trim isBlank)

/-! ## The grammar -/

/-- `Announces lead radix digits` holds when the digits are taken in the radix behind the lead: in
sixteen behind `0x`, `0X` or `#`, in eight behind a zero, and in ten behind nothing. Decimal digits
begin with a zero only if there is no other digit. -/
inductive Announces : List Char → Nat → List Char → Prop where
  | hexadecimal {lead : List Char} (digits : List Char)
      (announced : lead ∈ [['0', 'x'], ['0', 'X'], ['#']]) : Announces lead 16 digits
  | octal (digits : List Char) : Announces ['0'] 8 digits
  | decimal {digits : List Char} (lone : digits.head? = some '0' → digits = ['0']) :
      Announces [] 10 digits

/-- The text writes the magnitude `v` without a sign. -/
def IsMagnitude (s : List Char) (v : Nat) : Prop :=
  ∃ lead radix digits, s = lead ++ digits ∧ Announces lead radix digits ∧ IsNumeral radix digits v

/-- The text writes the whole number, of whatever size. -/
inductive IsInteger : List Char → Int → Prop where
  | unsigned {s : List Char} {v : Nat} (magnitude : IsMagnitude s v) : IsInteger s v
  | plus {s : List Char} {v : Nat} (magnitude : IsMagnitude s v) : IsInteger ('+' :: s) v
  | minus {s : List Char} {v : Nat} (magnitude : IsMagnitude s v) : IsInteger ('-' :: s) (-v)

/-! ## Magnitudes -/

theorem Announces.radix_le {lead digits : List Char} {radix : Nat}
    (h : Announces lead radix digits) : radix ≤ 16 := by
  cases h <;> decide

/-- The radix that a numeral announces is the one in which it is read. -/
theorem radixOf_of_announces {lead digits : List Char} {radix v : Nat}
    (h : Announces lead radix digits) (hv : IsNumeral radix digits v) :
    radixOf (lead ++ digits) = (radix, digits) := by
  cases h with
  | hexadecimal _ hlead =>
    simp only [List.mem_cons, List.not_mem_nil, or_false] at hlead
    rcases hlead with rfl | rfl | rfl <;> rfl
  | octal =>
    obtain ⟨c, r, d, rfl, hd⟩ := hv.exists_cons
    -- a letter behind the zero is no octal digit
    have hx : ¬ IsDigit 8 'x' d := Text.not_isDigit_of_digitValue?_none (by decide) rfl d
    have hX : ¬ IsDigit 8 'X' d := Text.not_isDigit_of_digitValue?_none (by decide) rfl d
    rw [List.singleton_append]
    unfold radixOf
    split
    · rename_i heq
      obtain ⟨-, rfl, -⟩ : True ∧ c = 'x' ∧ _ := by simpa using heq
      exact absurd hd hx
    · rename_i heq
      obtain ⟨-, rfl, -⟩ : True ∧ c = 'X' ∧ _ := by simpa using heq
      exact absurd hd hX
    · rename_i heq
      simp at heq
    · rename_i heq
      obtain ⟨rfl, rfl⟩ : c = _ ∧ r = _ := by simpa using heq
      rfl
    · rename_i hzero
      exact absurd rfl (hzero c r)
  | decimal hlone =>
    obtain ⟨c, r, d, rfl, hd⟩ := hv.exists_cons
    have hsharp : ¬ IsDigit 10 '#' d := Text.not_isDigit_of_digitValue?_none (by decide) rfl d
    rw [List.nil_append]
    by_cases hc : c = '0'
    · subst hc
      obtain rfl := List.tail_eq_of_cons_eq (hlone rfl)
      rfl
    · unfold radixOf
      split
      · rename_i heq
        exact absurd (List.head_eq_of_cons_eq heq) hc
      · rename_i heq
        exact absurd (List.head_eq_of_cons_eq heq) hc
      · rename_i heq
        obtain rfl := List.head_eq_of_cons_eq heq
        exact absurd hd hsharp
      · rename_i heq
        exact absurd (List.head_eq_of_cons_eq heq) hc
      · rfl

/-- In front of the digits that are read stands what announces their radix. -/
theorem exists_announces_radixOf (s : List Char) :
    ∃ lead, s = lead ++ (radixOf s).2 ∧ Announces lead (radixOf s).1 (radixOf s).2 := by
  unfold radixOf
  split
  · exact ⟨['0', 'x'], rfl, .hexadecimal _ (by simp)⟩
  · exact ⟨['0', 'X'], rfl, .hexadecimal _ (by simp)⟩
  · exact ⟨['#'], rfl, .hexadecimal _ (by simp)⟩
  · exact ⟨['0'], rfl, .octal _⟩
  · rename_i hzero
    refine ⟨[], rfl, .decimal fun hhead => ?_⟩
    obtain ⟨r, rfl⟩ := List.head?_eq_some_iff.1 hhead
    cases r with
    | nil => rfl
    | cons c r => exact absurd rfl (hzero c r)

theorem magnitude?_eq_some_iff {s : List Char} {v : Nat} :
    magnitude? s = some v ↔ IsMagnitude s v ∧ v ≤ maxWord64 := by
  have hread : ∀ {radix : Nat} {digits : List Char}, radix ≤ 16 → digits ≠ [] →
      ((readDigits radix maxWord64 0 digits).toOption = some v ↔
        IsNumeral radix digits v ∧ v ≤ maxWord64) := by
    intro radix digits hradix hne
    rw [← Text.readDigits_zero_eq_ok_iff hradix hne]
    cases readDigits radix maxWord64 0 digits <;> simp [Except.toOption]
  rw [magnitude?]
  dsimp only
  constructor
  · intro h
    split at h
    · cases h
    · rename_i hne
      obtain ⟨lead, hs, hlead⟩ := exists_announces_radixOf s
      obtain ⟨hv, hbound⟩ := (hread hlead.radix_le hne).1 h
      exact ⟨⟨lead, _, _, hs, hlead, hv⟩, hbound⟩
  · rintro ⟨⟨lead, radix, digits, rfl, hlead, hv⟩, hbound⟩
    rw [radixOf_of_announces hlead hv, if_neg hv.ne_nil]
    exact (hread hlead.radix_le hv.ne_nil).2 ⟨hv, hbound⟩

theorem Announces.lead_mem {lead digits : List Char} {radix : Nat}
    (h : Announces lead radix digits) : lead ∈ [['0', 'x'], ['0', 'X'], ['#'], ['0'], []] := by
  cases h with
  | hexadecimal _ hlead => exact List.mem_append_left [['0'], []] hlead
  | octal => simp
  | decimal => simp

/-- A magnitude is written in ASCII characters and without signs. -/
theorem IsMagnitude.ascii {s : List Char} {v : Nat} (h : IsMagnitude s v) {c : Char} (hc : c ∈ s) :
    c.toNat < 128 ∧ c ≠ '+' ∧ c ≠ '-' := by
  obtain ⟨lead, radix, digits, rfl, hlead, hv⟩ := h
  rcases List.mem_append.1 hc with hc | hc
  · have hleads : ∀ lead ∈ [['0', 'x'], ['0', 'X'], ['#'], ['0'], []],
        (lead.all fun c => c.toNat < 128 ∧ c ≠ '+' ∧ c ≠ '-') = true := by
      decide
    exact of_decide_eq_true (List.all_eq_true.1 (hleads lead hlead.lead_mem) c hc)
  · obtain ⟨d, hd⟩ := hv.exists_isDigit hc
    exact hd.ascii hlead.radix_le

/-- A text writes one magnitude at most. -/
theorem IsMagnitude.unique {s : List Char} {v v' : Nat} (h : IsMagnitude s v)
    (h' : IsMagnitude s v') : v = v' := by
  obtain ⟨lead, radix, digits, rfl, hlead, hv⟩ := h
  obtain ⟨lead', radix', digits', hs, hlead', hv'⟩ := h'
  have hradix := radixOf_of_announces hlead' hv'
  rw [← hs, radixOf_of_announces hlead hv] at hradix
  obtain ⟨rfl, rfl⟩ := Prod.mk.inj hradix
  exact hv.unique hlead.radix_le hv'

/-- What announces a radix, or nothing at all, writes no magnitude without digits. -/
theorem not_isMagnitude_of_mark {s : List Char} (h : s ∈ [[], ['0', 'x'], ['0', 'X'], ['#']])
    (v : Nat) : ¬ IsMagnitude s v := by
  rintro ⟨lead, radix, digits, rfl, hlead, hv⟩
  have hmarks : ∀ s ∈ [[], ['0', 'x'], ['0', 'X'], ['#']], (radixOf s).2 = [] := by decide
  have hnone := hmarks _ h
  rw [radixOf_of_announces hlead hv] at hnone
  exact hv.ne_nil hnone

/-! ## Signed words -/

theorem ofInt_eq_iff {z : Int} (hlow : -2 ^ 63 ≤ z) (hhigh : z < 2 ^ 63) {n : Int64} :
    Int64.ofInt z = n ↔ n.toInt = z := by
  rw [← Int64.toInt_inj, Int64.toInt_ofInt_of_le hlow hhigh]
  exact eq_comm

/-- A magnitude with a sign is read if what it is worth fits a signed word. -/
theorem signed_eq_some_iff (fits : Nat → Prop) [DecidablePred fits] (worth : Nat → Int)
    (hfits : ∀ v, fits v ↔ v ≤ maxWord64 ∧ -2 ^ 63 ≤ worth v ∧ worth v < 2 ^ 63) {s : List Char}
    {n : Int64} :
    ((magnitude? s).bind fun v => if fits v then some (Int64.ofInt (worth v)) else none) = some n ↔
      ∃ v, IsMagnitude s v ∧ v ≤ maxWord64 ∧ n.toInt = worth v := by
  rw [Option.bind_eq_some_iff]
  constructor
  · rintro ⟨v, hv, h⟩
    split at h
    · rename_i hfit
      obtain ⟨hword, hleast, hmost⟩ := (hfits v).1 hfit
      refine ⟨v, (magnitude?_eq_some_iff.1 hv).1, hword, ?_⟩
      exact (ofInt_eq_iff hleast hmost).1 (Option.some.inj h)
    · cases h
  · rintro ⟨v, hv, hword, hn⟩
    have hleast := n.le_toInt
    have hmost := n.toInt_lt
    rw [hn] at hleast hmost
    refine ⟨v, magnitude?_eq_some_iff.2 ⟨hv, hword⟩, ?_⟩
    rw [if_pos ((hfits v).2 ⟨hword, hleast, hmost⟩), (ofInt_eq_iff hleast hmost).2 hn]

theorem negative_eq_some_iff {s : List Char} {n : Int64} :
    ((magnitude? s).bind fun v =>
      if v ≤ 0x8000000000000000 then some (Int64.ofInt (-v)) else none) =
      some n ↔ ∃ v, IsMagnitude s v ∧ n.toInt = -v := by
  have hleast := n.le_toInt
  have hfits : ∀ v : Nat, v ≤ 0x8000000000000000 ↔
      v ≤ maxWord64 ∧ -2 ^ 63 ≤ -(v : Int) ∧ -(v : Int) < 2 ^ 63 := by
    intro v
    rw [maxWord64]
    omega
  refine (signed_eq_some_iff _ _ hfits).trans (exists_congr fun v => and_congr_right fun _ => ?_)
  rw [maxWord64]
  omega

theorem positive_eq_some_iff {s : List Char} {n : Int64} :
    ((magnitude? s).bind fun v => if v < 0x8000000000000000 then some (Int64.ofInt v) else none) =
      some n ↔ ∃ v, IsMagnitude s v ∧ n.toInt = v := by
  have hmost := n.toInt_lt
  have hfits : ∀ v : Nat, v < 0x8000000000000000 ↔
      v ≤ maxWord64 ∧ -2 ^ 63 ≤ (v : Int) ∧ (v : Int) < 2 ^ 63 := by
    intro v
    rw [maxWord64]
    omega
  refine (signed_eq_some_iff _ _ hfits).trans (exists_congr fun v => and_congr_right fun _ => ?_)
  rw [maxWord64]
  omega

/-- The number of a text is the one that the grammar gives it. -/
theorem integer?_eq_some_iff {s : List Char} {n : Int64} :
    integer? s = some n ↔ IsInteger s n.toInt := by
  unfold integer?
  split
  · rename_i r
    rw [negative_eq_some_iff]
    constructor
    · rintro ⟨v, hv, hn⟩
      rw [hn]
      exact .minus hv
    · intro h
      generalize n.toInt = z at h
      cases h with
      | unsigned hv => exact absurd rfl (hv.ascii List.mem_cons_self).2.2
      | minus hv => exact ⟨_, hv, rfl⟩
  · rename_i r
    rw [positive_eq_some_iff]
    constructor
    · rintro ⟨v, hv, hn⟩
      rw [hn]
      exact .plus hv
    · intro h
      generalize n.toInt = z at h
      cases h with
      | unsigned hv => exact absurd rfl (hv.ascii List.mem_cons_self).2.1
      | plus hv => exact ⟨_, hv, rfl⟩
  · rename_i hminus hplus
    rw [positive_eq_some_iff]
    constructor
    · rintro ⟨v, hv, hn⟩
      rw [hn]
      exact .unsigned hv
    · intro h
      generalize n.toInt = z at h
      cases h with
      | unsigned hv => exact ⟨_, hv, rfl⟩
      | plus => exact absurd rfl (hplus _)
      | minus => exact absurd rfl (hminus _)

/-! ## What is no number -/

namespace IsInteger

variable {s : List Char} {z : Int}

/-- Behind an optional sign stands a magnitude. -/
theorem exists_magnitude (h : IsInteger s z) :
    ∃ sign r v, s = sign ++ r ∧ sign ∈ [[], ['+'], ['-']] ∧ IsMagnitude r v := by
  cases h with
  | unsigned hv => exact ⟨[], _, _, rfl, by simp, hv⟩
  | plus hv => exact ⟨['+'], _, _, rfl, by simp, hv⟩
  | minus hv => exact ⟨['-'], _, _, rfl, by simp, hv⟩

/-- Numbers are written in ASCII characters, with a sign at the beginning at most. -/
theorem ascii (h : IsInteger s z) :
    (∀ c ∈ s, c.toNat < 128) ∧ ∀ c ∈ s.tail, c ≠ '+' ∧ c ≠ '-' := by
  cases h with
  | unsigned hv =>
    refine ⟨fun c hc => (hv.ascii hc).1, fun c hc => (hv.ascii (List.mem_of_mem_tail hc)).2⟩
  | plus hv | minus hv =>
    refine ⟨List.forall_mem_cons.2 ⟨by decide, fun c hc => (hv.ascii hc).1⟩, ?_⟩
    intro c hc
    exact (hv.ascii hc).2

/-- A text writes one number at most. -/
theorem unique {z' : Int} (h : IsInteger s z) (h' : IsInteger s z') : z = z' := by
  cases h with
  | unsigned hv =>
    cases h' with
    | unsigned hv' => rw [hv.unique hv']
    | plus => exact absurd rfl (hv.ascii List.mem_cons_self).2.1
    | minus => exact absurd rfl (hv.ascii List.mem_cons_self).2.2
  | plus hv =>
    cases h' with
    | unsigned hv' => exact absurd rfl (hv'.ascii List.mem_cons_self).2.1
    | plus hv' => rw [hv.unique hv']
  | minus hv =>
    cases h' with
    | unsigned hv' => exact absurd rfl (hv'.ascii List.mem_cons_self).2.2
    | minus hv' => rw [hv.unique hv']

end IsInteger

/-- A sign and a mark of the radix are no number without digits. -/
theorem not_isInteger_of_mark {sign mark : List Char} (hsign : sign ∈ [[], ['+'], ['-']])
    (hmark : mark ∈ [[], ['0', 'x'], ['0', 'X'], ['#']]) (z : Int) :
    ¬ IsInteger (sign ++ mark) z := by
  intro h
  obtain ⟨sign', r, v, heq, hsign', hv⟩ := h.exists_magnitude
  -- whichever way a sign is split off, what remains is a mark
  have hrest : ∀ sign ∈ [[], ['+'], ['-']], ∀ mark ∈ [[], ['0', 'x'], ['0', 'X'], ['#']],
      ∀ sign' ∈ [[], ['+'], ['-']], sign' <+: sign ++ mark →
        (sign ++ mark).drop sign'.length ∈ [[], ['0', 'x'], ['0', 'X'], ['#']] ∨
          '+' ∈ (sign ++ mark).drop sign'.length ∨ '-' ∈ (sign ++ mark).drop sign'.length := by
    decide
  have hr : (sign ++ mark).drop sign'.length = r := by rw [heq, List.drop_left]
  have hcases := hrest sign hsign mark hmark sign' hsign' ⟨r, heq.symm⟩
  rw [hr] at hcases
  rcases hcases with hcase | hcase | hcase
  · exact not_isMagnitude_of_mark hcase v hv
  · exact (hv.ascii hcase).2.1 rfl
  · exact (hv.ascii hcase).2.2 rfl

/-! ## Decimal texts -/

theorem toList_toString_int (z : Int) :
    (∃ m : Nat, z = m ∧ (toString z).toList = Nat.toDigits 10 m) ∨
      ∃ m : Nat, z = -m ∧ (toString z).toList = '-' :: Nat.toDigits 10 m := by
  cases z with
  | ofNat m => exact Or.inl ⟨m, rfl, Text.toList_toString_nat m⟩
  | negSucc m =>
    have hsplit : toString (Int.negSucc m) = "-" ++ toString (m + 1) := rfl
    refine Or.inr ⟨m + 1, rfl, ?_⟩
    rw [hsplit, String.toList_append, Text.toList_toString_nat]
    rfl

/-- A magnitude is written by its decimal digits, which never look octal. -/
theorem isMagnitude_toDigits (m : Nat) : IsMagnitude (Nat.toDigits 10 m) m := by
  refine ⟨[], 10, _, rfl, .decimal ?_, Text.isNumeral_toDigits (by decide) m⟩
  intro hzero
  rcases Nat.eq_zero_or_pos m with rfl | hpos
  · rfl
  · exact absurd hzero (Text.head?_toDigits_ne_zero hpos)

theorem isInteger_toString (z : Int) : IsInteger (toString z).toList z := by
  rcases toList_toString_int z with ⟨m, rfl, htext⟩ | ⟨m, rfl, htext⟩
  · rw [htext]
    exact .unsigned (isMagnitude_toDigits m)
  · rw [htext]
    exact .minus (isMagnitude_toDigits m)

theorem isDigit_or_minus_of_mem_toString {z : Int} {c : Char} (h : c ∈ (toString z).toList) :
    c.isDigit = true ∨ c = '-' := by
  rcases toList_toString_int z with ⟨m, -, htext⟩ | ⟨m, -, htext⟩
  · rw [htext] at h
    exact Or.inl (Text.allDigits_toDigits m c h)
  · rw [htext] at h
    exact (List.mem_cons.1 h).symm.imp_left (Text.allDigits_toDigits m c)

theorem isBlank_of_mem_toString {z : Int} {c : Char} (h : c ∈ (toString z).toList) :
    isBlank c = false := by
  rcases isDigit_or_minus_of_mem_toString h with hdigit | rfl
  · exact Text.isBlank_of_isDigit hdigit
  · rfl

theorem trim_toString (z : Int) : trim (toString z).toList = (toString z).toList :=
  Text.trim_of_no_blank fun _ => isBlank_of_mem_toString

/-! ## Reading -/

theorem readInteger_eq_ok_iff {s : String} {n : Int64} :
    readInteger s = .ok n ↔ IsInteger (trim s.toList) n.toInt := by
  rw [← integer?_eq_some_iff, readInteger]
  cases integer? (trim s.toList) with
  | none => simp
  | some m => simp

/-- Every signed word is read from its decimal text. -/
theorem readInteger_toString (n : Int64) : readInteger (toString n.toInt) = .ok n := by
  rw [readInteger_eq_ok_iff, trim_toString]
  exact isInteger_toString n.toInt

/-- The text is refused as a whole number. -/
def IsRefused (s : String) : Prop :=
  readInteger s = .error (.invalid ("Not a valid integer: " ++ s))

theorem isRefused_of_not_isInteger {s : String}
    (h : ∀ n : Int64, ¬ IsInteger (trim s.toList) n.toInt) : IsRefused s := by
  rw [IsRefused, readInteger]
  cases hread : integer? (trim s.toList) with
  | none => rfl
  | some n => exact absurd (integer?_eq_some_iff.1 hread) (h n)

/-- Exactly the texts of the grammar whose value fits a signed word of 64 bits are read, with that
value, which is the only one; every other text is refused. Among these are all texts with a sign
behind the first character, with a character that is not ASCII, or without digits. The decimal text
of every word is read as the word. -/
theorem integers_follow_grammar (s : String) :
    (∀ z : Int, (∃ n : Int64, readInteger s = .ok n ∧ n.toInt = z) ↔
      IsInteger (trim s.toList) z ∧ -2 ^ 63 ≤ z ∧ z ≤ 2 ^ 63 - 1) ∧
    (∀ z z', IsInteger (trim s.toList) z → IsInteger (trim s.toList) z' → z = z') ∧
    ((∀ z, IsInteger (trim s.toList) z → z < -2 ^ 63 ∨ 2 ^ 63 - 1 < z) → IsRefused s) ∧
    (∀ before c after, trim s.toList = before ++ c :: after → before ≠ [] → c ∈ ['+', '-'] →
      IsRefused s) ∧
    (∀ c ∈ trim s.toList, 128 ≤ c.toNat → IsRefused s) ∧
    (∀ sign ∈ [[], ['+'], ['-']], ∀ mark ∈ [[], ['0', 'x'], ['0', 'X'], ['#']],
      trim s.toList = sign ++ mark → IsRefused s) ∧
    ∀ n : Int64, readInteger (toString n.toInt) = .ok n := by
  refine ⟨?_, fun z z' => IsInteger.unique, ?_, ?_, ?_, ?_, readInteger_toString⟩
  · intro z
    constructor
    · rintro ⟨n, hread, rfl⟩
      have hleast := n.le_toInt
      have hmost := n.toInt_lt
      exact ⟨readInteger_eq_ok_iff.1 hread, hleast, by omega⟩
    · rintro ⟨hz, hleast, hmost⟩
      have hword : (Int64.ofInt z).toInt = z := Int64.toInt_ofInt_of_le hleast (by omega)
      refine ⟨Int64.ofInt z, readInteger_eq_ok_iff.2 ?_, hword⟩
      rw [hword]
      exact hz
  · intro hbeyond
    apply isRefused_of_not_isInteger
    intro n hn
    have hleast := n.le_toInt
    have hmost := n.toInt_lt
    have houtside := hbeyond n.toInt hn
    omega
  · intro before c after hs hne hsign
    apply isRefused_of_not_isInteger
    intro n hn
    have hc : c ∈ (trim s.toList).tail := by
      rw [hs, List.tail_append_of_ne_nil hne]
      exact List.mem_append_right _ List.mem_cons_self
    have hnone := hn.ascii.2 c hc
    simp only [List.mem_cons, List.not_mem_nil, or_false] at hsign
    rcases hsign with rfl | rfl
    · exact hnone.1 rfl
    · exact hnone.2 rfl
  · intro c hc hlarge
    apply isRefused_of_not_isInteger
    intro n hn
    exact absurd (hn.ascii.1 c hc) (Nat.not_lt_of_le hlarge)
  · intro sign hsign mark hmark hs
    apply isRefused_of_not_isInteger
    intro n hn
    rw [hs] at hn
    exact not_isInteger_of_mark hsign hmark _ hn

/-- The least word is read from its hexadecimal text; one more than the greatest, a sign behind the
mark of the radix, a digit that is not ASCII and a mark without digits are refused. -/
theorem least_word_is_read :
    (∃ n : Int64, readInteger " -0x8000000000000000 " = .ok n ∧ n.toInt = -2 ^ 63) ∧
      IsRefused "9223372036854775808" ∧ IsRefused "0x-5" ∧ IsRefused "٣" ∧ IsRefused " -0x" := by
  refine ⟨?_, ?_, ?_, ?_, ?_⟩
  · have hdigits : readDigits 16 maxWord64 0 "8000000000000000".toList = .ok (2 ^ 63) := by decide
    have hnumeral := ((Text.readDigits_zero_eq_ok_iff (by decide) (by decide)).1 hdigits).1
    have hwritten : IsInteger (trim " -0x8000000000000000 ".toList) (-2 ^ 63) :=
      .minus ⟨['0', 'x'], 16, "8000000000000000".toList, rfl, .hexadecimal _ (by simp), hnumeral⟩
    exact ((integers_follow_grammar " -0x8000000000000000 ").1 (-2 ^ 63)).2
      ⟨hwritten, by decide, by decide⟩
  · obtain ⟨-, hunique, hbeyond, -⟩ := integers_follow_grammar "9223372036854775808"
    have htext : trim "9223372036854775808".toList = (toString ((2 : Int) ^ 63)).toList := by decide
    have hwritten : IsInteger (trim "9223372036854775808".toList) (2 ^ 63) := by
      rw [htext]
      exact isInteger_toString (2 ^ 63)
    apply hbeyond
    intro z hz
    rw [hunique z (2 ^ 63) hz hwritten]
    exact Or.inr (by decide)
  · exact (integers_follow_grammar "0x-5").2.2.2.1 ['0', 'x'] '-' ['5'] (by decide) (by decide)
      (by decide)
  · exact (integers_follow_grammar "٣").2.2.2.2.1 '٣' (by decide) (by decide)
  · exact (integers_follow_grammar " -0x").2.2.2.2.2.1 ['-'] (by decide) ['0', 'x'] (by decide)
      (by decide)

end ChatCommands.Primitive
