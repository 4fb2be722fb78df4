import ChatCommands.Proofs.WrittenNumbers
import Mathlib.Data.Nat.Digits.Defs

set_option autoImplicit false

/-!
# Numerals

`Text.IsNumeral radix s v` says which runs of characters are numerals and what they are worth: every
character is a digit of the radix, letters in either case, and the value is that of the digits in
positional notation. The reader of digits accepts exactly the numerals within its bound
(`readDigits_eq_ok_iff`), however long they are. On it stand the reader of unsigned words
(`readWord64_eq_ok_iff`), which takes one plus sign in front, and the fact that a number is written
by a numeral of its value (`isNumeral_toDigits`).
-/

namespace ChatCommands.Text

/-- The character is the digit `d` of the radix; a letter may be of either case. -/
structure IsDigit (radix : Nat) (c : Char) (d : Nat) : Prop where
  lt_radix : d < radix
  written : c = d.digitChar ∨ c = d.digitChar.toUpper

/-- The text is a non-empty run of digits of the radix, the most significant first,
and has the value `v`. -/
def IsNumeral (radix : Nat) (s : List Char) (v : Nat) : Prop :=
  ∃ ds, ds ≠ [] ∧ List.Forall₂ (IsDigit radix) s ds ∧ v = Nat.ofDigits radix ds.reverse

/-- A decimal numeral with the value `v`, with at most one plus sign in front. -/
def IsUnsigned (s : List Char) (v : Nat) : Prop :=
  ∃ digits, (s = digits ∨ s = '+' :: digits) ∧ IsNumeral 10 digits v

/-! ## Digits -/

theorem digitValue?_digitChar {d : Nat} (h : d < 16) :
    digitValue? 16 d.digitChar = some d ∧ digitValue? 16 d.digitChar.toUpper = some d := by
  have hall : ∀ d < 16,
      digitValue? 16 d.digitChar = some d ∧ digitValue? 16 d.digitChar.toUpper = some d := by
    decide
  exact hall d h

/-- Only ASCII characters are digits. -/
theorem toNat_lt_of_digitValue? {radix d : Nat} {c : Char} (h : digitValue? radix c = some d) :
    c.toNat < 128 := by
  have hcases : c ≤ '9' ∨ c ≤ 'z' ∨ c ≤ 'Z' := by
    by_contra hnone
    rw [not_or, not_or] at hnone
    simp [digitValue?, hnone.1, hnone.2.1, hnone.2.2] at h
  have hlast : '9'.toNat < 128 ∧ 'z'.toNat < 128 ∧ 'Z'.toNat < 128 := by decide
  rcases hcases with hc | hc | hc
  · exact Nat.lt_of_le_of_lt hc hlast.1
  · exact Nat.lt_of_le_of_lt hc hlast.2.1
  · exact Nat.lt_of_le_of_lt hc hlast.2.2

theorem digitValue?_eq_some_iff_sixteen {radix d : Nat} (h : radix ≤ 16) {c : Char} :
    digitValue? radix c = some d ↔ d < radix ∧ digitValue? 16 c = some d := by
  simp only [digitValue?, Option.filter_eq_some_iff, decide_eq_true_eq]
  constructor
  · rintro ⟨hd, hlt⟩
    exact ⟨hlt, hd, Nat.lt_of_lt_of_le hlt h⟩
  · rintro ⟨hlt, hd, -⟩
    exact ⟨hd, hlt⟩

/-- The digits that are read are the digits of the radix. -/
theorem digitValue?_eq_some_iff {radix d : Nat} (h : radix ≤ 16) {c : Char} :
    digitValue? radix c = some d ↔ IsDigit radix c d := by
  rw [digitValue?_eq_some_iff_sixteen h]
  constructor
  · rintro ⟨hlt, hd⟩
    -- only an ASCII character can be a digit, so a look at each of them will do
    have hall : ∀ n < 128, ∀ d ∈ digitValue? 16 (Char.ofNat n),
        Char.ofNat n = d.digitChar ∨ Char.ofNat n = d.digitChar.toUpper := by
      decide
    have hc := hall c.toNat (toNat_lt_of_digitValue? hd)
    rw [Char.ofNat_toNat] at hc
    exact ⟨hlt, hc d hd⟩
  · rintro ⟨hlt, hc⟩
    have hd := digitValue?_digitChar (Nat.lt_of_lt_of_le hlt h)
    rcases hc with rfl | rfl
    · exact ⟨hlt, hd.1⟩
    · exact ⟨hlt, hd.2⟩

theorem not_isDigit_of_digitValue?_none {radix : Nat} (h : radix ≤ 16) {c : Char}
    (hc : digitValue? radix c = none) (d : Nat) : ¬ IsDigit radix c d := by
  intro hd
  rw [← digitValue?_eq_some_iff h, hc] at hd
  cases hd

theorem IsDigit.unique {radix d d' : Nat} (h : radix ≤ 16) {c : Char} (hd : IsDigit radix c d)
    (hd' : IsDigit radix c d') : d = d' := by
  rw [← digitValue?_eq_some_iff h] at hd hd'
  exact Option.some.inj (hd.symm.trans hd')

/-- A digit is an ASCII character and no sign. -/
theorem IsDigit.ascii {radix d : Nat} (h : radix ≤ 16) {c : Char} (hd : IsDigit radix c d) :
    c.toNat < 128 ∧ c ≠ '+' ∧ c ≠ '-' := by
  rw [← digitValue?_eq_some_iff h, digitValue?_eq_some_iff_sixteen h] at hd
  have hplus : digitValue? 16 '+' = none := rfl
  have hminus : digitValue? 16 '-' = none := rfl
  refine ⟨toNat_lt_of_digitValue? hd.2, ?_, ?_⟩
  · rintro rfl
    simp [hplus] at hd
  · rintro rfl
    simp [hminus] at hd

/-! ## Runs of digits -/

/-- A run of digits is read behind the value `acc` exactly if it has that many digits and its value,
taken together with `acc`, is within the bound. The value only grows, so the bound at the end is the
bound at every digit. -/
theorem readDigits_eq_ok_iff {radix bound acc v : Nat} (hradix : radix ≤ 16) (hacc : acc ≤ bound)
    {s : List Char} :
    readDigits radix bound acc s = .ok v ↔
      ∃ ds, List.Forall₂ (IsDigit radix) s ds ∧
        v = Nat.ofDigits radix ds.reverse + radix ^ ds.length * acc ∧ v ≤ bound := by
  induction s generalizing acc with
  | nil =>
    rw [readDigits, Except.ok.injEq]
    constructor
    · rintro rfl
      exact ⟨[], .nil, by simp, hacc⟩
    · rintro ⟨ds, hds, rfl, -⟩
      cases hds
      simp
  | cons c r ih =>
    rw [readDigits]
    cases hc : digitValue? radix c with
    | none =>
      simp only [reduceCtorEq, false_iff]
      rintro ⟨ds, hds, -, -⟩
      cases hds with
      | cons hd _ =>
        rw [← digitValue?_eq_some_iff hradix, hc] at hd
        cases hd
    | some d =>
      have hd : IsDigit radix c d := (digitValue?_eq_some_iff hradix).1 hc
      -- behind the digit the same value is reached from the carried one
      have hvalue : ∀ ds : List Nat,
          Nat.ofDigits radix (d :: ds).reverse + radix ^ (d :: ds).length * acc =
            Nat.ofDigits radix ds.reverse + radix ^ ds.length * (acc * radix + d) := by
        intro ds
        rw [Nat.ofDigits_reverse_cons, List.length_cons, pow_succ]
        ring
      have hiff : (∃ ds, List.Forall₂ (IsDigit radix) (c :: r) ds ∧
          v = Nat.ofDigits radix ds.reverse + radix ^ ds.length * acc ∧ v ≤ bound) ↔
          ∃ ds, List.Forall₂ (IsDigit radix) r ds ∧
            v = Nat.ofDigits radix ds.reverse + radix ^ ds.length * (acc * radix + d) ∧
              v ≤ bound := by
        constructor
        · rintro ⟨ds, hds, hv, hbound⟩
          cases hds with
          | cons hd' hrest =>
            obtain rfl := hd.unique hradix hd'
            exact ⟨_, hrest, by rw [hv, hvalue], hbound⟩
        · rintro ⟨ds, hds, hv, hbound⟩
          exact ⟨d :: ds, .cons hd hds, by rw [hv, hvalue], hbound⟩
      rw [hiff]
      dsimp only
      split
      · rename_i hlarge
        simp only [reduceCtorEq, false_iff]
        rintro ⟨ds, -, hv, hbound⟩
        have hpos : 0 < radix ^ ds.length :=
          Nat.pow_pos (Nat.lt_of_le_of_lt (Nat.zero_le d) hd.lt_radix)
        have hgrows : acc * radix + d ≤ radix ^ ds.length * (acc * radix + d) :=
          Nat.le_mul_of_pos_left _ hpos
        omega
      · rename_i hfits
        exact ih (Nat.le_of_not_lt hfits)

theorem readDigits_zero_eq_ok_iff {radix bound v : Nat} (hradix : radix ≤ 16) {s : List Char}
    (hs : s ≠ []) : readDigits radix bound 0 s = .ok v ↔ IsNumeral radix s v ∧ v ≤ bound := by
  rw [readDigits_eq_ok_iff hradix (Nat.zero_le bound)]
  simp only [Nat.mul_zero, Nat.add_zero]
  constructor
  · rintro ⟨ds, hds, hv, hbound⟩
    refine ⟨⟨ds, ?_, hds, hv⟩, hbound⟩
    rintro rfl
    cases hds
    exact hs rfl
  · rintro ⟨⟨ds, -, hds, hv⟩, hbound⟩
    exact ⟨ds, hds, hv, hbound⟩

namespace IsNumeral

variable {radix v : Nat} {s : List Char}

theorem exists_cons (h : IsNumeral radix s v) : ∃ c r d, s = c :: r ∧ IsDigit radix c d := by
  obtain ⟨ds, hne, hds, -⟩ := h
  cases hds with
  | nil => exact absurd rfl hne
  | cons hd _ => exact ⟨_, _, _, rfl, hd⟩

theorem ne_nil (h : IsNumeral radix s v) : s ≠ [] := by
  obtain ⟨c, r, d, rfl, -⟩ := h.exists_cons
  exact List.cons_ne_nil c r

theorem exists_isDigit (h : IsNumeral radix s v) {c : Char} (hc : c ∈ s) :
    ∃ d, IsDigit radix c d := by
  obtain ⟨ds, -, hds, -⟩ := h
  induction hds with
  | nil => cases hc
  | cons hd _ ih =>
    rcases List.mem_cons.1 hc with rfl | hc
    · exact ⟨_, hd⟩
    · exact ih hc

/-- A numeral has one value. -/
theorem unique (hradix : radix ≤ 16) {v' : Nat} (h : IsNumeral radix s v)
    (h' : IsNumeral radix s v') : v = v' := by
  have hread : readDigits radix (max v v') 0 s = .ok v :=
    (readDigits_zero_eq_ok_iff hradix h.ne_nil).2 ⟨h, Nat.le_max_left v v'⟩
  have hread' : readDigits radix (max v v') 0 s = .ok v' :=
    (readDigits_zero_eq_ok_iff hradix h.ne_nil).2 ⟨h', Nat.le_max_right v v'⟩
  exact Except.ok.inj (hread.symm.trans hread')

theorem singleton {d : Nat} {c : Char} (h : IsDigit radix c d) : IsNumeral radix [c] d :=
  ⟨[d], by simp, .cons h .nil, by simp⟩

/-- One more digit at the end. -/
theorem concat {d : Nat} {c : Char} (h : IsNumeral radix s v) (hd : IsDigit radix c d) :
    IsNumeral radix (s ++ [c]) (d + radix * v) := by
  obtain ⟨ds, -, hds, rfl⟩ := h
  refine ⟨ds ++ [d], by simp, List.rel_append hds (.cons hd .nil), ?_⟩
  rw [List.reverse_append, List.reverse_singleton, List.singleton_append, Nat.ofDigits_cons]

end IsNumeral

/-- A number is written by a numeral of its value. -/
theorem isNumeral_toDigits {radix : Nat} (hradix : 1 < radix) (n : Nat) :
    IsNumeral radix (Nat.toDigits radix n) n := by
  induction n using Nat.strongRecOn with
  | ind n ih =>
    by_cases hsmall : n < radix
    · rw [Nat.toDigits_of_lt_base hsmall]
      exact .singleton ⟨hsmall, Or.inl rfl⟩
    -- the digits in front of the last one write the quotient
    · have hquotient : n / radix < n := Nat.div_lt_self (by omega) hradix
      have hlast : IsDigit radix (n % radix).digitChar (n % radix) :=
        ⟨Nat.mod_lt n (by omega), Or.inl rfl⟩
      have hwritten := (ih (n / radix) hquotient).concat hlast
      rwa [Nat.mod_add_div, ← Nat.toDigits_of_base_le hradix (Nat.le_of_not_lt hsmall)] at hwritten

/-! ## Unsigned words -/

/-- Unsigned numerals are read as such, within the bound. -/
theorem readUnsigned_eq_ok_iff {bound v : Nat} {s : List Char} :
    readUnsigned 10 bound s = .ok v ↔ IsUnsigned s v ∧ v ≤ bound := by
  -- a numeral does not begin with a sign
  have hsign : ∀ r, ¬ IsNumeral 10 ('+' :: r) v := by
    intro r h
    obtain ⟨d, hd⟩ := h.exists_isDigit List.mem_cons_self
    exact (hd.ascii (by decide)).2.1 rfl
  have hunsigned : ∀ r, IsUnsigned ('+' :: r) v ↔ IsNumeral 10 r v := by
    intro r
    constructor
    · rintro ⟨digits, rfl | heq, h⟩
      · exact absurd h (hsign r)
      · obtain rfl := List.tail_eq_of_cons_eq heq
        exact h
    · intro h
      exact ⟨r, Or.inr rfl, h⟩
  unfold readUnsigned
  split
  · simp only [reduceCtorEq, false_iff]
    rintro ⟨⟨digits, rfl | heq, h⟩, -⟩
    · exact h.ne_nil rfl
    · cases heq
  · rw [hunsigned]
    simp only [reduceCtorEq, false_iff]
    rintro ⟨h, -⟩
    exact h.ne_nil rfl
  · rename_i r hne
    rw [hunsigned]
    apply readDigits_zero_eq_ok_iff (by decide)
    rintro rfl
    exact hne rfl
  · rename_i hnil _ hplus
    rw [readDigits_zero_eq_ok_iff (by decide) hnil]
    refine and_congr_left fun _ => ⟨fun h => ⟨s, Or.inl rfl, h⟩, ?_⟩
    rintro ⟨digits, rfl | rfl, h⟩
    · exact h
    · exact absurd rfl (hplus digits)

/-- The characters of unsigned decimal numerals. -/
def unsignedChars : List Char := "+0123456789".toList

namespace IsUnsigned

variable {v : Nat} {s : List Char}

theorem mem_of_mem (h : IsUnsigned s v) {c : Char} (hc : c ∈ s) : c ∈ unsignedChars := by
  have hall : ∀ d < 10, d.digitChar ∈ unsignedChars ∧
      d.digitChar.toUpper ∈ unsignedChars := by
    decide
  obtain ⟨digits, hs, hdigits⟩ := h
  have hcases : c = '+' ∨ c ∈ digits := by
    rcases hs with rfl | rfl
    · exact Or.inr hc
    · exact List.mem_cons.1 hc
  rcases hcases with rfl | hdigit
  · decide
  · obtain ⟨d, hlt, rfl | rfl⟩ := hdigits.exists_isDigit hdigit
    · exact (hall d hlt).1
    · exact (hall d hlt).2

theorem exists_cons (h : IsUnsigned s v) : ∃ c r, s = c :: r ∧ c ∈ unsignedChars := by
  have hne : s ≠ [] := by
    obtain ⟨digits, rfl | rfl, hdigits⟩ := h
    · exact hdigits.ne_nil
    · exact List.cons_ne_nil _ _
  obtain ⟨c, r, rfl⟩ := List.exists_cons_of_ne_nil hne
  exact ⟨c, r, rfl, h.mem_of_mem List.mem_cons_self⟩

end IsUnsigned

theorem isUnsigned_toString (n : Nat) : IsUnsigned (toString n).toList n := by
  rw [toList_toString_nat]
  exact ⟨_, Or.inl rfl, isNumeral_toDigits (by decide) n⟩

/-- A word is read from the unsigned numerals of its value, and from nothing else. -/
theorem readWord64_eq_ok_iff {s : List Char} {n : UInt64} :
    readWord64 s = .ok n ↔ IsUnsigned s n.toNat := by
  have hword : ∀ m ≤ maxWord64, m.toUInt64 = n ↔ m = n.toNat := by
    intro m hm
    have hsize : m < UInt64.size := Nat.lt_succ_of_le hm
    rw [← UInt64.toNat_inj]
    rw [show m.toUInt64.toNat = m from UInt64.toNat_ofNat_of_lt' hsize]
  rw [readWord64]
  constructor
  · intro h
    cases hread : readUnsigned 10 maxWord64 s with
    | error e =>
      rw [hread] at h
      cases h
    | ok m =>
      obtain ⟨hm, hbound⟩ := readUnsigned_eq_ok_iff.1 hread
      rw [hread] at h
      obtain rfl := (hword m hbound).1 (Except.ok.inj h)
      exact hm
  · intro h
    have hbound : n.toNat ≤ maxWord64 := Nat.le_of_lt_succ n.toNat_lt
    rw [readUnsigned_eq_ok_iff.2 ⟨h, hbound⟩]
    exact congrArg Except.ok ((hword n.toNat hbound).2 rfl)

end ChatCommands.Text
