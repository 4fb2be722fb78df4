import ChatCommands.Domain.Timestamp
import ChatCommands.Json.Number
import ChatCommands.Proofs.TokenStreams
import Mathlib.Algebra.BigOperators.Group.List.Basic
import Mathlib.Algebra.GroupWithZero.Nat

set_option autoImplicit false

/-!
# Written numbers

A natural number is written by its decimal digits, padded with zeros where a width is asked for.
Each of the readers of digits gets the number back: the run of digits of a JSON number
(`Json.numberLeaf?_ofInt`) and the digits of fixed width in a timestamp
(`Timestamp.number?_padded`).
-/

namespace ChatCommands

/-! ## Reading item by item -/

/-- Reading each of some written values gives the values. -/
theorem mapM_map_eq_some {α β : Type} {f : α → Option β} {g : β → α} {bs : List β}
    (h : ∀ b ∈ bs, f (g b) = some b) : (bs.map g).mapM f = some bs := by
  induction bs with
  | nil => rfl
  | cons b bs ih =>
    obtain ⟨hb, hbs⟩ := List.forall_mem_cons.1 h
    rw [List.map_cons, List.mapM_cons, hb, ih hbs]
    rfl

/-- What reading each of some values gives. -/
theorem map_eq_of_mapM {α β : Type} {f : α → Option β} {as : List α} {bs : List β}
    (h : as.mapM f = some bs) : as.map f = bs.map some := by
  induction as generalizing bs with
  | nil =>
    obtain rfl := Option.some.inj h
    rfl
  | cons a as ih =>
    rw [List.mapM_cons] at h
    obtain ⟨b, hb, h⟩ := Option.bind_eq_some_iff.1 h
    obtain ⟨bs', hbs', h⟩ := Option.bind_eq_some_iff.1 h
    obtain rfl := Option.some.inj h
    rw [List.map_cons, List.map_cons, hb, ih hbs']

/-! ## Digits -/

namespace Text

/-- Every character is a digit. -/
def AllDigits (s : List Char) : Prop := ∀ c ∈ s, c.isDigit = true

theorem allDigits_toDigits (n : Nat) : AllDigits (Nat.toDigits 10 n) :=
  fun _ hc => Nat.isDigit_of_mem_toDigits (by decide) (by decide) hc

theorem AllDigits.append {s t : List Char} (hs : AllDigits s) (ht : AllDigits t) :
    AllDigits (s ++ t) :=
  fun c hc => (List.mem_append.1 hc).elim (hs c) (ht c)

theorem isBlank_of_isDigit {c : Char} (h : c.isDigit = true) : isBlank c = false := by
  obtain ⟨hlow, hhigh⟩ := Char.isDigit_iff_toNat.1 h
  have hlow' : 48 ≤ c.toNat := hlow
  have hhigh' : c.toNat ≤ 57 := hhigh
  simp only [isBlank, Bool.or_eq_false_iff, Bool.and_eq_false_iff, decide_eq_false_iff_not,
    beq_eq_false_iff_ne]
  omega

/-- Digits have no blanks to trim in front of them. -/
theorem AllDigits.trimStart_append {s : List Char} (hs : AllDigits s) (hne : s ≠ [])
    (rest : List Char) : trimStart (s ++ rest) = s ++ rest := by
  cases s with
  | nil => exact absurd rfl hne
  | cons c r => exact trimStart_cons (isBlank_of_isDigit (hs c List.mem_cons_self))

/-- A run of digits is cut off where the digits end. -/
theorem AllDigits.takeWhile_append {s : List Char} (hs : AllDigits s) {rest : List Char}
    (hrest : ∀ c ∈ rest.head?, c.isDigit = false) : (s ++ rest).takeWhile Char.isDigit = s := by
  rw [List.takeWhile_append_of_pos hs]
  cases rest with
  | nil => simp
  | cons c r => simp [hrest c rfl]

theorem AllDigits.dropWhile_append {s : List Char} (hs : AllDigits s) {rest : List Char}
    (hrest : ∀ c ∈ rest.head?, c.isDigit = false) : (s ++ rest).dropWhile Char.isDigit = rest := by
  rw [List.dropWhile_append_of_pos hs]
  cases rest with
  | nil => rfl
  | cons c r => simp [hrest c rfl]

/-- The digits of a positive number do not begin with a zero. -/
theorem head?_toDigits_ne_zero {n : Nat} (h : 0 < n) : (Nat.toDigits 10 n).head? ≠ some '0' := by
  -- the digits in front of the last one are those of the tenth, which is positive as well
  induction n using Nat.strongRecOn with
  | ind n ih =>
    by_cases hsmall : n < 10
    · have hdigits : ∀ m < 10, 0 < m → [m.digitChar].head? ≠ some '0' := by decide
      rw [Nat.toDigits_of_lt_base hsmall]
      exact hdigits n hsmall h
    · have hmore : 10 ≤ n := by omega
      rw [Nat.toDigits_of_base_le (by decide) hmore]
      have hhead := ih (n / 10) (by omega) (by omega)
      rw [List.head?_append]
      cases hdigits : (Nat.toDigits 10 (n / 10)).head? with
      | none => exact absurd (List.head?_eq_none_iff.1 hdigits) Nat.toDigits_ne_nil
      | some c =>
        rw [hdigits] at hhead
        exact hhead

theorem toList_toString_nat (n : Nat) : (toString n).toList = Nat.toDigits 10 n := Nat.toList_repr

theorem toList_padded (width n : Nat) : (padded width n).toList =
    List.replicate (width - (Nat.toDigits 10 n).length) '0' ++ Nat.toDigits 10 n := by
  rw [padded, String.toList_append, String.toList_ofList, ← toList_toString_nat,
    String.length_toList]

theorem allDigits_padded (width n : Nat) : AllDigits (padded width n).toList := by
  rw [toList_padded]
  refine AllDigits.append ?_ (allDigits_toDigits n)
  intro c hc
  rw [List.eq_of_mem_replicate hc]
  decide

theorem length_padded {width n : Nat} (hwidth : 0 < width) (h : n < 10 ^ width) :
    (padded width n).toList.length = width := by
  have hlength := (Nat.length_toDigits_le_iff (by decide) hwidth).2 h
  rw [toList_padded, List.length_append, List.length_replicate]
  omega

theorem padded_ne_nil (width n : Nat) : (padded width n).toList ≠ [] := by
  rw [toList_padded]
  exact fun h => Nat.toDigits_ne_nil (List.append_eq_nil_iff.1 h).2

end Text

open Text (AllDigits padded)

/-! ## JSON -/

namespace Decimal

theorem digitRun_of_allDigits {s : List Char} (hs : AllDigits s) (acc count : Nat) :
    digitRun acc count s = (Nat.ofDigitChars 10 s acc, count + s.length, []) := by
  induction s generalizing acc count with
  | nil => rfl
  | cons c r ih =>
    obtain ⟨hc, hr⟩ := List.forall_mem_cons.1 hs
    have hdigit : '0' ≤ c ∧ c ≤ '9' := by
      have hboth : ('0' ≤ c && c ≤ '9') = true := hc
      simpa using hboth
    rw [digitRun, if_pos hdigit, ih hr, Nat.mul_comm acc 10, List.length_cons, Nat.add_assoc,
      Nat.add_comm 1]
    rfl

end Decimal

namespace Json

/-- The whole part of a written number has no superfluous zero. -/
theorem wholePartOk_toDigits (n : Nat) : wholePartOk (Nat.toDigits 10 n) = true := by
  rcases Nat.eq_zero_or_pos n with rfl | hpos
  -- zero alone is written with a zero in front
  · decide
  · have hhead := Text.head?_toDigits_ne_zero hpos
    cases hdigits : Nat.toDigits 10 n with
    | nil => exact absurd hdigits Nat.toDigits_ne_nil
    | cons c r =>
      rw [hdigits] at hhead
      have hc : c ≠ '0' := fun h => hhead (by rw [h]; rfl)
      unfold wholePartOk
      split <;> simp_all

theorem takeWhile_isDigit_toDigits (n : Nat) :
    (Nat.toDigits 10 n).takeWhile isDigit = Nat.toDigits 10 n := by
  have h : (Nat.toDigits 10 n ++ []).takeWhile Char.isDigit = Nat.toDigits 10 n :=
    (Text.allDigits_toDigits n).takeWhile_append (by simp)
  rwa [List.append_nil] at h

theorem dropWhile_isDigit_toDigits (n : Nat) : (Nat.toDigits 10 n).dropWhile isDigit = [] := by
  have h : (Nat.toDigits 10 n ++ []).dropWhile Char.isDigit = [] :=
    (Text.allDigits_toDigits n).dropWhile_append (by simp)
  rwa [List.append_nil] at h

/-- The parts of a written whole number: its sign and its digits. -/
theorem numberParts?_toDigits (n : Nat) :
    numberParts? (Nat.toDigits 10 n) = some ⟨false, Nat.toDigits 10 n, none, none⟩ ∧
      numberParts? ('-' :: Nat.toDigits 10 n) = some ⟨true, Nat.toDigits 10 n, none, none⟩ := by
  -- a digit is not taken for a sign
  have hsign : ∀ r, Nat.toDigits 10 n ≠ '-' :: r := by
    intro r h
    have hc := Text.allDigits_toDigits n '-' (by rw [h]; exact List.mem_cons_self)
    exact absurd hc (by decide)
  have hwhole := takeWhile_isDigit_toDigits n
  have hrest := dropWhile_isDigit_toDigits n
  have hok := wholePartOk_toDigits n
  constructor
  · unfold numberParts?
    split
    rename_i negative s hsplit
    split at hsplit
    · rename_i r hr
      exact absurd hr (hsign r)
    · obtain ⟨rfl, rfl⟩ := Prod.mk.inj hsplit
      simp [hwhole, hrest, hok]
  · simp [numberParts?, hwhole, hrest, hok]

theorem digitRun_toDigits (n : Nat) : (Decimal.digitRun 0 0 (Nat.toDigits 10 n)).1 = n := by
  rw [Decimal.digitRun_of_allDigits (Text.allDigits_toDigits n)]
  exact Nat.ofDigitChars_toDigits (by decide) (by decide)

/-- The whole number fits a word of 64 bits, signed or unsigned. -/
def fitsWord (n : Int) : Bool := -0x8000000000000000 ≤ n && n ≤ Text.maxWord64

/-- A whole number that fits a word is read as it is written. -/
theorem numberLeaf?_ofInt {n : Int} (h : fitsWord n = true) :
    numberLeaf? (toString n).toList = some (.int n) := by
  obtain ⟨hlow, hhigh⟩ : -0x8000000000000000 ≤ n ∧ n ≤ Text.maxWord64 := by simpa [fitsWord] using h
  cases n with
  | ofNat m =>
    have hm : ¬ m > Text.maxWord64 := by
      have hle : (m : Int) ≤ Text.maxWord64 := hhigh
      omega
    have htext : (toString (Int.ofNat m)).toList = Nat.toDigits 10 m := Text.toList_toString_nat m
    rw [htext, numberLeaf?, (numberParts?_toDigits m).1]
    simp [digitRun_toDigits, hm]
  -- the magnitude of a negative number may reach 2 ^ 63, one more than a positive one
  | negSucc m =>
    have htext : (toString (Int.negSucc m)).toList = '-' :: Nat.toDigits 10 (m + 1) := by
      have hsplit : toString (Int.negSucc m) = "-" ++ toString (m + 1) := rfl
      rw [hsplit, String.toList_append, Text.toList_toString_nat]
      rfl
    have hm : ¬ (m + 1 = 0 ∨ m + 1 > 0x8000000000000000) := by omega
    rw [htext, numberLeaf?, (numberParts?_toDigits (m + 1)).2]
    simp only [Option.map_some, digitRun_toDigits, if_true, if_neg hm]
    rfl

end Json

/-! ## Timestamps -/

namespace Timestamp

theorem digitsValue_eq (s : List Char) : digitsValue s = Nat.ofDigitChars 10 s 0 := by
  rw [digitsValue, Nat.ofDigitChars_eq_foldl]
  congr 1
  funext acc c
  rw [Nat.mul_comm]

theorem digitsValue_padded (width n : Nat) : digitsValue (padded width n).toList = n := by
  have hzeros : ∀ k, Nat.ofDigitChars 10 (List.replicate k '0') 0 = 0 := by
    intro k
    induction k with
    | zero => rfl
    | succ k ih => exact ih
  rw [digitsValue_eq, Text.toList_padded, Nat.ofDigitChars_append, hzeros]
  exact Nat.ofDigitChars_toDigits (by decide) (by decide)

/-- A number of fixed width is read as it is written, whatever follows it. -/
theorem number?_padded {w n : Nat} (hw : 0 < w) (h : n < 10 ^ w) (rest : List Char) :
    number? w ((padded w n).toList ++ rest) = some (n, rest) := by
  have hlength := Text.length_padded hw h
  have hdigits := Text.allDigits_padded w n
  have htrim := hdigits.trimStart_append (Text.padded_ne_nil w n) rest
  have htaken : ((padded w n).toList ++ rest).take w = (padded w n).toList := by
    rw [List.take_append_of_le_length (Nat.le_of_eq hlength.symm),
      List.take_of_length_le (Nat.le_of_eq hlength)]
  have hrun : (padded w n).toList.takeWhile isDigit = (padded w n).toList := by
    have h : ((padded w n).toList ++ []).takeWhile Char.isDigit = (padded w n).toList :=
      hdigits.takeWhile_append (by simp)
    rwa [List.append_nil] at h
  simp only [number?, htrim, htaken, hrun, if_neg (Text.padded_ne_nil w n), digitsValue_padded,
    List.drop_left]

end Timestamp

end ChatCommands
