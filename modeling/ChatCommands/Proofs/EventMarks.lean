import ChatCommands.Domain.Event
import ChatCommands.Proofs.WrittenNumbers

set_option autoImplicit false

/-!
# Marks of events

An event may carry an identifier and the time of its arrival, each written as a text. Both texts are
read back (`Uuid.read?_toText`, `Timestamp.read?_toText`). A time is written as a date, so the days
of the calendar have to be found again from their dates: an era of 400 years is cut into centuries,
groups of four years, years and days (`Calendar.DayOfEra`), and `Calendar.dayNumber_dateOf` follows.
-/

namespace ChatCommands

/-! ## Days and dates -/

namespace Calendar

/-- A day of an era: the century `c`, the group `q` of four years in it, the year `k` of the group
and the day `t` of the year. Only the last year of a group may have a day more, and the last one of
a century only at the end of the era. -/
structure DayOfEra (doe c q k t : Int) : Prop where
  century : 0 ≤ c ∧ c ≤ 3
  group : 0 ≤ q ∧ q ≤ 24
  year : 0 ≤ k ∧ k ≤ 3
  day : 0 ≤ t ∧ t ≤ 365
  leap : t = 365 → k = 3 ∧ (q = 24 → c = 3)
  eq : doe = 36524 * c + 1461 * q + 365 * k + t

theorem exists_dayOfEra {doe : Int} (h : 0 ≤ doe ∧ doe < 146097) :
    ∃ c q k t, DayOfEra doe c q k t := by
  obtain ⟨c, hc⟩ : ∃ c, c = min (doe / 36524) 3 := ⟨_, rfl⟩
  obtain ⟨q, hq⟩ : ∃ q, q = min ((doe - 36524 * c) / 1461) 24 := ⟨_, rfl⟩
  obtain ⟨k, hk⟩ : ∃ k, k = min ((doe - 36524 * c - 1461 * q) / 365) 3 := ⟨_, rfl⟩
  have hcentury : 0 ≤ c ∧ c ≤ 3 ∧ 0 ≤ doe - 36524 * c ∧ doe - 36524 * c ≤ 36524 ∧
    (c < 3 → doe - 36524 * c ≤ 36523) := by omega
  have hgroup : 0 ≤ q ∧ q ≤ 24 ∧ 0 ≤ doe - 36524 * c - 1461 * q ∧
      doe - 36524 * c - 1461 * q ≤ 1460 ∧ (q = 24 → c < 3 → doe - 36524 * c - 1461 * q ≤ 1459) := by
    omega
  refine ⟨c, q, k, doe - 36524 * c - 1461 * q - 365 * k, ?_, ?_, ?_, ?_, ?_, ?_⟩
  all_goals omega

theorem DayOfEra.yearOfEra {doe c q k t : Int} (h : DayOfEra doe c q k t) :
    (doe - doe / 1460 + doe / 36524 - doe / 146096) / 365 = 100 * c + 4 * q + k := by
  obtain ⟨hc, hq, hk, ht, hleap, rfl⟩ := h
  by_cases hend : t = 365 ∧ q = 24
  -- the last day of the era
  · obtain ⟨rfl, rfl⟩ := hend
    obtain ⟨rfl, hc'⟩ := hleap rfl
    obtain rfl := hc' rfl
    decide
  · have hcentury : (36524 * c + 1461 * q + 365 * k + t) / 36524 = c := by omega
    have hera : (36524 * c + 1461 * q + 365 * k + t) / 146096 = 0 := by omega
    rw [hcentury, hera]
    omega

theorem DayOfEra.dayOfYear {doe c q k t : Int} (h : DayOfEra doe c q k t) :
    doe - (365 * (100 * c + 4 * q + k) + (100 * c + 4 * q + k) / 4 - (100 * c + 4 * q + k) / 100) =
      t := by
  obtain ⟨hc, hq, hk, ht, hleap, rfl⟩ := h
  omega

theorem DayOfEra.isLeapYear {doe c q k t : Int} (h : DayOfEra doe c q k t) (hlast : t = 365)
    (era : Int) : isLeapYear (100 * c + 4 * q + k + era * 400 + 1) = true := by
  obtain ⟨hc, hq, hk, ht, hleap, -⟩ := h
  obtain ⟨rfl, hcentury⟩ := hleap hlast
  have hfour : (100 * c + 4 * q + 3 + era * 400 + 1) % 4 = 0 := by omega
  have hhundred : (100 * c + 4 * q + 3 + era * 400 + 1) % 100 = 0 →
      (100 * c + 4 * q + 3 + era * 400 + 1) % 400 = 0 := by omega
  simp only [Calendar.isLeapYear, hfour, beq_self_eq_true, Bool.true_and, Bool.or_eq_true,
    bne_iff_ne, ne_eq, beq_iff_eq]
  omega

/-- The month and the day in it of a day of the year that begins with March. -/
theorem monthOfDay {t : Int} (h : 0 ≤ t ∧ t ≤ 365) :
    0 ≤ (5 * t + 2) / 153 ∧ (5 * t + 2) / 153 ≤ 11 ∧
      1 ≤ t - (153 * ((5 * t + 2) / 153) + 2) / 5 + 1 := by omega

/-- The days of the month that begins `m` months after March. -/
theorem daysInMonth_ge {t : Int} (h : 0 ≤ t ∧ t ≤ 365) {y : Int}
    (hleap : t = 365 → isLeapYear y = true)
    {m : Nat} (hm : (m : Int) = if (5 * t + 2) / 153 < 10 then (5 * t + 2) / 153 + 3
      else (5 * t + 2) / 153 - 9) :
    t - (153 * ((5 * t + 2) / 153) + 2) / 5 + 1 ≤ daysInMonth y m := by
  obtain ⟨p, hp⟩ : ∃ p, p = (5 * t + 2) / 153 := ⟨_, rfl⟩
  rw [← hp] at hm ⊢
  have hbounds : 0 ≤ p ∧ p ≤ 11 := by omega
  rw [daysInMonth]
  by_cases hfebruary : m = 2
  · have hp' : p = 11 := by
      split at hm <;> omega
    subst hp'
    rw [if_pos hfebruary]
    by_cases hlast : t = 365
    · rw [hleap hlast]
      subst hlast
      decide
    · split <;> omega
  · rw [if_neg hfebruary]
    split
    · rename_i hshort
      have hp' : p = 1 ∨ p = 3 ∨ p = 6 ∨ p = 8 := by
        split at hm <;> omega
      omega
    · omega

/-- The number of the day `t` of the year `y` of an era, counted from March. -/
theorem dayNumber_of_march {y era t : Int} (hy : 0 ≤ y ∧ y ≤ 399) (ht : 0 ≤ t ∧ t ≤ 365) {m d : Nat}
    (hm : (m : Int) =
      if (5 * t + 2) / 153 < 10 then (5 * t + 2) / 153 + 3 else (5 * t + 2) / 153 - 9)
    (hd : (d : Int) = t - (153 * ((5 * t + 2) / 153) + 2) / 5 + 1) :
    dayNumber (y + era * 400 + (if m ≤ 2 then 1 else 0)) m d =
      era * 146097 + (365 * y + y / 4 - y / 100) + t - 719468 := by
  have hmonth : (((if m > 2 then m - 3 else m + 9 : Nat) : Nat) : Int) = (5 * t + 2) / 153 := by
    split at hm <;> split <;> omega
  have hyear : (if m ≤ 2 then y + era * 400 + (if m ≤ 2 then 1 else 0) - 1
      else y + era * 400 + (if m ≤ 2 then 1 else 0)) = y + era * 400 := by
    split <;> omega
  have hera : (y + era * 400) / 400 = era := by omega
  have hof : (y + era * 400) % 400 = y := by omega
  simp only [dayNumber, hyear, hera, hof, hmonth, hd]
  omega

/-- A date has the number of the day it is the date of, and is one of the calendar. -/
theorem dayNumber_dateOf (n : Int) :
    ∃ (y : Int) (m d : Nat), dateOf n = (y, m, d) ∧ dayNumber y m d = n ∧ 1 ≤ m ∧ m ≤ 12 ∧ 1 ≤ d ∧
      d ≤ daysInMonth y m := by
  obtain ⟨c, q, k, t, h⟩ := exists_dayOfEra
    (show 0 ≤ (n + 719468) % 146097 ∧ (n + 719468) % 146097 < 146097 by omega)
  have hmarch := monthOfDay h.day
  obtain ⟨m, hm⟩ : ∃ m : Nat, (m : Int) = if (5 * t + 2) / 153 < 10 then (5 * t + 2) / 153 + 3
      else (5 * t + 2) / 153 - 9 := ⟨_, Int.toNat_of_nonneg (by split <;> omega)⟩
  obtain ⟨d, hd⟩ : ∃ d : Nat, (d : Int) = t - (153 * ((5 * t + 2) / 153) + 2) / 5 + 1 :=
    ⟨_, Int.toNat_of_nonneg (by omega)⟩
  have hy : 0 ≤ 100 * c + 4 * q + k ∧ 100 * c + 4 * q + k ≤ 399 := by
    have := h.century
    have := h.group
    have := h.year
    omega
  refine ⟨100 * c + 4 * q + k + (n + 719468) / 146097 * 400 + (if m ≤ 2 then 1 else 0), m, d, ?_,
    ?_, ?_, ?_, ?_, ?_⟩
  · have hsmall : (m : Int) ≤ 2 ↔ m ≤ 2 := by omega
    simp only [dateOf, h.yearOfEra, h.dayOfYear, ← hm, ← hd, Int.toNat_natCast, hsmall]
  · rw [dayNumber_of_march hy h.day hm hd]
    have := h.dayOfYear
    omega
  · split at hm <;> omega
  · split at hm <;> omega
  · omega
  · have hleap : t = 365 →
        isLeapYear (100 * c + 4 * q + k + (n + 719468) / 146097 * 400 + (if m ≤ 2 then 1 else 0)) =
          true := by
      rintro rfl
      have hfebruary : m ≤ 2 := by omega
      rw [if_pos hfebruary]
      exact h.isLeapYear rfl _
    have hd' := daysInMonth_ge h.day hleap hm
    omega

end Calendar

/-! ## Times -/

namespace Timestamp

open Text (AllDigits padded)

/-- The time is one that can arise: its year is within the range of the calendar, the nanoseconds
are within a second, and only the last second of a minute is followed by a leap second. -/
structure IsValid (t : Timestamp) : Prop where
  year : isYear (Calendar.dateOf (t.seconds / 86400)).1 = true
  nanos : t.nanos < 1000000000
  leap : t.leap = true → t.seconds % 60 = 59

theorem separator?_self {c : Char} (hc : Text.isBlank c = false) (rest : List Char) :
    separator? c (c :: rest) = some rest := by
  rw [separator?, Text.trimStart_cons hc]
  simp

/-- A year without a sign is a number. -/
theorem year?_of_isDigit {c : Char} (hc : c.isDigit = true) (r : List Char) :
    year? (c :: r) = (number? 4 (c :: r)).map fun (n, r) => ((n : Int), r) := by
  rw [year?, Text.trimStart_cons (Text.isBlank_of_isDigit hc)]
  split
  · rename_i heq
    obtain ⟨rfl, -⟩ := List.cons.inj heq
    exact absurd hc (by decide)
  · rename_i heq
    obtain ⟨rfl, -⟩ := List.cons.inj heq
    exact absurd hc (by decide)
  · rfl

theorem year?_signed (n : Nat) (rest : List Char) :
    year? ('-' :: ((padded 4 n).toList ++ '-' :: rest)) = some (-(n : Int), '-' :: rest) ∧
      year? ('+' :: ((padded 4 n).toList ++ '-' :: rest)) = some ((n : Int), '-' :: rest) := by
  have hend : ∀ c ∈ ('-' :: rest).head?, c.isDigit = false := by simp [Char.isDigit]
  have htake : ((padded 4 n).toList ++ '-' :: rest).takeWhile isDigit = (padded 4 n).toList :=
    (Text.allDigits_padded 4 n).takeWhile_append hend
  have hdrop : ((padded 4 n).toList ++ '-' :: rest).dropWhile isDigit = '-' :: rest :=
    (Text.allDigits_padded 4 n).dropWhile_append hend
  have hne := Text.padded_ne_nil 4 n
  constructor
  · have htrim :=
      Text.trimStart_cons (c := '-') (r := (padded 4 n).toList ++ '-' :: rest) (by decide)
    rw [year?, htrim]
    simp only [htake, hdrop, if_neg hne, digitsValue_padded]
  · have htrim :=
      Text.trimStart_cons (c := '+') (r := (padded 4 n).toList ++ '-' :: rest) (by decide)
    rw [year?, htrim]
    simp only [htake, hdrop, if_neg hne, digitsValue_padded]

/-- A year is read as it is written, up to the hyphen behind it. -/
theorem year?_yearText (y : Int) (rest : List Char) :
    year? ((yearText y).toList ++ '-' :: rest) = some (y, '-' :: rest) := by
  rw [yearText]
  split
  · rename_i hfour
    have hnumber := number?_padded (w := 4) (n := y.toNat) (by decide) (by omega) ('-' :: rest)
    have hdigits := Text.allDigits_padded 4 y.toNat
    cases hcs : (padded 4 y.toNat).toList with
    | nil => exact absurd hcs (Text.padded_ne_nil 4 y.toNat)
    | cons c r =>
      rw [hcs] at hnumber hdigits
      have hnat : ((y.toNat : Nat) : Int) = y := Int.toNat_of_nonneg hfour.1
      rw [List.cons_append, year?_of_isDigit (hdigits c List.mem_cons_self), ← List.cons_append,
        hnumber]
      simp only [Option.map_some, hnat]
  · split
    · rename_i hbelow
      have hsigned := (year?_signed y.natAbs rest).1
      have habs : -((y.natAbs : Nat) : Int) = y := by omega
      rw [habs] at hsigned
      simpa using hsigned
    · rename_i hbelow
      have hsigned := (year?_signed y.natAbs rest).2
      have habs : ((y.natAbs : Nat) : Int) = y := by omega
      rw [habs] at hsigned
      simpa using hsigned

/-- A fraction in groups of three digits is read as it is written. -/
theorem fraction?_digits {w n : Nat} (hw : 0 < w ∧ w ≤ 9) (h : n < 10 ^ w) :
    fraction? ('.' :: ((padded w n).toList ++ ['Z'])) = some (n * 10 ^ (9 - w), ['Z']) := by
  have hend : ∀ c ∈ ['Z'].head?, c.isDigit = false := by simp [Char.isDigit]
  have htake : ((padded w n).toList ++ ['Z']).takeWhile isDigit = (padded w n).toList :=
    (Text.allDigits_padded w n).takeWhile_append hend
  have hdrop : ((padded w n).toList ++ ['Z']).dropWhile isDigit = ['Z'] :=
    (Text.allDigits_padded w n).dropWhile_append hend
  have hlength := Text.length_padded hw.1 h
  have hkept : (padded w n).toList.take 9 = (padded w n).toList :=
    List.take_of_length_le (by omega)
  rw [fraction?]
  simp only [htake, hdrop, hkept, if_neg (Text.padded_ne_nil w n), digitsValue_padded, hlength]
  rfl

theorem fraction?_fractionText {nanos : Nat} (h : nanos < 1000000000) :
    fraction? ((fractionText nanos).toList ++ ['Z']) = some (nanos, ['Z']) := by
  rw [fractionText]
  split
  · rename_i hnone
    rw [hnone]
    rfl
  · split
    · rename_i hthree
      have hdigits := fraction?_digits (w := 3) (n := nanos / 1000000) (by decide) (by omega)
      have hvalue : nanos / 1000000 * 10 ^ (9 - 3) = nanos := by omega
      rw [hvalue] at hdigits
      simpa using hdigits
    · split
      · rename_i hsix
        have hdigits := fraction?_digits (w := 6) (n := nanos / 1000) (by decide) (by omega)
        have hvalue : nanos / 1000 * 10 ^ (9 - 6) = nanos := by omega
        rw [hvalue] at hdigits
        simpa using hdigits
      · have hdigits := fraction?_digits (w := 9) (n := nanos) (by decide) (by omega)
        have hvalue : nanos * 10 ^ (9 - 9) = nanos := by omega
        rw [hvalue] at hdigits
        simpa using hdigits

/-- The parts of a written time make up the time. -/
theorem ofParts?_parts {t : Timestamp} (h : t.IsValid) {y : Int} {m d : Nat}
    (hdate : Calendar.dateOf (t.seconds / 86400) = (y, m, d))
    (hnumber : Calendar.dayNumber y m d = t.seconds / 86400) (hm : 1 ≤ m ∧ m ≤ 12)
    (hd : 1 ≤ d ∧ d ≤ Calendar.daysInMonth y m) {second : Nat}
    (hsecond : (second : Int) = t.seconds % 86400) :
    ofParts? y m d (second / 3600) (second / 60 % 60) (second % 60 + (if t.leap then 1 else 0))
      t.nanos 0 = some t := by
  have hyear : isYear y = true := by
    have hvalid := h.year
    rwa [hdate] at hvalid
  have hday : second < 86400 := by omega
  -- a leap second is written as the sixtieth, and only a leap second
  have hwritten : (second % 60 + (if t.leap then 1 else 0) = 60) = (t.leap = true) ∧
      (if second % 60 + (if t.leap then 1 else 0) = 60 then 59
        else second % 60 + (if t.leap then 1 else 0)) = second % 60 := by
    cases hl : t.leap with
    | true =>
      have hlast := h.leap hl
      have hmod : second % 60 = 59 := by omega
      simp [hmod]
    | false =>
      have hmod : second % 60 ≠ 60 := by omega
      simp [hmod]
  obtain ⟨hleap, hcounted⟩ := hwritten
  have hparts : isYear y = true ∧ 1 ≤ m ∧ m ≤ 12 ∧ 1 ≤ d ∧ d ≤ Calendar.daysInMonth y m ∧
      second / 3600 < 24 ∧ second / 60 % 60 < 60 ∧ second % 60 + (if t.leap then 1 else 0) ≤ 60 ∧
        (0 : Int).natAbs < 86400 := by
    refine ⟨hyear, hm.1, hm.2, hd.1, hd.2, by omega, by omega, ?_, by decide⟩
    split <;> omega
  have hseconds : Calendar.dayNumber y m d * 86400 +
      ((second / 3600 * 3600 + second / 60 % 60 * 60 + second % 60 : Nat) : Int) - 0 =
        t.seconds := by
    rw [hnumber]
    omega
  rw [ofParts?, if_pos hparts]
  simp only [hcounted, hseconds, h.year, if_true]
  simp only [hleap, Bool.decide_eq_true]

/-- A written time is read back. -/
theorem read?_toText {t : Timestamp} (h : t.IsValid) : read? t.toText.toList = some t := by
  obtain ⟨y, m, d, hdate, hnumber, hm, hm', hd, hd'⟩ :=
    Calendar.dayNumber_dateOf (t.seconds / 86400)
  obtain ⟨second, hsecond⟩ : ∃ second : Nat, (second : Int) = t.seconds % 86400 :=
    ⟨_, Int.toNat_of_nonneg (by omega)⟩
  have hday : second < 86400 := by omega
  have hmonth : Calendar.daysInMonth y m ≤ 31 := by
    rw [Calendar.daysInMonth]
    split
    · split <;> omega
    · split <;> omega
  have hsixty : second % 60 + (if t.leap then 1 else 0) < 100 := by split <;> omega
  have htext : t.toText.toList = (yearText y).toList ++ '-' :: ((padded 2 m).toList ++ '-' ::
      ((padded 2 d).toList ++ 'T' :: ((padded 2 (second / 3600)).toList ++ ':' ::
        ((padded 2 (second / 60 % 60)).toList ++ ':' ::
          ((padded 2 (second % 60 + (if t.leap then 1 else 0))).toList ++
            ((fractionText t.nanos).toList ++ ['Z'])))))) := by
    have hnat : (t.seconds % 86400).toNat = second := by omega
    simp [toText, hdate, hnat]
  have hhyphen := fun rest => separator?_self (c := '-') (by decide) rest
  have hcolon := fun rest => separator?_self (c := ':') (by decide) rest
  have hdigits := fun n (hn : n < 10 ^ 2) rest => number?_padded (w := 2) (by decide) hn rest
  rw [htext, read?, year?_yearText]
  simp only [Option.bind_eq_bind, Option.bind_some, hhyphen, hcolon, hdigits m (by omega),
    hdigits d (by omega), hdigits (second / 3600) (by omega), hdigits (second / 60 % 60) (by omega),
    hdigits _ hsixty, fraction?_fractionText h.nanos]
  have hend : offset? (Text.trimStart ['Z']) = some (0, []) := by decide
  have hnothing : Text.trimStart [] = [] := rfl
  rw [hend, Option.bind_some, if_pos hnothing]
  exact ofParts?_parts h hdate hnumber ⟨hm, hm'⟩ ⟨hd, hd'⟩ hsecond

/-- Digits are worth less than the power of ten of their number. -/
theorem digitsValue_lt {s : List Char} (hs : Text.AllDigits s) : digitsValue s < 10 ^ s.length := by
  induction s using List.reverseRecOn with
  | nil => decide
  | append_singleton s c ih =>
    have hbefore := ih fun d hd => hs d (List.mem_append_left _ hd)
    have hc : c.toNat - '0'.toNat < 10 := by
      have hhigh : c.toNat ≤ 57 := (Char.isDigit_iff_toNat.1 (hs c (by simp))).2
      have hzero : '0'.toNat = 48 := rfl
      omega
    have hvalue : digitsValue (s ++ [c]) = digitsValue s * 10 + (c.toNat - '0'.toNat) := by
      simp [digitsValue]
    rw [hvalue, List.length_append, List.length_singleton, Nat.pow_succ]
    omega

theorem lt_of_fraction? {s r : List Char} {nanos : Nat} (h : fraction? s = some (nanos, r)) :
    nanos < 1000000000 := by
  rw [fraction?.eq_def] at h
  split at h
  · rename_i rest
    dsimp only at h
    split at h
    · cases h
    · obtain ⟨rfl, -⟩ := Prod.mk.inj (Option.some.inj h)
      have hdigits : Text.AllDigits ((rest.takeWhile isDigit).take 9) :=
        fun c hc => List.mem_takeWhile_imp (List.mem_of_mem_take hc)
      have hlength : ((rest.takeWhile isDigit).take 9).length ≤ 9 := by
        rw [List.length_take]
        omega
      calc digitsValue ((rest.takeWhile isDigit).take 9) *
            10 ^ (9 - ((rest.takeWhile isDigit).take 9).length)
          < 10 ^ ((rest.takeWhile isDigit).take 9).length *
            10 ^ (9 - ((rest.takeWhile isDigit).take 9).length) :=
            Nat.mul_lt_mul_of_pos_right (digitsValue_lt hdigits) (Nat.pow_pos (by decide))
        _ = 1000000000 := by
            rw [← Nat.pow_add, Nat.add_sub_cancel' hlength]
  · obtain ⟨rfl, -⟩ := Prod.mk.inj (Option.some.inj h)
    decide

/-- An offset is one of whole minutes. -/
theorem mod_of_offset? {s r : List Char} {offset : Int} (h : offset? s = some (offset, r)) :
    offset % 60 = 0 := by
  unfold offset? at h
  split at h
  · obtain ⟨rfl, -⟩ := Prod.mk.inj (Option.some.inj h)
    rfl
  · dsimp only at h
    repeat' split at h
    all_goals first
      | cases h; done
      | obtain ⟨rfl, -⟩ := Prod.mk.inj (Option.some.inj h)
        omega

theorem isValid_of_ofParts? {y : Int} {mo d hour mi s nanos : Nat} {offset : Int} {t : Timestamp}
    (hnanos : nanos < 1000000000) (hoffset : offset % 60 = 0)
    (h : ofParts? y mo d hour mi s nanos offset = some t) : t.IsValid := by
  rw [ofParts?] at h
  obtain ⟨-, h⟩ := Option.ite_none_right_eq_some.1 h
  obtain ⟨hyear, h⟩ := Option.ite_none_right_eq_some.1 h
  obtain rfl := Option.some.inj h
  refine ⟨hyear, hnanos, fun hleap => ?_⟩
  have hsixty : s = 60 := by simpa using hleap
  simp only [hsixty, if_true]
  omega

theorem isValid_of_read? {s : List Char} {t : Timestamp} (h : read? s = some t) : t.IsValid := by
  obtain ⟨⟨y, s₁⟩, -, h⟩ := Option.bind_eq_some_iff.1 h
  obtain ⟨s₂, -, h⟩ := Option.bind_eq_some_iff.1 h
  obtain ⟨⟨mo, s₃⟩, -, h⟩ := Option.bind_eq_some_iff.1 h
  obtain ⟨s₄, -, h⟩ := Option.bind_eq_some_iff.1 h
  obtain ⟨⟨d, s₅⟩, -, h⟩ := Option.bind_eq_some_iff.1 h
  dsimp only at h
  split at h
  -- the three marks between the date and the time of day
  iterate 3
    obtain ⟨s₆, -, h⟩ := Option.bind_eq_some_iff.1 h
    obtain ⟨⟨hour, s₇⟩, -, h⟩ := Option.bind_eq_some_iff.1 h
    obtain ⟨s₈, -, h⟩ := Option.bind_eq_some_iff.1 h
    obtain ⟨⟨mi, s₉⟩, -, h⟩ := Option.bind_eq_some_iff.1 h
    obtain ⟨s₁₀, -, h⟩ := Option.bind_eq_some_iff.1 h
    obtain ⟨⟨sec, s₁₁⟩, -, h⟩ := Option.bind_eq_some_iff.1 h
    obtain ⟨⟨nanos, s₁₂⟩, hfraction, h⟩ := Option.bind_eq_some_iff.1 h
    obtain ⟨⟨offset, s₁₃⟩, hoffset, h⟩ := Option.bind_eq_some_iff.1 h
    obtain ⟨-, h⟩ := Option.ite_none_right_eq_some.1 h
    exact isValid_of_ofParts? (lt_of_fraction? hfraction) (mod_of_offset? hoffset) h
  -- and no other
  cases h

end Timestamp

/-! ## Identifiers -/

namespace Uuid

/-- The identifier has its 32 digits, in lower case. -/
structure IsValid (u : Uuid) : Prop where
  length : u.digits.length = 32
  lower : ∀ c ∈ u.digits, lowerHex? c = some c

/-- Hyphens between groups are taken out again. -/
theorem unhyphenate?_hyphenate (ns : List Nat) (s : List Char) (h : s.length = ns.sum) :
    unhyphenate? ns (hyphenate ns s) = some s := by
  induction ns generalizing s with
  | nil =>
    obtain rfl : s = [] := List.length_eq_zero_iff.1 (by simpa using h)
    rfl
  | cons n ns ih =>
    cases ns with
    | nil =>
      have hlength : s.length = n := by simpa using h
      simp [hyphenate, unhyphenate?, hlength]
    | cons n' ns =>
      have hlength : (s.drop n).length = (n' :: ns).sum := by
        rw [List.length_drop, h, List.sum_cons]
        omega
      have hle : n ≤ s.length := by
        rw [h, List.sum_cons]
        omega
      have htake : (s.take n).length = n := by rw [List.length_take]; omega
      rw [hyphenate, unhyphenate?]
      · rw [List.drop_left' htake, List.take_left' htake]
        simp only [ih _ hlength, Option.map_some, List.take_append_drop]
      all_goals simp

/-- A digit that is in lower case already is a figure or one of six letters. -/
theorem lower_of_lowerHex? {c : Char} (h : lowerHex? c = some c) :
    ('0' ≤ c ∧ c ≤ '9') ∨ ('a' ≤ c ∧ c ≤ 'f') := by
  rw [lowerHex?] at h
  split at h
  · assumption
  · split at h
    -- a letter in upper case stands for another character
    · rename_i hupper
      have hlow : 65 ≤ c.toNat := hupper.1
      have hhigh : c.toNat ≤ 70 := hupper.2
      have hother : ∀ n < 71, 65 ≤ n → Char.ofNat (n + 32) ≠ Char.ofNat n := by decide
      refine absurd ?_ (hother c.toNat (by omega) hlow)
      rw [Char.ofNat_toNat]
      exact Option.some.inj h
    · cases h

/-- A written identifier is read back. -/
theorem read?_toText {u : Uuid} (h : u.IsValid) : read? u.toText.toList = some u := by
  have htext : u.toText.toList = hyphenate groups u.digits := by rw [toText, String.toList_ofList]
  have hlength : (hyphenate groups u.digits).length = 36 := by
    simp [hyphenate, groups, h.length]
  have hof : ofHyphenated? (hyphenate groups u.digits) = some u := by
    have hmap : (u.digits.map id).mapM lowerHex? = some u.digits := mapM_map_eq_some h.lower
    rw [List.map_id] at hmap
    rw [ofHyphenated?, unhyphenate?_hyphenate _ _ h.length, Option.bind_some, ofDigits?,
      if_pos h.length, hmap]
    rfl
  -- the text begins with a digit, so it is in none of the other forms
  obtain ⟨c, r, hdigits⟩ : ∃ c r, u.digits = c :: r :=
    List.exists_cons_of_length_pos (by rw [h.length]; decide)
  obtain ⟨r', hbegins⟩ : ∃ r', hyphenate groups u.digits = c :: r' := by
    rw [hdigits]
    exact ⟨_, rfl⟩
  have hc := lower_of_lowerHex? (h.lower c (by rw [hdigits]; exact List.mem_cons_self))
  have hbrace : c ≠ '\x7b' := by
    rintro rfl
    exact absurd hc (by decide)
  have hurn : Text.lowerAscii c ≠ 'u' := by
    have hlower : ¬ ('A' ≤ c ∧ c ≤ 'Z') := by
      rintro ⟨hlow, hhigh⟩
      have hlow' : 65 ≤ c.toNat := hlow
      have hhigh' : c.toNat ≤ 90 := hhigh
      rcases hc with ⟨-, hnine⟩ | ⟨ha, -⟩
      · have hnine' : c.toNat ≤ 57 := hnine
        omega
      · have ha' : 97 ≤ c.toNat := ha
        omega
    rw [Text.lowerAscii, if_neg hlower]
    rintro rfl
    exact absurd hc (by decide)
  rw [hbegins] at hof hlength
  rw [htext, hbegins, read?]
  · have hlead : ((c :: r').take 9).map Text.lowerAscii ≠ "urn:uuid:".toList := by
      intro h
      exact hurn (List.cons.inj h).1
    have hlong : (c :: r').length ≠ 32 := by omega
    rw [if_neg hlead, if_neg hlong, hof]
  · intro r'' h
    exact hbrace (List.cons.inj h).1

/-- A digit in lower case stays as it is. -/
theorem lowerHex?_lowerHex? {c d : Char} (h : lowerHex? c = some d) : lowerHex? d = some d := by
  rw [lowerHex?] at h
  split at h
  · rename_i hlower
    obtain rfl := Option.some.inj h
    rw [lowerHex?, if_pos hlower]
  · split at h
    · rename_i hupper
      obtain rfl := Option.some.inj h
      have hlow : 65 ≤ c.toNat := hupper.1
      have hhigh : c.toNat ≤ 70 := hupper.2
      have hletters : ∀ n < 71, 65 ≤ n →
          lowerHex? (Char.ofNat (n + 32)) = some (Char.ofNat (n + 32)) := by
        decide
      exact hletters c.toNat (by omega) hlow
    · cases h

theorem isValid_of_ofDigits? {s : List Char} {u : Uuid} (h : ofDigits? s = some u) : u.IsValid := by
  rw [ofDigits?] at h
  split at h
  · rename_i hlength
    obtain ⟨ds, hds, rfl⟩ := Option.map_eq_some_iff.1 h
    have hread := map_eq_of_mapM hds
    have hlengths := congrArg List.length hread
    rw [List.length_map, List.length_map] at hlengths
    refine ⟨hlengths.symm.trans hlength, fun d hd => ?_⟩
    have hmem : some d ∈ s.map lowerHex? := by
      rw [hread]
      exact List.mem_map_of_mem hd
    obtain ⟨c, -, hc⟩ := List.mem_map.1 hmem
    exact lowerHex?_lowerHex? hc
  · cases h

theorem isValid_of_read? {s : List Char} {u : Uuid} (h : read? s = some u) : u.IsValid := by
  have hof : ∀ {s : List Char}, ofHyphenated? s = some u → u.IsValid := by
    intro s h
    obtain ⟨ds, -, h⟩ := Option.bind_eq_some_iff.1 h
    exact isValid_of_ofDigits? h
  unfold read? at h
  repeat' split at h
  · exact hof h
  · cases h
  · exact hof h
  · exact isValid_of_ofDigits? h
  · exact hof h
end Uuid

end ChatCommands
