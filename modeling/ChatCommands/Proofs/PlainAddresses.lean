import ChatCommands.Url.Basic
import Mathlib.Data.Bool.AllAny
import Mathlib.Data.List.TakeWhile

set_option autoImplicit false

/-!
# Plain addresses

Where only lower-case letters, digits, points and hyphens stand in the host of an `https` address,
and only lower-case letters, digits, `@` and `+` in the segments of its path, nothing of the address
has a meaning of its own: no character is dropped, no escape is undone, no user and no port is cut
off, and the path does not climb. The host is then what the text between the slashes spells, and the
segments are read as they are written (`parse?_plain`).
-/

namespace ChatCommands

/-! ## Texts -/

namespace Text

variable {isSeparator : Char → Bool} {part rest : List Char}

/-- What stands in front of the first separator belongs to the first part. -/
theorem partsBetween_append (h : ∀ c ∈ part, isSeparator c = false) {first : List Char}
    {parts : List (List Char)} (hrest : partsBetween isSeparator rest = first :: parts) :
    partsBetween isSeparator (part ++ rest) = (part ++ first) :: parts := by
  induction part with
  | nil => exact hrest
  | cons c part ih =>
    have hparts := ih fun d hd => h d (List.mem_cons_of_mem c hd)
    rw [partsBetween] at hparts ⊢
    rw [List.cons_append, List.foldr_cons, hparts]
    simp [h c List.mem_cons_self]

theorem partsBetween_separator {c : Char} (h : isSeparator c = true) (rest : List Char) :
    partsBetween isSeparator (c :: rest) = [] :: partsBetween isSeparator rest := by
  obtain ⟨first, parts, hrest⟩ := List.exists_cons_of_ne_nil (partsBetween_ne_nil isSeparator rest)
  rw [hrest, partsBetween, List.foldr_cons, ← partsBetween, hrest]
  simp [h]

theorem isBlank_of_visible_ascii {c : Char} (h : 0x20 < c.toNat ∧ c.toNat < 128) :
    isBlank c = false := by
  simp only [isBlank, Bool.or_eq_false_iff, Bool.and_eq_false_iff, decide_eq_false_iff_not,
    beq_eq_false_iff_ne]
  omega

/-- ASCII characters take one byte each. -/
theorem toUTF8_singleton {c : Char} (h : c.toNat < 128) :
    (String.singleton c).toUTF8.toList = [c.toNat.toUInt8] := by
  have hsize : c.utf8Size = 1 :=
    Char.utf8Size_eq_one_iff.2 (UInt32.le_iff_toNat_le.2 (Nat.le_of_lt_succ h))
  have hbytes : (String.singleton c).toUTF8 = [c.toNat.toUInt8].toByteArray := by
    rw [String.singleton_eq_ofList, String.toUTF8, String.toByteArray_ofList,
      List.utf8Encode_singleton, String.utf8EncodeChar_eq_singleton hsize]
    rfl
  -- the bytes are listed by a loop over their places, which goes round once
  have hone : [c.toNat.toUInt8].toByteArray.size = 1 := List.size_toByteArray
  rw [hbytes, ByteArray.toList, ByteArray.toList.loop, hone, if_pos Nat.one_pos,
    ByteArray.toList.loop, hone, if_neg (Nat.lt_irrefl 1)]
  rfl

end Text

namespace Url

/-- The characters of plain hosts. -/
def hostChars : List Char := "-.0123456789abcdefghijklmnopqrstuvwxyz".toList

/-- The characters of plain segments. -/
def segmentChars : List Char := "@+0123456789abcdefghijklmnopqrstuvwxyz".toList

/-- The text is not empty, and all its characters are among those that are plain where it stands. -/
structure IsPlain (chars s : List Char) : Prop where
  ne_nil : s ≠ []
  mem : ∀ c ∈ s, c ∈ chars

/-- The path of the segments: each with a slash in front of it. -/
def pathOf (segments : List (List Char)) : List Char := segments.flatMap ('/' :: ·)

variable {chars s host : List Char} {segments : List (List Char)}

theorem isPlain_iff : IsPlain chars s ↔ s ≠ [] ∧ (s.all (· ∈ chars)) = true := by
  rw [List.all_iff_forall_prop]
  exact ⟨fun h => ⟨h.ne_nil, h.mem⟩, fun h => ⟨h.1, h.2⟩⟩

instance : Decidable (IsPlain chars s) := decidable_of_iff' _ isPlain_iff

theorem mem_of_mem_pathOf (h : ∀ s ∈ segments, IsPlain segmentChars s) {c : Char}
    (hc : c ∈ pathOf segments) : c ∈ '/' :: segmentChars := by
  obtain ⟨s, hs, hmem⟩ := List.mem_flatMap.1 hc
  rcases List.mem_cons.1 hmem with rfl | hmem
  · exact List.mem_cons_self
  · exact List.mem_cons_of_mem '/' ((h s hs).mem c hmem)

/-! ## The host -/

/-- Without percent signs there is no escape, and the text is read back from its bytes. -/
theorem readUtf8_percentDecode (h : ∀ c ∈ s, c.toNat < 128 ∧ c ≠ '%') :
    Text.readUtf8 (percentDecode s) = .ok (String.ofList s) := by
  -- the place of the first byte is only needed to tell where a sequence is broken
  have hbytes : ∀ index, Text.utf8From index none (percentDecode s) = .ok s := by
    induction s with
    | nil => exact fun _ => rfl
    | cons c s ih =>
      intro index
      obtain ⟨hascii, hpercent⟩ := h c List.mem_cons_self
      have hbelow := ih (fun d hd => h d (List.mem_cons_of_mem c hd)) (index + 1)
      have hbyte : c.toNat.toUInt8.toNat = c.toNat :=
        UInt8.toNat_ofNat_of_lt' (Nat.lt_trans hascii (by decide))
      rw [percentDecode.eq_3 c s fun _ _ _ hc _ => hpercent hc, Text.toUTF8_singleton hascii,
        List.singleton_append, Text.utf8From, hbyte, if_pos hascii, hbelow, Char.ofNat_toNat]
      rfl
  rw [Text.readUtf8, hbytes]
  rfl

/-- A plain host that is no address in numbers is the domain name of its labels. -/
theorem host?_of_labels {labels : List (List Char)} (hhost : IsPlain hostChars host)
    (hlabels : domainLabels? host = some labels) (hne : labels ≠ [[]])
    (hnumber : endsInNumber labels = false) :
    host? host = some (.domain (".".intercalate (labels.map String.ofList))) := by
  have hall : ∀ c ∈ hostChars, (c.toNat < 128 ∧ c ≠ '%') ∧ c ≠ '[' :=
    List.all_iff_forall_prop.1 (by decide)
  unfold host?
  split
  · exact absurd rfl (hall '[' (hhost.mem '[' List.mem_cons_self)).2
  · rw [domainHost?, readUtf8_percentDecode fun c hc => (hall c (hhost.mem c hc)).1]
    simp [Except.toOption, hlabels, hne, hnumber]

theorem afterLastAt_of_no_at (h : '@' ∉ s) : afterLastAt s = s := by
  have hall : s.reverse.takeWhile (· ≠ '@') = s.reverse := by
    rw [List.takeWhile_eq_self_iff]
    intro c hc
    exact decide_eq_true (ne_of_mem_of_not_mem (List.mem_reverse.1 hc) h)
  rw [afterLastAt, hall, List.reverse_reverse]

theorem splitHost_of_no_colon (h : ∀ c ∈ s, c ≠ ':' ∧ c ≠ '[' ∧ c ≠ ']') :
    splitHost false s = (s, []) := by
  induction s with
  | nil => rfl
  | cons c s ih =>
    obtain ⟨hcolon, hopens, hcloses⟩ := h c List.mem_cons_self
    have hbelow := ih fun d hd => h d (List.mem_cons_of_mem c hd)
    simp [splitHost, hcolon, hopens, hcloses, hbelow]

/-! ## The path -/

theorem climb_of_no_dots (h : ∀ s ∈ segments, isDoubleDot s = false ∧ isSingleDot s = false)
    (done : List (List Char)) : climb done segments = segments.reverse ++ done := by
  induction segments generalizing done with
  | nil => rfl
  | cons s segments ih =>
    obtain ⟨hdouble, hsingle⟩ := h s List.mem_cons_self
    rw [climb.eq_def]
    simp only [hdouble, hsingle, Bool.false_eq_true, if_false]
    rw [ih fun t ht => h t (List.mem_cons_of_mem s ht), List.reverse_cons, List.append_assoc]
    rfl

/-- What stands for a dot begins with a point or with a percent sign. -/
theorem IsPlain.no_dots (h : IsPlain segmentChars s) :
    isDoubleDot s = false ∧ isSingleDot s = false := by
  obtain ⟨c, r, rfl⟩ := List.exists_cons_of_ne_nil h.ne_nil
  have hall : ∀ c ∈ segmentChars, c.toLower ≠ '.' ∧ c.toLower ≠ '%' :=
    List.all_iff_forall_prop.1 (by decide)
  obtain ⟨hpoint, hpercent⟩ := hall c (h.mem c List.mem_cons_self)
  simp [isDoubleDot, isSingleDot, hpoint, hpercent]

theorem partsBetween_append_pathOf (hs : ∀ c ∈ s, isSlash true c = false)
    (h : ∀ s ∈ segments, ∀ c ∈ s, isSlash true c = false) :
    Text.partsBetween (isSlash true) (s ++ pathOf segments) = s :: segments := by
  induction segments generalizing s with
  | nil =>
    have hnil : Text.partsBetween (isSlash true) [] = [[]] := rfl
    rw [pathOf, List.flatMap_nil, Text.partsBetween_append hs hnil, List.append_nil]
  | cons t segments ih =>
    have hbelow := ih (h t List.mem_cons_self) fun t' ht' => h t' (List.mem_cons_of_mem t ht')
    have hrest : Text.partsBetween (isSlash true) (pathOf (t :: segments)) =
        [] :: t :: segments := by
      rw [pathOf, List.flatMap_cons, List.cons_append, Text.partsBetween_separator rfl, ← pathOf,
        hbelow]
    rw [Text.partsBetween_append hs hrest, List.append_nil]

/-- A plain path is read as it is written. -/
theorem pathSegments_pathOf (h : ∀ s ∈ segments, IsPlain segmentChars s) :
    pathSegments true (pathOf segments) = segments := by
  have hpath : (pathOf segments).takeWhile (fun c => c ≠ '?' ∧ c ≠ '#') = pathOf segments := by
    have hall : ∀ c ∈ '/' :: segmentChars, c ≠ '?' ∧ c ≠ '#' :=
      List.all_iff_forall_prop.1 (by decide)
    rw [List.takeWhile_eq_self_iff]
    intro c hc
    exact decide_eq_true (hall c (mem_of_mem_pathOf h hc))
  have hparts : Text.partsBetween (isSlash true) ([] ++ pathOf segments) = [] :: segments := by
    have hall : ∀ c ∈ segmentChars, isSlash true c = false :=
      List.all_iff_forall_prop.1 (by decide)
    exact partsBetween_append_pathOf (by simp) fun s hs c hc => hall c ((h s hs).mem c hc)
  -- the path begins with a slash, so there is an empty part in front, which is left out in the end
  have hdots : ∀ s ∈ [] :: segments, isDoubleDot s = false ∧ isSingleDot s = false :=
    List.forall_mem_cons.2 ⟨by decide, fun s hs => (h s hs).no_dots⟩
  have hkept : segments.filter (· ≠ []) = segments :=
    List.filter_eq_self.2 fun s hs => decide_eq_true (h s hs).ne_nil
  rw [pathSegments, hpath, ← List.nil_append (pathOf segments), hparts, climb_of_no_dots hdots,
    List.append_nil, List.reverse_reverse, List.filter_cons_of_neg (by decide), hkept]

/-! ## The address -/

/-- Without blanks and control characters nothing is dropped from an address. -/
theorem cleaned_of_visible (h : ∀ c ∈ s, 0x20 < c.toNat) : cleaned s = s := by
  have hends : ∀ s : List Char, (∀ c ∈ s, 0x20 < c.toNat) →
      s.dropWhile (fun c => decide (c.toNat ≤ 0x20)) = s := by
    intro s hs
    rw [List.dropWhile_eq_self_iff]
    intro hpos hdrop
    exact absurd (of_decide_eq_true hdrop) (Nat.not_le.2 (hs _ (List.getElem_mem hpos)))
  have hinside : ∀ c ∈ s, c ≠ '\t' ∧ c ≠ '\n' ∧ c ≠ '\r' := by
    intro c hc
    have hvisible := h c hc
    refine ⟨?_, ?_, ?_⟩ <;>
    · rintro rfl
      revert hvisible
      decide
  have hreverse : ∀ c ∈ s.reverse, 0x20 < c.toNat := fun c hc => h c (List.mem_reverse.1 hc)
  rw [cleaned, hends s h, hends s.reverse hreverse, List.reverse_reverse, List.filter_eq_self]
  intro c hc
  exact decide_eq_true (hinside c hc)

theorem readWeb?_plain {h : Host} (hhost : IsPlain hostChars host) (hname : host? host = some h)
    (hsegments : ∀ s ∈ segments, IsPlain segmentChars s) (scheme : String) :
    readWeb? scheme (host ++ pathOf segments) = some ⟨scheme, some h, segments⟩ := by
  have hall : ∀ c ∈ hostChars, (!endsAuthority true c) = true ∧ c ≠ ':' ∧ c ≠ '[' ∧ c ≠ ']' :=
    List.all_iff_forall_prop.1 (by decide)
  have hinside : ∀ c ∈ host, (!endsAuthority true c) = true := fun c hc =>
    (hall c (hhost.mem c hc)).1
  -- a path is empty or begins with a slash, and no character of the host is one
  have hend : (pathOf segments).takeWhile (!endsAuthority true ·) = [] ∧
      (pathOf segments).dropWhile (!endsAuthority true ·) = pathOf segments := by
    cases segments with
    | nil => exact ⟨rfl, rfl⟩
    | cons s segments => exact ⟨rfl, rfl⟩
  have hauthority : (host ++ pathOf segments).takeWhile (!endsAuthority true ·) = host := by
    rw [List.takeWhile_append_of_pos hinside, hend.1, List.append_nil]
  have hpath : (host ++ pathOf segments).dropWhile (!endsAuthority true ·) = pathOf segments := by
    rw [List.dropWhile_append_of_pos hinside, hend.2]
  have hsplit : splitHost false (afterLastAt host) = (host, []) := by
    have hat : '@' ∉ host := fun hmem => absurd (hhost.mem '@' hmem) (by decide)
    rw [afterLastAt_of_no_at hat]
    exact splitHost_of_no_colon fun c hc => (hall c (hhost.mem c hc)).2
  have hport : portOk [] = true := rfl
  rw [readWeb?]
  simp only [hauthority, hpath, hsplit, hport, hname, hhost.ne_nil, pathSegments_pathOf hsegments,
    not_true_eq_false, or_self, if_false, Option.map_some]

/-- The characters of a plain address are visible and of ASCII. -/
theorem ascii_of_mem_plain (hhost : IsPlain hostChars host)
    (hsegments : ∀ s ∈ segments, IsPlain segmentChars s) {c : Char}
    (hc : c ∈ "https://".toList ++ host ++ pathOf segments) : 0x20 < c.toNat ∧ c.toNat < 128 := by
  have hall : ∀ c ∈ "https://".toList ++ hostChars ++ '/' :: segmentChars,
      0x20 < c.toNat ∧ c.toNat < 128 :=
    List.all_iff_forall_prop.1 (by decide)
  apply hall
  rcases List.mem_append.1 hc with hc | hc
  · rcases List.mem_append.1 hc with hc | hc
    · exact List.mem_append_left _ (List.mem_append_left _ hc)
    · exact List.mem_append_left _ (List.mem_append_right _ (hhost.mem c hc))
  · exact List.mem_append_right _ (mem_of_mem_pathOf hsegments hc)

/-- A plain address is read as it is written. -/
theorem parse?_plain {h : Host} (hhost : IsPlain hostChars host) (hname : host? host = some h)
    (hsegments : ∀ s ∈ segments, IsPlain segmentChars s) :
    parse? ("https://".toList ++ host ++ pathOf segments) = some ⟨"https", some h, segments⟩ := by
  have hclean : cleaned ("https://".toList ++ host ++ pathOf segments) =
      "https:".toList ++ ("//".toList ++ (host ++ pathOf segments)) := by
    rw [cleaned_of_visible fun c hc => (ascii_of_mem_plain hhost hsegments hc).1]
    simp
  have hscheme : scheme? ("https:".toList ++ ("//".toList ++ (host ++ pathOf segments))) =
      some ("https", "//".toList ++ (host ++ pathOf segments)) := rfl
  have hslashes : ("//".toList ++ (host ++ pathOf segments)).dropWhile (isSlash true) =
      host ++ pathOf segments := by
    obtain ⟨c, r, rfl⟩ := List.exists_cons_of_ne_nil hhost.ne_nil
    have hall : ∀ c ∈ hostChars, isSlash true c = false :=
      List.all_iff_forall_prop.1 (by decide)
    have hfirst : ¬ isSlash true c = true := by simp [hall c (hhost.mem c List.mem_cons_self)]
    rw [List.dropWhile_append_of_pos (List.all_eq_true.1 rfl), List.cons_append,
      List.dropWhile_cons_of_neg hfirst]
  have hweb : schemeKind "https" = .web := rfl
  rw [parse?, hclean, hscheme]
  simp only [Option.bind_eq_bind, Option.bind_some, hweb, hslashes]
  exact readWeb?_plain hhost hname hsegments "https"

end Url

end ChatCommands
