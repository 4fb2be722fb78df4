import ChatCommands.Invocation.AliasTable
import ChatCommands.Proofs.ChainMatching
import Mathlib.Data.List.Infix

set_option autoImplicit false

/-!
# Tables of aliases

A table is read through `AliasTable.target?`: of rows inserted in order, the last row of an alias
counts (`target?_ofList`), and no alias is longer than the table remembers (`isBounded_ofList`). The
alias that applies to a stream is the longest that begins its tokens (`Selects`), and what applying
does to the stream is settled by the lookups alone (`IsBounded.apply_eq`). So
`longest_alias_applies` tells the whole of applying, and tables with the same lookups do the same
(`IsBounded.apply_congr`).
-/

namespace ChatCommands

namespace AliasTable

variable {t t' : AliasTable} {s : TokenStream} {tokens : List String} {name target : Invocation}

/-! ## Rows inserted in order -/

/-- The target in the last row of an alias. -/
def lastTarget? (rows : List (Invocation × Invocation)) (name : Invocation) : Option Invocation :=
  ((rows.filter (·.1 == name)).getLast?).map (·.2)

theorem lastTarget?_concat (rows : List (Invocation × Invocation))
    (row : Invocation × Invocation) (name : Invocation) :
    lastTarget? (rows ++ [row]) name =
      if row.1 = name then some row.2 else lastTarget? rows name := by
  rw [lastTarget?, List.filter_append]
  by_cases h : row.1 = name
  · simp [h]
  · simp [h, lastTarget?]

theorem mem_of_lastTarget? {rows : List (Invocation × Invocation)}
    (h : lastTarget? rows name = some target) : (name, target) ∈ rows := by
  obtain ⟨row, hrow, rfl⟩ := Option.map_eq_some_iff.1 h
  obtain ⟨hmem, hname⟩ := List.mem_filter.1 (List.mem_of_getLast? hrow)
  obtain rfl := eq_of_beq hname
  exact hmem

theorem exists_lastTarget?_of_mem {rows : List (Invocation × Invocation)}
    (h : (name, target) ∈ rows) : ∃ last, lastTarget? rows name = some last := by
  have hfiltered : (name, target) ∈ rows.filter (·.1 == name) :=
    List.mem_filter.2 ⟨h, beq_self_eq_true name⟩
  have hne := List.ne_nil_of_mem hfiltered
  exact ⟨_, by rw [lastTarget?, List.getLast?_eq_some_getLast hne, Option.map_some]⟩

/-- An inserted alias has its new target, and no other alias is touched. -/
theorem target?_insert (t : AliasTable) (name target other : Invocation) :
    (t.insert name target).target? other =
      if name = other then some target else t.target? other := by
  simp only [insert, target?, List.find?_append]
  by_cases h : name = other
  · subst h
    -- the earlier row of this alias is gone
    have hold : (t.entries.filter (·.1 != name)).find? (·.1 == name) = none := by
      rw [List.find?_eq_none]
      intro row hrow
      simpa using (List.mem_filter.1 hrow).2
    simp [hold]
  · have hkept := find?_filter_key_ne t.entries (Ne.symm h)
    have hnew : (name == other) = false := by simpa using h
    simp [hkept, hnew, h]

theorem ofList_concat (rows : List (Invocation × Invocation)) (row : Invocation × Invocation) :
    ofList (rows ++ [row]) = (ofList rows).insert row.1 row.2 := by
  simp [ofList]

/-- A table gives an alias the target in its last row. -/
theorem target?_ofList (rows : List (Invocation × Invocation)) (name : Invocation) :
    (ofList rows).target? name = lastTarget? rows name := by
  induction rows using List.reverseRecOn with
  | nil => rfl
  | append_singleton rows row ih => rw [ofList_concat, target?_insert, ih, lastTarget?_concat]

/-- No alias is longer than the table remembers. -/
def IsBounded (t : AliasTable) : Prop :=
  ∀ name target, t.target? name = some target → name.length ≤ t.longest

theorem IsBounded.insert (h : t.IsBounded) (name target : Invocation) :
    (t.insert name target).IsBounded := by
  intro other found hfound
  rw [target?_insert] at hfound
  split at hfound
  · rename_i heq
    exact heq ▸ Nat.le_max_right t.longest name.length
  · exact Nat.le_trans (h other found hfound) (Nat.le_max_left t.longest name.length)

/-- No alias of a table built row by row is longer than the table remembers. -/
theorem isBounded_ofList (rows : List (Invocation × Invocation)) : (ofList rows).IsBounded := by
  induction rows using List.reverseRecOn with
  | nil =>
    intro name target h
    cases h
  | append_singleton rows row ih =>
    rw [ofList_concat]
    exact ih.insert row.1 row.2

/-! ## The longest alias -/

/-- The alias begins the tokens, and no longer alias of the table does. The empty alias is never
taken. -/
structure Selects (t : AliasTable) (tokens : List String) (name target : Invocation) : Prop where
  found : t.target? name = some target
  ne_root : name ≠ .root
  begins : name.names <+: tokens
  longest : ∀ other target', t.target? other = some target' → other.names <+: tokens →
    other.length ≤ name.length

/-- No alias of the table begins the tokens. -/
def SelectsNone (t : AliasTable) (tokens : List String) : Prop :=
  ∀ name target, t.target? name = some target → name ≠ .root → ¬ name.names <+: tokens

theorem ne_root_iff : name ≠ .root ↔ 0 < name.length := by
  obtain ⟨names⟩ := name
  rw [Ne, Invocation.root, Invocation.mk.injEq, Invocation.length, List.length_pos_iff]

theorem not_selectsNone (h : t.Selects tokens name target) : ¬ t.SelectsNone tokens :=
  fun hnone => hnone name target h.found h.ne_root h.begins

/-- At most one alias is selected, since only one beginning of the tokens can be the longest. -/
theorem Selects.unique {name' target' : Invocation} (h : t.Selects tokens name target)
    (h' : t.Selects tokens name' target') : name' = name ∧ target' = target := by
  have hlength : name'.names.length = name.names.length :=
    Nat.le_antisymm (h.longest _ _ h'.found h'.begins) (h'.longest _ _ h.found h.begins)
  have hnames : name' = name := by
    have heq := (List.prefix_of_prefix_length_le h'.begins h.begins hlength.le).eq_of_length hlength
    exact congrArg Invocation.mk heq
  refine ⟨hnames, ?_⟩
  have hfound := h'.found
  rw [hnames, h.found] at hfound
  exact (Option.some.inj hfound).symm

theorem Selects.congr (hlookups : ∀ name, t.target? name = t'.target? name)
    (h : t.Selects tokens name target) : t'.Selects tokens name target where
  found := by rw [← hlookups, h.found]
  ne_root := h.ne_root
  begins := h.begins
  longest := by
    intro other target' hfound
    rw [← hlookups] at hfound
    exact h.longest other target' hfound

theorem SelectsNone.congr (hlookups : ∀ name, t.target? name = t'.target? name)
    (h : t.SelectsNone tokens) : t'.SelectsNone tokens := by
  intro name target hfound
  rw [← hlookups] at hfound
  exact h name target hfound

/-- The search goes down from the longest beginning and stops at the first that is an alias. -/
theorem longestMatch?_eq_some {upcoming : List String} {n : Nat}
    (h : t.longestMatch? upcoming n = some (name, target)) :
    ∃ k, 0 < k ∧ k ≤ n ∧ name = ⟨upcoming.take k⟩ ∧ t.target? name = some target ∧
      ∀ j, k < j → j ≤ n → t.target? ⟨upcoming.take j⟩ = none := by
  induction n with
  | zero => cases h
  | succ n ih =>
    rw [longestMatch?] at h
    split at h
    · rename_i found hfound
      obtain ⟨rfl, rfl⟩ := Prod.mk.inj (Option.some.inj h)
      refine ⟨n + 1, Nat.succ_pos n, Nat.le_refl _, rfl, hfound, ?_⟩
      intro j hj hjn
      exact absurd hjn (Nat.not_le.2 hj)
    · rename_i hnone
      obtain ⟨k, hpos, hk, hname, hfound, hlonger⟩ := ih h
      refine ⟨k, hpos, Nat.le_succ_of_le hk, hname, hfound, ?_⟩
      intro j hj hjn
      rcases Nat.lt_or_eq_of_le hjn with hlt | rfl
      · exact hlonger j hj (Nat.le_of_lt_succ hlt)
      · exact hnone

/-- Where no match is found, no beginning within the bound is an alias. -/
theorem longestMatch?_eq_none {upcoming : List String} {n : Nat}
    (h : t.longestMatch? upcoming n = none) :
    ∀ j, 0 < j → j ≤ n → t.target? ⟨upcoming.take j⟩ = none := by
  induction n with
  | zero =>
    intro j hpos hj
    exact absurd hj (Nat.not_le.2 hpos)
  | succ n ih =>
    rw [longestMatch?] at h
    split at h
    · cases h
    · rename_i hnone
      intro j hpos hj
      rcases Nat.lt_or_eq_of_le hj with hlt | rfl
      · exact ih h j hpos (Nat.le_of_lt_succ hlt)
      · exact hnone

/-- An alias that begins the tokens is one of the beginnings that are looked at. -/
theorem IsBounded.beginning (hbounded : t.IsBounded) (hfound : t.target? name = some target)
    (hbegins : name.names <+: tokens) :
    name.length ≤ (tokens.take t.longest).length ∧
      name = ⟨(tokens.take t.longest).take name.length⟩ := by
  have hlongest := hbounded name target hfound
  have hlength : name.length ≤ tokens.length := hbegins.length_le
  refine ⟨by rw [List.length_take]; exact Nat.le_min.2 ⟨hlongest, hlength⟩, ?_⟩
  rw [List.take_take, Nat.min_eq_left hlongest]
  exact congrArg Invocation.mk (List.prefix_iff_eq_take.1 hbegins)

theorem begins_of_take {k : Nat} (h : name = ⟨(tokens.take t.longest).take k⟩) :
    name.names <+: tokens := by
  rw [h]
  exact (List.take_prefix _ _).trans (List.take_prefix _ _)

/-- Applying a table replaces the alias that it selects and leaves the stream alone without one. -/
theorem IsBounded.apply_eq (hbounded : t.IsBounded) (s : TokenStream) :
    (∃ name target, t.Selects s.toList name target ∧
      t.apply s = (some name, (s.skip name.length).splice target.names)) ∨
    (t.SelectsNone s.toList ∧ t.apply s = (none, s)) := by
  by_cases hempty : t.isEmpty = true
  · refine .inr ⟨?_, by rw [apply, if_pos hempty]⟩
    intro name target hfound
    rw [target?, List.isEmpty_iff.1 hempty] at hfound
    cases hfound
  · rw [apply, if_neg hempty]
    dsimp only
    rw [TokenStream.peekMany_eq_take]
    split
    · rename_i name target hmatch
      obtain ⟨k, hpos, hk, hname, hfound, hlonger⟩ := longestMatch?_eq_some hmatch
      have hlength : name.length = k := by
        rw [hname, Invocation.length, List.length_take, Nat.min_eq_left hk]
      refine .inl ⟨name, target, ⟨hfound, ne_root_iff.2 (hlength ▸ hpos), begins_of_take hname, ?_⟩,
        rfl⟩
      intro other target' hother hbegins
      -- a longer alias would have been met before
      obtain ⟨hlooked, heq⟩ := hbounded.beginning hother hbegins
      by_contra hlt
      rw [hlength, Nat.not_le] at hlt
      have hnone := hlonger other.length hlt hlooked
      rw [← heq, hother] at hnone
      cases hnone
    · rename_i hmatch
      refine .inr ⟨?_, rfl⟩
      intro name target hfound hne hbegins
      obtain ⟨hlooked, heq⟩ := hbounded.beginning hfound hbegins
      have hnone := longestMatch?_eq_none hmatch name.length (ne_root_iff.1 hne) hlooked
      rw [← heq, hfound] at hnone
      cases hnone

/-- The alias that is selected is skipped and its target put in its place. -/
theorem IsBounded.apply_of_selects (hbounded : t.IsBounded) (h : t.Selects s.toList name target) :
    t.apply s = (some name, (s.skip name.length).splice target.names) := by
  rcases hbounded.apply_eq s with ⟨name', target', hselects, happly⟩ | ⟨hnone, -⟩
  · obtain ⟨rfl, rfl⟩ := h.unique hselects
    exact happly
  · exact absurd hnone (not_selectsNone h)

/-- What a table does to streams is settled by its lookups. -/
theorem IsBounded.apply_congr (hbounded : t.IsBounded) (hbounded' : t'.IsBounded)
    (hlookups : ∀ name, t.target? name = t'.target? name) (s : TokenStream) :
    t.apply s = t'.apply s := by
  rcases hbounded.apply_eq s with ⟨name, target, hselects, happly⟩ | ⟨hnone, happly⟩
  · rw [happly, hbounded'.apply_of_selects (hselects.congr hlookups)]
  · rcases hbounded'.apply_eq s with ⟨name, target, hselects, -⟩ | ⟨-, happly'⟩
    · exact absurd (hnone.congr hlookups) (not_selectsNone hselects)
    · rw [happly, happly']

/-! ## Applying rows inserted in order -/

/-- Of the aliases inserted, other than the empty one, the longest that begins the tokens. -/
structure IsLongestAlias (rows : List (Invocation × Invocation)) (tokens : List String)
    (name : Invocation) : Prop where
  inserted : ∃ target, (name, target) ∈ rows
  ne_root : name ≠ .root
  begins : name.names <+: tokens
  longest : ∀ row ∈ rows, row.1 ≠ .root → row.1.names <+: tokens → row.1.length ≤ name.length

variable {rows : List (Invocation × Invocation)}

/-- An alias is selected iff it is the longest one among the rows that the tokens begin with. -/
theorem exists_selects_iff :
    (∃ target, (ofList rows).Selects tokens name target) ↔ IsLongestAlias rows tokens name := by
  constructor
  · rintro ⟨target, h⟩
    have hfound := h.found
    rw [target?_ofList] at hfound
    refine ⟨⟨target, mem_of_lastTarget? hfound⟩, h.ne_root, h.begins, ?_⟩
    rintro ⟨other, target'⟩ hmem - hbegins
    obtain ⟨last, hlast⟩ := exists_lastTarget?_of_mem hmem
    exact h.longest other last (by rw [target?_ofList, hlast]) hbegins
  · rintro ⟨⟨target, hmem⟩, hne, hbegins, hlongest⟩
    obtain ⟨last, hlast⟩ := exists_lastTarget?_of_mem hmem
    refine ⟨last, by rw [target?_ofList, hlast], hne, hbegins, ?_⟩
    intro other target' hother hother_begins
    rw [target?_ofList] at hother
    by_cases hroot : other = .root
    · rw [hroot]
      exact Nat.zero_le _
    · exact hlongest (other, target') (mem_of_lastTarget? hother) hroot hother_begins

theorem selectsNone_ofList_iff :
    (ofList rows).SelectsNone tokens ↔
      ∀ row ∈ rows, row.1 ≠ .root → ¬ row.1.names <+: tokens := by
  constructor
  · rintro h ⟨name, target⟩ hmem
    obtain ⟨last, hlast⟩ := exists_lastTarget?_of_mem hmem
    exact h name last (by rw [target?_ofList, hlast])
  · intro h name target hfound
    rw [target?_ofList] at hfound
    exact h (name, target) (mem_of_lastTarget? hfound)

end AliasTable

open AliasTable

/-- A table made by inserting rows in order, repeated, empty and without targets as they may be,
applied to any stream: an alias is reported exactly if it is the longest inserted one, but for
the empty one, that begins the tokens of the stream. The stream then has the names of the target
inserted last for it in place of the alias. Without such an alias none is reported, and the
stream stays as it was. -/
theorem longest_alias_applies (rows : List (Invocation × Invocation)) (s : TokenStream) :
    let applied := (AliasTable.ofList rows).apply s
    let tokens := s.drain
    (∀ name, applied.1 = some name ↔ IsLongestAlias rows tokens name) ∧
    (∀ name, applied.1 = some name → ∃ target, lastTarget? rows name = some target ∧
      applied.2.drain = target.names ++ tokens.drop name.length) ∧
    (applied.1 = none ↔ ∀ row ∈ rows, row.1 ≠ .root → ¬ row.1.names <+: tokens) ∧
    (applied.1 = none → applied.2 = s) := by
  intro applied tokens
  have htokens : tokens = s.toList := s.drain_eq_toList
  rw [htokens, ← selectsNone_ofList_iff]
  simp only [← exists_selects_iff]
  rcases (isBounded_ofList rows).apply_eq s with ⟨name, target, hselects, happly⟩ | ⟨hnone, happly⟩
  · have hname : applied.1 = some name := congrArg Prod.fst happly
    have hstream : applied.2 = (s.skip name.length).splice target.names := congrArg Prod.snd happly
    have hsome : ¬ applied.1 = none := by
      rw [hname]
      exact Option.some_ne_none name
    refine ⟨fun other => ?_, fun other hother => ?_, ?_, fun hother => absurd hother hsome⟩
    · rw [hname, Option.some.injEq]
      constructor
      · rintro rfl
        exact ⟨target, hselects⟩
      · rintro ⟨target', hselects'⟩
        exact (hselects.unique hselects').1.symm
    · obtain rfl : name = other := Option.some.inj (hname.symm.trans hother)
      refine ⟨target, by rw [← target?_ofList, hselects.found], ?_⟩
      rw [hstream, TokenStream.drain_eq_toList, TokenStream.toList_splice, TokenStream.toList_skip]
    · exact iff_of_false hsome (not_selectsNone hselects)
  · have hname : applied.1 = none := congrArg Prod.fst happly
    have hstream : applied.2 = s := congrArg Prod.snd happly
    have hother : ∀ name, applied.1 ≠ some name := by
      intro name
      rw [hname]
      exact (Option.some_ne_none name).symm
    refine ⟨fun name => ?_, fun name h => absurd h (hother name), ?_, fun _ => hstream⟩
    · refine iff_of_false (hother name) ?_
      rintro ⟨target, hselects⟩
      exact not_selectsNone hselects hnone
    · exact iff_of_true hname hnone

end ChatCommands
