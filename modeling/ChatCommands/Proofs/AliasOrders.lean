import ChatCommands.Pipeline.Settings
import ChatCommands.Proofs.AliasTables
import Mathlib.Data.List.Perm.Basic

set_option autoImplicit false

/-!
# Orders of aliases

The aliases of settings come from a map and may be listed in any order. Their texts are cut into
words before they are put into a table, so two texts can spell one alias, and then the one listed
later counts. Lookups do not depend on the order of rows that agree on what they share
(`lastTarget?_of_perm`), and an entry that is listed last decides what becomes of its alias
(`apply_words_of_last`). Together: `aliases_ignore_order_iff`, and `order_of_spellings_decides`
for two texts of one alias.
-/

namespace ChatCommands

open AliasTable

/-! ## Rows in any order -/

/-- Rows of one alias have one target. -/
def AliasTable.AreConsistent (rows : List (Invocation × Invocation)) : Prop :=
  ∀ row ∈ rows, ∀ row' ∈ rows, row.1 = row'.1 → row.2 = row'.2

theorem AliasTable.lastTarget?_of_perm {rows rows' : List (Invocation × Invocation)}
    (hconsistent : AreConsistent rows) (hperm : rows.Perm rows') (name : Invocation) :
    lastTarget? rows name = lastTarget? rows' name := by
  cases hlast : lastTarget? rows name with
  | some target =>
    have hmem := mem_of_lastTarget? hlast
    obtain ⟨target', hlast'⟩ := exists_lastTarget?_of_mem (hperm.mem_iff.1 hmem)
    have hmem' := hperm.mem_iff.2 (mem_of_lastTarget? hlast')
    obtain rfl : target = target' := hconsistent _ hmem _ hmem' rfl
    exact hlast'.symm
  | none =>
    cases hlast' : lastTarget? rows' name with
    | none => rfl
    | some target =>
      -- a row of the alias would stand in the first list too
      have hmem := hperm.mem_iff.2 (mem_of_lastTarget? hlast')
      obtain ⟨last, hsome⟩ := exists_lastTarget?_of_mem hmem
      rw [hlast] at hsome
      cases hsome

/-! ## Entries of settings -/

namespace Settings

/-- The words of an alias and of its target, of the entries in which both have words. -/
def aliasRows (entries : List (String × String)) : List (Invocation × Invocation) :=
  (entries.map fun (name, target) => (Invocation.parse name, Invocation.parse target)).filter
    fun (name, target) => !name.isEmpty && !target.isEmpty

/-- The alias and the target of an entry have words. -/
def IsUsable (entry : String × String) : Prop :=
  Text.wordsOf entry.1 ≠ [] ∧ Text.wordsOf entry.2 ≠ []

/-- Usable entries whose aliases are the same words have targets of the same words. -/
def SpellAlike (entries : List (String × String)) : Prop :=
  ∀ e ∈ entries, ∀ e' ∈ entries, IsUsable e → IsUsable e' →
    Text.wordsOf e.1 = Text.wordsOf e'.1 → Text.wordsOf e.2 = Text.wordsOf e'.2

theorem aliasTable_eq (settings : Settings) (entries : List (String × String)) :
    ({ settings with aliases := entries } : Settings).aliasTable = .ofList (aliasRows entries) :=
  rfl

theorem isUsable_iff (entry : String × String) :
    (!(Invocation.parse entry.1).isEmpty && !(Invocation.parse entry.2).isEmpty) = true ↔
      IsUsable entry := by
  simp [IsUsable, Invocation.parse, Invocation.isEmpty]

theorem mem_aliasRows_iff {entries : List (String × String)} {row : Invocation × Invocation} :
    row ∈ aliasRows entries ↔
      ∃ e ∈ entries, IsUsable e ∧ row = (Invocation.parse e.1, Invocation.parse e.2) := by
  rw [aliasRows, List.mem_filter, List.mem_map]
  constructor
  · rintro ⟨⟨e, he, rfl⟩, husable⟩
    exact ⟨e, he, (isUsable_iff e).1 husable, rfl⟩
  · rintro ⟨e, he, husable, rfl⟩
    exact ⟨⟨e, he, rfl⟩, (isUsable_iff e).2 husable⟩

theorem aliasRows_concat {entries : List (String × String)} {e : String × String}
    (husable : IsUsable e) :
    aliasRows (entries ++ [e]) =
      aliasRows entries ++ [(Invocation.parse e.1, Invocation.parse e.2)] := by
  have hkept := (isUsable_iff e).2 husable
  simp only [aliasRows, List.map_append, List.map_cons, List.map_nil, List.filter_append,
    List.filter_cons, hkept, if_true, List.filter_nil]

theorem areConsistent_aliasRows {entries : List (String × String)} (h : SpellAlike entries) :
    AreConsistent (aliasRows entries) := by
  intro row hrow row' hrow' hname
  obtain ⟨e, he, husable, rfl⟩ := mem_aliasRows_iff.1 hrow
  obtain ⟨e', he', husable', rfl⟩ := mem_aliasRows_iff.1 hrow'
  exact congrArg Invocation.mk (h e he e' he' husable husable' (Invocation.mk.inj hname))

/-- The words of an alias become those of its target, where its entry is listed last. -/
theorem apply_words_of_last (settings : Settings) (others : List (String × String))
    {e : String × String} (husable : IsUsable e) :
    (({ settings with aliases := others ++ [e] } : Settings).aliasTable.apply
      (.ofTokens (Text.wordsOf e.1))).2.drain = Text.wordsOf e.2 := by
  have hfound : (AliasTable.ofList (aliasRows (others ++ [e]))).target? (Invocation.parse e.1) =
      some (Invocation.parse e.2) := by
    rw [target?_ofList, aliasRows_concat husable, lastTarget?_concat, if_pos rfl]
  have hselects : (AliasTable.ofList (aliasRows (others ++ [e]))).Selects
      (TokenStream.ofTokens (Text.wordsOf e.1)).toList (Invocation.parse e.1)
      (Invocation.parse e.2) := by
    rw [TokenStream.toList_ofTokens]
    refine ⟨hfound, ?_, List.prefix_refl _, ?_⟩
    · intro hroot
      exact husable.1 (congrArg Invocation.names hroot)
    · intro other target _ hbegins
      exact hbegins.length_le
  rw [aliasTable_eq, (isBounded_ofList _).apply_of_selects hselects, TokenStream.drain_eq_toList,
    TokenStream.toList_splice, TokenStream.toList_skip, TokenStream.toList_ofTokens]
  show Text.wordsOf e.2 ++ (Text.wordsOf e.1).drop (Text.wordsOf e.1).length = Text.wordsOf e.2
  rw [List.drop_length, List.append_nil]

end Settings

open Settings

/-- The tables of all orders of the aliases of settings do the same to every stream exactly if
entries that spell the same alias, and whose target has words, spell the same target. -/
theorem aliases_ignore_order_iff (settings : Settings) :
    (∀ entries entries', entries.Perm settings.aliases → entries'.Perm settings.aliases →
      ∀ s : TokenStream, ({ settings with aliases := entries } : Settings).aliasTable.apply s =
        ({ settings with aliases := entries' } : Settings).aliasTable.apply s) ↔
      SpellAlike settings.aliases := by
  constructor
  · intro hsame e he e' he' husable husable' hwords
    -- each of the two entries is listed last once
    have hlast : ∀ x ∈ settings.aliases,
        (settings.aliases.erase x ++ [x]).Perm settings.aliases := by
      intro x hx
      exact (List.perm_append_singleton x _).trans (List.perm_cons_erase hx).symm
    have happly := hsame _ _ (hlast e he) (hlast e' he') (.ofTokens (Text.wordsOf e.1))
    rw [← apply_words_of_last settings (settings.aliases.erase e) husable, happly, hwords]
    exact apply_words_of_last settings (settings.aliases.erase e') husable'
  · intro hspell entries entries' hperm hperm' s
    have hrows : ∀ {listed : List (String × String)}, listed.Perm settings.aliases →
        ∀ name, lastTarget? (aliasRows settings.aliases) name =
          lastTarget? (aliasRows listed) name := by
      intro listed hlisted
      exact lastTarget?_of_perm (areConsistent_aliasRows hspell) ((hlisted.symm.map _).filter _)
    rw [aliasTable_eq, aliasTable_eq]
    refine (isBounded_ofList _).apply_congr (isBounded_ofList _) (fun name => ?_) s
    rw [target?_ofList, target?_ofList, ← hrows hperm, ← hrows hperm']

/-- Two texts of one alias, with different targets. -/
def twoSpellings : Settings := { aliases := [("go", "ping"), (" go", "pong")] }

/-- The texts differ, yet the one that is listed last counts. -/
theorem order_of_spellings_decides :
    (twoSpellings.aliases.map (·.1)).Nodup ∧
      twoSpellings.aliases.reverse.Perm twoSpellings.aliases ∧
      twoSpellings.aliasTable.apply (.ofText "go") = (some ⟨["go"]⟩, ⟨["pong"], []⟩) ∧
      ({ twoSpellings with aliases := twoSpellings.aliases.reverse } : Settings).aliasTable.apply
        (.ofText "go") = (some ⟨["go"]⟩, ⟨["ping"], []⟩) :=
  ⟨by decide, List.reverse_perm _, by decide +kernel, by decide +kernel⟩

end ChatCommands
