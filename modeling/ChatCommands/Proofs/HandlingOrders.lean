import ChatCommands.Command.Chain
import Mathlib.Data.List.Basic
import Mathlib.Order.Bounds.Defs

set_option autoImplicit false

/-!
# Orders of handling

The commands whose handlers run are those at the end of the chain that invoke their parents, with
the parent of the first of them, and the invoked command has to suit every parameter of the others.
`Command.Suits` says what that means and `Command.Refuses` what goes wrong when it does not, both
apart from the order of checks. `Climbs` is the way up a chain: its end is the least position behind
which every command invokes its parent (`Climbs.isLeast`), and the order is read off it
(`Climbs.ancestorsToRun_eq`), so that `orders_follow_parents` tells the whole result: the order, or
the error of the innermost ancestor that is not suited, for its first parameter that is not.
-/

namespace ChatCommands

/-! ## Suited parameters -/

namespace Command

/-- The first parameter of the name that the command declares. -/
def IsFirstNamed (c : Command) (name : String) (own : Parameter) : Prop :=
  ∃ earlier later, c.parameters = earlier ++ own :: later ∧ own.name = name ∧
    ∀ q ∈ earlier, q.name ≠ name

/-- A handler that was declared with the parameter can rely on the arguments of the invoked command:
they are of the same kind, and where the parameter is required there is one. -/
structure Suits (invoked : Command) (p : Parameter) : Prop where
  same_kind : ∀ own, invoked.IsFirstNamed p.name own → own.kind.tag = p.kind.tag
  present : p.required = true →
    ∃ own, invoked.IsFirstNamed p.name own ∧ (own.required = true ∨ own.default.isSome = true)

/-- The error for a parameter of an ancestor that the invoked command does not suit. The kind is
compared first. -/
inductive Refuses (ancestor invoked : Command) (p : Parameter) : ChainError → Prop where
  | kind {own : Parameter} (first : invoked.IsFirstNamed p.name own)
      (other : own.kind.tag ≠ p.kind.tag) :
      Refuses ancestor invoked p
        (.parameterKind ancestor.id invoked.id p.name p.kind.tag own.kind.tag)
  | optional {own : Parameter} (required : p.required = true)
      (first : invoked.IsFirstNamed p.name own) (same : own.kind.tag = p.kind.tag)
      (not_required : own.required = false) (no_default : own.default = none) :
      Refuses ancestor invoked p (.parameterOptional ancestor.id invoked.id p.name)
  | missing (required : p.required = true) (none : ∀ own, ¬ invoked.IsFirstNamed p.name own) :
      Refuses ancestor invoked p (.parameterOptional ancestor.id invoked.id p.name)

/-- The invoked command suits all parameters of the ancestor. -/
def CompatibleWith (ancestor invoked : Command) : Prop := ∀ p ∈ ancestor.parameters, invoked.Suits p

variable {ancestor invoked : Command} {p own : Parameter} {name : String} {e : ChainError}

theorem parameter?_eq_some_iff :
    invoked.parameter? name = some own ↔ invoked.IsFirstNamed name own := by
  rw [parameter?, List.find?_eq_some_iff_append]
  constructor
  · rintro ⟨hname, earlier, later, hparameters, hearlier⟩
    exact ⟨earlier, later, hparameters, by simpa using hname, by simpa using hearlier⟩
  · rintro ⟨earlier, later, hparameters, hname, hearlier⟩
    exact ⟨by simpa using hname, earlier, later, hparameters, by simpa using hearlier⟩

theorem parameter?_eq_none_iff :
    invoked.parameter? name = none ↔ ∀ own, ¬ invoked.IsFirstNamed name own := by
  simp only [Option.eq_none_iff_forall_ne_some, ne_eq, parameter?_eq_some_iff]

/-- What the check of a parameter says is the error for it. -/
theorem parameterError?_eq_some_iff :
    parameterError? ancestor invoked p = some e ↔ Refuses ancestor invoked p e := by
  rw [parameterError?]
  constructor
  · intro h
    split at h
    · rename_i own hown
      have hfirst := parameter?_eq_some_iff.1 hown
      split at h
      · rename_i hkind
        obtain rfl := Option.some.inj h
        exact .kind hfirst hkind
      · rename_i hkind
        split at h
        · rename_i habsent
          obtain rfl := Option.some.inj h
          exact .optional habsent.1 hfirst (not_not.1 hkind) (by simpa using habsent.2.1)
            (by simpa using habsent.2.2)
        · cases h
    · rename_i hnone
      split at h
      · rename_i hrequired
        obtain rfl := Option.some.inj h
        exact .missing hrequired (parameter?_eq_none_iff.1 hnone)
      · cases h
  · intro h
    cases h with
    | kind first other =>
      simp only [parameter?_eq_some_iff.2 first, ne_eq, other, not_false_iff, if_true]
    | optional required first same not_required no_default =>
      simp [parameter?_eq_some_iff.2 first, same, required, not_required, no_default]
    | missing required none => simp [parameter?_eq_none_iff.2 none, required]

/-- The check of a parameter says nothing exactly if the command suits it. -/
theorem parameterError?_eq_none_iff :
    parameterError? ancestor invoked p = none ↔ invoked.Suits p := by
  rw [parameterError?]
  constructor
  · intro h
    split at h
    · rename_i own hown
      have hfirst := parameter?_eq_some_iff.1 hown
      split at h
      · cases h
      · rename_i hkind
        split at h
        · cases h
        · rename_i hpresent
          refine ⟨fun own' hown' => ?_, fun hrequired => ⟨own, hfirst, ?_⟩⟩
          · rw [← parameter?_eq_some_iff, hown] at hown'
            obtain rfl := Option.some.inj hown'
            exact not_not.1 hkind
          · by_contra hneither
            rw [not_or] at hneither
            exact hpresent ⟨hrequired, hneither.1, by simpa using hneither.2⟩
    · rename_i hnone
      split at h
      · cases h
      · rename_i hrequired
        exact ⟨fun own hown => absurd hown (parameter?_eq_none_iff.1 hnone own),
          fun hrequired' => absurd hrequired' hrequired⟩
  · rintro ⟨hkind, hpresent⟩
    split
    · rename_i own hown
      have hfirst := parameter?_eq_some_iff.1 hown
      rw [if_neg (not_not.2 (hkind own hfirst)), if_neg]
      rintro ⟨hrequired, hoptional, hdefault⟩
      obtain ⟨own', hown', hvalue⟩ := hpresent hrequired
      rw [← parameter?_eq_some_iff, hown] at hown'
      obtain rfl := Option.some.inj hown'
      rcases hvalue with hvalue | hvalue
      · exact hoptional hvalue
      · simp [Option.isNone_iff_eq_none.1 hdefault] at hvalue
    · rename_i hnone
      rw [if_neg]
      intro hrequired
      obtain ⟨own, hown, -⟩ := hpresent hrequired
      exact parameter?_eq_none_iff.1 hnone own hown

/-- What the check of an ancestor says: the error for its first parameter that is not suited. -/
def refusal? (ancestor invoked : Command) : Option ChainError :=
  ancestor.parameters.findSome? (parameterError? ancestor invoked)

theorem refusal?_eq_none_iff :
    ancestor.refusal? invoked = none ↔ ancestor.CompatibleWith invoked := by
  rw [refusal?, List.findSome?_eq_none_iff]
  exact forall₂_congr fun _ _ => parameterError?_eq_none_iff

theorem refusal?_eq_some_iff :
    ancestor.refusal? invoked = some e ↔
      ∃ earlier p later, ancestor.parameters = earlier ++ p :: later ∧
        (∀ q ∈ earlier, invoked.Suits q) ∧ Refuses ancestor invoked p e := by
  rw [refusal?, List.findSome?_eq_some_iff]
  simp only [parameterError?_eq_some_iff, parameterError?_eq_none_iff]
  constructor
  · rintro ⟨earlier, p, later, hparameters, hrefused, hsuited⟩
    exact ⟨earlier, p, later, hparameters, hsuited, hrefused⟩
  · rintro ⟨earlier, p, later, hparameters, hsuited, hrefused⟩
    exact ⟨earlier, p, later, hparameters, hrefused, hsuited⟩

end Command

/-! ## The way up a chain -/

section Chains

variable {α : Type} {declaration : α → Command} {child invoked : α}

/-- From `child`, with the commands above it given nearest first, the way up goes over `reached` and
leaves `beyond`: each step is taken because the command below it invokes its parent, and the way
ends at the root or at a command that does not. -/
inductive Climbs (declaration : α → Command) : α → List α → List α → Prop where
  | root (child : α) : Climbs declaration child [] []
  | stop {child : α} {beyond : List α} (alone : (declaration child).settings.invokeParent = false) :
      Climbs declaration child [] beyond
  | up {child parent : α} {reached beyond : List α}
      (invokes : (declaration child).settings.invokeParent = true)
      (next : Climbs declaration parent reached beyond) :
      Climbs declaration child (parent :: reached) beyond

theorem exists_climbs (declaration : α → Command) (child : α) (above : List α) :
    ∃ reached beyond, above = reached ++ beyond ∧ Climbs declaration child reached beyond := by
  induction above generalizing child with
  | nil => exact ⟨[], [], rfl, .root child⟩
  | cons parent above ih =>
    cases hinvokes : (declaration child).settings.invokeParent with
    | false => exact ⟨[], parent :: above, rfl, .stop hinvokes⟩
    | true =>
      obtain ⟨reached, beyond, rfl, hclimbs⟩ := ih parent
      exact ⟨parent :: reached, beyond, rfl, .up hinvokes hclimbs⟩

namespace Climbs

variable {reached beyond : List α}

/-- Every command on the way but the last one invokes its parent. -/
theorem invokes_of_mem (h : Climbs declaration child reached beyond) {c : α}
    (hc : c ∈ (child :: reached).dropLast) : (declaration c).settings.invokeParent = true := by
  induction h with
  | root | stop => cases hc
  | up invokes _ ih =>
    rw [List.dropLast_cons_of_ne_nil (List.cons_ne_nil _ _)] at hc
    rcases List.mem_cons.1 hc with rfl | hc
    · exact invokes
    · exact ih hc

/-- Where something is left above, a command on the way does not invoke its parent. -/
theorem exists_alone (h : Climbs declaration child reached beyond) (hbeyond : beyond ≠ []) :
    ∃ c ∈ child :: reached, (declaration c).settings.invokeParent = false := by
  induction h with
  | root => exact absurd rfl hbeyond
  | stop alone => exact ⟨_, List.mem_cons_self, alone⟩
  | up _ _ ih =>
    obtain ⟨c, hc, halone⟩ := ih hbeyond
    exact ⟨c, List.mem_cons_of_mem _ hc, halone⟩

/-- The way does not depend on what is left above, as long as something is. -/
theorem beyond_irrelevant (h : Climbs declaration child reached beyond) {others : List α}
    (hothers : beyond = [] → others = []) : Climbs declaration child reached others := by
  induction h with
  | root =>
    rw [hothers rfl]
    exact .root _
  | stop alone => exact .stop alone
  | up invokes _ ih => exact .up invokes (ih hothers)

/-- The commands on the way are checked from the innermost one, and the first that fails the check
decides. -/
theorem ancestorsToRun_eq (h : Climbs declaration child reached beyond) (invoked : Command)
    (order : List α) :
    ancestorsToRun declaration invoked child order (reached ++ beyond) =
      match reached.findSome? fun a => (declaration a).refusal? invoked with
      | some e => .error e
      | none => .ok (reached.reverse ++ order) := by
  induction h generalizing order with
  | root => rfl
  | @stop child beyond alone =>
    cases beyond with
    | nil => rfl
    | cons parent beyond => simp [ancestorsToRun, alone]
  | @up child parent reached beyond invokes _ ih =>
    rw [List.cons_append, ancestorsToRun, if_pos invokes, checkCompatible, List.findSome?_cons,
      Command.refusal?]
    cases (declaration parent).parameters.findSome?
        (parameterError? (declaration parent) invoked) with
    | some e => rfl
    | none =>
      dsimp only
      rw [ih, List.reverse_cons, List.append_assoc, List.singleton_append]

theorem handlingOrder_eq (h : Climbs declaration invoked reached beyond) :
    handlingOrder declaration (beyond.reverse ++ (reached.reverse ++ [invoked])) =
      match reached.findSome? fun a => (declaration a).refusal? (declaration invoked) with
      | some e => .error e
      | none => .ok (reached.reverse ++ [invoked]) := by
  have hup : (beyond.reverse ++ (reached.reverse ++ [invoked])).reverse =
      invoked :: (reached ++ beyond) := by
    simp
  rw [handlingOrder, hup]
  exact h.ancestorsToRun_eq _ _

/-- The way up ends at the least position behind which every command invokes its parent. -/
theorem isLeast (h : Climbs declaration invoked reached beyond) {chain : List α}
    (hchain : chain = beyond.reverse ++ (reached.reverse ++ [invoked])) :
    IsLeast {i | i < chain.length ∧
      ∀ c ∈ chain.drop (i + 1), (declaration c).settings.invokeParent = true} beyond.length := by
  have hway : reached.reverse ++ [invoked] = (invoked :: reached).reverse := List.reverse_cons.symm
  rw [hway] at hchain
  constructor
  · refine ⟨by rw [hchain]; simp, fun c hc => h.invokes_of_mem ?_⟩
    rw [← List.tail_drop, hchain, ← @List.length_reverse _ beyond, List.drop_left,
      List.tail_reverse, List.mem_reverse] at hc
    exact hc
  · rintro k ⟨-, hinvokes⟩
    by_contra hless
    -- above the end of the way every command on it would have to invoke its parent
    have hbeyond : beyond ≠ [] := by
      rintro rfl
      exact hless (Nat.zero_le k)
    obtain ⟨c, hc, halone⟩ := h.exists_alone hbeyond
    have hmem : c ∈ chain.drop (k + 1) := by
      rw [hchain, List.drop_append_of_le_length (by rw [List.length_reverse]; omega)]
      exact List.mem_append_right _ (List.mem_reverse.2 hc)
    rw [hinvokes c hmem] at halone
    cases halone

end Climbs

/-- Let `i` be the least position behind which every command of the chain invokes its parent.
The commands from there on are the order exactly if all of them before the invoked one are
compatible with it. Otherwise the result is the error of the innermost that is not, for its
first parameter that the invoked command does not suit. Whatever commands stand before the
position make no difference. -/
theorem orders_follow_parents (declaration : α → Command) (ancestors : List α) (invoked : α) :
    let chain := ancestors ++ [invoked]
    let last := declaration invoked
    ∃ i, IsLeast {i | i < chain.length ∧
        ∀ c ∈ chain.drop (i + 1), (declaration c).settings.invokeParent = true} i ∧
      (handlingOrder declaration chain = .ok (chain.drop i) ↔
        ∀ a ∈ ancestors.drop i, (declaration a).CompatibleWith last) ∧
      ((¬ ∀ a ∈ ancestors.drop i, (declaration a).CompatibleWith last) →
        ∃ outer a inner earlier p later e, ancestors.drop i = outer ++ a :: inner ∧
          (∀ b ∈ inner, (declaration b).CompatibleWith last) ∧
          (declaration a).parameters = earlier ++ p :: later ∧ (∀ q ∈ earlier, last.Suits q) ∧
          Command.Refuses (declaration a) last p e ∧ handlingOrder declaration chain = .error e) ∧
      ∀ others, (i = 0 → others = []) →
        handlingOrder declaration (others ++ chain.drop i) = handlingOrder declaration chain := by
  intro chain last
  obtain ⟨reached, beyond, habove, hclimbs⟩ := exists_climbs declaration invoked ancestors.reverse
  have hancestors : ancestors = beyond.reverse ++ reached.reverse := by
    rw [← List.reverse_append, ← habove, List.reverse_reverse]
  have hchain : chain = beyond.reverse ++ (reached.reverse ++ [invoked]) := by
    rw [← List.append_assoc, ← hancestors]
  have hreached : ancestors.drop beyond.length = reached.reverse := by
    rw [hancestors, ← @List.length_reverse _ beyond, List.drop_left]
  have hdrop : chain.drop beyond.length = reached.reverse ++ [invoked] := by
    rw [hchain, ← @List.length_reverse _ beyond, List.drop_left]
  have hcompatible : (∀ a ∈ reached.reverse, (declaration a).CompatibleWith last) ↔
      reached.findSome? (fun a => (declaration a).refusal? last) = none := by
    simp only [List.findSome?_eq_none_iff, Command.refusal?_eq_none_iff, List.mem_reverse]
  have horder := hclimbs.handlingOrder_eq
  rw [← hchain, ← hdrop] at horder
  refine ⟨beyond.length, hclimbs.isLeast hchain, ?_, ?_, ?_⟩
  · rw [hreached, hcompatible, horder]
    cases reached.findSome? fun a => (declaration a).refusal? last with
    | none => simp
    | some e => simp
  · rw [hreached, hcompatible]
    intro hrefused
    obtain ⟨e, he⟩ := Option.ne_none_iff_exists'.1 hrefused
    obtain ⟨inner, a, outer, hsplit, ha, hinner⟩ := List.findSome?_eq_some_iff.1 he
    obtain ⟨earlier, p, later, hparameters, hsuited, hrefuses⟩ := Command.refusal?_eq_some_iff.1 ha
    refine ⟨outer.reverse, a, inner.reverse, earlier, p, later, e, by simp [hsplit], ?_,
      hparameters, hsuited, hrefuses, ?_⟩
    · intro b hb
      exact Command.refusal?_eq_none_iff.1 (hinner b (List.mem_reverse.1 hb))
    · rw [horder, he]
  · intro others hothers
    have hsame : Climbs declaration invoked reached others.reverse :=
      hclimbs.beyond_irrelevant fun hnil => by rw [hothers (by rw [hnil]; rfl)]; rfl
    have hother := hsame.handlingOrder_eq
    rw [List.reverse_reverse, ← hdrop] at hother
    rw [hother, horder]

end Chains

end ChatCommands
