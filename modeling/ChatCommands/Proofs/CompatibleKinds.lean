import ChatCommands.Proofs.HandlingOrders
import ChatCommands.Proofs.KindConformance
import ChatCommands.Proofs.TypedTokens

set_option autoImplicit false

/-!
# Arguments shared along a chain

The handlers of ancestors read the arguments of the invoked command by the types of their own kinds.
`ArgumentType.Covers` says when all that one type reads is read by another (`covers_iff`): the types
are the same, or floats are asked for where there are whole numbers, and lists are compared by their
items. The check of a chain compares the names of the kinds, which settle everything but the items
of lists (`Kind.covers_of_tag_eq`). `accepted_arguments_are_read` is what follows for the arguments
that are parsed, and `words_are_not_read_as_numbers` is the case that the names let through.
-/

namespace ChatCommands

open Reference (Place)

/-! ## Types that read the values of others -/

namespace ArgumentType

variable {t u item : ArgumentType} {v : Argument}

/-- The type reads the value. -/
def Reads (t : ArgumentType) (v : Argument) : Prop := ∃ x, t.read? v = some x

/-- A list is read if all its items are. -/
theorem exists_mapM_iff {items : List Argument} :
    (∃ xs, items.mapM item.read? = some xs) ↔ ∀ a ∈ items, item.Reads a := by
  induction items with
  | nil => exact iff_of_true ⟨[], rfl⟩ (by simp)
  | cons a items ih =>
    rw [List.forall_mem_cons, ← ih]
    constructor
    · rintro ⟨xs, h⟩
      rw [List.mapM_cons] at h
      obtain ⟨x, hx, h⟩ := Option.bind_eq_some_iff.1 h
      obtain ⟨rest, hrest, -⟩ := Option.bind_eq_some_iff.1 h
      exact ⟨⟨x, hx⟩, rest, hrest⟩
    · rintro ⟨⟨x, hx⟩, rest, hrest⟩
      refine ⟨x :: rest, ?_⟩
      rw [List.mapM_cons, hx, hrest]
      rfl

theorem reads_list_iff {items : List Argument} :
    (list item).Reads (.list items) ↔ ∀ a ∈ items, item.Reads a :=
  exists_mapM_iff

theorem exists_items_of_reads (h : (list item).Reads v) : ∃ items, v = .list items := by
  obtain ⟨x, hx⟩ := h
  cases v with
  | list items => exact ⟨items, rfl⟩
  | _ => cases hx

/-- What the second type reads, the first one reads too. -/
inductive Covers : ArgumentType → ArgumentType → Prop where
  | refl (t : ArgumentType) : Covers t t
  | wholeNumbers : Covers .float .integer
  | list {t u : ArgumentType} (items : Covers t u) : Covers (.list t) (.list u)

theorem Covers.reads (h : t.Covers u) (hv : u.Reads v) : t.Reads v := by
  induction h generalizing v with
  | refl t => exact hv
  | wholeNumbers =>
    obtain ⟨n, hn⟩ := hv
    cases v with
    | integer m => exact ⟨_, rfl⟩
    | _ => cases hn
  | list _ ih =>
    obtain ⟨items, rfl⟩ := exists_items_of_reads hv
    rw [reads_list_iff] at hv ⊢
    intro a ha
    exact ih (hv a ha)

theorem covers_list_iff : (list t).Covers (list u) ↔ t.Covers u := by
  constructor
  · intro h
    cases h with
    | refl => exact .refl t
    | list items => exact items
  · intro h
    exact .list h

/-- Some value of each type; of a list, the empty one. -/
def sample : ArgumentType → Argument
  | .string => .string ""
  | .boolean => .boolean false
  | .integer => .integer 0
  | .float => .float 0
  | .id => .id 0
  | .user => .user ⟨⟨0⟩, "", false⟩
  | .role => .role ⟨⟨0⟩, ⟨0⟩, ""⟩
  | .channel => .channel ⟨⟨0⟩, none, .text, "", false⟩
  | .message => .message ⟨⟨0⟩, ⟨0⟩, none, ⟨⟨0⟩, "", false⟩, "", []⟩
  | .attachment => .attachment ⟨⟨0⟩, "", 0, "", none⟩
  | .list _ => .list []

theorem reads_sample (t : ArgumentType) : t.Reads t.sample := by
  cases t with
  | _ => exact ⟨_, rfl⟩

/-- A type that reads the sample of another covers it, unless both are lists. -/
theorem covers_or_lists_of_reads_sample (h : t.Reads u.sample) :
    t.Covers u ∨ ∃ i j, t = .list i ∧ u = .list j := by
  obtain ⟨x, hx⟩ := h
  cases t with
  | list i =>
    cases u with
    | list j => exact .inr ⟨i, j, rfl, rfl⟩
    | _ => cases hx
  | float =>
    cases u with
    | float => exact .inl (.refl _)
    | integer => exact .inl .wholeNumbers
    | _ => cases hx
  | _ =>
    cases u with
    | list j => cases hx
    | _ => first | exact .inl (.refl _) | cases hx

/-- Covering is no more than reading every value. -/
theorem covers_iff : t.Covers u ↔ ∀ v, u.Reads v → t.Reads v := by
  refine ⟨fun h v hv => h.reads hv, fun h => ?_⟩
  induction u generalizing t with
  | list j ih =>
    rcases covers_or_lists_of_reads_sample (h _ (reads_sample _)) with hcovers | ⟨i, _, rfl, -⟩
    · exact hcovers
    · -- an item is read as the only one of a list
      refine .list (ih fun v hv => ?_)
      have hone := h (.list [v]) (reads_list_iff.2 (by simpa using hv))
      exact reads_list_iff.1 hone v List.mem_cons_self
  | _ =>
    rcases covers_or_lists_of_reads_sample (h _ (reads_sample _)) with hcovers | ⟨_, _, -, hu⟩
    · exact hcovers
    · cases hu

end ArgumentType

/-! ## Kinds of one name -/

namespace Kind

/-- Where both kinds are lists, the items of the second are read by the type of the items of the
first. -/
def ItemsCover : Kind → Kind → Prop
  | .list item _ _, .list item' _ _ => item.type.Covers item'.type
  | _, _ => True

/-- The name of a kind settles its type, but for the items of lists. -/
theorem itemsCover_iff_covers {k l : Kind} (htag : l.tag = k.tag) :
    k.ItemsCover l ↔ k.type.Covers l.type := by
  cases k with
  | list item minItems maxItems =>
    cases l with
    | list item' minItems' maxItems' => exact ArgumentType.covers_list_iff.symm
    | _ => simp [tag] at htag
  | _ =>
    cases l with
    | list item' minItems' maxItems' => simp [tag] at htag
    | _ => first | exact iff_of_true trivial (.refl _) | simp [tag] at htag

end Kind

theorem compatibleWith_of_checkCompatible {ancestor invoked : Command}
    (h : checkCompatible ancestor invoked = .ok ()) : ancestor.CompatibleWith invoked := by
  rw [checkCompatible] at h
  split at h
  · cases h
  · rename_i hnone
    exact Command.refusal?_eq_none_iff.1 hnone

/-- Among parameters of different names, each is the first of its name. -/
theorem isFirstNamed_of_nodup {c : Command} (hnames : (c.parameters.map (·.name)).Nodup)
    {own : Parameter} (hown : own ∈ c.parameters) : c.IsFirstNamed own.name own := by
  obtain ⟨earlier, later, hsplit⟩ := List.append_of_mem hown
  refine ⟨earlier, later, hsplit, rfl, ?_⟩
  intro q hq
  rw [hsplit, List.map_append, List.map_cons, List.nodup_append] at hnames
  exact hnames.2.2 _ (List.mem_map_of_mem hq) _ List.mem_cons_self

/-- The check accepts a command below an ancestor. Then every value that parsing yields for a
parameter of the invoked command is read by the type of the ancestor's parameter of that name,
as long as the items of lists are read as the items that the ancestor has in mind, at every
depth. The check does not ask for that: where it fails, there are values of the one type that
the other does not read. -/
theorem accepted_arguments_are_read {ancestor invoked : Command}
    (hchecked : checkCompatible ancestor invoked = .ok ())
    (hnames : (invoked.parameters.map (·.name)).Nodup) {p own : Parameter}
    (hp : p ∈ ancestor.parameters) (hown : own ∈ invoked.parameters) (hname : own.name = p.name) :
    (p.kind.ItemsCover own.kind →
      ∀ (place : Place) (raw : RawArgument) (t : List (Program.Exchange Query Query.Answer))
        (v : Argument), Lookup.Ends (parseValue place own.kind raw).run t (.ok (.ok v)) →
        ∃ x, p.kind.type.read? v = some x) ∧
    (¬ p.kind.ItemsCover own.kind →
      ∃ v x, own.kind.type.read? v = some x ∧ p.kind.type.read? v = none) := by
  have hfirst : invoked.IsFirstNamed p.name own := hname ▸ isFirstNamed_of_nodup hnames hown
  have htag := (compatibleWith_of_checkCompatible hchecked p hp).same_kind own hfirst
  rw [Kind.itemsCover_iff_covers htag]
  constructor
  · intro hcovers place raw t v hparsed
    obtain ⟨x, hread, -⟩ := (conforms_of_yields ⟨t, hparsed⟩).reads
    exact hcovers.reads ⟨x, hread⟩
  · intro hother
    rw [ArgumentType.covers_iff, not_forall] at hother
    obtain ⟨v, hv⟩ := hother
    obtain ⟨⟨x, hread⟩, hunread⟩ := Classical.not_imp.1 hv
    exact ⟨v, x, hread, Option.eq_none_iff_forall_ne_some.2 fun y hy => hunread ⟨y, hy⟩⟩

/-- Rows of floats. -/
def rowsOfFloats : Parameter :=
  .ofRequired "rows" (.list (.list (.float none none []) 0 none) 1 none)

/-- Rows of whole numbers. -/
def rowsOfNumbers : Parameter :=
  .ofRequired "rows" (.list (.list (.integer none none []) 0 none) 1 none)

/-- A command with one parameter that invokes its parent. -/
def delegating (id : String) (path : List String) (p : Parameter) : Command :=
  { Command.ofPath id ⟨path⟩ with settings := { invokeParent := true }, parameters := [p] }

/-- Rows of whole numbers are accepted where rows of floats are asked for, and are read as such. -/
theorem rows_of_numbers_are_read_as_floats :
    checkCompatible (delegating "sum" ["sum"] rowsOfFloats)
        (delegating "sum.whole" ["sum", "whole"] rowsOfNumbers) = .ok () ∧
      rowsOfFloats.kind.ItemsCover rowsOfNumbers.kind ∧
      Lookup.Ends (parseValue ⟨none, ⟨1⟩⟩ rowsOfNumbers.kind (.text "\"7 -8\" \"\"")).run []
        (.ok (.ok (.list ([[7, -8], []].map fun ns => .list (ns.map .integer))))) ∧
      ∃ x, rowsOfFloats.kind.type.read?
        (.list ([[7, -8], []].map fun ns => .list (ns.map .integer))) = some x := by
  have hchecked : checkCompatible (delegating "sum" ["sum"] rowsOfFloats)
      (delegating "sum.whole" ["sum", "whole"] rowsOfNumbers) = .ok () := rfl
  have hitems : rowsOfFloats.kind.ItemsCover rowsOfNumbers.kind :=
    ArgumentType.Covers.list .wholeNumbers
  have htokens : Token.allOf (Text.trimmed "\"7 -8\" \"\"") =
      [[7, -8], []].map Primitive.decimals := by
    decide +kernel
  have hrow : ∀ ns, parseValue ⟨none, ⟨1⟩⟩ (.list (.integer none none []) 0 none)
      (.text (Primitive.decimals ns)) = pure (.list (ns.map .integer)) := by
    intro ns
    exact parseValue_list rfl (Primitive.allOf_decimals ns) (parseValue_integer _) (Nat.zero_le _)
  have hrows : parseValue ⟨none, ⟨1⟩⟩ rowsOfNumbers.kind (.text "\"7 -8\" \"\"") =
      pure (.list ([[7, -8], []].map fun ns => .list (ns.map .integer))) :=
    parseValue_list rfl htokens hrow (by decide)
  have hparsed : Lookup.Ends
      (parseValue ⟨none, ⟨1⟩⟩ rowsOfNumbers.kind (.text "\"7 -8\" \"\"")).run []
      (.ok (.ok (.list ([[7, -8], []].map fun ns => .list (ns.map .integer))))) := by
    rw [hrows]
    exact .done _
  refine ⟨hchecked, hitems, hparsed, ?_⟩
  exact (accepted_arguments_are_read hchecked (by decide) (List.mem_singleton_self rowsOfFloats)
    (List.mem_singleton_self rowsOfNumbers) rfl).1 hitems _ _ _ _ hparsed

/-- A list of numbers. -/
def numbersParameter : Parameter := .ofRequired "xs" (.list (.integer none none []) 1 none)

/-- A list of words. -/
def wordsParameter : Parameter := .ofRequired "xs" (.list (.string none none [] false) 1 none)

/-- A list of words is accepted where the ancestor asks for a list of numbers, and what is parsed
for it is not read as numbers. -/
theorem words_are_not_read_as_numbers :
    let ancestor := delegating "sum" ["sum"] numbersParameter
    let invoked := delegating "sum.words" ["sum", "words"] wordsParameter
    (ancestor.parameters.map (·.name)).Nodup ∧ (invoked.parameters.map (·.name)).Nodup ∧
      checkCompatible ancestor invoked = .ok () ∧
      numbersParameter ∈ ancestor.parameters ∧ wordsParameter ∈ invoked.parameters ∧
      wordsParameter.name = numbersParameter.name ∧
      Lookup.Ends (parseValue ⟨none, ⟨1⟩⟩ wordsParameter.kind (.text "7 8")).run []
        (.ok (.ok (.list (["7", "8"].map .string)))) ∧
      numbersParameter.kind.type.read? (.list (["7", "8"].map .string)) = none := by
  have htokens : Token.allOf (Text.trimmed "7 8") = ["7", "8"].map id := by decide +kernel
  have hparsed : parseValue ⟨none, ⟨1⟩⟩ wordsParameter.kind (.text "7 8") =
      pure (.list (["7", "8"].map .string)) :=
    parseValue_list rfl htokens (parseValue_string _ false) (by decide)
  refine ⟨by decide, by decide, rfl, List.mem_singleton_self _, List.mem_singleton_self _, rfl, ?_,
    rfl⟩
  rw [hparsed]
  exact .done _

end ChatCommands
