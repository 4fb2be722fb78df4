import ChatCommands.Argument.Parsing
import ChatCommands.Argument.Typed
import ChatCommands.Proofs.InteractionRuns
import ChatCommands.Proofs.TokenStreams
import Mathlib.Data.List.TakeWhile

set_option autoImplicit false

/-!
# Parsed arguments conform to their kind

`Kind.Conforms` says what a kind admits, apart from how arguments are read: the constructor, the
limits, the choices, and for lists the same of every item. Whatever raw argument is given and
whatever the directory answers, what parsing yields conforms to the kind (`conforms_of_yields`), and
is read back by the type of the kind: `parsed_value_conforms`.
-/

namespace ChatCommands

open Reference (Place)

/-! ## What kinds admit -/

/-- The filename ends in a point and one of the extensions, in either case, and has
no point after it. -/
def HasExtension (filename : String) (extensions : List String) : Prop :=
  ∃ stem ext, filename.toList = stem ++ '.' :: ext ∧ '.' ∉ ext ∧
    ∃ x ∈ extensions, Text.sameIgnoringCase x.toList ext = true

/-- `kind.Conforms v` holds of the values that the kind admits. -/
inductive Kind.Conforms : Kind → Argument → Prop where
  | string {min max : Option Nat} {choices : List String} {merges : Bool} {text : String}
      (least : ∀ m ∈ min, m ≤ text.length) (most : ∀ m ∈ max, text.length ≤ m)
      (chosen : choices ≠ [] → text ∈ choices) :
      Conforms (.string min max choices merges) (.string text)
  | boolean (b : Bool) : Conforms .boolean (.boolean b)
  | integer {min max : Option Int64} {choices : List Int64} {n : Int64}
      (least : ∀ m ∈ min, m ≤ n) (most : ∀ m ∈ max, n ≤ m) (chosen : choices ≠ [] → n ∈ choices) :
      Conforms (.integer min max choices) (.integer n)
  /-- Floats are compared as floats: what is not a number is neither below nor above a limit. -/
  | float {min max : Option Float} {choices : List Float} {x : Float}
      (least : ∀ m ∈ min, ¬ x < m) (most : ∀ m ∈ max, ¬ m < x)
      (chosen : choices ≠ [] → ∃ c ∈ choices, (x == c) = true) :
      Conforms (.float min max choices) (.float x)
  | id (kind : IdKind) (n : UInt64) : Conforms (.id kind) (.id n)
  | user (u : User) : Conforms .user (.user u)
  | role (r : Role) : Conforms .role (.role r)
  | channel {kinds : List ChannelKind} {c : Channel} (among : kinds ≠ [] → c.kind ∈ kinds) :
      Conforms (.channel kinds) (.channel c)
  | message (m : Message) : Conforms .message (.message m)
  | attachment {maxSize : Option UInt64} {extensions : List String} {a : Attachment}
      (most : ∀ m ∈ maxSize, a.size ≤ m)
      (among : extensions ≠ [] → HasExtension a.filename extensions) :
      Conforms (.attachment maxSize extensions) (.attachment a)
  | list {item : Kind} {minItems : Nat} {maxItems : Option Nat} {items : List Argument}
      (least : minItems ≤ items.length) (most : ∀ m ∈ maxItems, items.length ≤ m)
      (each : ∀ v ∈ items, Conforms item v) : Conforms (.list item minItems maxItems) (.list items)

/-! ## Checks -/

theorem Except.exists_of_bind_eq_ok {ε α β : Type} {x : Except ε α} {f : α → Except ε β} {b : β}
    (h : x >>= f = .ok b) : ∃ a, x = .ok a ∧ f a = .ok b := by
  cases x with
  | ok a => exact ⟨a, rfl, h⟩
  | error e => cases h

namespace Primitive

variable {α : Type}

theorem filter_eq_none_iff {limit : Option α} {p : α → Bool} :
    limit.filter p = none ↔ ∀ m ∈ limit, p m = false := by
  simp [Option.filter_eq_none_iff]

/-- What passes the check of limits is unchanged, and within them. -/
theorem checkRange_eq_ok_iff {scale : Scale α} {value v : α} {min max : Option α} :
    checkRange scale value min max = .ok v ↔
      v = value ∧ (∀ m ∈ min, scale.below v m = false) ∧ ∀ m ∈ max, scale.below m v = false := by
  constructor
  · intro h
    rw [checkRange] at h
    split at h
    · cases h
    · cases h
    · rename_i hmin hmax
      obtain rfl := Except.ok.inj h
      exact ⟨rfl, filter_eq_none_iff.1 hmin, filter_eq_none_iff.1 hmax⟩
  · rintro ⟨rfl, hmin, hmax⟩
    rw [checkRange, filter_eq_none_iff.2 hmin, filter_eq_none_iff.2 hmax]

theorem checkChoices_eq_ok_iff [BEq α] {value v : α} {choices : List α} :
    checkChoices value choices = .ok v ↔
      v = value ∧ (choices ≠ [] → ∃ c ∈ choices, (v == c) = true) := by
  rw [checkChoices]
  split
  · rename_i hchosen
    rw [Bool.or_eq_true, List.isEmpty_iff, List.contains_iff_exists_mem_beq] at hchosen
    rw [Except.ok.injEq]
    constructor
    · rintro rfl
      exact ⟨rfl, fun hne => hchosen.resolve_left hne⟩
    · rintro ⟨rfl, -⟩
      rfl
  · rename_i hother
    simp only [reduceCtorEq, false_iff]
    rintro ⟨rfl, hchoice⟩
    rw [Bool.or_eq_true, List.isEmpty_iff, List.contains_iff_exists_mem_beq, not_or] at hother
    exact hother.2 (hchoice hother.1)

theorem checkLength_eq_ok_iff {value v : String} {min max : Option Nat} :
    checkLength value min max = .ok v ↔
      v = value ∧ (∀ m ∈ min, m ≤ v.length) ∧ ∀ m ∈ max, v.length ≤ m := by
  constructor
  · intro h
    rw [checkLength] at h
    split at h
    · cases h
    · cases h
    · rename_i hmin hmax
      obtain rfl := Except.ok.inj h
      exact ⟨rfl, by simpa using filter_eq_none_iff.1 hmin,
        by simpa using filter_eq_none_iff.1 hmax⟩
  · rintro ⟨rfl, hmin, hmax⟩
    rw [checkLength, filter_eq_none_iff.2 (by simpa using hmin),
      filter_eq_none_iff.2 (by simpa using hmax)]

/-- A number that passes both checks is within the limits, and one of the choices. -/
theorem checks_eq_ok_iff [BEq α] {scale : Scale α} {value : α} {min max : Option α}
    {choices : List α} {argument : α → Argument} {v : Argument} :
    (do
      let x ← checkRange scale value min max
      return argument (← checkChoices x choices)) = (Except.ok v : Except ArgumentError Argument) ↔
      v = argument value ∧ (∀ m ∈ min, scale.below value m = false) ∧
        (∀ m ∈ max, scale.below m value = false) ∧
        (choices ≠ [] → ∃ c ∈ choices, (value == c) = true) := by
  constructor
  · intro h
    obtain ⟨x, hrange, h⟩ := Except.exists_of_bind_eq_ok h
    obtain ⟨chosen, hchosen, h⟩ := Except.exists_of_bind_eq_ok h
    obtain rfl := Except.ok.inj h
    obtain ⟨rfl, hmin, hmax⟩ := checkRange_eq_ok_iff.1 hrange
    obtain ⟨rfl, hchoice⟩ := checkChoices_eq_ok_iff.1 hchosen
    exact ⟨rfl, hmin, hmax, hchoice⟩
  · rintro ⟨rfl, hmin, hmax, hchoice⟩
    rw [checkRange_eq_ok_iff.2 ⟨rfl, hmin, hmax⟩]
    show checkChoices value choices >>= _ = _
    rw [checkChoices_eq_ok_iff.2 ⟨rfl, hchoice⟩]
    rfl

end Primitive

theorem extension?_eq_some_iff {filename : String} {ext : List Char} :
    extension? filename = some ext ↔
      ∃ stem, filename.toList = stem ++ '.' :: ext ∧ '.' ∉ ext := by
  constructor
  · intro h
    rw [extension?] at h
    split at h
    · rename_i hpoint
      obtain rfl := Option.some.inj h
      have hreversed := List.takeWhile_append_dropWhile
        (p := fun c => decide (c ≠ '.')) (l := filename.toList.reverse)
      have hhead := List.head?_dropWhile_not (fun c => decide (c ≠ '.')) filename.toList.reverse
      cases hdrop : filename.toList.reverse.dropWhile fun c => decide (c ≠ '.') with
      -- a text that holds a point is not passed over as a whole
      | nil =>
        rw [List.dropWhile_eq_nil_iff] at hdrop
        have hnone := hdrop '.' (List.mem_reverse.2 (List.contains_iff_mem.1 hpoint))
        simp at hnone
      | cons c r =>
        rw [hdrop] at hreversed hhead
        obtain rfl : c = '.' := by simpa using hhead
        refine ⟨r.reverse, ?_, fun hmem => ?_⟩
        · have hwhole := congrArg List.reverse hreversed
          rw [List.reverse_append, List.reverse_cons, List.append_assoc, List.singleton_append,
            List.reverse_reverse] at hwhole
          exact hwhole.symm
        · have hother := List.mem_takeWhile_imp (List.mem_reverse.1 hmem)
          simp at hother
    · cases h
  · rintro ⟨stem, hfilename, hpoint⟩
    have hother : ∀ c ∈ ext.reverse, decide (c ≠ '.') = true := by
      intro c hc
      exact decide_eq_true fun heq => hpoint (heq ▸ List.mem_reverse.1 hc)
    simp only [extension?, hfilename]
    rw [if_pos (by simp), List.reverse_append, List.reverse_cons, List.append_assoc,
      List.takeWhile_append_of_pos hother]
    simp

theorem checkAttachment_eq_ok_iff {a v : Attachment} {maxSize : Option UInt64}
    {extensions : List String} :
    checkAttachment a maxSize extensions = .ok v ↔
      v = a ∧ (∀ m ∈ maxSize, v.size ≤ m) ∧
        (extensions ≠ [] → HasExtension v.filename extensions) := by
  -- the check of the extension is the disjunction of the two ways to pass it
  have hextension : (extensions.isEmpty || (extension? a.filename).any fun e =>
      extensions.any fun x => Text.sameIgnoringCase x.toList e) = true ↔
        (extensions ≠ [] → HasExtension a.filename extensions) := by
    have hhas : (∃ e, extension? a.filename = some e ∧
        (extensions.any fun x => Text.sameIgnoringCase x.toList e) = true) ↔
          HasExtension a.filename extensions := by
      simp only [extension?_eq_some_iff, List.any_eq_true]
      constructor
      · rintro ⟨ext, ⟨stem, hfilename, hpoint⟩, hadmitted⟩
        exact ⟨stem, ext, hfilename, hpoint, hadmitted⟩
      · rintro ⟨stem, ext, hfilename, hpoint, hadmitted⟩
        exact ⟨ext, ⟨stem, hfilename, hpoint⟩, hadmitted⟩
    rw [Bool.or_eq_true, List.isEmpty_iff, Option.any_eq_true, hhas, or_iff_not_imp_left]
  have hsize : maxSize.filter (· < a.size) = none ↔ ∀ m ∈ maxSize, a.size ≤ m := by
    rw [Primitive.filter_eq_none_iff]
    simp
  constructor
  · intro h
    rw [checkAttachment] at h
    split at h
    · cases h
    · rename_i hnone
      split at h
      · rename_i hadmitted
        obtain rfl := Except.ok.inj h
        exact ⟨rfl, hsize.1 hnone, hextension.1 hadmitted⟩
      · cases h
  · rintro ⟨rfl, hmax, hadmitted⟩
    rw [checkAttachment, hsize.2 hmax]
    exact if_pos (hextension.2 hadmitted)

/-! ## What conversions yield -/

namespace Parse

variable {α β : Type}

/-- The conversion ends with the value, if the directory answers in some way. -/
def Yields (p : Parse α) (a : α) : Prop := ∃ t, Lookup.Ends p.run t (.ok (.ok a))

theorem yields_pure_iff {a b : α} : Yields (pure a) b ↔ b = a := by
  constructor
  · rintro ⟨t, h⟩
    obtain ⟨-, hb⟩ := Lookup.ends_pure_iff.1 h
    exact Except.ok.inj (Except.ok.inj hb)
  · rintro rfl
    exact ⟨[], Lookup.ends_pure_iff.2 ⟨rfl, rfl⟩⟩

theorem not_yields_throw {e : ArgumentError} {a : α} : ¬ Yields (throw e) a := by
  rintro ⟨t, h⟩
  obtain ⟨-, ha⟩ := Lookup.ends_pure_iff.1 h
  cases Except.ok.inj ha

theorem yields_bind_iff {p : Parse α} {f : α → Parse β} {b : β} :
    Yields (p >>= f) b ↔ ∃ a, Yields p a ∧ Yields (f a) b := by
  have hrun : ∀ t, Lookup.Ends (p >>= f).run t (.ok (.ok b)) ↔
      ∃ a t₁ t₂, t = t₁ ++ t₂ ∧ Lookup.Ends p.run t₁ (.ok (.ok a)) ∧
        Lookup.Ends (f a).run t₂ (.ok (.ok b)) := by
    intro t
    rw [ExceptT.run_bind, Lookup.ends_bind_iff]
    constructor
    · rintro (⟨r, t₁, t₂, rfl, h₁, h₂⟩ | ⟨failing, hfailing, -⟩)
      · cases r with
        | ok a => exact ⟨a, t₁, t₂, rfl, h₁, h₂⟩
        -- a refused argument stays refused
        | error e => exact absurd ⟨t₂, h₂⟩ (not_yields_throw (e := e) (a := b))
      · cases hfailing
    · rintro ⟨a, t₁, t₂, rfl, h₁, h₂⟩
      exact Or.inl ⟨.ok a, t₁, t₂, rfl, h₁, h₂⟩
  constructor
  · rintro ⟨t, h⟩
    obtain ⟨a, t₁, t₂, -, h₁, h₂⟩ := (hrun t).1 h
    exact ⟨a, ⟨t₁, h₁⟩, t₂, h₂⟩
  · rintro ⟨a, ⟨t₁, h₁⟩, t₂, h₂⟩
    exact ⟨t₁ ++ t₂, (hrun _).2 ⟨a, t₁, t₂, rfl, h₁, h₂⟩⟩

theorem yields_ofExcept_iff {r : Except ArgumentError α} {a : α} :
    Yields (ofExcept r) a ↔ r = .ok a := by
  cases r with
  | ok b => rw [ofExcept, yields_pure_iff, Except.ok.injEq, eq_comm]
  | error e => exact ⟨fun h => absurd h not_yields_throw, fun h => by cases h⟩

/-- A list of inputs yields as many values, each of them from one of the inputs. -/
theorem of_yields_mapM {f : α → Parse β} {as : List α} {bs : List β}
    (h : Yields (as.mapM f) bs) :
    bs.length = as.length ∧ ∀ b ∈ bs, ∃ a ∈ as, Yields (f a) b := by
  induction as generalizing bs with
  | nil =>
    rw [List.mapM_nil, yields_pure_iff] at h
    rw [h]
    exact ⟨rfl, by simp⟩
  | cons a as ih =>
    rw [List.mapM_cons, yields_bind_iff] at h
    obtain ⟨b, hb, hrest⟩ := h
    obtain ⟨rest, hbelow, hbs⟩ := yields_bind_iff.1 hrest
    obtain ⟨hlength, hfrom⟩ := ih hbelow
    rw [yields_pure_iff.1 hbs, List.length_cons, List.length_cons, hlength]
    refine ⟨rfl, List.forall_mem_cons.2 ⟨⟨a, List.mem_cons_self, hb⟩, fun c hc => ?_⟩⟩
    obtain ⟨a', ha', hc'⟩ := hfrom c hc
    exact ⟨a', List.mem_cons_of_mem a ha', hc'⟩

end Parse

open Parse

theorem kind_mem_of_yields_parseChannel {kinds : List ChannelKind} {raw : String} {c : Channel}
    (h : Yields (parseChannel kinds raw) c) : kinds ≠ [] → c.kind ∈ kinds := by
  intro hne
  obtain ⟨id, -, h⟩ := yields_bind_iff.1 h
  obtain ⟨answer, -, h⟩ := yields_bind_iff.1 h
  obtain ⟨channel, -, h⟩ := yields_bind_iff.1 h
  cases kinds with
  | nil => exact absurd rfl hne
  | cons kind kinds =>
    dsimp only at h
    split at h
    · rename_i hkind
      rw [yields_pure_iff.1 h]
      exact List.contains_iff_mem.1 hkind
    · exact absurd h not_yields_throw

section Conforming

variable {place : Place} {raw : RawArgument} {v : Argument}

theorem conforms_of_yields_string {min max : Option Nat} {choices : List String} {merges : Bool}
    (h : Yields (parseValue place (.string min max choices merges) raw) v) :
    (Kind.string min max choices merges).Conforms v := by
  unfold parseValue at h
  obtain ⟨text, -, h⟩ := Except.exists_of_bind_eq_ok (yields_ofExcept_iff.1 h)
  obtain ⟨checked, hlength, h⟩ := Except.exists_of_bind_eq_ok h
  obtain ⟨chosen, hchosen, h⟩ := Except.exists_of_bind_eq_ok h
  obtain rfl := Except.ok.inj h
  obtain ⟨rfl, hmin, hmax⟩ := Primitive.checkLength_eq_ok_iff.1 hlength
  obtain ⟨rfl, hchoice⟩ := Primitive.checkChoices_eq_ok_iff.1 hchosen
  exact .string hmin hmax (by simpa using hchoice)

theorem conforms_of_yields_integer {min max : Option Int64} {choices : List Int64}
    (h : Yields (parseValue place (.integer min max choices) raw) v) :
    (Kind.integer min max choices).Conforms v := by
  unfold parseValue at h
  obtain ⟨n, -, h⟩ := Except.exists_of_bind_eq_ok (yields_ofExcept_iff.1 h)
  obtain ⟨rfl, hmin, hmax, hchoice⟩ := Primitive.checks_eq_ok_iff.1 h
  refine .integer (fun m hm => ?_) (fun m hm => ?_) (by simpa using hchoice)
  · simpa [Primitive.integers] using hmin m hm
  · simpa [Primitive.integers] using hmax m hm

/-- The checks of a float are passed as they are written, by deciding comparisons of floats. -/
theorem conforms_of_yields_float {min max : Option Float} {choices : List Float}
    (h : Yields (parseValue place (.float min max choices) raw) v) :
    (Kind.float min max choices).Conforms v := by
  unfold parseValue at h
  obtain ⟨x, -, h⟩ := Except.exists_of_bind_eq_ok (yields_ofExcept_iff.1 h)
  obtain ⟨rfl, hmin, hmax, hchoice⟩ := Primitive.checks_eq_ok_iff.1 h
  exact .float (fun m hm => of_decide_eq_false (hmin m hm))
    (fun m hm => of_decide_eq_false (hmax m hm)) hchoice

/-- Only an attachment is parsed as one. -/
theorem conforms_of_yields_attachment {maxSize : Option UInt64} {extensions : List String}
    (h : Yields (parseValue place (.attachment maxSize extensions) raw) v) :
    (Kind.attachment maxSize extensions).Conforms v := by
  unfold parseValue at h
  have h := yields_ofExcept_iff.1 h
  cases raw with
  | attachment a =>
    obtain ⟨checked, hchecked, h⟩ := Except.exists_of_bind_eq_ok h
    obtain rfl := Except.ok.inj h
    obtain ⟨-, hsize, hextension⟩ := checkAttachment_eq_ok_iff.1 hchecked
    exact .attachment hsize hextension
  | text | slot => cases h

/-- A list conforms when whatever is parsed as an item does. -/
theorem conforms_of_yields_list {item : Kind} {minItems : Nat} {maxItems : Option Nat}
    (hitem : ∀ {raw v}, Yields (parseValue place item raw) v → item.Conforms v)
    (h : Yields (parseValue place (.list item minItems maxItems) raw) v) :
    (Kind.list item minItems maxItems).Conforms v := by
  rw [parseValue] at h
  obtain ⟨text, -, h⟩ := yields_bind_iff.1 h
  dsimp only at h
  split at h
  · exact absurd h not_yields_throw
  · rename_i hmost
    obtain ⟨items, hitems, h⟩ := yields_bind_iff.1 h
    obtain ⟨hlength, hfrom⟩ := of_yields_mapM hitems
    split at h
    · exact absurd h not_yields_throw
    · rename_i hleast
      rw [yields_pure_iff.1 h]
      refine .list (Nat.le_of_not_lt hleast) (fun m hm => ?_) (fun value hvalue => ?_)
      -- there are as many items as tokens
      · rw [hlength]
        simpa using Primitive.filter_eq_none_iff.1 hmost m hm
      · obtain ⟨token, -, htoken⟩ := hfrom value hvalue
        exact hitem htoken

end Conforming

/-- What is parsed conforms to the kind, whatever raw argument it is parsed from. -/
theorem conforms_of_yields {place : Place} {kind : Kind} {raw : RawArgument} {v : Argument}
    (h : Yields (parseValue place kind raw) v) : kind.Conforms v := by
  induction kind generalizing raw v with
  | string min max choices merges => exact conforms_of_yields_string h
  | boolean =>
    unfold parseValue at h
    obtain ⟨b, -, h⟩ := Except.exists_of_bind_eq_ok (yields_ofExcept_iff.1 h)
    obtain rfl := Except.ok.inj h
    exact .boolean b
  | integer min max choices => exact conforms_of_yields_integer h
  | float min max choices => exact conforms_of_yields_float h
  | id kind =>
    unfold parseValue at h
    obtain ⟨text, -, h⟩ := Except.exists_of_bind_eq_ok (yields_ofExcept_iff.1 h)
    obtain ⟨n, -, h⟩ := Except.exists_of_bind_eq_ok h
    obtain rfl := Except.ok.inj h
    exact .id kind n
  | user | role | message =>
    rw [parseValue] at h
    obtain ⟨text, -, h⟩ := yields_bind_iff.1 h
    obtain ⟨entity, -, h⟩ := yields_bind_iff.1 h
    rw [yields_pure_iff.1 h]
    constructor
  | channel kinds =>
    rw [parseValue] at h
    obtain ⟨text, -, h⟩ := yields_bind_iff.1 h
    obtain ⟨channel, hchannel, h⟩ := yields_bind_iff.1 h
    rw [yields_pure_iff.1 h]
    exact .channel (kind_mem_of_yields_parseChannel hchannel)
  | attachment maxSize extensions => exact conforms_of_yields_attachment h
  | list item minItems maxItems ih => exact conforms_of_yields_list ih h

/-- The raw argument that holds a value as it is. -/
def Argument.raw? : Argument → Option RawArgument
  | .string s => some (.text s)
  | .boolean b => some (.slot (.boolean b))
  | .integer n => some (.slot (.integer n))
  | .float x => some (.slot (.float x))
  | .attachment a => some (.attachment a)
  | _ => none

/-- A value that conforms, given as it is, is parsed as it is. -/
theorem yields_of_conforms (place : Place) {kind : Kind} {v : Argument} {raw : RawArgument}
    (h : kind.Conforms v) (hraw : v.raw? = some raw) : Yields (parseValue place kind raw) v := by
  cases h with
  | @string min max choices merges s hmin hmax hchoice =>
    obtain rfl := Option.some.inj hraw
    have hchosen : Primitive.checkChoices s choices = .ok s :=
      Primitive.checkChoices_eq_ok_iff.2 ⟨rfl, by simpa using hchoice⟩
    refine yields_ofExcept_iff.2 ?_
    show Primitive.checkLength s min max >>= _ = _
    rw [Primitive.checkLength_eq_ok_iff.2 ⟨rfl, hmin, hmax⟩]
    show Primitive.checkChoices s choices >>= _ = _
    rw [hchosen]
    rfl
  | boolean b =>
    obtain rfl := Option.some.inj hraw
    exact yields_ofExcept_iff.2 rfl
  | integer hmin hmax hchoice =>
    obtain rfl := Option.some.inj hraw
    refine yields_ofExcept_iff.2
      (Primitive.checks_eq_ok_iff.2 ⟨rfl, ?_, ?_, by simpa using hchoice⟩)
    · simpa [Primitive.integers] using hmin
    · simpa [Primitive.integers] using hmax
  | float hmin hmax hchoice =>
    obtain rfl := Option.some.inj hraw
    exact yields_ofExcept_iff.2 (Primitive.checks_eq_ok_iff.2
      ⟨rfl, fun m hm => decide_eq_false (hmin m hm), fun m hm => decide_eq_false (hmax m hm),
        hchoice⟩)
  | @attachment maxSize extensions a hsize hextension =>
    obtain rfl := Option.some.inj hraw
    refine yields_ofExcept_iff.2 ?_
    show checkAttachment a maxSize extensions >>= _ = _
    rw [checkAttachment_eq_ok_iff.2 ⟨rfl, hsize, hextension⟩]
    rfl
  | id | user | role | channel | message | list => cases hraw

/-! ## Reading by type -/

theorem ArgumentType.exists_reads {item : ArgumentType} {items : List Argument}
    (h : ∀ v ∈ items, ∃ x, item.read? v = some x ∧ item.argument x = v) :
    ∃ xs, items.mapM item.read? = some xs ∧ xs.map item.argument = items := by
  induction items with
  | nil => exact ⟨[], rfl, rfl⟩
  | cons v items ih =>
    obtain ⟨x, hread, hback⟩ := h v List.mem_cons_self
    obtain ⟨xs, hreads, hbacks⟩ := ih fun v' hv' => h v' (List.mem_cons_of_mem v hv')
    refine ⟨x :: xs, ?_, by rw [List.map_cons, hback, hbacks]⟩
    rw [List.mapM_cons, hread, hreads]
    rfl

/-- What conforms to a kind is read by the type of the kind, and nothing of it is lost. -/
theorem Kind.Conforms.reads {kind : Kind} {v : Argument} (h : kind.Conforms v) :
    ∃ x, kind.type.read? v = some x ∧ kind.type.argument x = v := by
  induction h with
  | list _ _ _ ih =>
    obtain ⟨xs, hreads, hbacks⟩ := ArgumentType.exists_reads ih
    exact ⟨xs, hreads, congrArg Argument.list hbacks⟩
  | _ => exact ⟨_, rfl, rfl⟩

/-- Every value that parsing yields conforms to its kind, whatever raw argument it is parsed from
and whatever the directory answers, and is read in full by the type of the kind. Conforming is no
more than what parsing checks: a value that conforms, given as it is, is parsed as it is. -/
theorem parsed_value_conforms (place : Place) (kind : Kind) (v : Argument) :
    (∀ raw t, Lookup.Ends (parseValue place kind raw).run t (.ok (.ok v)) →
      kind.Conforms v ∧ ∃ x, kind.type.read? v = some x ∧ kind.type.argument x = v) ∧
    (kind.Conforms v → ∀ raw, v.raw? = some raw →
      ∃ t, Lookup.Ends (parseValue place kind raw).run t (.ok (.ok v))) := by
  refine ⟨fun raw t h => ?_, fun h raw hraw => yields_of_conforms place h hraw⟩
  have hconforms := conforms_of_yields ⟨t, h⟩
  exact ⟨hconforms, hconforms.reads⟩

/-- One or two channels of text or voice. -/
def placesKind : Kind := .list (.channel [.text, .voice]) 1 (some 2)

/-- A channel of voice. -/
def hall : Channel := ⟨⟨3⟩, some ⟨1⟩, .voice, "hall", false⟩

/-- A channel of text. -/
def lobby : Channel := ⟨⟨4⟩, some ⟨1⟩, .text, "lobby", false⟩

theorem places_parsed (place : Place) :
    Lookup.Ends (parseValue place placesKind (.text " <#3>  '4' ")).run
      [⟨.channel ⟨3⟩, (.ok (some hall) : Except Failing (Option Channel))⟩,
        ⟨.channel ⟨4⟩, (.ok (some lobby) : Except Failing (Option Channel))⟩]
      (.ok (.ok (.list [.channel hall, .channel lobby]))) := by
  have htokens : Token.allOf (Text.trimmed " <#3>  '4' ") = ["<#3>", "4"] := by
    have hfirst : Token.split? (Text.trimmed " <#3>  '4' ").toList =
        some ("<#3>".toList, "  '4'".toList) := by decide
    have hsecond : Token.split? "  '4'".toList = some ("4".toList, []) := by decide
    rw [Token.allOf, Token.all_of_split?_some hfirst, Token.all_of_split?_some hsecond,
      Token.all_of_split?_none rfl]
    rfl
  have htext : Parse.ofExcept (RawArgument.asText (.text " <#3>  '4' ")) = pure " <#3>  '4' " := rfl
  rw [placesKind, parseValue, htext, pure_bind, htokens]
  refine .ask ?_
  exact .ask (.done _)

/-- The file of a letter. -/
def letter : Attachment := ⟨⟨5⟩, "a.tar.PDF", 10, "https://cdn.example/a.tar.PDF", none⟩

/-- Both channels are of a kind that is admitted, and are read as a list of channels; a file whose
size and extension are admitted is parsed as it is. -/
theorem places_conform :
    (placesKind.Conforms (.list [.channel hall, .channel lobby]) ∧
      ∃ channels, placesKind.type.read? (.list [.channel hall, .channel lobby]) = some channels ∧
        placesKind.type.argument channels = .list [.channel hall, .channel lobby]) ∧
    ∃ t, Lookup.Ends (parseValue ⟨none, ⟨1⟩⟩ (.attachment (some 10) ["txt", "pdf"])
      (.attachment letter)).run t (.ok (.ok (.attachment letter))) := by
  have hletter : (Kind.attachment (some 10) ["txt", "pdf"]).Conforms (.attachment letter) :=
    .attachment (fun m hm => Option.some.inj hm ▸ (by decide : (10 : UInt64) ≤ 10)) fun _ =>
      ⟨"a.tar".toList, "PDF".toList, rfl, by decide, "pdf", by decide, by decide⟩
  exact ⟨(parsed_value_conforms ⟨none, ⟨1⟩⟩ placesKind _).1 _ _ (places_parsed _),
    (parsed_value_conforms ⟨none, ⟨1⟩⟩ _ _).2 hletter _ rfl⟩

end ChatCommands
