import ChatCommands.Json.Shape
import ChatCommands.Proofs.EventMarks
import ChatCommands.Proofs.JsonDocuments
import Mathlib.Data.List.Nodup

set_option autoImplicit false

/-!
# JSON forms

A value of a type is written as a record some of whose fields may be left out. `Json.fieldsOf` makes
the fields of such a record from the values that are there, and `Json.fields?_fieldsOf` finds the
values again. What the shapes of values find in a written value is told beside them: words, optional
values, lists and maps. `Kept` holds of a value and its form when reading the form, as it is or as a
document, gives the value back and the form has the fields that its layout says.
-/

namespace ChatCommands

namespace Json

/-! ## Values that can be written -/

theorem itemsPlain_iff (js : List Json) : itemsPlain js = true ↔ ∀ j ∈ js, j.isPlain = true := by
  induction js with
  | nil => simp [itemsPlain]
  | cons j js ih => simp [itemsPlain, ih]

theorem fieldsPlain_iff (fs : List (String × Json)) :
    fieldsPlain fs = true ↔ ∀ f ∈ fs, f.2.isPlain = true := by
  induction fs with
  | nil => simp [fieldsPlain]
  | cons f fs ih => simp [fieldsPlain, ih]

theorem itemsSound_iff (n : Nat) (js : List Json) :
    itemsSound n js = true ↔ ∀ j ∈ js, j.isSound n = true := by
  induction js with
  | nil => simp [itemsSound]
  | cons j js ih => simp [itemsSound, ih]

theorem fieldsSound_iff (n : Nat) (fs : List (String × Json)) :
    fieldsSound n fs = true ↔ ∀ f ∈ fs, f.2.isSound n = true := by
  induction fs with
  | nil => simp [fieldsSound]
  | cons f fs ih => simp [fieldsSound, ih]

/-- The value can be written down and read back: its numbers are whole and fit a word, and it is
nested no deeper than `levels`. -/
structure Writable (levels : Nat) (j : Json) : Prop where
  isPlain : j.isPlain = true
  isSound : j.isSound levels = true

@[simp] theorem writable_null (n : Nat) : Writable n .null := ⟨by simp [isPlain], by simp [isSound]⟩

@[simp] theorem writable_bool (n : Nat) (b : Bool) : Writable n (.bool b) :=
  ⟨by simp [isPlain], by simp [isSound]⟩

@[simp] theorem writable_text (n : Nat) (s : String) : Writable n (.text s) :=
  ⟨by simp [isPlain], by simp [isSound]⟩

/-- A number that fits a word is written in full and read back as the same number. -/
theorem writable_int {i : Int} (h : fitsWord i = true) (n : Nat) : Writable n (.int i) :=
  ⟨by simpa [isPlain] using h, by simp [isSound]⟩

@[simp] theorem writable_ofWord (n : Nat) (w : UInt64) : Writable n (ofWord w) := by
  refine writable_int ?_ n
  have hbound : w.toNat < 2 ^ 64 := w.toNat_lt
  have hlow : -0x8000000000000000 ≤ (w.toNat : Int) := by omega
  have hhigh : (w.toNat : Int) ≤ Text.maxWord64 := by
    simp only [Text.maxWord64]
    omega
  simp [fitsWord, hlow, hhigh]

/-- A list stands one level deeper than its items. -/
theorem writable_list {n : Nat} {js : List Json} (h : ∀ j ∈ js, Writable n j) :
    Writable (n + 1) (.list js) := by
  constructor
  · rw [isPlain, itemsPlain_iff]
    exact fun j hj => (h j hj).isPlain
  · rw [isSound, itemsSound_iff]
    exact fun j hj => (h j hj).isSound

/-- A record stands one level deeper than the values of its fields. -/
theorem writable_record {n : Nat} {fs : List (String × Json)} (h : ∀ f ∈ fs, Writable n f.2) :
    Writable (n + 1) (.record fs) := by
  constructor
  · rw [isPlain, fieldsPlain_iff]
    exact fun f hf => (h f hf).isPlain
  · rw [isSound, fieldsSound_iff]
    exact fun f hf => (h f hf).isSound

/-! ## Fields that may be left out -/

/-- The fields of a record whose values are there. -/
def fieldsOf (rows : List (String × Option Json)) : List (String × Json) :=
  rows.flatMap fun row => optionalField row.1 row.2

theorem fieldsOf_cons (row : String × Option Json) (rows : List (String × Option Json)) :
    fieldsOf (row :: rows) = optionalField row.1 row.2 ++ fieldsOf rows := rfl

/-- The fields of a record are the rows that have a value. -/
theorem mem_fieldsOf {rows : List (String × Option Json)} {f : String × Json} :
    f ∈ fieldsOf rows ↔ (f.1, some f.2) ∈ rows := by
  obtain ⟨name, j⟩ := f
  induction rows with
  | nil => simp [fieldsOf]
  | cons row rows ih =>
    obtain ⟨name', value⟩ := row
    rw [fieldsOf_cons, List.mem_append, ih, List.mem_cons]
    cases value <;> simp [optionalField]

theorem valuesOf_append (name : String) (fs gs : List (String × Json)) :
    valuesOf name (fs ++ gs) = valuesOf name fs ++ valuesOf name gs := by
  simp [valuesOf]

theorem valuesOf_optionalField (name name' : String) (value : Option Json) :
    valuesOf name (optionalField name' value) = if name' = name then value.toList else [] := by
  cases value with
  | none => simp [valuesOf, optionalField]
  | some j => by_cases h : name' = name <;> simp [valuesOf, optionalField, h]

/-- A name that no row has is not found. -/
theorem valuesOf_fieldsOf_of_not_mem {name : String} {rows : List (String × Option Json)}
    (h : name ∉ rows.map (·.1)) : valuesOf name (fieldsOf rows) = [] := by
  induction rows with
  | nil => rfl
  | cons row rows ih =>
    simp only [List.map_cons, List.mem_cons, not_or] at h
    rw [fieldsOf_cons, valuesOf_append, valuesOf_optionalField, if_neg (Ne.symm h.1), ih h.2]
    rfl

/-- Each name has the value of its row, if names are not repeated. -/
theorem valuesOf_fieldsOf {rows : List (String × Option Json)} (hnodup : (rows.map (·.1)).Nodup)
    {row : String × Option Json} (hrow : row ∈ rows) :
    valuesOf row.1 (fieldsOf rows) = row.2.toList := by
  induction rows with
  | nil => cases hrow
  | cons first rows ih =>
    obtain ⟨hnot, hnodup⟩ := List.nodup_cons.1 hnodup
    rw [fieldsOf_cons, valuesOf_append, valuesOf_optionalField]
    rcases List.mem_cons.1 hrow with rfl | hrow
    -- no later row has the name of the first one, and the first one has no name of a later row
    · rw [if_pos rfl, valuesOf_fieldsOf_of_not_mem hnot, List.append_nil]
    · have hother : first.1 ≠ row.1 := fun h => hnot (List.mem_map.2 ⟨row, hrow, h.symm⟩)
      rw [if_neg hother, List.nil_append, ih hnodup hrow]

theorem single?_toList (value : Option Json) : single? value.toList = some value := by
  cases value <;> rfl

/-- The values of the fields are found again by their names. -/
theorem recordFields?_fieldsOf (rows : List (String × Option Json))
    (hnodup : (rows.map (·.1)).Nodup) :
    recordFields? (rows.map (·.1)) (.record (fieldsOf rows)) = some (rows.map (·.2)) := by
  -- the names are read one by one, each out of the whole record
  have hrows : ∀ rows' : List (String × Option Json), (∀ row ∈ rows', row ∈ rows) →
      (rows'.map (·.1)).mapM (fun name => single? (valuesOf name (fieldsOf rows))) =
        some (rows'.map (·.2)) := by
    intro rows' hsub
    induction rows' with
    | nil => rfl
    | cons row rows' ih =>
      obtain ⟨hrow, hsub⟩ := List.forall_mem_cons.1 hsub
      simp only [List.map_cons, List.mapM_cons, valuesOf_fieldsOf hnodup hrow, single?_toList,
        ih hsub]
      rfl
  exact hrows rows fun _ h => h

/-- Looking for the names of the rows, in their order, finds what was written of each of them. -/
theorem fields?_fieldsOf {j : Json} {rows : List (String × Option Json)}
    (hj : j = .record (fieldsOf rows)) (hnodup : (rows.map (·.1)).Nodup) :
    fields? (rows.map (·.1)) j = some (rows.map (·.2)) := by
  rw [hj]
  exact recordFields?_fieldsOf rows hnodup

theorem writable_fieldsOf {n : Nat} {j : Json} {rows : List (String × Option Json)}
    (hj : j = .record (fieldsOf rows)) (h : ∀ row ∈ rows, ∀ j ∈ row.2, Writable n j) :
    Writable (n + 1) j := by
  rw [hj]
  exact writable_record fun _ hf => h _ (mem_fieldsOf.1 hf) _ rfl

/-! ## What shapes find -/

@[simp] theorem text?_text (s : String) : text? (.text s) = some s := rfl

@[simp] theorem bool?_bool (b : Bool) : bool? (.bool b) = some b := rfl

@[simp] theorem required_some {α : Type} (shape : Json → Option α) (j : Json) :
    required shape (some j) = shape j := rfl

@[simp] theorem withDefault_some {α : Type} (dflt : α) (shape : Json → Option α) (j : Json) :
    withDefault dflt shape (some j) = shape j := rfl

@[simp] theorem word?_ofWord (w : UInt64) : word? (ofWord w) = some w := by
  have hbound : (w.toNat : Int) ≤ Text.maxWord64 := by
    have := w.toNat_lt
    simp only [Text.maxWord64]
    omega
  simp [word?, ofWord, hbound]

/-- A value other than null is not taken for an absent one. -/
theorem nullable?_of_ne_null {α : Type} (shape : Json → Option α) {j : Json} (h : j ≠ .null) :
    nullable? shape j = (shape j).map some := by
  cases j
  case null => exact absurd rfl h
  all_goals rfl

/-- An optional value is found again, whether it is left out when it is absent or
written as null. -/
theorem nullable?_written {α : Type} {shape : Json → Option α} {f : α → Json}
    (hnull : shape .null = none) (hf : ∀ a, shape (f a) = some a) (a? : Option α) :
    withDefault none (nullable? shape) (a?.map f) = some a? ∧
      nullable? shape (ofOption f a?) = some a? := by
  cases a? with
  | none => exact ⟨rfl, rfl⟩
  | some a =>
    -- null is no value of the shape, so the value is not written as null
    have hne : f a ≠ .null := by
      intro h
      have hsome := hf a
      rw [h, hnull] at hsome
      cases hsome
    have hfound : nullable? shape (f a) = some (some a) := by
      rw [nullable?_of_ne_null shape hne, hf]
      rfl
    exact ⟨hfound, hfound⟩

/-- An optional value that is left out when it is absent is found again. -/
theorem withDefault_map {α : Type} {shape : Json → Option α} {f : α → Json} {a? : Option α}
    (h : ∀ a ∈ a?, shape (f a) = some a) :
    withDefault none (fun j => (shape j).map some) (a?.map f) = some a? := by
  cases a? with
  | none => rfl
  | some a => rw [Option.map_some, withDefault_some, h a rfl, Option.map_some]

/-- A list is read back when each of its items is. -/
theorem listOf?_map {α : Type} {shape : Json → Option α} {f : α → Json} {as : List α}
    (h : ∀ a ∈ as, shape (f a) = some a) : listOf? shape (.list (as.map f)) = some as :=
  mapM_map_eq_some h

/-! ## Maps -/

/-- An entry put among others: in the place of the one of its name, or else at the end. -/
def putEntry (kept : List (String × Json)) (f : String × Json) : List (String × Json) :=
  if kept.any (·.1 == f.1) then kept.map fun e => if e.1 == f.1 then f else e else kept ++ [f]

theorem entries_eq (fields : List (String × Json)) : entries fields = fields.foldl putEntry [] :=
  rfl

/-- A new key is put at the end. -/
theorem putEntry_of_new {kept : List (String × Json)} {f : String × Json}
    (h : f.1 ∉ kept.map (·.1)) : putEntry kept f = kept ++ [f] := by
  have hnew : ¬ kept.any (·.1 == f.1) = true := by simpa using h
  rw [putEntry, if_neg hnew]

/-- No key is kept twice: a later value takes the place of the earlier one. -/
theorem nodup_putEntry {kept : List (String × Json)} (h : (kept.map (·.1)).Nodup)
    (f : String × Json) : ((putEntry kept f).map (·.1)).Nodup := by
  by_cases hnew : f.1 ∈ kept.map (·.1)
  -- a name that has an entry keeps its place
  · have hany : kept.any (·.1 == f.1) = true := by simpa using hnew
    have hnames : (kept.map fun e => if e.1 == f.1 then f else e).map (·.1) = kept.map (·.1) := by
      rw [List.map_map]
      refine List.map_congr_left fun e _ => ?_
      by_cases hsame : e.1 = f.1 <;> simp [hsame]
    rw [putEntry, if_pos hany, hnames]
    exact h
  · rw [putEntry_of_new hnew, List.map_append, List.map_singleton, ← List.concat_eq_append]
    exact h.concat hnew

/-- The entries of a map have names of their own. -/
theorem nodup_entries (fields : List (String × Json)) : ((entries fields).map (·.1)).Nodup := by
  rw [entries_eq]
  refine List.foldlRecOn (motive := fun kept => (kept.map (·.1)).Nodup) fields putEntry ?_ ?_
  · exact List.nodup_nil
  · exact fun _ h f _ => nodup_putEntry h f

theorem foldl_putEntry {fs kept : List (String × Json)} (h : ((kept ++ fs).map (·.1)).Nodup) :
    fs.foldl putEntry kept = kept ++ fs := by
  induction fs generalizing kept with
  | nil => rw [List.foldl_nil, List.append_nil]
  | cons f fs ih =>
    have hsplit : kept ++ f :: fs = (kept ++ [f]) ++ fs := by simp
    rw [hsplit] at h ⊢
    -- the name is new among the entries kept so far
    have hnew : f.1 ∉ kept.map (·.1) := by
      have hkept : ((kept ++ [f]).map (·.1)).Nodup := by
        rw [List.map_append] at h
        exact h.of_append_left
      rw [List.map_append, List.nodup_append] at hkept
      exact fun hmem => hkept.2.2 _ hmem f.1 (by simp) rfl
    rw [List.foldl_cons, putEntry_of_new hnew, ih h]

/-- Fields whose names are not repeated are the entries of the map. -/
theorem entries_of_nodup {fields : List (String × Json)} (h : (fields.map (·.1)).Nodup) :
    entries fields = fields :=
  foldl_putEntry h

theorem mapOf?_record {α : Type} (shape : Json → Option α) (fields : List (String × Json)) :
    mapOf? shape (.record fields) =
      if fields.all fun f => (shape f.2).isSome then
        (entries fields).mapM fun f => (shape f.2).map (f.1, ·)
      else none := rfl

/-- A map is read back from the record of its values. -/
theorem mapOf?_map {α : Type} {shape : Json → Option α} {f : α → Json} {kvs : List (String × α)}
    (hnodup : (kvs.map (·.1)).Nodup) (h : ∀ kv ∈ kvs, shape (f kv.2) = some kv.2) :
    mapOf? shape (.record (kvs.map fun kv => (kv.1, f kv.2))) = some kvs := by
  have hkeys : ((kvs.map fun kv => (kv.1, f kv.2)).map (·.1)).Nodup := by
    rw [List.map_map]
    exact hnodup
  have hall : (kvs.map fun kv => (kv.1, f kv.2)).all (fun e => (shape e.2).isSome) = true := by
    rw [List.all_map, List.all_eq_true]
    intro kv hkv
    simp [h kv hkv]
  rw [mapOf?_record, if_pos hall, entries_of_nodup hkeys]
  exact mapM_map_eq_some fun kv hkv => by simp [h kv hkv]

/-- Reading entries for values of their own names keeps the names. -/
theorem names_of_mapM {α : Type} {read? : String × Json → Option (String × α)}
    (hread : ∀ e kv, read? e = some kv → kv.1 = e.1) {es : List (String × Json)}
    {kvs : List (String × α)} (h : es.mapM read? = some kvs) : kvs.map (·.1) = es.map (·.1) := by
  have hmap := map_eq_of_mapM h
  clear h
  induction es generalizing kvs with
  | nil =>
    obtain rfl : kvs = [] := by simpa using hmap
    rfl
  | cons e es ih =>
    cases kvs with
    | nil => cases hmap
    | cons kv kvs =>
      obtain ⟨hkv, hkvs⟩ := List.cons.inj hmap
      rw [List.map_cons, List.map_cons, hread e kv hkv, ih hkvs]

/-- What is read of a map has no key twice, whatever the record repeats. -/
theorem nodup_of_mapOf? {α : Type} {shape : Json → Option α} {j : Json} {kvs : List (String × α)}
    (h : mapOf? shape j = some kvs) : (kvs.map (·.1)).Nodup := by
  cases j with
  | record fields =>
    rw [mapOf?_record] at h
    obtain ⟨-, hread⟩ := Option.ite_none_right_eq_some.1 h
    have hnames : kvs.map (·.1) = (entries fields).map (·.1) := by
      refine names_of_mapM (fun e kv h => ?_) hread
      obtain ⟨a, -, rfl⟩ := Option.map_eq_some_iff.1 h
      rfl
    rw [hnames]
    exact nodup_entries fields
  | _ => cases h

theorem nodup_of_withDefault {α : Type} {shape : Json → Option α} {j? : Option Json}
    {kvs : List (String × α)} (h : withDefault [] (mapOf? shape) j? = some kvs) :
    (kvs.map (·.1)).Nodup := by
  cases j? with
  | none =>
    obtain rfl := Option.some.inj h
    exact List.nodup_nil
  | some j => exact nodup_of_mapOf? h

theorem exists_of_required {α : Type} {shape : Json → Option α} {j? : Option Json} {a : α}
    (h : required shape j? = some a) : ∃ j, shape j = some a := by
  cases j? with
  | none => cases h
  | some j => exact ⟨j, h⟩

theorem exists_of_withDefault {α : Type} {shape : Json → Option α} {j? : Option Json}
    {a? : Option α}
    (h : withDefault none (fun j => (shape j).map some) j? = some a?) {a : α} (ha : a ∈ a?) :
    ∃ j, shape j = some a := by
  obtain rfl := Option.mem_def.1 ha
  cases j? with
  | none => cases h
  | some j =>
    obtain ⟨b, hb, hab⟩ := Option.map_eq_some_iff.1 h
    obtain rfl := Option.some.inj hab
    exact ⟨j, hb⟩

/-- The tag and the payload stand in a record in either order. -/
theorem tagged?_record (leadingTag? : Json → Option String) (tag : String) (body : Json) :
    tagged? leadingTag? (.record [("type", .text tag), ("payload", body)]) = some (tag, body) ∧
      tagged? leadingTag? (.record [("payload", body), ("type", .text tag)]) = some (tag, body) :=
  ⟨rfl, rfl⟩

/-- The record with its fields in opposite order. -/
def reversed : Json → Json
  | .record fields => .record fields.reverse
  | j => j

/-! ## Layouts -/

/-- The value is a record with the fields that the layout has as present, in its order. -/
def IsLaidOut (j : Json) (layout : List (String × Bool)) : Prop :=
  ∃ fields, j = .record fields ∧ fields.map (·.1) = (layout.filter (·.2)).map (·.1)

/-- A record of rows is laid out as they are: a field for each row that has a value. -/
theorem isLaidOut_fieldsOf {j : Json} {rows : List (String × Option Json)}
    {layout : List (String × Bool)}
    (hj : j = .record (fieldsOf rows))
    (hlayout : rows.map (fun row => (row.1, row.2.isSome)) = layout) : j.IsLaidOut layout := by
  refine ⟨_, hj, ?_⟩
  subst hlayout
  clear hj
  induction rows with
  | nil => rfl
  | cons row rows ih =>
    obtain ⟨name, value⟩ := row
    rw [fieldsOf_cons, List.map_append, ih]
    cases value <;> rfl

end Json

/-- The JSON form of a value keeps it: the value is read back from its form and from its form as a
document, and the form has the fields of the layout. -/
structure Kept {α : Type} (ofJson? : Json → Option α) (a : α) (j : Json)
    (layout : List (String × Bool)) : Prop where
  value : ofJson? j = some a
  document : (Json.parse j.render).bind ofJson? = some a
  layout : j.IsLaidOut layout

/-- A form keeps a value that is read back from a document which can be written. -/
theorem kept_of_writable {α : Type} {ofJson? : Json → Option α} {a : α} {j : Json}
    {layout : List (String × Bool)} (hvalue : ofJson? j = some a)
    (hwritable : j.Writable Json.maxDepth) (hlayout : j.IsLaidOut layout) :
    Kept ofJson? a j layout := by
  refine ⟨hvalue, ?_, hlayout⟩
  rw [Json.parse_render hwritable.isPlain hwritable.isSound]
  exact hvalue

end ChatCommands
