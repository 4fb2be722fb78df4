import ChatCommands.Console.Input
import ChatCommands.Proofs.SharedForms

set_option autoImplicit false

/-!
# JSON forms of events and lines of input

The form of an event keeps it, if no option is a fraction (`Event.kept`). `Event.IsValid` holds
of whatever is read for an event (`Event.isValid_of_ofJson?`): its identifier and its time are
ones that can be written, and no name stands twice among options or attachments. A line of input
says the event or the fault whose document it holds. The main statement is
`shared_values_read_back`, for all types together.
-/

namespace ChatCommands

open Json (text? listOf? nullable? withDefault required fields? recordFields? mapOf? ofWord
  fieldsOf Writable Intake)

/-! ## Marks and slots -/

@[simp] theorem Style.ofName?_name (s : Style) : Style.ofName? s.name = some s := by
  cases s <;> rfl

theorem Uuid.ofJson?_toText {u : Uuid} (h : u.IsValid) :
    Uuid.ofJson? (.text u.toText) = some u := by
  rw [Uuid.ofJson?, Json.text?_text, Option.bind_some, read?_toText h]

theorem Timestamp.ofJson?_toText {t : Timestamp} (h : t.IsValid) :
    Timestamp.ofJson? (.text t.toText) = some t := by
  rw [Timestamp.ofJson?, Json.text?_text, Option.bind_some, read?_toText h]

/-- Only valid identifiers are read. -/
theorem Uuid.isValid_of_ofJson? {j : Json} {u : Uuid} (h : Uuid.ofJson? j = some u) :
    u.IsValid := by
  obtain ⟨_, -, hread⟩ := Option.bind_eq_some_iff.1 h
  exact isValid_of_read? hread

/-- Only valid instants are read. -/
theorem Timestamp.isValid_of_ofJson? {j : Json} {t : Timestamp} (h : Timestamp.ofJson? j = some t) :
    t.IsValid := by
  obtain ⟨_, -, hread⟩ := Option.bind_eq_some_iff.1 h
  exact isValid_of_read? hread

namespace Slot

/-- The value of the slot is a fraction. -/
def isFloat : Slot → Bool
  | .float _ => true
  | _ => false

/-- A value of each kind is taken for one of its own kind. -/
theorem ofJson?_toJson {s : Slot} (h : s.isFloat = false) : ofJson? s.toJson = some s := by
  cases s with
  | boolean b => rfl
  -- a whole number in range is never taken for a fraction
  | integer n =>
    have hfits : Text.fitsInt64 n.toInt = true := by
      have hlow := n.le_toInt
      have hhigh := n.toInt_lt
      simp only [Text.fitsInt64, Bool.and_eq_true, decide_eq_true_eq]
      omega
    simp [toJson, ofJson?, hfits]
  | float x => cases h
  | text s => rfl

theorem writable_toJson {s : Slot} (h : s.isFloat = false) (n : Nat) : Writable n s.toJson := by
  cases s with
  | boolean b => exact Json.writable_bool n b
  | integer i =>
    have hlow : -0x8000000000000000 ≤ i.toInt := i.le_toInt
    have hhigh : i.toInt ≤ Text.maxWord64 := by
      have := i.toInt_lt
      simp only [Text.maxWord64]
      omega
    exact Json.writable_int (by simp [Json.fitsWord, hlow, hhigh]) n
  | float x => cases h
  | text s => exact Json.writable_text n s

end Slot

/-! ## Events -/

namespace Payload

/-- Options and attachments are maps: no name stands twice among them. -/
def IsValid : Payload → Prop
  | .text .. => True
  | .slash _ options attachments => (options.map (·.1)).Nodup ∧ (attachments.map (·.1)).Nodup

/-- An option has a fraction for its value. -/
def hasFloat : Payload → Bool
  | .text .. => false
  | .slash _ options _ => options.any (·.2.isFloat)

theorem isFloat_of_hasFloat {path : List String} {options : List (String × Slot)}
    {attachments : List (String × Attachment)}
    (h : hasFloat (.slash path options attachments) = false)
    {option : String × Slot} (hmem : option ∈ options) : option.2.isFloat = false := by
  simpa using List.any_eq_false.1 h option hmem

/-- The style of call that the payload is of. -/
def style : Payload → Style
  | .text .. => .text
  | .slash .. => .slash

/-- The fields of the payload proper; attachments of a message are left out when there are none. -/
def layout : Payload → List (String × Bool)
  | .text _ _ attachments =>
    [("message_id", true), ("content", true), ("attachments", !attachments.isEmpty)]
  | .slash .. => [("path", true), ("options", true), ("attachments", true)]

/-- What is written of the fields. -/
def rows : Payload → List (String × Option Json)
  | .text message content attachments =>
    [("message_id", some (ofWord message.value)), ("content", some (.text content)),
      ("attachments", attachmentsValue attachments)]
  | .slash path options attachments =>
    [("path", some (.list (path.map .text))),
      ("options", some (.record (options.map fun o => (o.1, o.2.toJson)))),
      ("attachments", some (.record (attachments.map fun a => (a.1, a.2.toJson))))]

/-- The payload proper. -/
def body (p : Payload) : Json := .record (fieldsOf p.rows)

/-- A payload is written behind the name of its style. -/
theorem toJson_eq (p : Payload) :
    p.toJson = .record [("type", .text p.style.name), ("payload", p.body)] := by
  cases p with
  | text message content attachments =>
    rw [toJson, attachmentsField_eq]
    simp [body, rows, style, fieldsOf, Style.name, Json.optionalField]
  | slash path options attachments => rfl

/-- A valid payload without floats is read back. -/
theorem ofJson?_toJson {p : Payload} (h : p.IsValid) (hfloat : p.hasFloat = false) :
    ofJson? p.toJson = some p := by
  have hfields := Json.recordFields?_fieldsOf p.rows (by cases p <;> simp [rows])
  have htagged := (Json.tagged?_record (Json.nameOrPlace? Style.names) p.style.name p.body).1
  rw [ofJson?, toJson_eq, htagged]
  simp only [Option.bind_eq_bind, Option.bind_some, Style.ofName?_name]
  cases p with
  | text message content attachments =>
    have hfields' : recordFields? ["message_id", "content", "attachments"]
        (body (.text message content attachments)) = _ := hfields
    simp [style, hfields', rows]
  | slash path options attachments =>
    obtain ⟨hoptions, hattachments⟩ := h
    have hfields' : recordFields? ["path", "options", "attachments"]
        (body (.slash path options attachments)) = _ := hfields
    have hpath : listOf? text? (.list (path.map .text)) = some path :=
      Json.listOf?_map fun _ _ => rfl
    have hoptions' : mapOf? Slot.ofJson? (.record (options.map fun o => (o.1, o.2.toJson))) =
        some options :=
      Json.mapOf?_map hoptions fun option hmem =>
        Slot.ofJson?_toJson (isFloat_of_hasFloat hfloat hmem)
    have hattachments' : mapOf? Attachment.ofJson?
        (.record (attachments.map fun a => (a.1, a.2.toJson))) = some attachments :=
      Json.mapOf?_map hattachments fun attachment _ => attachment.2.ofJson?_toJson
    simp [style, hfields', rows, hpath, hoptions', hattachments']

theorem writable_body {p : Payload} (hfloat : p.hasFloat = false) (n : Nat) :
    Writable (n + 3) p.body := by
  refine Json.writable_fieldsOf rfl ?_
  cases p with
  | text message content attachments =>
    simpa [rows] using writable_attachmentsValue attachments n
  | slash path options attachments =>
    have hpath : Writable (n + 2) (.list (path.map .text)) := Json.writable_list (by simp)
    have hoptions : Writable (n + 2) (.record (options.map fun o => (o.1, o.2.toJson))) := by
      refine Json.writable_record ?_
      rw [List.forall_mem_map]
      exact fun option hmem => Slot.writable_toJson (isFloat_of_hasFloat hfloat hmem) _
    have hattachments :
        Writable (n + 2) (.record (attachments.map fun a => (a.1, a.2.toJson))) := by
      refine Json.writable_record ?_
      rw [List.forall_mem_map]
      exact fun attachment _ => attachment.2.writable_toJson n
    simp [rows, hpath, hoptions, hattachments]

theorem writable_toJson {p : Payload} (hfloat : p.hasFloat = false) (n : Nat) :
    Writable (n + 4) p.toJson := by
  have hbody := writable_body hfloat n
  rw [toJson_eq]
  exact Json.writable_record (by simpa using hbody)

/-- Whatever is read for a payload is valid. -/
theorem isValid_of_ofJson? {j : Json} {p : Payload} (h : ofJson? j = some p) : p.IsValid := by
  rw [ofJson?] at h
  obtain ⟨⟨tag, body⟩, -, h⟩ := Option.bind_eq_some_iff.1 h
  dsimp only at h
  split at h
  -- a message has no maps; those of an interaction were read as maps
  · obtain ⟨fields, -, h⟩ := Option.bind_eq_some_iff.1 h
    split at h
    · simp only [Option.bind_eq_bind, Option.bind_eq_some_iff, Option.pure_def,
        Option.some.injEq] at h
      obtain ⟨message, -, content, -, attachments, -, rfl⟩ := h
      trivial
    · cases h
  · obtain ⟨fields, -, h⟩ := Option.bind_eq_some_iff.1 h
    split at h
    · simp only [Option.bind_eq_bind, Option.bind_eq_some_iff, Option.pure_def,
        Option.some.injEq] at h
      obtain ⟨path, -, options, hoptions, attachments, hattachments, rfl⟩ := h
      exact ⟨Json.nodup_of_withDefault hoptions, Json.nodup_of_withDefault hattachments⟩
    · cases h
  · cases h

/-- The payload has the fields that its style asks for. -/
theorem isLaidOut_body (p : Payload) : (p.toJson.get "payload").IsLaidOut p.layout := by
  have hbody : p.toJson.get "payload" = p.body := by
    rw [toJson_eq]
    rfl
  rw [hbody]
  refine Json.isLaidOut_fieldsOf (rfl : p.body = .record (fieldsOf p.rows)) ?_
  cases p <;> simp [rows, layout]

end Payload

namespace Event

/-- The parts of the event are valid. -/
structure IsValid (e : Event) : Prop where
  id : ∀ u ∈ e.id, u.IsValid
  receivedAt : ∀ t ∈ e.receivedAt, t.IsValid
  payload : e.payload.IsValid

/-- The fields of an event; the guild may be left out, and so may what is left to the receiver. -/
def layout (e : Event) : List (String × Bool) :=
  [("event_id", e.id.isSome), ("guild_id", e.guild.isSome), ("channel_id", true), ("caller", true),
    ("received_at", e.receivedAt.isSome), ("payload", true)]

/-- What is written of the fields. -/
def rows (e : Event) : List (String × Option Json) :=
  [("event_id", e.id.map fun u => .text u.toText),
    ("guild_id", e.guild.map fun g => ofWord g.value),
    ("channel_id", some (ofWord e.channel.value)), ("caller", some e.caller.toJson),
    ("received_at", e.receivedAt.map fun t => .text t.toText), ("payload", some e.payload.toJson)]

theorem toJson_eq (e : Event) : e.toJson = .record (fieldsOf e.rows) := by
  simp [toJson, rows, fieldsOf, Json.optionalField]

/-- A valid event without floats is read back. -/
theorem ofJson?_toJson {e : Event} (h : e.IsValid) (hfloat : e.payload.hasFloat = false) :
    ofJson? e.toJson = some e := by
  have hfields : fields? ["event_id", "guild_id", "channel_id", "caller", "received_at", "payload"]
      e.toJson = some (e.rows.map (·.2)) :=
    Json.fields?_fieldsOf e.toJson_eq (by simp [rows])
  have hid : withDefault none (fun j => (Uuid.ofJson? j).map some)
      (e.id.map fun u => .text u.toText) = some e.id :=
    Json.withDefault_map fun u hu => Uuid.ofJson?_toText (h.id u hu)
  have hreceivedAt : withDefault none (fun j => (Timestamp.ofJson? j).map some)
      (e.receivedAt.map fun t => .text t.toText) = some e.receivedAt :=
    Json.withDefault_map fun t ht => Timestamp.ofJson?_toText (h.receivedAt t ht)
  rw [ofJson?, hfields]
  simp [rows, hid, hreceivedAt, Payload.ofJson?_toJson h.payload hfloat]

/-- An event holds a payload, which is written behind its style: it stands five levels deep. -/
theorem writable_toJson {e : Event} (hfloat : e.payload.hasFloat = false) (n : Nat) :
    Writable (n + 5) e.toJson := by
  have hpayload := Payload.writable_toJson hfloat n
  exact Json.writable_fieldsOf e.toJson_eq (by simpa [rows] using hpayload)

theorem kept {e : Event} (h : e.IsValid) (hfloat : e.payload.hasFloat = false) :
    Kept ofJson? e e.toJson e.layout :=
  kept_of_writable (ofJson?_toJson h hfloat) (writable_toJson hfloat _)
    (Json.isLaidOut_fieldsOf e.toJson_eq (by simp [rows, layout]))

/-- Whatever is read for an event is valid. -/
theorem isValid_of_ofJson? {j : Json} {e : Event} (h : ofJson? j = some e) : e.IsValid := by
  rw [ofJson?] at h
  obtain ⟨fields, -, h⟩ := Option.bind_eq_some_iff.1 h
  split at h
  · simp only [Option.bind_eq_bind, Option.bind_eq_some_iff, Option.pure_def,
      Option.some.injEq] at h
    obtain ⟨id, hid, guild, -, channel, -, caller, -, receivedAt, hreceivedAt, payload, hpayload,
      rfl⟩ := h
    refine ⟨fun u hu => ?_, fun t ht => ?_, ?_⟩
    · obtain ⟨j, hj⟩ := Json.exists_of_withDefault hid hu
      exact Uuid.isValid_of_ofJson? hj
    · obtain ⟨j, hj⟩ := Json.exists_of_withDefault hreceivedAt ht
      exact Timestamp.isValid_of_ofJson? hj
    · obtain ⟨j, hj⟩ := Json.exists_of_required hpayload
      exact Payload.isValid_of_ofJson? hj
  · cases h

end Event

/-! ## Lines of input -/

namespace Text

/-- A text that begins and ends with no blank is what trimming leaves of it among blanks. -/
theorem trimmed_surrounded {lead tail s : String} (hlead : ∀ c ∈ lead.toList, isBlank c = true)
    (htail : ∀ c ∈ tail.toList, isBlank c = true) {first last : Char} {mid : List Char}
    (hs : s.toList = first :: (mid ++ [last])) (hfirst : isBlank first = false)
    (hlast : isBlank last = false) : trimmed (lead ++ s ++ tail) = s := by
  -- trimming at the start stops at the first character, at the end behind the last one
  have hstart : trimStart (lead.toList ++ (s.toList ++ tail.toList)) = s.toList ++ tail.toList := by
    rw [trimStart, List.dropWhile_append_of_pos hlead, hs]
    exact trimStart_cons hfirst
  have hend : trimEnd (s.toList ++ tail.toList) = s.toList := by
    have hkept : trimEnd [last] = [last] := trimEnd_of_no_blank (by simpa using hlast)
    rw [trimEnd_append, if_pos ((trimEnd_eq_nil_iff _).2 htail), hs, ← List.cons_append,
      trimEnd_append, hkept, if_neg (by simp)]
  rw [trimmed, String.toList_append, String.toList_append, List.append_assoc, trim, hstart, hend,
    String.ofList_toList]

end Text

namespace InputLine

/-- The document of a record, among blanks or not, is read for the record. -/
theorem read?_record {fields : List (String × Json)} (h : Writable Json.maxDepth (.record fields))
    {lead tail : String} (hlead : ∀ c ∈ lead.toList, Text.isBlank c = true)
    (htail : ∀ c ∈ tail.toList, Text.isBlank c = true) :
    read? (lead ++ (Json.record fields).render ++ tail) = ofJson? (.record fields) := by
  have hwritten : (Json.record fields).render.toList =
      '\x7b' :: ((Json.renderFields fields).toList ++ ['\x7d']) := by
    simp [Json.render]
  rw [read?, Text.trimmed_surrounded hlead htail hwritten (by decide) (by decide),
    Json.parse_render h.isPlain h.isSound, Option.bind_some]

/-- The form of an event holds no fault. -/
theorem faultOf?_event (e : Event) : faultOf? e.toJson = none := by
  -- no field of an event has that name
  have hnone : Json.valuesOf "fault" (fieldsOf e.rows) = [] :=
    Json.valuesOf_fieldsOf_of_not_mem (by simp [Event.rows])
  have hfields : recordFields? ["fault"] e.toJson = some [none] := by
    rw [e.toJson_eq]
    simp [recordFields?, hnone, Json.single?]
  simp [faultOf?, hfields, required]

theorem ofJson?_event {e : Event} (h : e.IsValid) (hfloat : e.payload.hasFloat = false) :
    ofJson? e.toJson = some (.event e) := by
  simp [ofJson?, faultOf?_event, Event.ofJson?_toJson h hfloat]

theorem ofJson?_fault (f : SourceFault) :
    ofJson? (.record [("fault", f.toJson)]) = some (.fault f) := by
  have hfields : recordFields? ["fault"] (.record [("fault", f.toJson)]) = some [some f.toJson] :=
    rfl
  simp [ofJson?, faultOf?, hfields]

/-- Blanks around an event on its line do not matter. -/
theorem read?_event {e : Event} (h : e.IsValid) (hfloat : e.payload.hasFloat = false)
    {lead tail : String} (hlead : ∀ c ∈ lead.toList, Text.isBlank c = true)
    (htail : ∀ c ∈ tail.toList, Text.isBlank c = true) :
    read? (lead ++ e.toJson.render ++ tail) = some (.event e) := by
  have hwritable : Writable Json.maxDepth e.toJson := Event.writable_toJson hfloat _
  have hline := ofJson?_event h hfloat
  rw [e.toJson_eq] at hwritable hline ⊢
  rw [read?_record hwritable hlead htail, hline]

/-- Blanks around a fault on its line do not matter. -/
theorem read?_fault (f : SourceFault) {lead tail : String}
    (hlead : ∀ c ∈ lead.toList, Text.isBlank c = true)
    (htail : ∀ c ∈ tail.toList, Text.isBlank c = true) :
    read? (lead ++ (Json.record [("fault", f.toJson)]).render ++ tail) = some (.fault f) := by
  have hwritable : Writable Json.maxDepth (.record [("fault", f.toJson)]) :=
    Json.writable_record (by simpa using f.writable_toJson _)
  rw [read?_record hwritable hlead htail, ofJson?_fault]

end InputLine

/-- Every shared value is read back from its JSON form, from the value and from the document, and
the form has the fields of the layout. An event has to be valid, as everything is that is read for
one, and without fractions among its options. On a line of input, among blanks or not, the document
of an event says that event and the document of a fault says that fault. -/
theorem shared_values_read_back :
    ((∀ u : User, Kept User.ofJson? u u.toJson User.layout) ∧
      (∀ g : Guild, Kept Guild.ofJson? g g.toJson Guild.layout) ∧
      (∀ r : Role, Kept Role.ofJson? r r.toJson Role.layout) ∧
      (∀ c : Channel, Kept Channel.ofJson? c c.toJson c.layout) ∧
      (∀ a : Attachment, Kept Attachment.ofJson? a a.toJson a.layout) ∧
      (∀ m : Message, Kept Message.ofJson? m m.toJson m.layout)) ∧
    ((∀ (intake : Intake) (e : Embed), Kept (Embed.ofJson? intake) e e.toJson e.layout) ∧
      (∀ (intake : Intake) (s : ReplySpec), Kept (ReplySpec.ofJson? intake) s s.toJson s.layout) ∧
      (∀ r : ReplyEvent, Kept ReplyEvent.ofJson? r r.toJson [("type", true), ("payload", true)] ∧
        Kept ReplyEvent.ofJson? r r.toJson.reversed [("payload", true), ("type", true)] ∧
        (r.toJson.get "payload").IsLaidOut r.layout) ∧
      (∀ f : SourceFault, Kept SourceFault.ofJson? f f.toJson SourceFault.layout)) ∧
    ((∀ e : Event, e.IsValid → e.payload.hasFloat = false →
        Kept Event.ofJson? e e.toJson e.layout ∧
          e.payload.toJson.IsLaidOut [("type", true), ("payload", true)] ∧
          (e.payload.toJson.get "payload").IsLaidOut e.payload.layout) ∧
      (∀ (j : Json) (e : Event), Event.ofJson? j = some e → e.IsValid)) ∧
    (∀ lead tail : String, (∀ c ∈ lead.toList, Text.isBlank c = true) →
      (∀ c ∈ tail.toList, Text.isBlank c = true) →
        (∀ e : Event, e.IsValid → e.payload.hasFloat = false →
          InputLine.read? (lead ++ e.toJson.render ++ tail) = some (.event e)) ∧
        (∀ f : SourceFault,
          InputLine.read? (lead ++ (Json.record [("fault", f.toJson)]).render ++ tail) =
            some (.fault f))) := by
  refine ⟨⟨User.kept, Guild.kept, Role.kept, Channel.kept, Attachment.kept, Message.kept⟩,
    ⟨Embed.kept, ReplySpec.kept, ?_, SourceFault.kept⟩, ⟨?_, ?_⟩, ?_⟩
  · exact fun r => ⟨r.kept, r.kept_reversed, r.isLaidOut_payload⟩
  · exact fun e h hfloat =>
      ⟨Event.kept h hfloat, ⟨_, e.payload.toJson_eq, rfl⟩, e.payload.isLaidOut_body⟩
  · exact fun _ _ => Event.isValid_of_ofJson?
  · intro lead tail hlead htail
    exact ⟨fun e h hfloat => InputLine.read?_event h hfloat hlead htail,
      fun f => InputLine.read?_fault f hlead htail⟩

/-- A slash event with options of every kind that is kept, on a line among blanks. -/
theorem slash_line_read_back :
    ∃ e : Event, e.IsValid ∧ e.layout.all (·.2) = true ∧ e.style = .slash ∧
      Kept Event.ofJson? e e.toJson e.layout ∧
      InputLine.read? ("\t" ++ e.toJson.render ++ " \r\n") = some (.event e) := by
  have hid : Uuid.IsValid ⟨"00112233445566778899aabbccddeeff".toList⟩ :=
    Uuid.isValid_of_ofDigits? (s := "00112233445566778899aabbccddeeff".toList) rfl
  have htime : Timestamp.IsValid ⟨1714521600, 5000000, false⟩ := ⟨by decide, by decide, by decide⟩
  let e : Event :=
    { id := some ⟨"00112233445566778899aabbccddeeff".toList⟩, guild := some ⟨10⟩, channel := ⟨20⟩,
      caller := ⟨⟨3⟩, "cy", false⟩, receivedAt := some ⟨1714521600, 5000000, false⟩,
      payload := .slash ["ban"]
        [("days", .integer (-7)), ("silent", .boolean true), ("reason", .text "\"spam\"")]
        [("proof", ⟨⟨5⟩, "a.png", 1024, "https://files.test/a.png", none⟩)] }
  have he : e.IsValid := by
    refine ⟨?_, ?_, by decide, by decide⟩
    · rintro u hu
      obtain rfl := Option.some.inj hu
      exact hid
    · rintro t ht
      obtain rfl := Option.some.inj ht
      exact htime
  have hfloat : e.payload.hasFloat = false := rfl
  obtain ⟨-, -, ⟨hkept, -⟩, hlines⟩ := shared_values_read_back
  exact ⟨e, he, rfl, rfl, (hkept e he hfloat).1,
    (hlines _ _ (List.all_eq_true.1 rfl) (List.all_eq_true.1 rfl)).1 e he hfloat⟩

end ChatCommands
