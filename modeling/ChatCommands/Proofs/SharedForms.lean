import ChatCommands.Proofs.JsonForms
import ChatCommands.Wire.Event
import ChatCommands.Wire.Reply

set_option autoImplicit false

/-!
# JSON forms of entities and replies

For each type the `layout` tells which fields the record of a value has, and `rows` what is written
of each of them; the value is read back from them (`ofJson?_toJson`), and so the form keeps it
(`kept`). An embed and a reply are read back however they come in, so that the record of a reply
operation may have its payload before or behind its tag. The layouts of `User`, `Guild` and `Role`
are the same for all values.
-/

namespace ChatCommands

open Json (text? listOf? nullable? withDefault fields? recordFields? ofWord fieldsOf Writable
  Intake)

/-! ## Identifiers and names -/

/-- An identifier is written as its word and read back from it; so are the identifiers below. -/
@[simp] theorem UserId.ofJson?_ofWord (i : UserId) : UserId.ofJson? (ofWord i.value) = some i := by
  simp [UserId.ofJson?]

@[simp] theorem GuildId.ofJson?_ofWord (i : GuildId) :
    GuildId.ofJson? (ofWord i.value) = some i := by
  simp [GuildId.ofJson?]

@[simp] theorem ChannelId.ofJson?_ofWord (i : ChannelId) :
    ChannelId.ofJson? (ofWord i.value) = some i := by
  simp [ChannelId.ofJson?]

@[simp] theorem MessageId.ofJson?_ofWord (i : MessageId) :
    MessageId.ofJson? (ofWord i.value) = some i := by
  simp [MessageId.ofJson?]

@[simp] theorem RoleId.ofJson?_ofWord (i : RoleId) : RoleId.ofJson? (ofWord i.value) = some i := by
  simp [RoleId.ofJson?]

@[simp] theorem AttachmentId.ofJson?_ofWord (i : AttachmentId) :
    AttachmentId.ofJson? (ofWord i.value) = some i := by
  simp [AttachmentId.ofJson?]

/-- A name from a fixed list is read back as what it names; the names are pairwise different. -/
@[simp] theorem ChannelKind.ofJson?_name (k : ChannelKind) :
    ChannelKind.ofJson? (.text k.name) = some k := by
  cases k <;> rfl

/-- A color is read back from its name, whether it is read at once or has been set aside. -/
@[simp] theorem EmbedColor.ofJson?_name (intake : Intake) (c : EmbedColor) :
    EmbedColor.ofJson? intake (.text c.name) = some c := by
  cases c <;> rfl

@[simp] theorem FaultClass.ofName?_name (k : FaultClass) : FaultClass.ofName? k.name = some k := by
  cases k <;> rfl

/-- An optional guild is found again. -/
@[simp] theorem nullable?_guild (g : Option GuildId) :
    withDefault none (nullable? GuildId.ofJson?) (g.map fun g => ofWord g.value) = some g :=
  (Json.nullable?_written rfl GuildId.ofJson?_ofWord g).1

/-- An optional message is found again. -/
@[simp] theorem nullable?_message (m : Option MessageId) :
    withDefault none (nullable? MessageId.ofJson?) (m.map fun m => ofWord m.value) = some m :=
  (Json.nullable?_written rfl MessageId.ofJson?_ofWord m).1

/-- An optional text is found again. -/
@[simp] theorem nullable?_text (s : Option String) :
    withDefault none (nullable? text?) (s.map Json.text) = some s :=
  (Json.nullable?_written (f := .text) rfl (fun _ => rfl) s).1

/-! ## Entities -/

namespace User

/-- The fields of a user. -/
def layout : List (String × Bool) := [("user_id", true), ("username", true), ("bot", true)]

/-- What is written of the fields. -/
def rows (u : User) : List (String × Option Json) :=
  [("user_id", some (ofWord u.id.value)), ("username", some (.text u.username)),
    ("bot", some (.bool u.bot))]

theorem toJson_eq (u : User) : u.toJson = .record (fieldsOf u.rows) := rfl

/-- A user is read back from its record. -/
@[simp] theorem ofJson?_toJson (u : User) : ofJson? u.toJson = some u := by
  have hfields : fields? ["user_id", "username", "bot"] u.toJson = some (u.rows.map (·.2)) :=
    Json.fields?_fieldsOf u.toJson_eq (by simp [rows])
  rw [ofJson?, hfields]
  simp [rows]

/-- A user is a record of plain values, so it stands one level deep. -/
@[simp] theorem writable_toJson (u : User) (n : Nat) : Writable (n + 1) u.toJson :=
  Json.writable_fieldsOf u.toJson_eq (by simp [rows])

/-- The form keeps a user, with the fields of its layout. -/
theorem kept (u : User) : Kept ofJson? u u.toJson layout :=
  kept_of_writable u.ofJson?_toJson (u.writable_toJson _) (Json.isLaidOut_fieldsOf u.toJson_eq rfl)

end User

namespace Guild

/-- The fields of a guild. -/
def layout : List (String × Bool) := [("guild_id", true), ("name", true), ("owner_id", true)]

/-- What is written of the fields. -/
def rows (g : Guild) : List (String × Option Json) :=
  [("guild_id", some (ofWord g.id.value)), ("name", some (.text g.name)),
    ("owner_id", some (ofWord g.owner.value))]

theorem toJson_eq (g : Guild) : g.toJson = .record (fieldsOf g.rows) := rfl

theorem ofJson?_toJson (g : Guild) : ofJson? g.toJson = some g := by
  have hfields : fields? ["guild_id", "name", "owner_id"] g.toJson = some (g.rows.map (·.2)) :=
    Json.fields?_fieldsOf g.toJson_eq (by simp [rows])
  rw [ofJson?, hfields]
  simp [rows]

theorem writable_toJson (g : Guild) (n : Nat) : Writable (n + 1) g.toJson :=
  Json.writable_fieldsOf g.toJson_eq (by simp [rows])

theorem kept (g : Guild) : Kept ofJson? g g.toJson layout :=
  kept_of_writable g.ofJson?_toJson (g.writable_toJson _) (Json.isLaidOut_fieldsOf g.toJson_eq rfl)

end Guild

namespace Role

/-- The fields of a role. -/
def layout : List (String × Bool) := [("role_id", true), ("guild_id", true), ("name", true)]

/-- What is written of the fields. -/
def rows (r : Role) : List (String × Option Json) :=
  [("role_id", some (ofWord r.id.value)), ("guild_id", some (ofWord r.guild.value)),
    ("name", some (.text r.name))]

theorem toJson_eq (r : Role) : r.toJson = .record (fieldsOf r.rows) := rfl

theorem ofJson?_toJson (r : Role) : ofJson? r.toJson = some r := by
  have hfields : fields? ["role_id", "guild_id", "name"] r.toJson = some (r.rows.map (·.2)) :=
    Json.fields?_fieldsOf r.toJson_eq (by simp [rows])
  rw [ofJson?, hfields]
  simp [rows]

theorem writable_toJson (r : Role) (n : Nat) : Writable (n + 1) r.toJson :=
  Json.writable_fieldsOf r.toJson_eq (by simp [rows])

theorem kept (r : Role) : Kept ofJson? r r.toJson layout :=
  kept_of_writable r.ofJson?_toJson (r.writable_toJson _) (Json.isLaidOut_fieldsOf r.toJson_eq rfl)

end Role

namespace Channel

/-- The fields of a channel; the guild may be left out. -/
def layout (c : Channel) : List (String × Bool) :=
  [("channel_id", true), ("guild_id", c.guild.isSome), ("kind", true), ("name", true),
    ("age_restricted", true)]

/-- What is written of the fields. -/
def rows (c : Channel) : List (String × Option Json) :=
  [("channel_id", some (ofWord c.id.value)), ("guild_id", c.guild.map fun g => ofWord g.value),
    ("kind", some (.text c.kind.name)), ("name", some (.text c.name)),
    ("age_restricted", some (.bool c.ageRestricted))]

/-- The record of a channel holds the rows that are written; a guild that is not there leaves no
field. -/
theorem toJson_eq (c : Channel) : c.toJson = .record (fieldsOf c.rows) := by
  rcases hguild : c.guild <;> simp [toJson, rows, fieldsOf, hguild, Json.optionalField]

/-- A channel is read back, outside of guilds too. -/
theorem ofJson?_toJson (c : Channel) : ofJson? c.toJson = some c := by
  have hfields : fields? ["channel_id", "guild_id", "kind", "name", "age_restricted"] c.toJson =
      some (c.rows.map (·.2)) :=
    Json.fields?_fieldsOf c.toJson_eq (by simp [rows])
  rw [ofJson?, hfields]
  simp [rows]

theorem writable_toJson (c : Channel) (n : Nat) : Writable (n + 1) c.toJson :=
  Json.writable_fieldsOf c.toJson_eq (by simp [rows])

/-- The form keeps a channel, with a field for the guild iff it has one. -/
theorem kept (c : Channel) : Kept ofJson? c c.toJson c.layout :=
  kept_of_writable c.ofJson?_toJson (c.writable_toJson _)
    (Json.isLaidOut_fieldsOf c.toJson_eq (by simp [rows, layout]))

end Channel

namespace Attachment

/-- The fields of an attachment; the type of the file may be left out. -/
def layout (a : Attachment) : List (String × Bool) :=
  [("attachment_id", true), ("filename", true), ("size_bytes", true), ("url", true),
    ("mime_type", a.mimeType.isSome)]

/-- What is written of the fields. -/
def rows (a : Attachment) : List (String × Option Json) :=
  [("attachment_id", some (ofWord a.id.value)), ("filename", some (.text a.filename)),
    ("size_bytes", some (ofWord a.size)), ("url", some (.text a.url)),
    ("mime_type", a.mimeType.map Json.text)]

theorem toJson_eq (a : Attachment) : a.toJson = .record (fieldsOf a.rows) := by
  rcases hmime : a.mimeType <;> simp [toJson, rows, fieldsOf, hmime, Json.optionalField]

/-- An attachment is read back, with or without a type of the file. -/
@[simp] theorem ofJson?_toJson (a : Attachment) : ofJson? a.toJson = some a := by
  have hfields : fields? ["attachment_id", "filename", "size_bytes", "url", "mime_type"] a.toJson =
      some (a.rows.map (·.2)) :=
    Json.fields?_fieldsOf a.toJson_eq (by simp [rows])
  rw [ofJson?, hfields]
  simp [rows]

@[simp] theorem writable_toJson (a : Attachment) (n : Nat) : Writable (n + 1) a.toJson :=
  Json.writable_fieldsOf a.toJson_eq (by simp [rows])

/-- The form keeps an attachment, with a field for the type of the file iff it is known. -/
theorem kept (a : Attachment) : Kept ofJson? a a.toJson a.layout :=
  kept_of_writable a.ofJson?_toJson (a.writable_toJson _)
    (Json.isLaidOut_fieldsOf a.toJson_eq (by simp [rows, layout]))

end Attachment

/-- A list of attachments, left out when it is empty. -/
def attachmentsValue (as : List Attachment) : Option Json :=
  if as = [] then none else some (.list (as.map Attachment.toJson))

theorem attachmentsField_eq (as : List Attachment) :
    attachmentsField as = Json.optionalField "attachments" (attachmentsValue as) := by
  by_cases h : as = [] <;> simp [attachmentsField, attachmentsValue, h, Json.optionalField]

/-- A list of attachments is read back; one that is left out is read as empty. -/
@[simp] theorem listOf?_attachmentsValue (as : List Attachment) :
    withDefault [] (listOf? Attachment.ofJson?) (attachmentsValue as) = some as := by
  by_cases h : as = []
  · subst h
    rfl
  · rw [attachmentsValue, if_neg h]
    exact Json.listOf?_map fun a _ => a.ofJson?_toJson

/-- Attachments are written iff there are some. -/
@[simp] theorem isSome_attachmentsValue (as : List Attachment) :
    (attachmentsValue as).isSome = !as.isEmpty := by
  cases as <;> rfl

/-- A list of attachments stands two levels deep. -/
theorem writable_attachmentsValue (as : List Attachment) (n : Nat) :
    ∀ j ∈ attachmentsValue as, Writable (n + 2) j := by
  intro j hj
  rw [attachmentsValue] at hj
  split at hj
  · cases hj
  · obtain rfl := Option.some.inj hj
    exact Json.writable_list (by simp)

namespace Message

/-- The fields of a message; the guild may be left out, and so are attachments when
there are none. -/
def layout (m : Message) : List (String × Bool) :=
  [("message_id", true), ("channel_id", true), ("guild_id", m.guild.isSome), ("author", true),
    ("content", true), ("attachments", !m.attachments.isEmpty)]

/-- What is written of the fields. -/
def rows (m : Message) : List (String × Option Json) :=
  [("message_id", some (ofWord m.id.value)), ("channel_id", some (ofWord m.channel.value)),
    ("guild_id", m.guild.map fun g => ofWord g.value), ("author", some m.author.toJson),
    ("content", some (.text m.content)), ("attachments", attachmentsValue m.attachments)]

theorem toJson_eq (m : Message) : m.toJson = .record (fieldsOf m.rows) := by
  rw [toJson, attachmentsField_eq]
  rcases hguild : m.guild <;> simp [rows, fieldsOf, hguild, Json.optionalField]

/-- A message is read back with its author and its attachments. -/
theorem ofJson?_toJson (m : Message) : ofJson? m.toJson = some m := by
  have hfields :
      fields? ["message_id", "channel_id", "guild_id", "author", "content", "attachments"]
        m.toJson = some (m.rows.map (·.2)) :=
    Json.fields?_fieldsOf m.toJson_eq (by simp [rows])
  rw [ofJson?, hfields]
  simp [rows]

/-- A message holds attachments, which hold records: it stands three levels deep. -/
theorem writable_toJson (m : Message) (n : Nat) : Writable (n + 3) m.toJson := by
  have hattachments := writable_attachmentsValue m.attachments n
  exact Json.writable_fieldsOf m.toJson_eq (by simpa [rows] using hattachments)

/-- The form keeps a message. -/
theorem kept (m : Message) : Kept ofJson? m m.toJson m.layout :=
  kept_of_writable m.ofJson?_toJson (m.writable_toJson _)
    (Json.isLaidOut_fieldsOf m.toJson_eq (by simp [rows, layout]))

end Message

/-! ## Replies -/

namespace Embed

/-- The fields of an embed; the title is null when there is none, the footer is left out. -/
def layout (e : Embed) : List (String × Bool) :=
  [("title", true), ("description", true), ("color", true), ("footer", e.footer.isSome)]

/-- What is written of the fields. -/
def rows (e : Embed) : List (String × Option Json) :=
  [("title", some (Json.ofOption .text e.title)), ("description", some (.text e.description)),
    ("color", some (.text e.color.name)), ("footer", e.footer.map Json.text)]

theorem toJson_eq (e : Embed) : e.toJson = .record (fieldsOf e.rows) := by
  rcases hfooter : e.footer <;> simp [toJson, rows, fieldsOf, hfooter, Json.optionalField]

/-- An embed is read back, whether it comes in at once or has been set aside. -/
theorem ofJson?_toJson (intake : Intake) (e : Embed) : ofJson? intake e.toJson = some e := by
  have hfields : fields? ["title", "description", "color", "footer"] e.toJson =
      some (e.rows.map (·.2)) :=
    Json.fields?_fieldsOf e.toJson_eq (by simp [rows])
  -- the title is the one optional field that is written as null
  have htitle : nullable? text? (Json.ofOption .text e.title) = some e.title :=
    (Json.nullable?_written (f := .text) rfl (fun _ => rfl) e.title).2
  rw [ofJson?, hfields]
  simp [rows, htitle]

theorem writable_toJson (e : Embed) (n : Nat) : Writable (n + 1) e.toJson := by
  have htitle : Writable n (Json.ofOption .text e.title) := by
    cases e.title
    · exact Json.writable_null n
    · exact Json.writable_text n _
  exact Json.writable_fieldsOf e.toJson_eq (by simpa [rows] using htitle)

/-- The form keeps an embed, however it comes in. -/
theorem kept (intake : Intake) (e : Embed) : Kept (ofJson? intake) e e.toJson e.layout :=
  kept_of_writable (e.ofJson?_toJson intake) (e.writable_toJson _)
    (Json.isLaidOut_fieldsOf e.toJson_eq (by simp [rows, layout]))

end Embed

namespace ReplySpec

/-- The fields of a reply; its parts may be left out. -/
def layout (s : ReplySpec) : List (String × Bool) :=
  [("content", s.content.isSome), ("embed", s.embed.isSome), ("private", true)]

/-- What is written of the fields. -/
def rows (s : ReplySpec) : List (String × Option Json) :=
  [("content", s.content.map Json.text), ("embed", s.embed.map Embed.toJson),
    ("private", some (.bool s.isPrivate))]

theorem toJson_eq (s : ReplySpec) : s.toJson = .record (fieldsOf s.rows) := by
  rcases hcontent : s.content <;> rcases hembed : s.embed <;>
    simp [toJson, rows, fieldsOf, hcontent, hembed, Json.optionalField]

/-- A reply is read back with whichever of its parts it has. -/
@[simp] theorem ofJson?_toJson (intake : Intake) (s : ReplySpec) :
    ofJson? intake s.toJson = some s := by
  have hfields : fields? ["content", "embed", "private"] s.toJson = some (s.rows.map (·.2)) :=
    Json.fields?_fieldsOf s.toJson_eq (by simp [rows])
  have hembed : withDefault none (nullable? (Embed.ofJson? intake)) (s.embed.map Embed.toJson) =
      some s.embed :=
    (Json.nullable?_written rfl (Embed.ofJson?_toJson intake) s.embed).1
  rw [ofJson?, hfields]
  simp [rows, hembed]

@[simp] theorem writable_toJson (s : ReplySpec) (n : Nat) : Writable (n + 2) s.toJson :=
  Json.writable_fieldsOf s.toJson_eq (by simp [rows, Embed.writable_toJson])

/-- The form keeps a reply, however it comes in. -/
theorem kept (intake : Intake) (s : ReplySpec) : Kept (ofJson? intake) s s.toJson s.layout :=
  kept_of_writable (s.ofJson?_toJson intake) (s.writable_toJson _)
    (Json.isLaidOut_fieldsOf s.toJson_eq (by simp [rows, layout]))

end ReplySpec

namespace ReplyEvent

/-- The tag of a reply operation. -/
def tag : ReplyEvent → String
  | .sent .. => "sent"
  | .edited .. => "edited"
  | .deleted .. => "deleted"
  | .reacted .. => "reacted"

/-- The fields of the payload; the message that is replied to may be left out. -/
def layout : ReplyEvent → List (String × Bool)
  | .sent _ reference _ =>
    [("channel_id", true), ("message_id", true), ("reference", reference.isSome), ("spec", true)]
  | .edited .. => [("channel_id", true), ("message_id", true), ("spec", true)]
  | .deleted .. => [("channel_id", true), ("message_id", true)]
  | .reacted .. => [("channel_id", true), ("message_id", true), ("reaction", true)]

/-- What is written of the fields of the payload. -/
def rows : ReplyEvent → List (String × Option Json)
  | .sent reply reference spec =>
    [("channel_id", some (ofWord reply.channel.value)),
      ("message_id", some (ofWord reply.message.value)),
      ("reference", reference.map fun m => ofWord m.value), ("spec", some spec.toJson)]
  | .edited reply spec =>
    [("channel_id", some (ofWord reply.channel.value)),
      ("message_id", some (ofWord reply.message.value)), ("spec", some spec.toJson)]
  | .deleted reply =>
    [("channel_id", some (ofWord reply.channel.value)),
      ("message_id", some (ofWord reply.message.value))]
  | .reacted channel message reaction =>
    [("channel_id", some (ofWord channel.value)), ("message_id", some (ofWord message.value)),
      ("reaction", some (.text reaction))]

/-- The payload of a reply operation. -/
def body (e : ReplyEvent) : Json := .record (fieldsOf e.rows)

/-- A reply operation is written as its tag and the payload of this tag. -/
theorem toJson_eq (e : ReplyEvent) :
    e.toJson = .record [("type", .text e.tag), ("payload", e.body)] := by
  cases e with
  | sent reply reference spec =>
    cases reference <;> simp [toJson, tag, body, rows, fieldsOf, SentReply.fields,
      Json.optionalField]
  | edited reply spec => rfl
  | deleted reply => rfl
  | reacted channel message reaction => rfl

/-- The payload of each tag is read back, however it comes in. -/
theorem ofTagged?_body (intake : Intake) (e : ReplyEvent) :
    ofTagged? intake e.tag e.body = some e := by
  have hfields := Json.recordFields?_fieldsOf e.rows (by cases e <;> simp [rows])
  -- the tag decides which fields are looked for
  cases e with
  | sent reply reference spec =>
    have hfields' : recordFields? ["channel_id", "message_id", "reference", "spec"]
        (body (.sent reply reference spec)) = _ := hfields
    simp [tag, ofTagged?, hfields', rows]
  | edited reply spec =>
    have hfields' : recordFields? ["channel_id", "message_id", "spec"]
        (body (.edited reply spec)) = _ := hfields
    simp [tag, ofTagged?, hfields', rows]
  | deleted reply =>
    have hfields' : recordFields? ["channel_id", "message_id"] (body (.deleted reply)) = _ :=
      hfields
    simp [tag, ofTagged?, hfields', rows]
  | reacted channel message reaction =>
    have hfields' : recordFields? ["channel_id", "message_id", "reaction"]
        (body (.reacted channel message reaction)) = _ := hfields
    simp [tag, ofTagged?, hfields', rows]

theorem writable_body (e : ReplyEvent) (n : Nat) : Writable (n + 3) e.body :=
  Json.writable_fieldsOf rfl (by cases e <;> simp [rows])

/-- A reply operation is read back where its tag stands first. -/
theorem ofJson?_toJson (e : ReplyEvent) : ofJson? e.toJson = some e := by
  rw [toJson_eq]
  exact e.ofTagged?_body .direct

/-- A payload that stands before its tag is set aside first. -/
theorem ofJson?_reversed (e : ReplyEvent) : ofJson? e.toJson.reversed = some e := by
  have hsound : e.body.isSound (Json.maxDepth - 1) = true := (e.writable_body _).isSound
  have hread : ofJson? (.record [("payload", e.body), ("type", .text e.tag)]) =
      if e.body.isSound (Json.maxDepth - 1) then ofTagged? .setAside e.tag e.body else none := rfl
  rw [toJson_eq, Json.reversed, List.reverse_cons, List.reverse_singleton, List.singleton_append,
    hread, if_pos hsound]
  exact e.ofTagged?_body .setAside

/-- A reply operation stands four levels deep, in either order of its fields. -/
theorem writable_toJson (e : ReplyEvent) (n : Nat) :
    Writable (n + 4) e.toJson ∧ Writable (n + 4) e.toJson.reversed := by
  have hbody := e.writable_body n
  rw [toJson_eq]
  exact ⟨Json.writable_record (by simpa using hbody), Json.writable_record (by simpa using hbody)⟩

/-- The form keeps a reply operation with its tag first. -/
theorem kept (e : ReplyEvent) : Kept ofJson? e e.toJson [("type", true), ("payload", true)] :=
  kept_of_writable e.ofJson?_toJson (e.writable_toJson _).1 ⟨_, e.toJson_eq, rfl⟩

/-- The form keeps a reply operation with its payload first. -/
theorem kept_reversed (e : ReplyEvent) :
    Kept ofJson? e e.toJson.reversed [("payload", true), ("type", true)] := by
  refine kept_of_writable e.ofJson?_reversed (e.writable_toJson _).2 ?_
  rw [toJson_eq]
  exact ⟨_, rfl, rfl⟩

/-- The payload has the fields that its tag asks for. -/
theorem isLaidOut_payload (e : ReplyEvent) : (e.toJson.get "payload").IsLaidOut e.layout := by
  have hbody : e.toJson.get "payload" = e.body := by
    rw [toJson_eq]
    rfl
  rw [hbody]
  refine Json.isLaidOut_fieldsOf (rfl : e.body = .record (fieldsOf e.rows)) ?_
  cases e <;> simp [rows, layout]

end ReplyEvent

/-! ## Faults -/

namespace SourceFault

/-- The fields of a fault. -/
def layout : List (String × Bool) := [("class", true), ("message", true)]

/-- What is written of the fields. -/
def rows (f : SourceFault) : List (String × Option Json) :=
  [("class", some (.text f.kind.name)), ("message", some (.text f.message))]

theorem toJson_eq (f : SourceFault) : f.toJson = .record (fieldsOf f.rows) := rfl

/-- A fault is read back with its class. -/
@[simp] theorem ofJson?_toJson (f : SourceFault) : ofJson? f.toJson = some f := by
  have hfields : fields? ["class", "message"] f.toJson = some (f.rows.map (·.2)) :=
    Json.fields?_fieldsOf f.toJson_eq (by simp [rows])
  rw [ofJson?, hfields]
  simp [rows, Json.choice?]

theorem writable_toJson (f : SourceFault) (n : Nat) : Writable (n + 1) f.toJson :=
  Json.writable_fieldsOf f.toJson_eq (by simp [rows])

theorem kept (f : SourceFault) : Kept ofJson? f f.toJson layout :=
  kept_of_writable f.ofJson?_toJson (f.writable_toJson _) (Json.isLaidOut_fieldsOf f.toJson_eq rfl)

end SourceFault

end ChatCommands
