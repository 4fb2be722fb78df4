import ChatCommands.Proofs.MentionForms
import ChatCommands.Proofs.PlainAddresses

set_option autoImplicit false

/-!
# Permalinks

`Permalink.address` writes a permalink under a host. Its segments are the word that all permalinks
begin with, `@me` or the decimal text of the guild, and the decimal texts of the channel and of the
message. No character of these has a meaning in addresses, so the segments come through the reader
of addresses as they are, and with them everything that the link points at, under each of the hosts
(`permalinks_are_read`).
-/

namespace ChatCommands.Reference

open Text (trim trimStart isBlank IsUnsigned unsignedChars readWord64)
open Url (IsPlain hostChars segmentChars)

/-! ## Written permalinks -/

namespace Permalink

/-- The segment for the guild; a private channel has a name of its own in place of it. -/
def guildText (link : Permalink) : String := link.guild.elim "@me" (toString ·.value)

/-- The segments of the path of a permalink. -/
def segments (link : Permalink) : List (List Char) :=
  "channels".toList :: link.guildText.toList :: (toString link.channel.value).toList ::
    (link.message.map fun message => (toString message.value).toList).toList

/-- The address of a permalink under a host. -/
def address (link : Permalink) (host : String) : String :=
  "https://" ++ host ++ "/channels/" ++ link.guildText ++ "/" ++ toString link.channel.value ++
    link.message.elim "" fun message => "/" ++ toString message.value

variable (link : Permalink)

theorem toList_address (host : String) :
    (link.address host).toList = "https://".toList ++ host.toList ++ Url.pathOf link.segments := by
  cases hmessage : link.message with
  | none => simp [address, segments, Url.pathOf, hmessage]
  | some message => simp [address, segments, Url.pathOf, hmessage]

theorem isPlain_toString (n : UInt64) : IsPlain segmentChars (toString n).toList := by
  have hnumeral : IsUnsigned (toString n).toList n.toNat := Text.isUnsigned_toString n.toNat
  have hall : ∀ c ∈ unsignedChars, c ∈ segmentChars :=
    List.all_iff_forall_prop.1 (by decide)
  obtain ⟨c, r, hcons, -⟩ := hnumeral.exists_cons
  refine ⟨?_, fun c hc => hall c (hnumeral.mem_of_mem hc)⟩
  rw [hcons]
  exact List.cons_ne_nil c r

theorem isPlain_guildText : IsPlain segmentChars link.guildText.toList := by
  rw [guildText]
  cases link.guild with
  | none => decide
  | some guild => exact isPlain_toString guild.value

theorem isPlain_of_mem_segments : ∀ s ∈ link.segments, IsPlain segmentChars s := by
  rw [segments, List.forall_mem_cons, List.forall_mem_cons, List.forall_mem_cons]
  refine ⟨by decide, link.isPlain_guildText, isPlain_toString link.channel.value, ?_⟩
  cases link.message with
  | none => exact fun s hs => absurd hs List.not_mem_nil
  | some message => exact List.forall_mem_singleton.2 (isPlain_toString message.value)

/-- The segments tell everything that the link points at: no numeral is the name of
private channels. -/
theorem permalinkOf?_segments : permalinkOf? link.segments = some link := by
  have hword : ∀ n : UInt64, readWord64 (toString n).toList = .ok n := fun n =>
    Text.readWord64_eq_ok_iff.2 (Text.isUnsigned_toString n.toNat)
  -- no numeral has an `@`
  have hguild : ∀ n : UInt64, (toString n).toList ≠ ['@', 'm', 'e'] := by
    intro n hn
    have hnumeral : IsUnsigned ['@', 'm', 'e'] n.toNat := hn ▸ Text.isUnsigned_toString n.toNat
    exact absurd (hnumeral.mem_of_mem List.mem_cons_self) (by decide)
  obtain ⟨guild, channel, message⟩ := link
  cases guild <;> cases message <;>
    simp [permalinkOf?, segments, guildText, hword, hguild, Except.toOption]

end Permalink

/-! ## Reading -/

variable {host raw : String} {link : Permalink}

/-- The hosts of permalinks are plain domain names. -/
theorem host?_of_mem_permalinkHosts (h : host ∈ permalinkHosts) :
    IsPlain hostChars host.toList ∧ Url.host? host.toList = some (.domain host) := by
  -- the labels are computed; the bytes of the name are not, so that the escapes are
  -- dealt with apart
  have hall : ∀ host ∈ permalinkHosts, IsPlain hostChars host.toList ∧
      let labels := Text.partsBetween (· == '.') host.toList
      Url.domainLabels? host.toList = some labels ∧ labels ≠ [[]] ∧
        Url.endsInNumber labels = false ∧ ".".intercalate (labels.map String.ofList) = host := by
    decide
  obtain ⟨hplain, hlabels, hsome, hnumber, hjoined⟩ := hall host h
  exact ⟨hplain, by rw [Url.host?_of_labels hplain hlabels hsome hnumber, hjoined]⟩

theorem readPermalink_eq_ok (hhost : host ∈ permalinkHosts)
    (hraw : trim raw.toList = (link.address host).toList) : readPermalink raw = .ok link := by
  obtain ⟨hplain, hname⟩ := host?_of_mem_permalinkHosts hhost
  have hparsed := Url.parse?_plain hplain hname link.isPlain_of_mem_segments
  rw [readPermalink, hraw, Permalink.toList_address, hparsed]
  simp [isPermalinkHost, hhost, Permalink.permalinkOf?_segments]

theorem isLink_of_trim {r : List Char} (h : trim raw.toList = "https://".toList ++ r) :
    isLink raw = true := by
  obtain ⟨blanks, -, hstart⟩ := Text.exists_trimEnd_blanks (trimStart raw.toList)
  have hafter : Text.after? "https://".toList (trimStart raw.toList) = some (r ++ blanks) := by
    rw [Text.after?_eq_some_iff, hstart, ← trim, h, List.append_assoc]
  rw [isLink, hafter]
  rfl

/-- Everything that a permalink points at is read back from its address, under each of the hosts and
among any blanks. So the address refers to the channel, and to the message if there is one. -/
theorem permalinks_are_read (place : Place) (link : Permalink) (host lead tail : String)
    (hhost : host ∈ permalinkHosts) (hlead : ∀ c ∈ lead.toList, isBlank c = true)
    (htail : ∀ c ∈ tail.toList, isBlank c = true) :
    let text := lead ++ link.address host ++ tail
    readPermalink text = .ok link ∧
      readId place .channel text = .ok link.channel.value ∧
      readId place .message text =
        link.message.elim (.error (.invalid ("Not a valid message URL: " ++ text)))
          (.ok ·.value) := by
  intro text
  have hvisible : ∀ c ∈ (link.address host).toList, isBlank c = false := by
    rw [Permalink.toList_address]
    intro c hc
    exact Text.isBlank_of_visible_ascii (Url.ascii_of_mem_plain
      (host?_of_mem_permalinkHosts hhost).1 link.isPlain_of_mem_segments hc)
  have htrim : trim text.toList = (link.address host).toList := by
    rw [String.toList_append, String.toList_append]
    exact Text.trim_among_blanks hlead htail (fun c hc => hvisible c (List.mem_of_mem_head? hc))
      fun c hc => hvisible c (List.mem_of_getLast? hc)
  have hread : readPermalink text = .ok link := readPermalink_eq_ok hhost htrim
  -- only the beginning is trimmed here
  have hlink : isLink text = true := by
    rw [Permalink.toList_address, List.append_assoc] at htrim
    exact isLink_of_trim htrim
  refine ⟨hread, ?_, ?_⟩
  · simp only [readId, readChannel, hlink, if_true, hread]
    rfl
  · simp only [readId, readMessage, hlink, if_true, hread]
    cases hmessage : link.message with
    | none =>
      simp only [bind, Except.bind, hmessage]
      rfl
    | some message =>
      simp only [bind, Except.bind, hmessage]
      rfl

/-- A message with the greatest identifiers in a private channel, and a channel among blanks. -/
theorem greatest_permalink_is_read :
    let message := "https://ptb.discord.com/channels/@me/18446744073709551615/18446744073709551615"
    let channel := " https://discord.com/channels/0/7\n"
    readPermalink message = .ok ⟨none, ⟨18446744073709551615⟩, some ⟨18446744073709551615⟩⟩ ∧
      readId ⟨none, ⟨1⟩⟩ .message message = .ok 18446744073709551615 ∧
      readPermalink channel = .ok ⟨some ⟨0⟩, ⟨7⟩, none⟩ ∧
      readId ⟨none, ⟨1⟩⟩ .message channel =
        .error (.invalid ("Not a valid message URL: " ++ channel)) := by
  intro message channel
  have hmessage := permalinks_are_read ⟨none, ⟨1⟩⟩
    ⟨none, ⟨18446744073709551615⟩, some ⟨18446744073709551615⟩⟩ "ptb.discord.com" "" ""
    (by decide) (by simp) (by simp)
  have hchannel := permalinks_are_read ⟨none, ⟨1⟩⟩ ⟨some ⟨0⟩, ⟨7⟩, none⟩ "discord.com" " " "\n"
    (by decide) (List.all_eq_true.1 rfl) (List.all_eq_true.1 rfl)
  exact ⟨hmessage.1, hmessage.2.2, hchannel.1, hchannel.2.2⟩

end ChatCommands.Reference
