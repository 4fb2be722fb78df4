import ChatCommands.Argument.Parsing
import ChatCommands.Proofs.InteractionRuns

set_option autoImplicit false

/-!
# References to entities

An entity parameter refers to the entity of an identifier, and the identifier is read as for an
identifier parameter of that kind. `Parse.Resolves` tells all runs of such a conversion: when no
identifier is read it ends at once with that error, and otherwise it asks for the one entity and
ends by the answer alone. Users, roles, channels and messages are all resolved so
(`entities_follow_identifiers`). Roles need a guild; without one nothing is ever asked.
-/

namespace ChatCommands

open Program (Exchange)
open Reference (Place Permalink readId readUser readRole readChannel readMessage readMention
  readSnowflake readPermalink isLink)

/-! ## One lookup -/

namespace Parse

variable {α ρ : Type}

/-- How a conversion ends by the answer to its lookup: a failed lookup is an error of its own, a
missing entity refuses the argument, and an entity that is found is the value, if it is admitted. -/
def concluded (accept : α → Except ArgumentError α) :
    Except Failing (Option α) → Except Failing (Except ArgumentError α)
  | .ok (some a) => .ok (accept a)
  | .ok none => .ok (.error (.invalid "Not found."))
  | .error (.error cause) => .ok (.error (.lookup cause))
  | .error (.breakdown b) => .error (.breakdown b)

/-- The runs of the conversion: without an identifier none but the one that ends at once with the
error, and with one those that ask for its entity and end by the answer. -/
def Resolves (p : Parse α) (identifier : Except ArgumentError UInt64)
    (asked : UInt64 → Except Failing (Option α) → Exchange Query Query.Answer)
    (accept : α → Except ArgumentError α) : Prop :=
  ∀ t r, Lookup.Ends p.run t r ↔
    match identifier with
    | .error e => t = [] ∧ r = .ok (.error e)
    | .ok n => ∃ answer, t = [asked n answer] ∧ r = concluded accept answer

/-- What a lookup finds, if it is admitted. -/
def admitted (l : Lookup (Option α)) (accept : α → Except ArgumentError α) : Parse α := do
  ofExcept (accept (← found (← lookedUp l)))

/-- A conversion of this form has the exchanges of its lookup and ends by the answer alone. -/
theorem run_admitted (l : Lookup (Option α)) (accept : α → Except ArgumentError α) :
    (admitted l accept).run.run = l.run.bind fun answer => .done (concluded accept answer) := by
  -- the lookup is attempted, lifted, told apart, found or not, and admitted or not
  show ((((l.run.bind _).bind _).bind _).bind _).bind _ = _
  simp only [Program.bind_assoc]
  congr 1
  funext answer
  rcases answer with (cause | b) | (_ | a)
  · rfl
  · rfl
  · rfl
  · show (ofExcept (accept a) : Parse α).run.run = .done (.ok (accept a))
    cases accept a <;> rfl

theorem ends_throw_iff {e : ArgumentError} {t : List (Exchange Query Query.Answer)}
    {r : Except Failing (Except ArgumentError α)} :
    Lookup.Ends (throw e : Parse α).run t r ↔ t = [] ∧ r = .ok (.error e) :=
  Lookup.ends_pure_iff

/-- A conversion that reads a reference and looks up what it refers to resolves its identifier. -/
theorem resolves_of_reading {reading : Except ArgumentError ρ} {identifier : ρ → UInt64}
    {l : ρ → Lookup (Option α)}
    {asked : UInt64 → Except Failing (Option α) → Exchange Query Query.Answer}
    {accept : α → Except ArgumentError α}
    (hasked : ∀ x, reading = .ok x → ∀ t answer,
      Lookup.Ends (l x) t answer ↔ t = [asked (identifier x) answer]) :
    Resolves (ofExcept reading >>= fun x => admitted (l x) accept) (reading.map identifier) asked
      accept := by
  intro t r
  cases reading with
  | error e => exact ends_throw_iff
  | ok x =>
    show Program.Runs (admitted (l x) accept).run.run t r ↔ _
    rw [run_admitted, Program.runs_bind_iff]
    constructor
    · rintro ⟨t₁, t₂, answer, rfl, hl, hend⟩
      obtain ⟨rfl, rfl⟩ := Program.runs_done_iff.1 hend
      rw [List.append_nil]
      exact ⟨answer, (hasked x rfl t₁ answer).1 hl, rfl⟩
    · rintro ⟨answer, rfl, rfl⟩
      exact ⟨_, [], answer, by rw [List.append_nil], (hasked x rfl _ answer).2 rfl, .done _⟩

/-- Where every entity is admitted, the conversion ends with what is found. -/
theorem found_lookedUp (l : Lookup (Option α)) :
    (do found (← lookedUp l) : Parse α) = admitted l .ok := by
  rw [admitted]
  congr 1
  funext answer
  exact (bind_pure (found answer)).symm

end Parse

/-! ## Errors of reading -/

namespace Reference

variable {α β : Type}

/-- Whatever goes wrong with the reading is the fault of the input. -/
def BlamesInput (x : Except ArgumentError α) : Prop :=
  ∀ e, x = .error e → ∃ message, e = .invalid message

theorem blamesInput_ok (a : α) : BlamesInput (.ok a) := by
  intro e h
  cases h

theorem blamesInput_invalid (message : String) :
    BlamesInput (α := α) (.error (.invalid message)) := by
  rintro e ⟨⟩
  exact ⟨message, rfl⟩

/-- Readings one after the other blame the input, if each of them does. -/
theorem BlamesInput.bind {x : Except ArgumentError α} {f : α → Except ArgumentError β}
    (hx : BlamesInput x) (hf : ∀ a, BlamesInput (f a)) : BlamesInput (x >>= f) := by
  cases x with
  | error e =>
    obtain ⟨message, rfl⟩ := hx e rfl
    exact blamesInput_invalid message
  | ok a => exact hf a

theorem blamesInput_readSnowflake (raw : String) : BlamesInput (readSnowflake raw) := by
  rw [readSnowflake]
  split
  · exact blamesInput_ok _
  · exact blamesInput_invalid _

/-- A mention of another kind, or without digits, is the fault of the input. -/
theorem blamesInput_readMention (kind : MentionKind) (raw : String) :
    BlamesInput (readMention kind raw) := by
  rw [readMention]
  split
  · split
    · exact blamesInput_invalid _
    · split
      · exact blamesInput_ok _
      · exact blamesInput_invalid _
  · exact blamesInput_readSnowflake _

theorem blamesInput_readPermalink (raw : String) : BlamesInput (readPermalink raw) := by
  rw [readPermalink]
  split
  · exact blamesInput_invalid _
  · split
    · exact blamesInput_invalid _
    · split
      · exact blamesInput_ok _
      · exact blamesInput_invalid _

theorem blamesInput_readChannel (raw : String) : BlamesInput (readChannel raw) := by
  rw [readChannel]
  split
  · exact (blamesInput_readPermalink raw).bind fun link => blamesInput_ok _
  · exact (blamesInput_readMention .channel raw).bind fun n => blamesInput_ok _

/-- A link that names no message is the fault of the input too. -/
theorem blamesInput_readMessage (place : Place) (raw : String) :
    BlamesInput (readMessage place raw) := by
  rw [readMessage]
  split
  · apply (blamesInput_readPermalink raw).bind
    intro link
    split
    · exact blamesInput_ok _
    · exact blamesInput_invalid _
  · exact (blamesInput_readSnowflake raw).bind fun n => blamesInput_ok _

/-- A reference to everyone outside of guilds is the fault of the input too. -/
theorem blamesInput_readRole (place : Place) (raw : String) : BlamesInput (readRole place raw) := by
  rw [readRole]
  split
  · split
    · exact blamesInput_ok _
    · exact blamesInput_invalid _
  · exact (blamesInput_readMention .role _).bind fun n => blamesInput_ok _

theorem blamesInput_readId (place : Place) (kind : IdKind) (raw : String) :
    BlamesInput (readId place kind raw) := by
  cases kind with
  | any => exact blamesInput_readSnowflake raw
  | channel => exact (blamesInput_readChannel raw).bind fun id => blamesInput_ok _
  | message => exact (blamesInput_readMessage place raw).bind fun ids => blamesInput_ok _
  | role => exact (blamesInput_readRole place raw).bind fun id => blamesInput_ok _
  | user =>
    exact ((blamesInput_readMention .user raw).bind fun n => blamesInput_ok _).bind fun id =>
      blamesInput_ok _

/-! ## Identifiers -/

/-- The channel that a reference to a message is about: the one of a link, or the current one. -/
def messageChannel (place : Place) (raw : String) : ChannelId :=
  if isLink raw then
    match readPermalink raw with
    | .ok link => link.channel
    | .error _ => place.channel
  else place.channel

/-- A message is read together with the channel that it is about. -/
theorem fst_of_readMessage {place : Place} {raw : String} {ids : ChannelId × MessageId}
    (h : readMessage place raw = .ok ids) : ids.1 = messageChannel place raw := by
  rw [readMessage] at h
  rw [messageChannel]
  split at h
  · rename_i hlinked
    rw [if_pos hlinked]
    cases hlink : readPermalink raw with
    | error e =>
      rw [hlink] at h
      cases h
    | ok link =>
      rw [hlink] at h
      dsimp only [bind, Except.bind] at h
      split at h
      · obtain rfl := Except.ok.inj h
        rfl
      · cases h
  · rename_i hunlinked
    rw [if_neg hunlinked]
    cases hplain : readSnowflake raw with
    | error e =>
      rw [hplain] at h
      cases h
    | ok n =>
      rw [hplain] at h
      obtain rfl := Except.ok.inj h
      rfl

theorem map_readUser (place : Place) (raw : String) :
    (readUser raw).map (·.value) = readId place .user raw := by
  rw [readId]
  cases readUser raw <;> rfl

theorem map_readChannel (place : Place) (raw : String) :
    (readChannel raw).map (·.value) = readId place .channel raw := by
  rw [readId]
  cases readChannel raw <;> rfl

/-- Of a message only its own identifier is what the parameter refers to. -/
theorem map_readMessage (place : Place) (raw : String) :
    (readMessage place raw).map (·.2.value) = readId place .message raw := by
  rw [readId]
  cases readMessage place raw <;> rfl

theorem map_readRole (place : Place) (raw : String) :
    (readRole place raw).map (·.value) = readId place .role raw := by
  rw [readId]
  cases readRole place raw <;> rfl

end Reference

/-! ## Entities -/

open Parse Reference

/-- A channel is admitted when its kind is among the kinds, or when there are none. -/
def admitKind (kinds : List ChannelKind) (channel : Channel) : Except ArgumentError Channel :=
  match kinds with
  | [] => .ok channel
  | kind :: _ =>
    if channel.kind ∈ kinds then .ok channel
    else .error (.invalid ("Channel must be a " ++ kind.noun))

/-- A user is looked up by its identifier wherever the call is made. -/
theorem resolves_parseUser (place : Place) (raw : String) :
    Resolves (parseUser raw) (readId place .user raw)
      (fun n answer => ⟨.user ⟨n⟩, answer⟩) .ok := by
  have heq : parseUser raw =
      Parse.ofExcept (readUser raw) >>= fun id => admitted (Lookup.user id) .ok := by
    rw [parseUser]
    congr 1
    funext id
    exact found_lookedUp _
  rw [heq, ← map_readUser]
  apply resolves_of_reading
  intro id _ t answer
  exact Program.runs_question_iff

/-- A channel is looked up whatever its kind, which is looked at only once it is found. -/
theorem resolves_parseChannel (place : Place) (kinds : List ChannelKind) (raw : String) :
    Resolves (parseChannel kinds raw) (readId place .channel raw)
      (fun n answer => ⟨.channel ⟨n⟩, answer⟩) (admitKind kinds) := by
  have heq : parseChannel kinds raw =
      Parse.ofExcept (readChannel raw) >>= fun id =>
        admitted (Lookup.channel id) (admitKind kinds) := by
    rw [parseChannel]
    congr 1
    funext id
    rw [admitted]
    congr 1
    funext answer
    congr 1
    funext channel
    cases kinds with
    | nil => rfl
    | cons kind kinds =>
      simp only [admitKind, List.contains_iff_mem]
      split <;> rfl
  rw [heq, ← map_readChannel]
  apply resolves_of_reading
  intro id _ t answer
  exact Program.runs_question_iff

/-- A message is looked up in the channel that the reference is about. -/
theorem resolves_parseMessage (place : Place) (raw : String) :
    Resolves (parseMessage place raw) (readId place .message raw)
      (fun n answer => ⟨.message (messageChannel place raw) ⟨n⟩, answer⟩) .ok := by
  have heq : parseMessage place raw =
      Parse.ofExcept (readMessage place raw) >>= fun ids =>
        admitted (Lookup.message ids.1 ids.2) .ok := by
    rw [parseMessage]
    congr 1
    funext ids
    exact found_lookedUp _
  rw [heq, ← map_readMessage]
  apply resolves_of_reading
  intro ids hids t answer
  rw [← fst_of_readMessage hids]
  exact Program.runs_question_iff

/-- Within a guild a role is looked up there, everyone being the role with the id of the guild. -/
theorem resolves_parseRole {place : Place} {guild : GuildId} (hguild : place.guild = some guild)
    (raw : String) :
    Resolves (parseRole place raw) (readId place .role raw)
      (fun n answer => ⟨.role guild ⟨n⟩, answer⟩) .ok := by
  have heq : parseRole place raw =
      Parse.ofExcept (readRole place raw) >>= fun id => admitted (Lookup.role guild id) .ok := by
    rw [parseRole]
    congr 1
    funext id
    rw [hguild]
    exact found_lookedUp _
  rw [heq, ← map_readRole]
  apply resolves_of_reading
  intro id _ t answer
  exact Program.runs_question_iff

/-- Outside a guild nothing is asked for a role. -/
theorem ends_parseRole_of_no_guild {place : Place} (hguild : place.guild = none) {raw : String}
    {t : List (Exchange Query Query.Answer)} {r : Except Failing (Except ArgumentError Role)} :
    Lookup.Ends (parseRole place raw).run t r ↔ t = [] ∧ match readId place .role raw with
      | .error e => r = .ok (.error e)
      | .ok _ =>
        r = .ok (.error (.invalid "Roles can only be referenced from inside a server")) := by
  rw [parseRole, ← map_readRole]
  cases readRole place raw with
  | error e => exact ends_throw_iff
  | ok id =>
    rw [hguild]
    exact ends_throw_iff

/-- An entity parameter refers as an identifier parameter does: where no identifier is read it
refuses the input alike and asks nothing, and otherwise it asks for the entity of that identifier
only and ends by the answer. A message is looked up in the channel of the link, or in the current
one without a link. A role is looked up in the guild at hand; outside a guild it is refused. -/
theorem entities_follow_identifiers (place : Place) (raw : String) :
    (∀ kind e, readId place kind raw = .error e → ∃ message, e = .invalid message) ∧
    Resolves (parseUser raw) (readId place .user raw) (fun n answer => ⟨.user ⟨n⟩, answer⟩) .ok ∧
    (∀ kinds, Resolves (parseChannel kinds raw) (readId place .channel raw)
      (fun n answer => ⟨.channel ⟨n⟩, answer⟩) (admitKind kinds)) ∧
    Resolves (parseMessage place raw) (readId place .message raw)
      (fun n answer => ⟨.message (messageChannel place raw) ⟨n⟩, answer⟩) .ok ∧
    (∀ guild, place.guild = some guild → Resolves (parseRole place raw) (readId place .role raw)
      (fun n answer => ⟨.role guild ⟨n⟩, answer⟩) .ok) ∧
    (place.guild = none → ∀ t r, Lookup.Ends (parseRole place raw).run t r ↔
      t = [] ∧ match readId place .role raw with
        | .error e => r = .ok (.error e)
        | .ok _ =>
          r = .ok (.error (.invalid "Roles can only be referenced from inside a server"))) := by
  refine ⟨?_, resolves_parseUser place raw, ?_, resolves_parseMessage place raw, ?_, ?_⟩
  · intro kind e h
    exact blamesInput_readId place kind raw e h
  · intro kinds
    exact resolves_parseChannel place kinds raw
  · intro guild hguild
    exact resolves_parseRole hguild raw
  · intro hguild t r
    exact ends_parseRole_of_no_guild hguild

/-- The role of everyone is looked up in its guild, and is refused without a question
outside one. -/
theorem everyone_is_resolved :
    let here : Place := ⟨some ⟨7⟩, ⟨2⟩⟩
    let outside : Place := ⟨none, ⟨2⟩⟩
    Lookup.Ends (parseRole here "@everyone").run [⟨.role ⟨7⟩ ⟨7⟩, .ok none⟩]
        (.ok (.error (.invalid "Not found."))) ∧
      (∃ message, readId outside .role "@everyone" = .error (.invalid message) ∧
        Lookup.Ends (parseRole outside "@everyone").run [] (.ok (.error (.invalid message)))) := by
  intro here outside
  obtain ⟨-, -, -, -, hwithin, -⟩ := entities_follow_identifiers here "@everyone"
  obtain ⟨hblamed, -, -, -, -, hwithout⟩ := entities_follow_identifiers outside "@everyone"
  have hhere : readId here .role "@everyone" = .ok 7 := rfl
  have houtside : readId outside .role "@everyone" =
      .error (.invalid "Currently in a private channel, please use a URL") := rfl
  have hresolved := hwithin ⟨7⟩ rfl
  rw [hhere] at hresolved
  obtain ⟨message, hmessage⟩ := hblamed .role _ houtside
  refine ⟨(hresolved _ _).2 ⟨.ok none, rfl, rfl⟩, message, ?_, ?_⟩
  · rw [houtside, hmessage]
  · apply (hwithout rfl [] _).2
    rw [houtside, hmessage]
    exact ⟨rfl, rfl⟩

end ChatCommands
