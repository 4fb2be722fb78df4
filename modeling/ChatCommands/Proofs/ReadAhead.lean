import ChatCommands.Console.Basic
import ChatCommands.Proofs.EventIsolation

set_option autoImplicit false

/-!
# What the console hears of its input

The input of the console comes in blocks, cut anywhere. A subscription that fails takes the rest of
its block with it: the bytes that were read ahead of the fault. `Input.kept` is the input without
these, and its events are those of the streams that the console plays
(`Input.flatMap_events_streamsFrom`), however the blocks are cut. The console receives these events
in their order and none besides, and all of them if it may go on after each fault
(`console_hears_kept_input`). What was read ahead is lost, be it an event
(`event_read_ahead_is_lost`).
-/

namespace ChatCommands

namespace Input

/-! ## Lines and their events -/

/-- The event on a line. -/
def eventOn? (line : List UInt8) : Option Event :=
  match InputLine.ofBytes? line with
  | some (.event e) => some e
  | _ => none

/-- The fault on a line. -/
def faultOn? (line : List UInt8) : Option SourceFault :=
  match InputLine.ofBytes? line with
  | some (.fault f) => some f
  | _ => none

/-- The events that bytes encode after the beginning of a line, line by line. -/
def encoded (begun bytes : List UInt8) : List Event :=
  ((cutLines begun bytes).1 ++ lastLine (cutLines begun bytes).2).filterMap eventOn?

/-- The lines of bytes after other bytes: what these leave of a line is carried over. -/
theorem cutLines_append (begun xs ys : List UInt8) :
    cutLines begun (xs ++ ys) =
      ((cutLines begun xs).1 ++ (cutLines (cutLines begun xs).2 ys).1,
        (cutLines (cutLines begun xs).2 ys).2) := by
  induction xs generalizing begun with
  | nil => rfl
  | cons b bs ih =>
    rw [List.cons_append, cutLines, cutLines]
    by_cases hbreak : b = 10
    · simp only [if_pos hbreak, ih, List.cons_append]
    · simp only [if_neg hbreak, ih]

theorem encoded_append (begun xs ys : List UInt8) :
    encoded begun (xs ++ ys) =
      (cutLines begun xs).1.filterMap eventOn? ++ encoded (cutLines begun xs).2 ys := by
  simp only [encoded, cutLines_append, List.append_assoc, List.filterMap_append]

/-- A line that ends within bytes. -/
theorem cutLines_line {body : List UInt8} (hbody : 10 ∉ body) (begun rest : List UInt8) :
    cutLines begun (body ++ 10 :: rest) =
      ((begun.reverse ++ body ++ [10]) :: (cutLines [] rest).1, (cutLines [] rest).2) := by
  induction body generalizing begun with
  | nil =>
    rw [List.nil_append, cutLines, if_pos rfl, List.reverse_cons, List.append_nil]
  | cons b bs ih =>
    rw [List.mem_cons, not_or] at hbody
    obtain ⟨hfirst, hbs⟩ := hbody
    rw [List.cons_append, cutLines, if_neg (Ne.symm hfirst), ih hbs, List.reverse_cons,
      List.append_assoc begun.reverse]
    rfl

theorem encoded_line {body : List UInt8} (hbody : 10 ∉ body) (rest : List UInt8) :
    encoded [] (body ++ 10 :: rest) = (eventOn? (body ++ [10])).toList ++ encoded [] rest := by
  rw [encoded, cutLines_line hbody]
  simp only [List.reverse_nil, List.nil_append, List.cons_append, List.filterMap_cons, encoded]
  cases eventOn? (body ++ [10]) <;> rfl

/-! ## What is kept -/

/-- The bytes through the end of the first line that is a fault, if one is. -/
def throughFault? (begun : List UInt8) : List UInt8 → Option (List UInt8)
  | [] => none
  | b :: bs =>
    if b = 10 then
      if (faultOn? (b :: begun).reverse).isSome then some [b]
        else (throughFault? [] bs).map (b :: ·)
    else (throughFault? (b :: begun) bs).map (b :: ·)

/-- The blocks without what follows a fault within its block, in one. -/
def kept (begun : List UInt8) : List (List UInt8) → List UInt8
  | [] => []
  | block :: blocks =>
    match throughFault? begun block with
    | some taken => taken ++ kept [] blocks
    | none => block ++ kept (cutLines begun block).2 blocks

theorem taken_prefix_block {begun block taken : List UInt8}
    (h : throughFault? begun block = some taken) : taken <+: block := by
  induction block generalizing begun taken with
  | nil => cases h
  | cons b bs ih =>
    rw [throughFault?] at h
    split at h
    · split at h
      · obtain rfl := Option.some.inj h
        exact List.prefix_append [b] bs
      · obtain ⟨rest, hrest, rfl⟩ := Option.map_eq_some_iff.1 h
        exact List.cons_prefix_cons.2 ⟨rfl, ih hrest⟩
    · obtain ⟨rest, hrest, rfl⟩ := Option.map_eq_some_iff.1 h
      exact List.cons_prefix_cons.2 ⟨rfl, ih hrest⟩

theorem throughFault?_line {body : List UInt8} (hbody : 10 ∉ body) {begun : List UInt8}
    (hfault : (faultOn? (begun.reverse ++ body ++ [10])).isSome = true) (rest : List UInt8) :
    throughFault? begun (body ++ 10 :: rest) = some (body ++ [10]) := by
  induction body generalizing begun with
  | nil =>
    rw [List.append_nil, ← List.reverse_cons] at hfault
    rw [List.nil_append, throughFault?, if_pos rfl, if_pos hfault]
    rfl
  | cons b bs ih =>
    rw [List.mem_cons, not_or] at hbody
    obtain ⟨hfirst, hbs⟩ := hbody
    have hlater : (faultOn? ((b :: begun).reverse ++ bs ++ [10])).isSome = true := by
      rwa [List.reverse_cons, List.append_assoc begun.reverse]
    rw [List.cons_append, throughFault?, if_neg (Ne.symm hfirst), ih hbs hlater]
    rfl

/-- Whatever follows a fault within its block is not kept. -/
theorem kept_of_fault {body : List UInt8} (hbody : 10 ∉ body)
    (hfault : (faultOn? (body ++ [10])).isSome = true) (rest : List UInt8)
    (blocks : List (List UInt8)) :
    kept [] ((body ++ 10 :: rest) :: blocks) = body ++ 10 :: kept [] blocks := by
  rw [kept, throughFault?_line hbody (by simpa using hfault)]
  simp

/-- What is kept is the input but for some of its bytes. -/
theorem kept_sublist (begun : List UInt8) (blocks : List (List UInt8)) :
    (kept begun blocks).Sublist blocks.flatten := by
  induction blocks generalizing begun with
  | nil => exact List.Sublist.refl []
  | cons block blocks ih =>
    rw [kept, List.flatten_cons]
    split
    · rename_i taken htaken
      exact (taken_prefix_block htaken).sublist.append (ih [])
    · exact (List.Sublist.refl block).append (ih _)

/-! ## The streams of blocks -/

/-- The events of lines up to the first fault, and that fault. -/
def heard : List (List UInt8) → List Event × Option SourceFault
  | [] => ([], none)
  | line :: lines =>
    match InputLine.ofBytes? line with
    | none => heard lines
    | some (.fault f) => ([], some f)
    | some (.event e) => (e :: (heard lines).1, (heard lines).2)

/-- The stream of events that ends by a fault or for good. -/
def streamOf (events : List Event) (fault? : Option SourceFault) : EventStream :=
  ⟨events.map .event, fault?.elim .complete .fault⟩

/-- The streams from the blocks of one input, the first of which has come to some events
and has begun a line. -/
def streamsFrom (events : List Event) (begun : List UInt8) : List (List UInt8) → List EventStream
  | [] =>
    let (more, fault?) := heard (lastLine begun)
    streamOf (events ++ more) fault? :: (if fault?.isSome then [streamOf [] none] else [])
  | block :: blocks =>
    let (lines, rest) := cutLines begun block
    let (more, fault?) := heard lines
    if fault?.isSome then streamOf (events ++ more) fault? :: streamsFrom [] [] blocks
    else streamsFrom (events ++ more) rest blocks

/-- The streams of blocks. -/
def streams (blocks : List (List UInt8)) : List EventStream := streamsFrom [] [] blocks

theorem upToFault_eq (lines : List (List UInt8)) :
    upToFault lines = ((heard lines).1.map .event ++ ((heard lines).2.map FeedItem.fault).toList,
      (heard lines).2.isSome) := by
  induction lines with
  | nil => rfl
  | cons line lines ih =>
    rw [upToFault, heard]
    cases InputLine.ofBytes? line with
    | none => exact ih
    | some said =>
      cases said with
      | fault f => rfl
      | event e =>
        simp only [ih]
        rfl

theorem feed_streamOf (events : List Event) (fault? : Option SourceFault) :
    (streamOf events fault?).feed =
      ⟨events.map .event ++ (fault?.map FeedItem.fault).toList, false⟩ := by
  rw [streamOf, EventStream.feed, List.map_map]
  cases fault? <;> rfl

/-- The console's feeds are those of the streams. -/
theorem map_feed_streamsFrom (events : List Event) (begun : List UInt8)
    (blocks : List (List UInt8)) :
    (streamsFrom events begun blocks).map EventStream.feed =
      feedsFrom (events.map .event) begun blocks := by
  induction blocks generalizing events begun with
  | nil =>
    simp only [streamsFrom, feedsFrom, upToFault_eq, List.map_cons, feed_streamOf, List.map_append,
      List.append_assoc]
    cases (heard (lastLine begun)).2 <;> rfl
  | cons block blocks ih =>
    simp only [streamsFrom, feedsFrom, upToFault_eq]
    split
    · simp only [List.map_cons, feed_streamOf, List.map_append, List.append_assoc, ih]
      rfl
    · rename_i hnone
      rw [Option.not_isSome_iff_eq_none] at hnone
      simp [ih, hnone]

/-! ## The events of the streams -/

theorem heard_cons_of_fault {line : List UInt8} (h : (faultOn? line).isSome = true)
    (lines : List (List UInt8)) :
    heard (line :: lines) = ([], faultOn? line) ∧ eventOn? line = none := by
  rw [faultOn?] at h ⊢
  rw [heard, eventOn?]
  cases hsaid : InputLine.ofBytes? line with
  | none => simp [hsaid] at h
  | some said =>
    cases said with
    | fault f => exact ⟨rfl, rfl⟩
    | event e => simp [hsaid] at h

theorem heard_cons_of_other {line : List UInt8} (h : (faultOn? line).isSome = false)
    (lines : List (List UInt8)) :
    heard (line :: lines) = ((eventOn? line).toList ++ (heard lines).1, (heard lines).2) := by
  rw [faultOn?] at h
  rw [heard, eventOn?]
  cases hsaid : InputLine.ofBytes? line with
  | none => rfl
  | some said =>
    cases said with
    | fault f => simp [hsaid] at h
    | event e => rfl

/-- Without a fault all lines of a block are heard. -/
theorem heard_of_throughFault?_none {begun block : List UInt8}
    (h : throughFault? begun block = none) :
    heard (cutLines begun block).1 = ((cutLines begun block).1.filterMap eventOn?, none) := by
  induction block generalizing begun with
  | nil => rfl
  | cons b bs ih =>
    rw [throughFault?] at h
    rw [cutLines]
    split at h
    · rename_i hbreak
      split at h
      · cases h
      · rename_i hother
        rw [Option.map_eq_none_iff] at h
        rw [if_pos hbreak]
        simp only [heard_cons_of_other (Bool.eq_false_iff.2 hother), ih h, List.filterMap_cons]
        cases eventOn? (b :: begun).reverse <;> rfl
    · rename_i hwithin
      rw [Option.map_eq_none_iff] at h
      rw [if_neg hwithin]
      exact ih h

/-- A block with a fault is heard through the line of the fault, where no line has begun. -/
theorem heard_of_throughFault?_some {begun block taken : List UInt8}
    (h : throughFault? begun block = some taken) :
    (cutLines begun taken).2 = [] ∧ (heard (cutLines begun block).1).2.isSome = true ∧
      (heard (cutLines begun block).1).1 = (cutLines begun taken).1.filterMap eventOn? := by
  -- over the bytes, as both functions read them: a line ends by a fault, ends otherwise, or goes on
  induction block generalizing begun taken with
  | nil => cases h
  | cons b bs ih =>
    rw [throughFault?] at h
    rw [cutLines]
    split at h
    · rename_i hbreak
      split at h
      · rename_i hfault
        obtain rfl := Option.some.inj h
        obtain ⟨hheard, hnone⟩ := heard_cons_of_fault hfault (cutLines [] bs).1
        rw [if_pos hbreak]
        simp only [hheard, hfault, cutLines, if_pos hbreak, List.filterMap_cons, hnone]
        exact ⟨trivial, trivial, rfl⟩
      · rename_i hother
        obtain ⟨rest, hrest, rfl⟩ := Option.map_eq_some_iff.1 h
        obtain ⟨hbegun, hended, hevents⟩ := ih hrest
        rw [if_pos hbreak]
        simp only [heard_cons_of_other (Bool.eq_false_iff.2 hother), cutLines, if_pos hbreak,
          List.filterMap_cons, hevents]
        refine ⟨hbegun, hended, ?_⟩
        cases eventOn? (b :: begun).reverse <;> rfl
    · rename_i hwithin
      obtain ⟨rest, hrest, rfl⟩ := Option.map_eq_some_iff.1 h
      rw [if_neg hwithin, cutLines, if_neg hwithin]
      exact ih hrest

theorem events_streamOf (events : List Event) (fault? : Option SourceFault) :
    (streamOf events fault?).events = events := by
  rw [streamOf, EventStream.events, List.filterMap_map]
  exact List.filterMap_some

theorem heard_lastLine (begun : List UInt8) :
    (heard (lastLine begun)).1 = (lastLine begun).filterMap eventOn? := by
  rw [lastLine]
  split
  · rfl
  · cases hfault : (faultOn? begun.reverse).isSome with
    | true =>
      obtain ⟨hheard, hnone⟩ := heard_cons_of_fault hfault []
      rw [hheard, List.filterMap_cons, hnone]
      rfl
    | false =>
      rw [heard_cons_of_other hfault, List.filterMap_cons]
      cases eventOn? begun.reverse <;> rfl

/-- A fault is heard, and whatever follows it within its block is not. -/
theorem streamsFrom_of_fault {body : List UInt8} (hbody : 10 ∉ body)
    (hfault : (faultOn? (body ++ [10])).isSome = true) (rest : List UInt8)
    (blocks : List (List UInt8)) :
    streamsFrom [] [] ((body ++ 10 :: rest) :: blocks) =
      streamOf [] (faultOn? (body ++ [10])) :: streamsFrom [] [] blocks := by
  obtain ⟨hheard, -⟩ := heard_cons_of_fault hfault (cutLines [] rest).1
  rw [streamsFrom, cutLines_line hbody]
  simp only [List.reverse_nil, List.nil_append, hheard, hfault, if_true]

/-- The events of the streams are those of what is kept, in their order. -/
theorem flatMap_events_streamsFrom (events : List Event) (begun : List UInt8)
    (blocks : List (List UInt8)) :
    (streamsFrom events begun blocks).flatMap EventStream.events =
      events ++ encoded begun (kept begun blocks) := by
  induction blocks generalizing events begun with
  | nil =>
    have hencoded : encoded begun (kept begun []) = (lastLine begun).filterMap eventOn? := rfl
    rw [streamsFrom, hencoded, ← heard_lastLine]
    dsimp only
    split <;> simp [events_streamOf]
  | cons block blocks ih =>
    rw [streamsFrom, kept]
    dsimp only
    cases htaken : throughFault? begun block with
    | none =>
      rw [heard_of_throughFault?_none htaken]
      simp [ih, encoded_append]
    -- the next stream begins with no event and no line, and so does what is kept after the fault
    | some taken =>
      obtain ⟨hbegun, hended, hevents⟩ := heard_of_throughFault?_some htaken
      rw [if_pos hended]
      simp [ih, encoded_append, hbegun, hevents, events_streamOf]

section TwoLines

variable {blip ping : List UInt8} {f : SourceFault} {e : Event}
  (hblip : 10 ∉ blip) (hping : 10 ∉ ping)
  (hfault : faultOn? (blip ++ [10]) = some f) (hevent : eventOn? (ping ++ [10]) = some e)
include hblip hfault

theorem encoded_of_fault (rest : List UInt8) :
    encoded [] (blip ++ 10 :: rest) = encoded [] rest := by
  have hsome : (faultOn? (blip ++ [10])).isSome = true := by rw [hfault]; rfl
  rw [encoded_line hblip, (heard_cons_of_fault hsome []).2]
  rfl

/-- What follows a fault in its block is in no stream. -/
theorem streams_of_fault (rest : List UInt8) :
    streams [blip ++ 10 :: rest] = [streamOf [] (some f), streamOf [] none] := by
  have hsome : (faultOn? (blip ++ [10])).isSome = true := by rw [hfault]; rfl
  rw [streams, streamsFrom_of_fault hblip hsome, hfault]
  rfl

include hping hevent

/-- What comes in the next block is in the next stream. -/
theorem streams_of_fault_of_event :
    streams [blip ++ [10], ping ++ [10]] = [streamOf [] (some f), streamOf [e] none] := by
  have hsome : (faultOn? (blip ++ [10])).isSome = true := by rw [hfault]; rfl
  have hother : (faultOn? (ping ++ [10])).isSome = false := by
    refine Bool.eq_false_iff.2 fun hsome' => ?_
    rw [(heard_cons_of_fault hsome' []).2] at hevent
    cases hevent
  have hlast : streamsFrom [] [] [ping ++ [10]] = [streamOf [e] none] := by
    rw [streamsFrom, cutLines_line hping]
    simp only [List.reverse_nil, List.nil_append, cutLines, heard_cons_of_other hother, hevent]
    rfl
  rw [streams, streamsFrom_of_fault hblip hsome, hfault, hlast]

theorem encoded_kept_of_fault_of_event :
    encoded [] (kept [] [blip ++ [10], ping ++ [10]]) = [e] := by
  have hevents := flatMap_events_streamsFrom [] [] [blip ++ [10], ping ++ [10]]
  have hstreams := streams_of_fault_of_event hblip hping hfault hevent
  rw [streams] at hstreams
  rw [hstreams] at hevents
  simpa [events_streamOf] using hevents.symm

end TwoLines

/-- The last of the streams is over for good. -/
theorem exists_complete_streamsFrom (events : List Event) (begun : List UInt8)
    (blocks : List (List UInt8)) :
    ∃ earlier last,
      streamsFrom events begun blocks = earlier ++ [last] ∧ last.closing = .complete := by
  induction blocks generalizing events begun with
  | nil =>
    rw [streamsFrom]
    cases hfault : (heard (lastLine begun)).2 with
    | none =>
      exact ⟨[], streamOf (events ++ (heard (lastLine begun)).1) none, by simp [hfault], rfl⟩
    | some f =>
      exact ⟨[streamOf (events ++ (heard (lastLine begun)).1) (some f)], streamOf [] none,
        by simp [hfault], rfl⟩
  | cons block blocks ih =>
    rw [streamsFrom]
    dsimp only
    split
    · obtain ⟨earlier, last, hlater, hcomplete⟩ := ih [] []
      exact ⟨_ :: earlier, last, by rw [hlater, List.cons_append], hcomplete⟩
    · exact ih _ _

end Input

/-! ## Runs of the console -/

open EventStream (eventsOf)

/-- Streams of which the last is over for good lead there, if the run goes on after
each of the others. -/
theorem Sequel.Leads.of_complete {s : RetrySettings} {earlier : List EventStream}
    {last : EventStream} (hcomplete : last.closing = .complete)
    (hresumes : ∀ i < earlier.length, s.sequel (earlier ++ [last]) i = .resumes) {i : Nat}
    (hi : i ≤ earlier.length) :
    Leads (s.sequel (earlier ++ [last])) i (some .finished) earlier.length := by
  induction hleft : earlier.length - i generalizing i with
  | zero =>
    obtain rfl : i = earlier.length := by omega
    exact .stops (RetrySettings.sequel_of_complete (by simp) hcomplete)
  | succ left ih => exact .resumes (hresumes i (by omega)) (ih (by omega) (by omega))

theorem eventsOf_prefix_flatMap (streams : List EventStream) (n : Nat) :
    eventsOf streams n <+: streams.flatMap EventStream.events := by
  conv => rhs; rw [← List.take_append_drop n streams, List.flatMap_append]
  exact List.prefix_append _ _

/-- What the console hears of its input, for any settings and any blocks. Its feeds are those of the
streams of the blocks. The input that is kept is the input without some of its bytes, and the events
that the pipeline receives are those that the kept input encodes, in their order, up to some place.
If none of them halts the pipeline and the run goes on after every stream but the last, then the run
finishes, and all of them have been received by then. -/
theorem console_hears_kept_input (settings : ConsoleSettings) (blocks : List (List UInt8)) :
    let pl := settings.toPipeline
    let streams := Input.streams blocks
    let heard := Input.encoded [] (Input.kept [] blocks)
    let report := settings.run (Input.feedsFrom [] [] blocks)
    let books := fun deadline => (account settings.platform pl streams {} deadline).1
    report = reports settings.platform pl streams {} ∧
      (Input.kept [] blocks).Sublist blocks.flatten ∧
      (∀ deadline, (books deadline).received <+: heard) ∧
      (pl.GoesOn heard →
        (∀ i, i + 1 < streams.length → pl.settings.retry.sequel streams i = .resumes) →
        ∃ t, ∀ deadline, t ≤ deadline →
          (report deadline).result = some .finished ∧ (books deadline).received = heard) := by
  intro pl streams heard report books
  have hevents : streams.flatMap EventStream.events = heard :=
    Input.flatMap_events_streamsFrom [] [] blocks
  have hfeeds : streams.map EventStream.feed = Input.feedsFrom [] [] blocks :=
    Input.map_feed_streamsFrom [] [] blocks
  have hreport : report = reports settings.platform pl streams {} := by
    funext deadline
    rw [reports, hfeeds]
    rfl
  refine ⟨hreport, Input.kept_sublist [] blocks, fun deadline => ?_, fun hgoes hresumes => ?_⟩
  -- at any instant the run is at some place of its streams
  · obtain ⟨i, -, hreceived, -⟩ :=
      (balanced_account settings.platform pl streams {} deadline).stands.exists_place
    rw [← hevents]
    exact hreceived.trans (eventsOf_prefix_flatMap streams _)
  · obtain ⟨earlier, last, hstreams, hcomplete⟩ := Input.exists_complete_streamsFrom [] [] blocks
    have hlength : streams.length = earlier.length + 1 := by
      rw [show streams = earlier ++ [last] from hstreams, List.length_append]
      rfl
    have hleads :
        Sequel.Leads (pl.settings.retry.sequel streams) 0 (some .finished) earlier.length := by
      rw [show streams = earlier ++ [last] from hstreams] at hresumes ⊢
      exact .of_complete hcomplete (fun i hi => hresumes i (by simpa using hi)) (Nat.zero_le _)
    have hquiet : ∀ st ∈ streams, pl.GoesOn st.events := by
      intro st hst e he
      refine hgoes e ?_
      rw [← hevents]
      exact List.mem_flatMap.2 ⟨st, hst, he⟩
    have hbegins : Begins settings.platform pl streams {} 0 0 := begins_zero
    obtain ⟨t, hshown⟩ := (hbegins.shows hquiet hleads).wholly
    refine ⟨t, fun deadline hlate => ?_⟩
    obtain ⟨hresult, hsubscriptions, -⟩ := hshown deadline hlate
    obtain ⟨t', hphase⟩ := result_eq_some_iff.1 hresult
    have hreceived :=
      (balanced_account settings.platform pl streams {} deadline).stands.received_of_finished hphase
    refine ⟨by rw [hreport]; exact hresult, hreceived.trans ?_⟩
    -- every stream has been subscribed to by then
    rw [subscriptions_account, hsubscriptions, eventsOf, ← hlength, List.take_length, hevents]

/-- The bytes of a text of plain characters. -/
def plainBytes (text : String) : List UInt8 := text.toList.map fun c => UInt8.ofNat c.toNat

/-- A fault that passes. -/
def blip : List UInt8 :=
  plainBytes "\x7b\"fault\": \x7b\"class\": \"transient\", \"message\": \"blip\"\x7d\x7d"

/-- A message. -/
def ping : List UInt8 :=
  plainBytes ("\x7b\"channel_id\":2,\"caller\":\x7b\"user_id\":3,\"username\":\"ada\"\x7d," ++
    "\"payload\":\x7b\"type\":\"text\"," ++
    "\"payload\":\x7b\"message_id\":4,\"content\":\"hi\"\x7d\x7d\x7d")

theorem faultOn?_blip : Input.faultOn? (blip ++ [10]) = some ⟨.transient, "blip"⟩ := by
  decide +kernel

theorem exists_eventOn?_ping : ∃ e, Input.eventOn? (ping ++ [10]) = some e := by
  have hevent : (Input.eventOn? (ping ++ [10])).isSome = true := by decide +kernel
  exact Option.isSome_iff_exists.1 hevent

theorem not_mem_blip : 10 ∉ blip := by decide

theorem not_mem_ping : 10 ∉ ping := by decide +kernel

/-- With the usual settings the run goes on after one fault. -/
theorem resumes_after_blip {streams : List EventStream} {last : EventStream}
    (hstreams : streams = [Input.streamOf [] (some ⟨.transient, "blip"⟩), last]) :
    ∀ i, i + 1 < streams.length → ({} : RetrySettings).sequel streams i = .resumes := by
  intro i hi
  subst hstreams
  obtain rfl : i = 0 := by
    simp only [List.length_cons, List.length_nil] at hi
    omega
  refine RetrySettings.sequel_of_fits rfl rfl rfl ?_ ?_
  · show 1 ≤ 100
    omega
  · show 2 * 1 < 2 ^ 64
    omega

/-- In one block the fault takes the message with it: the input encodes an event, the run goes on
after the fault, and no event is ever received. -/
theorem event_read_ahead_is_lost :
    let settings : ConsoleSettings := {}
    let input := blip ++ 10 :: (ping ++ [10])
    let streams := Input.streams [input]
    (Input.encoded [] input).length = 1 ∧
      (∀ i, i + 1 < streams.length →
        settings.toPipeline.settings.retry.sequel streams i = .resumes) ∧
      ∀ deadline, (account settings.platform settings.toPipeline streams {} deadline).1.received =
        [] := by
  intro settings input streams
  obtain ⟨e, hevent⟩ := exists_eventOn?_ping
  have hfault : (Input.faultOn? (blip ++ [10])).isSome = true := by rw [faultOn?_blip]; rfl
  refine ⟨?_, resumes_after_blip (Input.streams_of_fault not_mem_blip faultOn?_blip _),
    fun deadline => ?_⟩
  · rw [Input.encoded_of_fault not_mem_blip faultOn?_blip, Input.encoded_line not_mem_ping, hevent]
    rfl
  · obtain ⟨-, -, hreceived, -⟩ := console_hears_kept_input settings [input]
    have hprefix := hreceived deadline
    rw [Input.kept_of_fault not_mem_blip hfault,
      Input.encoded_of_fault not_mem_blip faultOn?_blip] at hprefix
    exact List.prefix_nil.1 hprefix

/-- In two blocks it is received. -/
theorem event_in_next_block_is_heard :
    let settings : ConsoleSettings := {}
    let streams := Input.streams [blip ++ [10], ping ++ [10]]
    ∃ t, ∀ deadline, t ≤ deadline →
      (account settings.platform settings.toPipeline streams {} deadline).1.received.length =
        1 := by
  intro settings streams
  obtain ⟨e, hevent⟩ := exists_eventOn?_ping
  obtain ⟨-, -, -, hall⟩ := console_hears_kept_input settings [blip ++ [10], ping ++ [10]]
  obtain ⟨t, ht⟩ := hall (Pipeline.goesOn_of_dropEvent rfl _)
    (resumes_after_blip
      (Input.streams_of_fault_of_event not_mem_blip not_mem_ping faultOn?_blip hevent))
  refine ⟨t, fun deadline hlate => ?_⟩
  rw [(ht deadline hlate).2,
    Input.encoded_kept_of_fault_of_event not_mem_blip not_mem_ping faultOn?_blip hevent]
  rfl

end ChatCommands
