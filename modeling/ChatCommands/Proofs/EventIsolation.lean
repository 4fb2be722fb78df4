import ChatCommands.Proofs.RetryLaw
import ChatCommands.Proofs.RunAccounts

set_option autoImplicit false

/-!
# Isolation of events

What events contain and what processing them does stays with them. When no event halts the pipeline,
the places of the streams lead to one end (`Sequel.Leads`), and the run shows this end, with the
pauses before it, under every long enough deadline (`Begins.shows`). All of it depends on the
patterns of the streams alone (`sequel_congr`), so two runs on streams of the same pattern show the
same: `events_are_isolated`, which also says what a run that ends has done about its events.
-/

namespace ChatCommands

open EventStream (eventsOf)

/-! ## Patterns -/

/-- The pattern of a stream: how many events it delivers, and how it closes. -/
def EventStream.pattern (st : EventStream) : Nat × Closing := (st.events.length, st.closing)

section Patterns

variable {streams₁ streams₂ : List EventStream}
  (hpattern : streams₁.map EventStream.pattern = streams₂.map EventStream.pattern)

theorem faultsInRow_eq_foldl_pattern (streams : List EventStream) :
    faultsInRow streams = (streams.map EventStream.pattern).foldl
      (fun n x => (if x.1 = 0 then n else 0) + if x.2.isTransient then 1 else 0) 0 := by
  rw [faultsInRow, List.foldl_map]
  congr 1
  funext n st
  rw [EventStream.carried, EventStream.pattern]
  by_cases hnone : st.events = []
  · rw [if_pos hnone, if_pos (List.length_eq_zero_iff.2 hnone)]
  · rw [if_neg hnone, if_neg fun h => hnone (List.length_eq_zero_iff.1 h)]

include hpattern

theorem faultsInRow_congr (n : Nat) :
    faultsInRow (streams₁.take n) = faultsInRow (streams₂.take n) := by
  rw [faultsInRow_eq_foldl_pattern, faultsInRow_eq_foldl_pattern, List.map_take, List.map_take,
    hpattern]

theorem closing_congr (i : Nat) :
    streams₁[i]?.map EventStream.closing = streams₂[i]?.map EventStream.closing := by
  have hplace := congrArg (fun xs => xs[i]?.map (·.2)) hpattern
  simpa [Function.comp_def, EventStream.pattern] using hplace

theorem pauseAfter_congr (s : RetrySettings) (i : Nat) :
    s.pauseAfter streams₁ i = s.pauseAfter streams₂ i := by
  rw [RetrySettings.pauseAfter, RetrySettings.pauseAfter, faultsInRow_congr hpattern]

/-- What follows a stream depends on the patterns of the streams alone. -/
theorem sequel_congr (s : RetrySettings) (i : Nat) : s.sequel streams₁ i = s.sequel streams₂ i := by
  have hclosing := closing_congr hpattern i
  rw [RetrySettings.sequel, RetrySettings.sequel, faultsInRow_congr hpattern,
    pauseAfter_congr hpattern]
  cases h₁ : streams₁[i]? with
  | none =>
    cases h₂ : streams₂[i]? with
    | none => rfl
    | some st₂ => simp [h₁, h₂] at hclosing
  | some st₁ =>
    cases h₂ : streams₂[i]? with
    | none => simp [h₁, h₂] at hclosing
    | some st₂ =>
      have hsame : st₁.closing = st₂.closing := by simpa [h₁, h₂] using hclosing
      simp only [hsame]

theorem pausesThrough_congr (s : RetrySettings) (i : Nat) :
    s.pausesThrough streams₁ i = s.pausesThrough streams₂ i := by
  have hpauses : s.pauseAfter streams₁ = s.pauseAfter streams₂ :=
    funext (pauseAfter_congr hpattern s)
  rw [RetrySettings.pausesThrough, RetrySettings.pausesThrough, RetrySettings.pausesBefore,
    RetrySettings.pausesBefore, hpauses, sequel_congr hpattern]

end Patterns

/-! ## Where the streams lead -/

/-- From a place on, sequels lead to the last subscription at another place, and to
an end or none. -/
inductive Sequel.Leads (next : Nat → Sequel) : Nat → Option RunEnd → Nat → Prop where
  | silence {i : Nat} (h : next i = .silence) : Leads next i none i
  | stops {i : Nat} {result : RunEnd} (h : next i = .stops result) : Leads next i (some result) i
  | overflows {i : Nat} (h : next i = .overflows) : Leads next i (some .broken) i
  | resumes {i last : Nat} {result : Option RunEnd} (h : next i = .resumes)
      (hlater : Leads next (i + 1) result last) : Leads next i result last

/-- Sequels lead to one end. -/
theorem Sequel.Leads.unique {next : Nat → Sequel} {i last last' : Nat}
    {result result' : Option RunEnd}
    (h : Leads next i result last) (h' : Leads next i result' last') :
    result = result' ∧ last = last' := by
  induction h with
  | silence hsequel =>
    cases h' with
    | silence => exact ⟨rfl, rfl⟩
    | stops h | overflows h | resumes h => cases hsequel.symm.trans h
  | stops hsequel =>
    cases h' with
    | stops h =>
      cases hsequel.symm.trans h
      exact ⟨rfl, rfl⟩
    | silence h | overflows h | resumes h => cases hsequel.symm.trans h
  | overflows hsequel =>
    cases h' with
    | overflows => exact ⟨rfl, rfl⟩
    | silence h | stops h | resumes h => cases hsequel.symm.trans h
  | resumes hsequel _ ih =>
    cases h' with
    | resumes _ hlater => exact ih hlater
    | silence h | stops h | overflows h => cases hsequel.symm.trans h

theorem RetrySettings.exists_leads (s : RetrySettings) (streams : List EventStream) (i : Nat) :
    ∃ result last, Sequel.Leads (s.sequel streams) i result last := by
  induction hleft : streams.length - i generalizing i with
  | zero =>
    have hnone : streams[i]? = none := List.getElem?_eq_none_iff.2 (by omega)
    exact ⟨none, i, .silence (sequel_of_none hnone)⟩
  | succ left ih =>
    cases hsequel : s.sequel streams i with
    | silence => exact ⟨none, i, .silence hsequel⟩
    | stops result => exact ⟨some result, i, .stops hsequel⟩
    | overflows => exact ⟨some .broken, i, .overflows hsequel⟩
    | resumes =>
      obtain ⟨result, last, hlater⟩ := ih (i + 1) (by omega)
      exact ⟨result, last, .resumes hsequel hlater⟩

/-! ## What is seen of a run -/

section Run

variable {σ : Type} {p : Platform σ} {pl : Pipeline} {streams : List EventStream} {s : σ}

/-- What is seen of a run: the value that it returns, if it does, how often it
subscribes, and the seconds of its pauses. Part of it is seen under every deadline, and
all of it from some deadline on. -/
structure Shows (p : Platform σ) (pl : Pipeline) (streams : List EventStream) (s : σ)
    (result : Option RunEnd) (subscriptions : Nat) (pauses : List Nat) : Prop where
  partly : ∀ deadline,
    (∀ x, (reports p pl streams s deadline).result = some x → result = some x) ∧
      (reports p pl streams s deadline).subscriptions ≤ subscriptions ∧
      (account p pl streams s deadline).1.pauses <+: pauses
  wholly : ∃ t, ∀ deadline, t ≤ deadline →
    (reports p pl streams s deadline).result = result ∧
      (reports p pl streams s deadline).subscriptions = subscriptions ∧
      (account p pl streams s deadline).1.pauses = pauses

/-- The account of a run is of the run that is reported. -/
theorem run_account (p : Platform σ) (pl : Pipeline) (streams : List EventStream) (s : σ)
    (deadline : Nat) :
    (opening pl streams s).upTo p pl deadline =
      ((account p pl streams s deadline).1.run, (account p pl streams s deadline).2) :=
  Account.run_advance p pl 0 deadline
    (.opening pl.settings.retry (streams.map EventStream.feed)) s

theorem subscriptions_account (p : Platform σ) (pl : Pipeline) (streams : List EventStream) (s : σ)
    (deadline : Nat) : (account p pl streams s deadline).1.reception.subscriptions =
      (reports p pl streams s deadline).subscriptions := by
  rw [(reports_eq p pl streams s deadline).2.2, run_account]
  rfl

/-- A result is reported exactly when reception has ended with it. -/
theorem result_eq_some_iff {deadline : Nat} {result : RunEnd} :
    (reports p pl streams s deadline).result = some result ↔
      ∃ t, (account p pl streams s deadline).1.reception.phase = .ended t result := by
  rw [(reports_eq p pl streams s deadline).1, run_account, Run.end?]
  simp only [Account.run]
  cases (account p pl streams s deadline).1.reception.phase <;> simp

theorem pauses_account_prefix {deadline last : Nat}
    (hle : (reports p pl streams s deadline).subscriptions ≤ last + 1) :
    (account p pl streams s deadline).1.pauses <+:
      pl.settings.retry.pausesThrough streams last := by
  have hstands := (balanced_account p pl streams s deadline).stands
  obtain ⟨i, hplace, -, hpauses⟩ := hstands.exists_place
  rw [subscriptions_account] at hplace
  exact hpauses.trans (RetrySettings.pausesThrough_mono (by omega))

/-- A run that ends, be it not by an event, shows its end. -/
theorem EndsAt.shows {last t : Nat} {result : RunEnd}
    (h : EndsAt (reports p pl streams s) (last + 1) t result)
    (hresult : ∀ v, result ≠ .matchViolation v) :
    Shows p pl streams s (some result) (last + 1)
      (pl.settings.retry.pausesThrough streams last) := by
  refine ⟨fun deadline => ⟨fun x hx => ?_, h.subscriptions_le deadline, ?_⟩,
    t, fun deadline hlate => ?_⟩
  · rcases Nat.lt_or_ge deadline t with hearly | hlate
    · rw [(h.before deadline hearly).1] at hx
      cases hx
    · rw [← hx, (h.since deadline hlate).1]
  · exact pauses_account_prefix (h.subscriptions_le deadline)
  · obtain ⟨hsome, -, hsubscriptions⟩ := h.since deadline hlate
    obtain ⟨t', hphase⟩ := result_eq_some_iff.1 hsome
    have hstands := (balanced_account p pl streams s deadline).stands
    refine ⟨hsome, hsubscriptions, hstands.pauses_of_ended hphase hresult ?_⟩
    rw [subscriptions_account, hsubscriptions]

/-- Where no stream is left, the run shows no end. -/
theorem Begins.shows_silence {i t : Nat} (h : Begins p pl streams s i t)
    (hnone : streams[i]? = none) :
    Shows p pl streams s none (i + 1) (pl.settings.retry.pausesThrough streams i) := by
  refine ⟨fun deadline => ?_, t, fun deadline hlate => ?_⟩
  · obtain ⟨hresult, hle⟩ := h.silent hnone deadline
    exact ⟨fun x hx => absurd (hresult.symm.trans hx) (by simp), hle, pauses_account_prefix hle⟩
  · obtain ⟨hresult, hle⟩ := h.silent hnone deadline
    have hsubscriptions := Nat.le_antisymm hle ((h.subscribesAt deadline).2 hlate)
    have hstands := (balanced_account p pl streams s deadline).stands
    refine ⟨hresult, hsubscriptions, hstands.pauses_of_silence ?_ ?_
      (RetrySettings.sequel_of_none hnone)⟩
    · intro t' result hphase
      have hsome := result_eq_some_iff.2 ⟨t', hphase⟩
      rw [hresult] at hsome
      cases hsome
    · rw [subscriptions_account, hsubscriptions]

/-- A run whose events do not halt it shows where the streams lead. -/
theorem Begins.shows {i t last : Nat} {result : Option RunEnd} (h : Begins p pl streams s i t)
    (hgoes : ∀ st ∈ streams, pl.GoesOn st.events)
    (hleads : Sequel.Leads (pl.settings.retry.sequel streams) i result last) :
    Shows p pl streams s result (last + 1) (pl.settings.retry.pausesThrough streams last) := by
  induction hleads generalizing t with
  | silence hsequel =>
    have hfollows := h.follows hgoes
    rw [hsequel] at hfollows
    exact h.shows_silence hfollows
  | stops hsequel =>
    have hfollows := h.follows hgoes
    rw [hsequel] at hfollows
    obtain ⟨hresult, t', hends⟩ := hfollows
    exact hends.shows hresult
  | overflows hsequel =>
    have hfollows := h.follows hgoes
    rw [hsequel] at hfollows
    obtain ⟨t', hends⟩ := hfollows
    exact hends.shows (by simp)
  | resumes hsequel _ ih =>
    have hfollows := h.follows hgoes
    rw [hsequel] at hfollows
    obtain ⟨_, _, -, -, -, hnext⟩ := hfollows
    exact ih hnext

end Run

theorem Pipeline.goesOn_of_dropEvent {pl : Pipeline}
    (hdrop : pl.settings.onMatchViolation = .dropEvent) (events : List Event) :
    pl.GoesOn events := by
  intro e _ _
  rw [halts, hdrop]
  exact Bool.and_false _

/-- Isolation of events, for runs on any streams and platforms. Two runs that drop events for
input left unmatched, with the same settings of retries and on streams of the same pattern, show
the same value, number of subscriptions and pauses, whatever the events are and whatever their
processing does: those to which the sequels of the streams lead. In every run each event of
interest that has come is accounted for once; one that is processed is no bot's and ends as its
program can. A run that finishes has processed all events of interest of the streams that it
subscribed to, each of them once. A violated match is that of an event of interest that has come,
and that leaves input unmatched. -/
theorem events_are_isolated {σ₁ σ₂ : Type} (p₁ : Platform σ₁) (p₂ : Platform σ₂)
    (pl₁ pl₂ : Pipeline) (streams₁ streams₂ : List EventStream) (s₁ : σ₁) (s₂ : σ₂)
    (hdrop₁ : pl₁.settings.onMatchViolation = .dropEvent)
    (hdrop₂ : pl₂.settings.onMatchViolation = .dropEvent)
    (hretry : pl₁.settings.retry = pl₂.settings.retry)
    (hpattern : streams₁.map EventStream.pattern = streams₂.map EventStream.pattern) :
    (∃ result last,
      let pauses := pl₁.settings.retry.pausesThrough streams₁ last
      Sequel.Leads (pl₁.settings.retry.sequel streams₁) 0 result last ∧
        Shows p₁ pl₁ streams₁ s₁ result (last + 1) pauses ∧
        Shows p₂ pl₂ streams₂ s₂ result (last + 1) pauses) ∧
    ∀ (σ : Type) (p : Platform σ) (pl : Pipeline) (streams : List EventStream) (s : σ)
      (deadline : Nat),
      let report := reports p pl streams s deadline
      let books := (account p pl streams s deadline).1
      let delivered := eventsOf streams report.subscriptions
      (opening pl streams s).upTo p pl deadline =
        (books.run, (account p pl streams s deadline).2) ∧
      books.received <+: delivered ∧
      (books.processed.map (·.1) ++ books.underWay.map (·.1) ++ books.dropped).Perm
        (books.received.filter fun e => !e.caller.bot) ∧
      (∀ x ∈ books.processed, x.1.caller.bot = false ∧ pl.CanEnd x.1 x.2) ∧
      (report.result = some .finished →
        (books.processed.map (·.1)).Perm (delivered.filter fun e => !e.caller.bot)) ∧
      ∀ v, report.result = some (.matchViolation v) →
        ∃ e ∈ books.received, e.caller.bot = false ∧ pl.halts e = true ∧
          pl.violation? e = some v := by
  constructor
  · obtain ⟨result, last, hleads⟩ := pl₁.settings.retry.exists_leads streams₁ 0
    have hfirst : Begins p₁ pl₁ streams₁ s₁ 0 0 := begins_zero
    have hsecond : Begins p₂ pl₂ streams₂ s₂ 0 0 := begins_zero
    -- what follows the streams is the same function of their places in both runs
    have hsame : pl₁.settings.retry.sequel streams₁ = pl₂.settings.retry.sequel streams₂ := by
      rw [hretry]
      exact funext (sequel_congr hpattern _)
    have hpauses : pl₁.settings.retry.pausesThrough streams₁ last =
        pl₂.settings.retry.pausesThrough streams₂ last := by
      rw [hretry]
      exact pausesThrough_congr hpattern _ last
    refine ⟨result, last, hleads,
      hfirst.shows (fun _ _ => pl₁.goesOn_of_dropEvent hdrop₁ _) hleads, ?_⟩
    rw [hpauses]
    rw [hsame] at hleads
    exact hsecond.shows (fun _ _ => pl₂.goesOn_of_dropEvent hdrop₂ _) hleads
  · intro σ p pl streams s deadline report books delivered
    have hbalanced : books.Balanced pl streams := balanced_account p pl streams s deadline
    have hsubscriptions : books.reception.subscriptions = report.subscriptions :=
      subscriptions_account p pl streams s deadline
    refine ⟨run_account p pl streams s deadline, ?_, hbalanced.tally, ?_, ?_, ?_⟩
    · obtain ⟨i, hplace, hreceived, -⟩ := hbalanced.stands.exists_place
      rwa [← hplace, hsubscriptions] at hreceived
    · intro x hx
      obtain ⟨-, hinteresting⟩ := mem_received_of_processed hx
      exact ⟨by simpa [Event.isInteresting] using hinteresting, hbalanced.processed x hx⟩
    · intro hfinished
      obtain ⟨t, hphase⟩ := result_eq_some_iff.1 hfinished
      have hperm := perm_of_finished hphase
      rwa [subscriptions_account] at hperm
    · intro v hviolation
      obtain ⟨t, hphase⟩ := result_eq_some_iff.1 hviolation
      obtain ⟨e, he, hinteresting, hhalts, hleft⟩ := exists_halting_of_violated hphase
      exact ⟨e, he, by simpa [Event.isInteresting] using hinteresting, hhalts, hleft⟩

/-- The owner calls the command with a word too many. -/
def wordyEvent : Event := { lockEvent with payload := .slash ["lock", "now"] [] [] }

theorem matching_wordy (retry : RetrySettings) :
    (retryingPipeline retry).matching wordyEvent = .violation ⟨"lock", "now"⟩ := by
  have hnext : (TokenStream.ofTokens ["lock", "now"]).next? = some ("lock", .ofTokens ["now"]) :=
    rfl
  have hoffered :
      (retryingPipeline retry).registry (Invocation.root.child "lock") wordyEvent.style =
        some ⟨lockCommand, some lockHandler, []⟩ := rfl
  have hlater : (TokenStream.ofTokens ["now"]).next? = some ("now", .empty) := rfl
  have hunknown : (retryingPipeline retry).registry
      ((Invocation.root.child lockCommand.name).child "now") wordyEvent.style = none := rfl
  have hchain : matchChain (retryingPipeline retry).registry wordyEvent.style
      (.ofTokens ["lock", "now"]) =
        (⟨[⟨lockCommand, some lockHandler, []⟩], ⟨["lock"]⟩⟩, .ofTokens ["now"]) := by
    rw [matchChain, matchBelow_of_known hnext hoffered]
    dsimp only
    rw [matchBelow_of_unknown hlater hunknown]
    rfl
  have htokens : (retryingPipeline retry).tokens? wordyEvent = some (.ofTokens ["lock", "now"]) :=
    rfl
  have hkept : ((retryingPipeline retry).aliases.apply (.ofTokens ["lock", "now"])).2 =
      .ofTokens ["lock", "now"] := rfl
  rw [Pipeline.matching]
  simp only [htokens, hkept, hchain]
  rfl

/-- A run whose first event violates the match ends at once. -/
theorem result_of_violation {σ : Type} (p : Platform σ) (pl : Pipeline) (s : σ) {e : Event}
    {v : MatchViolation} (hmatching : pl.matching e = .violation v)
    (hinteresting : e.isInteresting = true) (deadline : Nat) :
    (reports p pl [⟨[.event e], .complete⟩] s deadline).result = some (.matchViolation v) := by
  have hprocess : pl.process e =
      .ask (.record .event ((Tags.ofEvent e).withOutcome "fatal")) fun _ =>
        .done (.ok (.error v)) := by
    rw [Pipeline.process, Pipeline.moves, Pipeline.procedure, Pipeline.processInner, hmatching]
    rfl
  let start := opening pl [⟨[.event e], .complete⟩] s
  have hreception : start.run.reception.poll pl.settings.retry 0 =
      ([e], ⟨.fresh pl.settings.retry, .draining, 1, []⟩) := rfl
  have hpoll : start.run.poll p pl start.instant start.state =
      (⟨⟨.fresh pl.settings.retry, .ended 0 (.matchViolation v), 1, []⟩, []⟩,
        p.record .event ((Tags.ofEvent e).withOutcome "fatal") s) := by
    rw [Run.poll, show start.instant = 0 from rfl, hreception]
    simp only [List.filter_cons, hinteresting, if_true, List.filter_nil, List.map_cons,
      List.map_nil, hprocess]
    rfl
  rw [(reports_eq p pl _ s deadline).1, Moment.upTo_eq, hpoll]
  rfl

/-- A pipeline that drops events for input left unmatched. -/
def droppingPipeline (lead : String) : Pipeline :=
  { lockPipeline with settings := { lead := lead, retry := ⟨2, 2, 3⟩ } }

/-- A fault, and two messages of which one is a bot's. -/
def quietStreams : List EventStream :=
  [⟨[], .fault reset⟩, ⟨[.event (chatter false), .event (chatter true)], .complete⟩]

/-- A fault, and two calls. -/
def busyStreams : List EventStream :=
  [⟨[.silence 5], .fault reset⟩, ⟨[.event lockEvent, .silence 10, .event lockEvent], .complete⟩]

/-- Two calls that the directory fails, with no line written, show what two messages show: one pause
of two seconds, and a run that finishes after its second subscription. By then both calls have been
processed. A word too many stops the pipeline that is to stop for it. -/
theorem calls_show_what_messages_show :
    let report := reports (Directory.unavailable.console true) (droppingPipeline "?") busyStreams {}
    let books := fun deadline =>
      (account (Directory.unavailable.console true) (droppingPipeline "?")
        busyStreams {} deadline).1
    let halting := reports (Directory.unavailable.console false) (retryingPipeline ⟨2, 2, 3⟩)
      [⟨[.event wordyEvent], .complete⟩] {}
    let haltingBooks := (account (Directory.unavailable.console false)
      (retryingPipeline ⟨2, 2, 3⟩) [⟨[.event wordyEvent], .complete⟩] {} 0).1
    Shows (Directory.unavailable.console false) (droppingPipeline "!")
      quietStreams {} (some .finished) 2 [2] ∧
      Shows (Directory.unavailable.console true) (droppingPipeline "?")
        busyStreams {} (some .finished) 2 [2] ∧
      (∃ deadline, (report deadline).result = some .finished ∧
        ((books deadline).processed.map (·.1)).Perm [lockEvent, lockEvent]) ∧
      (halting 0).result = some (.matchViolation ⟨"lock", "now"⟩) ∧
        ∃ e ∈ haltingBooks.received, e.caller.bot = false ∧
          (retryingPipeline ⟨2, 2, 3⟩).halts e = true ∧
          (retryingPipeline ⟨2, 2, 3⟩).violation? e = some ⟨"lock", "now"⟩ := by
  intro report books halting haltingBooks
  obtain ⟨⟨result, last, hleads, hquiet, hbusy⟩, hruns⟩ := events_are_isolated
    (Directory.unavailable.console false) (Directory.unavailable.console true)
      (droppingPipeline "!")
    (droppingPipeline "?") quietStreams busyStreams {} {} rfl rfl rfl rfl
  -- the sequels lead from the fault to the end of the second stream
  obtain ⟨rfl, rfl⟩ : result = some .finished ∧ last = 1 :=
    hleads.unique (.resumes (by decide) (.stops (by decide)))
  have hperm := fun deadline => (hruns _ (Directory.unavailable.console true) (droppingPipeline "?")
    busyStreams {} deadline).2.2.2.2.1
  have hhalting := (hruns _ (Directory.unavailable.console false) (retryingPipeline ⟨2, 2, 3⟩)
    [⟨[.event wordyEvent], .complete⟩] {} 0).2.2.2.2.2
  refine ⟨hquiet, hbusy, ?_, ?_⟩
  · obtain ⟨t, hwholly⟩ := hbusy.wholly
    obtain ⟨hfinished, hsubscriptions, -⟩ := hwholly t (Nat.le_refl t)
    have hprocessed := hperm t hfinished
    rw [hsubscriptions] at hprocessed
    exact ⟨t, hfinished, hprocessed⟩
  · have hviolated : (halting 0).result = some (.matchViolation ⟨"lock", "now"⟩) :=
      result_of_violation _ _ _ (matching_wordy _) rfl 0
    exact ⟨hviolated, hhalting _ hviolated⟩

end ChatCommands
