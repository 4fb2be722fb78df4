import ChatCommands.Proofs.EventIsolation

set_option autoImplicit false

/-!
# The words of retries

The faults in a row are counted in one word, and the next pause is doubled in another, before the
longest pause bounds it. A run breaks off exactly when one of the words is outgrown
(`RetrySettings.Outgrows`). Whatever halts the pipeline, a source is subscribed to once more only
after a pause (`Reception.HasResumed`), so the faults before a subscription are no more than the
settings allow. Which settings never outgrow their words is then told from the last of these
faults: `never_breaks_off_iff`.
-/

namespace ChatCommands

/-! ## Numbers that outgrow their words -/

/-- The stream at a place fails, but not for good. -/
def FailsAt (streams : List EventStream) (i : Nat) : Prop :=
  ∃ st fault, streams[i]? = some st ∧ st.closing = .fault fault ∧ fault.isTransient = true

namespace RetrySettings

variable {s : RetrySettings} {streams : List EventStream} {i : Nat}

/-- A number of faults in a row that cannot be counted, or after which the pause
cannot be doubled. -/
def Outgrows (s : RetrySettings) (faults : Nat) : Prop :=
  UInt32.size ≤ faults ∨
    faults ≤ s.maxAttempts.toNat ∧ UInt64.size ≤ 2 * s.pauseSeconds faults

/-- The words hold one fault more than the settings allow, and twice the pause after the last
fault that they allow. -/
structure FitsWords (s : RetrySettings) : Prop where
  counted : s.maxAttempts.toNat + 1 < UInt32.size
  doubled : 0 < s.maxAttempts.toNat → 2 * s.pauseSeconds s.maxAttempts.toNat < UInt64.size

theorem fitsWords_iff (s : RetrySettings) : s.FitsWords ↔ s.maxAttempts.toNat + 1 < UInt32.size ∧
    (0 < s.maxAttempts.toNat → 2 * s.pauseSeconds s.maxAttempts.toNat < UInt64.size) :=
  ⟨fun h => ⟨h.counted, h.doubled⟩, fun h => ⟨h.1, h.2⟩⟩

instance (s : RetrySettings) : Decidable s.FitsWords := decidable_of_iff' _ s.fitsWords_iff

example : FitsWords {} := by decide

/-- Pauses do not get shorter. -/
theorem pauseSeconds_mono (s : RetrySettings) {m n : Nat} (hle : m ≤ n) :
    s.pauseSeconds m ≤ s.pauseSeconds n := by
  have hpower : s.minBackoff.toNat * 2 ^ (m - 1) ≤ s.minBackoff.toNat * 2 ^ (n - 1) :=
    Nat.mul_le_mul_left _ (Nat.pow_le_pow_right Nat.two_pos (Nat.sub_le_sub_right hle 1))
  exact min_le_min_right _ hpower

/-- No number of faults that can be in a row outgrows the words of settings that fit. -/
theorem FitsWords.not_outgrows (h : s.FitsWords) {faults : Nat} (hpositive : 0 < faults)
    (hle : faults ≤ s.maxAttempts.toNat + 1) : ¬ s.Outgrows faults := by
  rintro (huncountable | ⟨hfew, hfull⟩)
  · have hcounted := h.counted
    omega
  · have hdoubled := h.doubled (Nat.lt_of_lt_of_le hpositive hfew)
    have hpause := s.pauseSeconds_mono hfew
    omega

/-! ## What follows a stream that fails -/

/-- A run breaks off after a stream that fails when the faults in a row outgrow a word. -/
theorem breaksOff_iff : s.sequel streams i = .stops .broken ∨ s.sequel streams i = .overflows ↔
    FailsAt streams i ∧ s.Outgrows (faultsInRow (streams.take (i + 1))) := by
  constructor
  · intro h
    cases hst : streams[i]? with
    | none => simp [sequel_of_none hst] at h
    | some st =>
      cases hclosing : st.closing with
      | complete => simp [sequel_of_complete hst hclosing] at h
      | fault fault =>
        cases htransient : fault.isTransient with
        | false => simp [sequel_of_fatal hst hclosing htransient] at h
        | true =>
          refine ⟨⟨st, fault, hst, hclosing, htransient⟩, ?_⟩
          -- otherwise the run would be over, or go on
          by_contra hfits
          simp only [Outgrows, not_or, not_and, Nat.not_le] at hfits
          obtain ⟨hcountable, hfits⟩ := hfits
          rcases Nat.lt_or_ge s.maxAttempts.toNat (faultsInRow (streams.take (i + 1)))
            with hmany | hfew
          · simp [sequel_of_exhausted hst hclosing htransient hcountable hmany] at h
          · simp [sequel_of_fits hst hclosing htransient hfew (hfits hfew)] at h
  · rintro ⟨⟨st, fault, hst, hclosing, htransient⟩, hfull | ⟨hfew, hfull⟩⟩
    · exact Or.inl (sequel_of_uncountable hst hclosing htransient hfull)
    · exact Or.inr (sequel_of_overflow hst hclosing htransient hfew hfull)

/-- A run resumes only as long as the faults in a row are no more than the settings allow. -/
theorem faultsInRow_le_of_resumes (h : s.sequel streams i = .resumes) :
    faultsInRow (streams.take (i + 1)) ≤ s.maxAttempts.toNat := by
  rw [sequel] at h
  split at h
  · cases h
  · split at h
    · cases h
    · by_contra hmany
      simp only [Nat.lt_of_not_le hmany, if_true] at h
      split at h
      · cases h
      · split at h
        · cases h
        · cases h

end RetrySettings

/-! ## Pauses between subscriptions -/

namespace Reception

variable {s : RetrySettings} {streams : List EventStream}

/-- After each stream but the last that the source was subscribed to, the run has resumed. -/
def HasResumed (s : RetrySettings) (streams : List EventStream) (subscriptions : Nat) : Prop :=
  ∀ j, j + 1 < subscriptions → s.sequel streams j = .resumes

theorem HasResumed.faultsInRow_le {i : Nat} (h : HasResumed s streams (i + 1)) :
    faultsInRow (streams.take i) ≤ s.maxAttempts.toNat := by
  cases i with
  | zero => exact Nat.zero_le _
  | succ j => exact RetrySettings.faultsInRow_le_of_resumes (h j (Nat.lt_succ_self _))

/-- There is never more than one fault more than the settings allow. -/
theorem HasResumed.faults_le {i : Nat} (h : HasResumed s streams (i + 1))
    (hfails : FailsAt streams i) :
    0 < faultsInRow (streams.take (i + 1)) ∧
      faultsInRow (streams.take (i + 1)) ≤ s.maxAttempts.toNat + 1 := by
  obtain ⟨st, fault, hst, hclosing, htransient⟩ := hfails
  have hbefore := h.faultsInRow_le
  rw [faultsInRow_take_of_transient hst hclosing htransient, EventStream.carried]
  split
  · exact ⟨Nat.succ_pos _, Nat.succ_le_succ hbefore⟩
  · exact ⟨Nat.succ_pos _, Nat.le_add_left 1 _⟩

namespace Stands

variable {received : List Event} {pauses : List Nat} {retry retry' : Retry} {wake n : Nat}
  {feeds : List Feed}

/-- A pause that is over, with its double in a word, is one after which the run resumes. -/
theorem hasResumed_succ (h : Stands s streams received pauses ⟨retry, .pausing wake, n, feeds⟩)
    (hpaused : retry.paused? s = some retry') (hresumed : HasResumed s streams n) :
    HasResumed s streams (n + 1) := by
  cases h with
  | @pausing i _ _ hpauses hattempts hbackoff =>
    intro j hj
    rcases Nat.lt_or_ge (j + 1) (i + 1) with hearlier | hlast
    · exact hresumed j hearlier
    · obtain rfl : j = i := by omega
      apply hpauses.resumes
      by_contra hfull
      have hnone := Retry.not_paused hbackoff (Nat.le_of_not_lt hfull)
      cases hnone.symm.trans hpaused

/-- On the feeds of the later subscriptions: each is listened to after a pause that is over. -/
theorem hasResumed_resume
    (h : Stands s streams received pauses ⟨retry, .pausing wake, n, feeds⟩) (now : Nat)
    (hresumed : HasResumed s streams n) :
    HasResumed s streams (Reception.resume s now retry wake n feeds).2.subscriptions := by
  induction feeds generalizing received pauses retry wake n with
  | nil =>
    rw [Reception.resume]
    split
    · exact hresumed
    · split
      · exact hresumed
      · rename_i hpaused
        exact h.hasResumed_succ hpaused hresumed
  | cons feed feeds ih =>
    rw [Reception.resume]
    by_cases hearly : now < wake
    · simpa only [hearly, if_true] using hresumed
    · simp only [hearly, if_false]
      cases hpaused : retry.paused? s with
      | none => exact hresumed
      | some retry' =>
        have hlisten := (h.subscribes hpaused now).listen now
        have hsucc := h.hasResumed_succ hpaused hresumed
        dsimp only
        generalize Phase.listen s now retry' feed = heard at hlisten ⊢
        obtain ⟨events, retry'', phase⟩ := heard
        cases phase with
        | pausing wake' => exact ih hlisten hsucc
        | listening => exact hsucc
        | draining => exact hsucc
        | ended => exact hsucc

theorem hasResumed_poll {r : Reception} (h : Stands s streams received pauses r) (now : Nat)
    (hresumed : HasResumed s streams r.subscriptions) :
    HasResumed s streams (r.poll s now).2.subscriptions := by
  obtain ⟨retry, phase, n, upcoming⟩ := r
  cases phase with
  | listening wake feed =>
    rw [Reception.poll]
    dsimp only
    split
    · exact hresumed
    · have hlisten := h.listen now
      generalize Phase.listen s now retry feed = heard at hlisten ⊢
      obtain ⟨events, retry', phase⟩ := heard
      cases phase with
      | pausing wake' => exact hlisten.hasResumed_resume now hresumed
      | listening => exact hresumed
      | draining => exact hresumed
      | ended => exact hresumed
  | pausing wake => exact h.hasResumed_resume now hresumed
  | draining => exact hresumed
  | ended instant result => exact hresumed

/-- A reception that has broken off stands after a stream whose sequel says so. -/
theorem breaksOff_of_broken {r : Reception} (h : Stands s streams received pauses r)
    {instant i : Nat}
    (hphase : r.phase = .ended instant .broken) (hplace : r.subscriptions = i + 1) :
    s.sequel streams i = .stops .broken ∨ s.sequel streams i = .overflows := by
  cases h with
  | stopped hsequel =>
    cases hphase
    obtain rfl := Nat.succ.inj hplace
    exact Or.inl hsequel
  | overflowed hsequel =>
    obtain rfl := Nat.succ.inj hplace
    exact Or.inr hsequel
  | _ => cases hphase

end Stands

end Reception

namespace Account

variable {σ : Type} {p : Platform σ} {pl : Pipeline}

/-- Settling jobs does not subscribe. -/
theorem subscriptions_settle (now : Nat) (a : Account) :
    (a.settle now).reception.subscriptions = a.reception.subscriptions := by
  rw [settle]
  split
  · rfl
  · split
    · split
      · rfl
      · rfl
    · rfl

theorem subscriptions_poll (now : Nat) (a : Account) (s : σ) :
    (a.poll p pl now s).1.reception.subscriptions =
      (a.reception.poll pl.settings.retry now).2.subscriptions := by
  rw [poll]
  dsimp only
  split
  · rfl
  · exact subscriptions_settle now _

theorem subscriptions_opening (retry : RetrySettings) (feeds : List Feed) :
    (opening retry feeds).reception.subscriptions = 1 :=
  Reception.subscriptions_subscribed _ _ _ _

end Account

section Run

variable {σ : Type} {p : Platform σ} {pl : Pipeline} {streams : List EventStream} {s : σ}

/-- Under any deadline, the source has been subscribed to after pauses only. -/
theorem hasResumed_reports (p : Platform σ) (pl : Pipeline) (streams : List EventStream) (s : σ)
    (deadline : Nat) : Reception.HasResumed pl.settings.retry streams
      (reports p pl streams s deadline).subscriptions := by
  rw [← subscriptions_account]
  let kept : Account → Prop := fun a => a.Balanced pl streams ∧
    Reception.HasResumed pl.settings.retry streams a.reception.subscriptions
  have hstep : ∀ a now s, kept a → kept (a.poll p pl now s).1 := by
    rintro a now s ⟨hbalanced, hresumed⟩
    refine ⟨hbalanced.poll p now s, ?_⟩
    rw [Account.subscriptions_poll]
    exact hbalanced.stands.hasResumed_poll now hresumed
  have hopening : kept (.opening pl.settings.retry (streams.map EventStream.feed)) := by
    refine ⟨Account.balanced_opening pl streams, ?_⟩
    rw [Account.subscriptions_opening]
    intro j hj
    omega
  exact (Account.advance_induction hstep 0 _ s hopening).2

/-- A run that breaks off does so after a stream that fails, with the faults in a row
outgrowing a word. -/
theorem outgrows_of_broken {deadline i : Nat}
    (hbroken : (reports p pl streams s deadline).result = some .broken)
    (hplace : (reports p pl streams s deadline).subscriptions = i + 1) :
    FailsAt streams i ∧ pl.settings.retry.Outgrows (faultsInRow (streams.take (i + 1))) := by
  obtain ⟨t, hphase⟩ := result_eq_some_iff.1 hbroken
  rw [← subscriptions_account] at hplace
  have hstands := (balanced_account p pl streams s deadline).stands
  exact RetrySettings.breaksOff_iff.1 (hstands.breaksOff_of_broken hphase hplace)

/-- With settings that fit their words no run breaks off. -/
theorem RetrySettings.FitsWords.never_broken (h : pl.settings.retry.FitsWords) (deadline : Nat) :
    (reports p pl streams s deadline).result ≠ some .broken := by
  intro hbroken
  have hstands := (balanced_account p pl streams s deadline).stands
  obtain ⟨i, hplace, -⟩ := hstands.exists_place
  rw [subscriptions_account] at hplace
  have hresumed := hasResumed_reports p pl streams s deadline
  rw [hplace] at hresumed
  obtain ⟨hfails, houtgrows⟩ := outgrows_of_broken hbroken hplace
  obtain ⟨hpositive, hle⟩ := hresumed.faults_le hfails
  exact h.not_outgrows hpositive hle houtgrows

end Run

/-! ## Streams that all fail -/

/-- Streams that deliver nothing and fail, but not for good. -/
def failingStreams (n : Nat) : List EventStream := List.replicate n ⟨[], .fault reset⟩

theorem getElem?_failingStreams {n i : Nat} (hi : i < n) :
    (failingStreams n)[i]? = some ⟨[], .fault reset⟩ := by
  rw [failingStreams, List.getElem?_replicate, if_pos hi]

theorem faultsInRow_failingStreams {n i : Nat} (hi : i ≤ n) :
    faultsInRow ((failingStreams n).take i) = i := by
  induction i with
  | zero => rfl
  | succ i ih =>
    rw [faultsInRow_take_of_transient (getElem?_failingStreams hi) rfl rfl]
    exact congrArg (· + 1) (ih (Nat.le_of_succ_le hi))

theorem Pipeline.goesOn_nil (pl : Pipeline) : pl.GoesOn [] := fun _ he => absurd he List.not_mem_nil

section FailingStreams

variable {σ : Type} {p : Platform σ} {pl : Pipeline} {s : σ} {n : Nat}
  (hnever : ∀ deadline, (reports p pl (failingStreams n) s deadline).result ≠ some .broken)
include hnever

/-- As long as a run on streams that fail does not break off, its faults can be counted. -/
theorem counted_of_never_broken {i t : Nat} (h : Begins p pl (failingStreams n) s i t)
    (hi : i < n) : i + 1 < UInt32.size := by
  have hfaults : faultsInRow ((failingStreams n).take (i + 1)) = i + 1 :=
    faultsInRow_failingStreams hi
  by_contra hfull
  rw [← hfaults] at hfull
  have hends := h.endsAt_of_uncountable (getElem?_failingStreams hi) pl.goesOn_nil rfl rfl
    (Nat.le_of_not_lt hfull)
  exact hnever _ (hends.since _ (Nat.le_refl _)).1

/-- Twice the pause after a fault that is not one too many is then in its word. -/
theorem doubled_of_never_broken {i t : Nat} (h : Begins p pl (failingStreams n) s i t) (hi : i < n)
    (hfew : i + 1 ≤ pl.settings.retry.maxAttempts.toNat) :
    2 * pl.settings.retry.pauseSeconds (i + 1) < UInt64.size := by
  have hfaults : faultsInRow ((failingStreams n).take (i + 1)) = i + 1 :=
    faultsInRow_failingStreams hi
  by_contra hfull
  rw [← hfaults] at hfew hfull
  have hends := h.endsAt_of_overflow (getElem?_failingStreams hi) pl.goesOn_nil rfl rfl hfew
    (Nat.le_of_not_lt hfull)
  exact hnever _ (hends.since _ (Nat.le_refl _)).1

/-- Such a run subscribes again after each fault that is not one too many. -/
theorem exists_begins_of_never_broken {i : Nat} (hi : i ≤ n)
    (hfew : i ≤ pl.settings.retry.maxAttempts.toNat) :
    ∃ t, Begins p pl (failingStreams n) s i t := by
  induction i with
  | zero => exact ⟨0, begins_zero⟩
  | succ i ih =>
    obtain ⟨t, hbegins⟩ := ih (Nat.le_of_succ_le hi) (Nat.le_of_succ_le hfew)
    have hfaults : faultsInRow ((failingStreams n).take (i + 1)) = i + 1 :=
      faultsInRow_failingStreams hi
    have hfits := doubled_of_never_broken hnever hbegins hi hfew
    rw [← hfaults] at hfew hfits
    exact ⟨_, hbegins.succ (getElem?_failingStreams hi) pl.goesOn_nil rfl rfl hfew hfits⟩

end FailingStreams

/-- The retries of runs on any streams, whatever halts the pipeline and under any deadline. A run
breaks off only after a stream that fails, and only if the faults in a row then outgrow a word. If
no event halts the pipeline it does break off then: at once if the faults cannot be counted, and
after the pause if the pause cannot be doubled, be it bounded or not. The settings with which no run
ever breaks off are those whose words hold one fault more than they allow, and twice the pause after
the last that they allow. -/
theorem never_breaks_off_iff (retry : RetrySettings) :
    (retry.FitsWords ↔
      ∀ (σ : Type) (p : Platform σ) (pl : Pipeline) (streams : List EventStream) (s : σ)
        (deadline : Nat), pl.settings.retry = retry →
          (reports p pl streams s deadline).result ≠ some .broken) ∧
    ∀ (σ : Type) (p : Platform σ) (pl : Pipeline) (streams : List EventStream) (s : σ),
      pl.settings.retry = retry →
      let report := reports p pl streams s
      let faults := fun i => faultsInRow (streams.take (i + 1))
      (∀ deadline i, (report deadline).result = some .broken →
        (report deadline).subscriptions = i + 1 →
          FailsAt streams i ∧ retry.Outgrows (faults i)) ∧
      ((∀ st ∈ streams, pl.GoesOn st.events) → ∀ i t st fault, streams[i]? = some st →
        st.closing = .fault fault → fault.isTransient = true → SubscribesAt report i t →
          let closed := t + st.silence
          (UInt32.size ≤ faults i → EndsAt report (i + 1) closed .broken) ∧
          (faults i ≤ retry.maxAttempts.toNat → UInt64.size ≤ 2 * retry.pauseSeconds (faults i) →
            EndsAt report (i + 1) (closed + clockedMs closed (retry.pauseSeconds (faults i)))
              .broken)) := by
  refine ⟨⟨?_, fun hnever => ?_⟩, ?_⟩
  · rintro hfits σ p pl streams s deadline rfl
    exact hfits.never_broken deadline
  · -- a run on streams that all fail meets every number of faults that the settings allow
    have hfailing := fun deadline => hnever _ (Directory.unavailable.console false)
      (retryingPipeline retry) (failingStreams (retry.maxAttempts.toNat + 1)) {} deadline rfl
    refine ⟨?_, fun hpositive => ?_⟩
    · obtain ⟨t, hbegins⟩ := exists_begins_of_never_broken hfailing (Nat.le_succ _)
        (Nat.le_refl retry.maxAttempts.toNat)
      exact counted_of_never_broken hfailing hbegins (Nat.lt_succ_self _)
    · obtain ⟨last, hlast⟩ := Nat.exists_eq_add_one_of_ne_zero (Nat.ne_of_gt hpositive)
      have hfew : last + 1 ≤ retry.maxAttempts.toNat := Nat.le_of_eq hlast.symm
      have hplace : last < retry.maxAttempts.toNat + 1 := by omega
      obtain ⟨t, hbegins⟩ := exists_begins_of_never_broken hfailing (Nat.le_of_lt hplace)
        (Nat.le_of_succ_le hfew)
      rw [hlast]
      exact doubled_of_never_broken hfailing hbegins hplace hfew
  · rintro σ p pl streams s rfl report faults
    refine ⟨fun deadline i => outgrows_of_broken, ?_⟩
    intro hgoes i t st fault hst hclosing htransient hsubscribes closed
    have hbegins := begins_of_subscribesAt hgoes hsubscribes
    have hstgoes := hgoes st (List.mem_of_getElem? hst)
    refine ⟨fun huncountable => ?_, fun hfew hfull => ?_⟩
    · exact hbegins.endsAt_of_uncountable hst hstgoes hclosing htransient huncountable
    · exact hbegins.endsAt_of_overflow hst hstgoes hclosing htransient hfew hfull

/-- A pause of half as many seconds as its word counts cannot be doubled. The first fault breaks
the run off after thirty years, when the pause is over, though no pause is to be longer and four
more faults are allowed. -/
theorem first_pause_outgrows_its_word :
    let retry : RetrySettings := ⟨5, 0x8000000000000000, 0⟩
    let streams : List EventStream := [⟨[], .fault reset⟩, ⟨[], .complete⟩]
    let report := reports (Directory.unavailable.console false) (retryingPipeline retry) streams {}
    (∀ st ∈ streams, st.events = []) ∧ faultsInRow (streams.take 1) = 1 ∧
      retry.longestBackoff = retry.minBackoff ∧ EndsAt report 1 946080000000 .broken := by
  intro retry streams report
  have hbegins :
      Begins (Directory.unavailable.console false) (retryingPipeline retry) streams {} 0 0 :=
    begins_zero
  have hseconds : retry.pauseSeconds (faultsInRow (streams.take 1)) =
      9223372036854775808 := by decide
  have hms : clockedMs 0 9223372036854775808 = 946080000000 := by
    simp [clockedMs, Retry.lastSecond, Retry.farSeconds]
  have hbreaks :=
    hbegins.endsAt_of_overflow (i := 0) rfl (Pipeline.goesOn_nil _) rfl rfl (by decide)
      (by decide)
  have hends : EndsAt report 1
      (0 + 0 + clockedMs (0 + 0) (retry.pauseSeconds (faultsInRow (streams.take 1)))) .broken :=
    hbreaks
  rw [hseconds, Nat.add_zero, hms, Nat.zero_add] at hends
  refine ⟨?_, rfl, rfl, hends⟩
  intro st hst
  simp only [streams, List.mem_cons, List.not_mem_nil, or_false] at hst
  rcases hst with rfl | rfl
  · rfl
  · rfl

end ChatCommands
