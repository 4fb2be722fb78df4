import ChatCommands.Proofs.ExecutorHistories

set_option autoImplicit false

/-!
# What callers of an executor may rely on

Whatever turns the callers and the runs take, one run at most is live, and every answer of the
executor is about the run that is (`SharedExecutor.executor_keeps_one_run`). A wait does not keep as
much. What it reports about a run that ended by itself is still to be had only as long as nobody has
taken the run away: not another wait, not a stop, and not the start of a newer run
(`SharedExecutor.wait_reports_untaken_run`). A stop takes it away even when it answers that it has
stopped nothing (`SharedExecutor.stop_takes_ended_run`), and to the second of two callers who wait
for the same run its failure is lost (`SharedExecutor.second_wait_misses_failure`).
-/

namespace ChatCommands

namespace SharedExecutor

variable {c : SharedExecutor}

/-! ## One run at a time -/

/-- One run at most is live, and the executor's answers are about it. A run that is started is none
of those to which something has happened or for which someone waits, so a wait, which takes away no
run but its own, takes away none that was started after it began. -/
structure KeepsOneRun (c : SharedExecutor) : Prop where
  atMostOne : ∀ g g', c.IsLive g → c.IsLive g' → g = g'
  isRunning_iff : c.executor.isRunning = true ↔ ∃ g, c.IsLive g
  start_iff : ∀ run, (c.start run).1 = true ↔ ∀ g, ¬ c.IsLive g
  start_creates : ∀ run, (c.start run).1 = true → ∃ g,
    (∀ fact ∈ c.past, fact.generation ≠ g) ∧ g ∉ c.waiting ∧
      (c.start run).2.past = .started g :: c.past ∧ (c.start run).2.IsLive g ∧
      (c.start run).2.executor.registered = some ⟨g, run⟩
  start_refuses : ∀ run, (c.start run).1 = false → (c.start run).2 = c
  stop_iff : c.stop.1 = true ↔ ∃ g, c.IsLive g
  stop_ends : ∀ g, ¬ c.stop.2.IsLive g
  endWait_takes : ∀ g, (c.endWait g).2.executor =
    { c.executor with registered := c.executor.registered.filter (·.generation ≠ g) }
  endWait_spares : ∀ g ∈ c.waiting, ¬ c.IsLive g → ∀ g', (c.endWait g).2.IsLive g' ↔ c.IsLive g'

theorem isLive_unique (h : c.Agrees) {g g' : Nat} (hlive : c.IsLive g) (hlive' : c.IsLive g') :
    g = g' := Option.some.inj ((h.live g hlive).symm.trans (h.live g' hlive'))

theorem start_true_iff (h : c.Agrees) (run : Run) :
    (c.start run).1 = true ↔ ∀ g, ¬ c.IsLive g := by
  rw [← not_exists, ← h.isRunning_iff]
  by_cases hrunning : c.executor.isRunning = true
  · simp [Agrees.start_of_running hrunning, hrunning]
  · simp [Agrees.start_of_idle (Bool.eq_false_iff.2 hrunning), hrunning]

/-- Mutual exclusion, for any number of callers whose turns come in any order. One run at most is
live. A start answers that it has started a run exactly when none is live; it has created one then,
and changed nothing otherwise. A stop answers that it has stopped a run exactly when one is live,
and none is after it. The executor says that it is running exactly when a run is live. The second
half of a wait takes away the run for which the wait began and no other, and ends none. -/
theorem executor_keeps_one_run (c : SharedExecutor) (hreach : c.Reachable) : c.KeepsOneRun := by
  have h := hreach.agrees
  refine ⟨fun g g' => isLive_unique h, h.isRunning_iff, start_true_iff h, ?_, ?_, h.isRunning_iff,
    h.not_isLive_stop, fun g => c.executor.endWait_snd g, ?_⟩
  · intro run hstarted
    have hnone := (start_true_iff h run).1 hstarted
    have hidle : c.executor.isRunning = false := by
      rw [Bool.eq_false_iff]
      exact fun hrunning => (h.isRunning_iff.1 hrunning).elim hnone
    rw [Agrees.start_of_idle hidle]
    refine ⟨c.executor.next, fun fact => h.not_fact_next,
      fun hwaiting => Nat.lt_irrefl _ (h.waiting _ hwaiting), rfl, ?_, rfl⟩
    -- nothing has happened to the new run but its start
    refine ⟨List.mem_cons_self, fun hmem => ?_, fun result hmem => ?_⟩
    · exact h.not_fact_next (List.mem_of_ne_of_mem (by simp) hmem) rfl
    · exact h.not_fact_next (List.mem_of_ne_of_mem (by simp) hmem) rfl
  · intro run hrefused
    by_cases hrunning : c.executor.isRunning = true
    · rw [Agrees.start_of_running hrunning]
    · rw [Agrees.start_of_idle (Bool.eq_false_iff.2 hrunning)] at hrefused
      cases hrefused
  · intro g hwaiting hover g'
    have hpast : (c.endWait g).2.past = .reported g :: c.past := rfl
    simp [IsLive, hpast]

/-- A run that has just been started. -/
def freshRun : Run := .start ⟨5, 1, 60⟩ 0 0 []

/-- A caller waits for a run that another one stops; the run that is started next is live when the
wait is over, and the wait leaves it there. -/
def restartedBesideWait : SharedExecutor :=
  ((opening.start freshRun).2.beginWait.stop.2.start freshRun).2

theorem restarted_keeps_one_run :
    restartedBesideWait.KeepsOneRun ∧ restartedBesideWait.waiting = [0] ∧
      ¬ restartedBesideWait.IsLive 0 ∧ restartedBesideWait.IsLive 1 ∧
      (restartedBesideWait.endWait 0).2.executor.registered = some ⟨1, freshRun⟩ := by
  have hreach : restartedBesideWait.Reachable :=
    (((Relation.ReflTransGen.single (.start opening (by rfl))).tail (.beginWait _)).tail
      (.stop _)).tail (.start _ (by rfl))
  have hpast : restartedBesideWait.past = [.started 1, .stopped 0, .started 0] := by decide
  refine ⟨executor_keeps_one_run _ hreach, by decide, ?_, ?_, ?_⟩
  · exact fun hlive => hlive.2.1 (by rw [hpast]; simp)
  · exact ⟨by simp [hpast], by simp [hpast], by simp [hpast]⟩
  · rfl

/-! ## What a wait reports -/

theorem held_iff_not_isTaken (h : c.Agrees) {g : Nat} {result : RunEnd}
    (hended : .ended g result ∈ c.past) : c.held = some g ↔ ¬ c.IsTaken g := by
  constructor
  · rintro hheld (hreported | hcleared | ⟨g', hlater, hstarted⟩)
    · exact (h.untouched g hheld).2.2 hreported
    · exact (h.untouched g hheld).2.1 hcleared
    · obtain ⟨r, hr, rfl⟩ := Agrees.exists_registered hheld
      have hnewest := h.newest r hr
      have hknown := (h.started_iff g').1 hstarted
      omega
  · intro hleft
    exact (h.lost g result hended).resolve_right hleft

theorem endWait_reports_result (h : c.Agrees) {g : Nat} {result : RunEnd}
    (hended : .ended g result ∈ c.past) (hleft : ¬ c.IsTaken g) :
    (c.endWait g).1 = result.asReported := by
  obtain ⟨r, hr, rfl⟩ := Agrees.exists_registered ((held_iff_not_isTaken h hended).2 hleft)
  have hresult := (h.ended_iff r hr result).1 hended
  rw [Agrees.endWait_of_held hr, hresult]
  rfl

/-- The second half of a wait, for any number of callers whose turns come in any order. A run that
is no longer live either was stopped or has ended by itself, not both. About a run that was stopped
the wait reports that it has finished. About a run that ended by itself it reports how, if nobody
has taken the run away before; otherwise that it has finished, however it ended. -/
theorem wait_reports_untaken_run (c : SharedExecutor) (hreach : c.Reachable) {g : Nat}
    (hwaiting : g ∈ c.waiting) (hover : ¬ c.IsLive g) :
    (.stopped g ∈ c.past ∧ (∀ result, .ended g result ∉ c.past) ∧ (c.endWait g).1 = .finished) ∨
      ∃ result, .stopped g ∉ c.past ∧ .ended g result ∈ c.past ∧
        (¬ c.IsTaken g → (c.endWait g).1 = result.asReported) ∧
        (c.IsTaken g → (c.endWait g).1 = .finished) := by
  have h := hreach.agrees
  have hstarted : .started g ∈ c.past := (h.started_iff g).2 (h.waiting g hwaiting)
  by_cases hstopped : .stopped g ∈ c.past
  · have hgone : c.held ≠ some g := fun hheld => (h.untouched g hheld).1 hstopped
    exact Or.inl ⟨hstopped, h.apart g hstopped, by rw [Agrees.endWait_of_gone hgone]⟩
  · obtain ⟨result, hended⟩ : ∃ result, .ended g result ∈ c.past := by
      refine Classical.byContradiction fun hnone => hover ?_
      exact ⟨hstarted, hstopped, fun result hmem => hnone ⟨result, hmem⟩⟩
    refine Or.inr ⟨result, hstopped, hended, endWait_reports_result h hended, fun htaken => ?_⟩
    have hgone : c.held ≠ some g := fun hheld => (held_iff_not_isTaken h hended).1 hheld htaken
    rw [Agrees.endWait_of_gone hgone]

/-- A stop that finds the run over answers that it has stopped nothing, and takes the run
away all the same: its result is lost to those who wait for it, and whoever begins to wait
then has nothing to wait for. -/
theorem stop_takes_ended_run (hreach : c.Reachable) {g : Nat} (hheld : c.held = some g)
    (hover : ¬ c.IsLive g) :
    c.stop.1 = false ∧ (c.stop.2.endWait g).1 = .finished ∧ c.stop.2.beginWait = c.stop.2 := by
  have h := hreach.agrees
  refine ⟨?_, ?_, rfl⟩
  · apply Bool.eq_false_iff.2
    intro hrunning
    obtain ⟨g', hlive⟩ := h.isRunning_iff.1 hrunning
    obtain rfl := Option.some.inj ((h.live g' hlive).symm.trans hheld)
    exact hover hlive
  · have hgone : c.stop.2.held ≠ some g := nofun
    rw [Agrees.endWait_of_gone hgone]

/-- A fault that does not pass. -/
def revoked : SourceFault := ⟨.fatal, "token revoked"⟩

/-- Two callers wait for a run, and it fails. -/
def failedBesideWaits : SharedExecutor :=
  (opening.start freshRun).2.beginWait.beginWait.goOn 0
    (freshRun.endedWith 12 (.sourceFailed revoked))

theorem reachable_failedBesideWaits : failedBesideWaits.Reachable := by
  have hlive : (opening.start freshRun).2.beginWait.beginWait.IsLive 0 := by
    have hpast : (opening.start freshRun).2.beginWait.beginWait.past = [.started 0] := by decide
    exact ⟨by simp [hpast], by simp [hpast], by simp [hpast]⟩
  exact (((Relation.ReflTransGen.single (.start opening (by rfl))).tail (.beginWait _)).tail
    (.beginWait _)).tail (.goOn _ _ hlive)

theorem past_failedBesideWaits :
    failedBesideWaits.past = [.ended 0 (.sourceFailed revoked), .started 0] := by decide

theorem not_isLive_failedBesideWaits : ¬ failedBesideWaits.IsLive 0 := by
  rintro ⟨-, -, hended⟩
  apply hended (.sourceFailed revoked)
  simp [past_failedBesideWaits]

/-- The wait that comes first reports the failure of the run. -/
theorem first_wait_reports_failure :
    failedBesideWaits.waiting = [0, 0] ∧
      (failedBesideWaits.endWait 0).1 = .sourceFailed revoked := by
  refine ⟨by decide, ?_⟩
  rcases wait_reports_untaken_run _ reachable_failedBesideWaits (by decide)
    not_isLive_failedBesideWaits with ⟨hstopped, -⟩ | ⟨result, -, hended, hreports, -⟩
  · simp [past_failedBesideWaits] at hstopped
  · obtain rfl : result = .sourceFailed revoked := by
      simpa [past_failedBesideWaits] using hended
    apply hreports
    simp [IsTaken, past_failedBesideWaits]

/-- Not every wait for a run that ended by itself reports its result. To the second of two callers
who wait for a run the failure of the run is lost: the wait reports that it has finished. -/
theorem second_wait_misses_failure : ¬ ∀ (c : SharedExecutor) (g : Nat) (result : RunEnd),
    c.Reachable → g ∈ c.waiting → .stopped g ∉ c.past → .ended g result ∈ c.past →
      result ≠ .broken → (c.endWait g).1 = result := by
  intro hclaimed
  have hreach := reachable_failedBesideWaits.tail
    (.endWait _ (by decide) not_isLive_failedBesideWaits)
  have hpast : (failedBesideWaits.endWait 0).2.past =
      [.reported 0, .ended 0 (.sourceFailed revoked), .started 0] := by decide
  have hresult :=
    hclaimed (failedBesideWaits.endWait 0).2 0 (.sourceFailed revoked) hreach (by decide)
      (by simp [hpast]) (by simp [hpast]) (by simp)
  exact absurd hresult (by decide)

end SharedExecutor

end ChatCommands
