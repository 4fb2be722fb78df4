import ChatCommands.Proofs.Clearance
import ChatCommands.Proofs.StageContracts

set_option autoImplicit false

/-!
# How processing ends

An event halts the pipeline, is ignored, or is handled, and its reading alone decides which
(`Pipeline.processRun_of_runs`). As long as nobody but handlers breaks off, processing always ends,
and a handled event ends with an outcome that lets nothing proceed: the main statement is
`process_ends_in_one_way`. Carried out on a platform it says so of the platform's own run
(`Platform.process_ends`).
-/

namespace ChatCommands

open Program (Exchange Runs)
open Interaction Procedure

/-- Nothing was asked of the world, and no handler was run. -/
def OnlyRecords (t : Trace) : Prop := ∀ x ∈ t, ∃ stage tags, x = recorded stage tags

theorem onlyRecords_record (stage : Stage) (tags : Tags) : OnlyRecords [recorded stage tags] := by
  intro x hx
  exact ⟨stage, tags, List.mem_singleton.1 hx⟩

theorem OnlyRecords.append {t t' : Trace} (h : OnlyRecords t) (h' : OnlyRecords t') :
    OnlyRecords (t ++ t') := by
  intro x hx
  rcases List.mem_append.1 hx with hx | hx
  · exact h x hx
  · exact h' x hx

namespace Pipeline

variable {p : Pipeline} {e : Event}

/-- The runs that process an event, told from its reading. -/
inductive ProcessRun (p : Pipeline) (e : Event) :
    Trace → Except Failing (Except MatchViolation Ending) → Prop where
  | halted {t : Trace} {v : MatchViolation} (hhalts : p.halts e = true)
      (hviolation : p.violation? e = some v) (hrecords : OnlyRecords t) :
      ProcessRun p e t (.ok (.error v))
  | ignored {t : Trace} {reason : IgnoreReason} (hgoes : p.halts e = false)
      (hreason : p.reason? e = some reason) (hrecords : OnlyRecords t) :
      ProcessRun p e t (.ok (.ok (.ignored reason)))
  /-- The invocation is handled between the record of its parsing and that of its end. -/
  | handled {t : Trace} {found : ChainMatch} {rest : TokenStream} {invoked : Registration}
      {r : Except Failing Ending} {s' : Session} {tags : Tags} (hgoes : p.halts e = false)
      (hreason : p.reason? e = none) (hread : p.reading e = some (found, rest))
      (hlast : found.chain.getLast? = some invoked)
      (hends : Ends (p.handle ⟨e, found.invocation, found.chain.map (·.command), source e rest,
        p.policy⟩ found.chain invoked tags) .fresh t r s') {t' : Trace}
      (hpart : ∀ x ∈ t, x ∈ t') :
      ProcessRun p e t' (r.map .ok)

/-- One more record at the end changes nothing. -/
theorem ProcessRun.recorded {t : Trace} {result : Except Failing (Except MatchViolation Ending)}
    (h : ProcessRun p e t result) (stage : Stage) (tags : Tags) :
    ProcessRun p e (t ++ [Procedure.recorded stage tags]) result := by
  cases h with
  | halted hhalts hviolation hrecords =>
    exact .halted hhalts hviolation (hrecords.append (onlyRecords_record stage tags))
  | ignored hgoes hreason hrecords =>
    exact .ignored hgoes hreason (hrecords.append (onlyRecords_record stage tags))
  | handled hgoes hreason hread hlast hends hpart =>
    exact .handled hgoes hreason hread hlast hends fun x hx => List.mem_append_left _ (hpart x hx)

theorem processRun_of_processInner {tags : Tags} {t : Trace} {s' : Session}
    {result : Except Failing (Except MatchViolation Ending)}
    (h : Ends (p.processInner e tags) .fresh t result s') : ProcessRun p e t result := by
  rw [processInner] at h
  have hmatch := p.matches_matching e
  cases hmatching : p.matching e with
  | violation v =>
    rw [hmatching] at h
    obtain ⟨rfl, rfl, -⟩ := ends_pure_iff.1 h
    obtain ⟨hhalts, hviolation⟩ := halts_of_violation hmatching
    exact .halted hhalts hviolation (by simp [OnlyRecords])
  | ignored reason =>
    rw [hmatching] at h
    obtain ⟨t', rfl, hpure⟩ := ends_record_bind_iff.1 h
    obtain ⟨rfl, rfl, -⟩ := ends_pure_iff.1 hpure
    obtain ⟨hgoes, hreason⟩ := reason?_of_ignored hmatching
    exact .ignored hgoes hreason (onlyRecords_record _ _)
  | matched found source =>
    rw [hmatching] at h hmatch
    cases hmatch with
    | @matched _ rest invoked hread hlast hleft =>
    simp only [hlast] at h
    obtain ⟨t', rfl, hguard⟩ := ends_record_bind_iff.1 h
    obtain ⟨hgoes, hreason⟩ := guard?_eq_reason? hread hlast hleft
    split at hguard
    · rename_i reason hsome
      obtain ⟨rfl, rfl, -⟩ := ends_pure_iff.1 hguard
      exact .ignored hgoes (hreason ▸ hsome) (onlyRecords_record _ _)
    -- no guard objects, and the invocation is handled
    · rename_i hnone
      rw [hreason] at hnone
      rcases ends_bind_iff.1 hguard with ⟨ending, s₁, t₁, t₂, rfl, h₁, h₂⟩ | ⟨f, rfl, h₁⟩
      · obtain ⟨rfl, rfl, -⟩ := ends_pure_iff.1 h₂
        exact .handled hgoes hnone hread hlast h₁ fun x hx =>
          List.mem_cons_of_mem _ (List.mem_append_left _ hx)
      · exact .handled hgoes hnone hread hlast h₁ fun x hx => List.mem_cons_of_mem _ hx

/-- The reading of an event decides how a run that processes it goes. -/
theorem processRun_of_runs {t : Trace} {result : Except Failing (Except MatchViolation Ending)}
    (h : Runs (p.moves e) t result) : ProcessRun p e t result := by
  obtain ⟨t₁, t₂, ⟨r, s'⟩, rfl, h₁, h₂⟩ := Program.runs_bind_iff.1 h
  obtain ⟨rfl, rfl⟩ := Program.runs_done_iff.1 h₂
  rw [List.append_nil]
  rcases ends_bind_iff.1 h₁ with ⟨ending, s₁, u₁, u₂, rfl, h₃, h₄⟩ | ⟨f, rfl, h₃⟩
  -- the run of the processing and the record of its end
  · obtain ⟨u, rfl, h₅⟩ := ends_record_bind_iff.1 h₄
    obtain ⟨rfl, rfl, -⟩ := ends_pure_iff.1 h₅
    exact (processRun_of_processInner h₃).recorded _ _
  · exact processRun_of_processInner h₃

/-- The handling of an invocation never ends by ignoring it. -/
theorem not_ignored_of_handle {ctx : Context} {chain : List Registration} {invoked : Registration}
    {tags : Tags} {s s' : Session} {t : Trace} {reason : IgnoreReason} :
    ¬ Ends (p.handle ctx chain invoked tags) s t (.ok (.ignored reason)) s' := by
  intro h
  rw [handle] at h
  obtain ⟨_, s₁, _, _, -, -, h₁⟩ := (ends_bind_iff.1 h).resolve_right (by simp)
  obtain ⟨outcome, s₂, _, _, -, -, h₂⟩ := (ends_bind_iff.1 h₁).resolve_right (by simp)
  obtain ⟨_, -, h₃⟩ := ends_record_bind_iff.1 h₂
  obtain ⟨dispatched, s₄, _, _, -, -, h₄⟩ := (ends_bind_iff.1 h₃).resolve_right (by simp)
  obtain ⟨_, -, h₅⟩ := ends_record_bind_iff.1 h₄
  obtain ⟨-, hending, -⟩ := ends_pure_iff.1 h₅
  cases hending

/-- Whoever answers and however, an event is ignored only for the first reason that applies. -/
theorem reason?_of_runs {t : Trace} {reason : IgnoreReason}
    (h : Runs (p.moves e) t (.ok (.ok (.ignored reason)))) : p.reason? e = some reason := by
  generalize hresult : (.ok (.ok (.ignored reason)) :
    Except Failing (Except MatchViolation Ending)) = result at h
  cases processRun_of_runs h with
  | halted => cases hresult
  | ignored hgoes hreason =>
    cases hresult
    exact hreason
  | @handled u found rest invoked r s' tags hgoes hreason hread hlast hends =>
    cases r with
    | error f => cases hresult
    | ok ending =>
      obtain rfl : Ending.ignored reason = ending := Except.ok.inj (Except.ok.inj hresult)
      exact absurd hends not_ignored_of_handle

/-- Whoever answers the requests and however, only an event that halts the pipeline ends as a
violated match, which names the called command and the input that is left. -/
theorem halts_of_runs {t : List (Exchange Request Request.Answer)} {v : MatchViolation}
    (h : Runs (p.process e) t (.ok (.error v))) : p.halts e = true ∧ p.violation? e = some v := by
  obtain ⟨t₀, parts, hmoves, -, -⟩ := Program.runs_substitute_iff.1 h
  generalize hresult : (.ok (.error v) :
    Except Failing (Except MatchViolation Ending)) = result at hmoves
  cases processRun_of_runs hmoves with
  | halted hhalts hviolation =>
    cases hresult
    exact ⟨hhalts, hviolation⟩
  | ignored => cases hresult
  | @handled _ _ _ _ r => cases r <;> cases hresult

/-! ## Steady pipelines -/

/-- The collaborators of the pipeline break off for nobody by themselves. -/
structure IsSteady (p : Pipeline) : Prop where
  policy : p.policy.IsSteady
  groups : ∀ path style r, p.registry path style = some r → r.command.group.IsSteady

theorem IsSteady.context (hp : p.IsSteady) {found : ChainMatch} {rest : TokenStream}
    (hread : p.reading e = some (found, rest)) (source : ArgumentSource) :
    Context.IsSteady
      ⟨e, found.invocation, found.chain.map (·.command), source, p.policy⟩ where
  policy := hp.policy
  groups := by
    intro c hc
    obtain ⟨r, hr, rfl⟩ := List.mem_map.1 hc
    obtain ⟨i, hi⟩ := List.mem_iff_getElem?.1 hr
    obtain ⟨token, htoken⟩ := offered_of_reading hread hi
    exact hp.groups _ _ r htoken

/-- What the end of processing says of the event. -/
structure EndsAs (p : Pipeline) (e : Event) (t : Trace) (ending : Except MatchViolation Ending) :
    Prop where
  /-- It is an error exactly when a command is called, in a style that must match in full, with
  input left, and the pipeline is to stop for that. -/
  halted : (∃ v, ending = .error v) ↔ p.halts e = true
  /-- The error names the called command and the input that is left. -/
  violation : ∀ v, ending = .error v → p.violation? e = some v
  /-- It ignores the event for the first reason that applies. -/
  ignored : ∀ reason, ending = .ok (.ignored reason) ↔
    p.halts e = false ∧ p.reason? e = some reason
  handled : (∃ outcome dispatched, ending = .ok (.handled outcome dispatched)) ↔
    p.halts e = false ∧ p.reason? e = none
  terminal : ∀ outcome dispatched, ending = .ok (.handled outcome dispatched) →
    outcome.isTerminal = true
  /-- Unless the event is handled, nobody is asked for anything. -/
  unasked : p.halts e = true ∨ (p.reason? e).isSome = true → OnlyRecords t

theorem endsAs_of_runs (hp : p.IsSteady) {t : Trace}
    {result : Except Failing (Except MatchViolation Ending)} (h : Runs (p.moves e) t result)
    (hcalm : ∀ x ∈ t, Move.IsCalm x) : ∃ ending, result = .ok ending ∧ p.EndsAs e t ending := by
  cases processRun_of_runs h with
  | @halted _ v hhalts hviolation hrecords =>
    refine ⟨_, rfl, ?_, ?_, ?_, ?_, ?_, fun _ => hrecords⟩
    all_goals simp [hhalts, hviolation]
  | @ignored _ reason hgoes hreason hrecords =>
    refine ⟨_, rfl, ?_, ?_, ?_, ?_, ?_, fun _ => hrecords⟩
    all_goals simp [hgoes, hreason]
  | @handled u found rest invoked r s' tags hgoes hreason hread hlast hends _ hpart =>
    have hcommand : (found.chain.map (·.command)).getLast? = some invoked.command := by
      rw [List.getLast?_map, hlast, Option.map_some]
    -- the contract of handling applies to the part of the run that handles
    obtain ⟨ending, rfl, outcome, dispatched, rfl, hterminal⟩ :=
      returns_handle (hp.context hread _) hcommand _ _ _ u r s' hends
        fun x hx => hcalm x (hpart x hx)
    refine ⟨_, rfl, ?_, ?_, ?_, ?_, ?_, ?_⟩
    · simp [hgoes]
    · simp
    · simp [hreason]
    · simp [hgoes, hreason]
    · rintro outcome' dispatched' hending
      cases hending
      exact hterminal
    · simp [hgoes, hreason]

end Pipeline

/-- Carried out on a platform whose directory never breaks off, processing ends in
one of these ways. -/
theorem Platform.process_ends {σ : Type} (platform : Platform σ)
    (hcalm : ∀ q, Query.IsCalm ⟨q, (platform.answer q).2⟩) (p : Pipeline) (hp : p.IsSteady)
    (e : Event) (now : Nat) (s : σ) :
    ∃ t ending, (platform.complete (p.process e) now s).1 = .ok ending ∧ p.EndsAs e t ending := by
  obtain ⟨u, hu, hfair⟩ := platform.runs_complete hcalm (p.process e) now s
  obtain ⟨t, ht, hx⟩ := p.runs_moves e hu hfair
  obtain ⟨ending, hending, hends⟩ := Pipeline.endsAs_of_runs hp ht hx
  exact ⟨t, ending, hending, hends⟩

/-- Processing an event with a pipeline whose collaborators never break off outside handlers:
each way of answering leads it to an end, and it ends in exactly one of three ways. It fails when
input is left and the pipeline is to stop for that; otherwise it ignores the event for the first
reason that applies; otherwise it handles the event, with an outcome that lets nothing proceed,
whatever handlers do. -/
theorem process_ends_in_one_way (p : Pipeline) (hp : p.IsSteady) (e : Event) :
    (∀ (σ : Type) (answer : (m : Move) → σ → m.Answer × σ) (w : σ),
      (∀ m w', Move.IsCalm ⟨m, (answer m w').1⟩) →
      ∃ t ending, ((p.moves e).runWith answer w).1 = .ok ending ∧
        Runs (p.moves e) t (.ok ending) ∧ ∀ x ∈ t, Move.IsCalm x) ∧
    ∀ t result, Runs (p.moves e) t result → (∀ x ∈ t, Move.IsCalm x) →
      ∃ ending, result = .ok ending ∧ p.EndsAs e t ending := by
  constructor
  · intro σ answer w hanswer
    obtain ⟨t, ht, hx⟩ := Program.runs_runWith answer (p.moves e) w
    have hcalm : ∀ x ∈ t, Move.IsCalm x := by
      intro x hmem
      obtain ⟨w', hw⟩ := hx x hmem
      have hx' := hanswer x.1 w'
      rw [← hw] at hx'
      exact hx'
    obtain ⟨ending, hending, -⟩ := Pipeline.endsAs_of_runs hp ht hcalm
    exact ⟨t, ending, hending, hending ▸ ht, hcalm⟩
  · intro t result h hcalm
    exact Pipeline.endsAs_of_runs hp h hcalm

/-- The outcome of the call whose handler broke off. -/
def lockOutcome : Outcome := .ofCause (brokenHandling "lock" ⟨some "jammed"⟩)

/-- The whole run of the call whose handler breaks off; the usual presentation claims
the outcome. -/
def lockRun : Trace :=
  let s : Session := { lockContext.opened with loading := .ready [("open", .boolean true)] }
  lockHistory ++
  [⟨.handle lockCommand lockHandler lockContext s,
    ((.error (.breakdown ⟨some "jammed"⟩), s) : Except Failing Outcome × Session)⟩,
   recorded .handle (lockTags.withOutcome "error"),
   recorded .invoke (lockTags.withOutcome "error"),
   recorded .execute (lockTags.withOutcome "error"),
   ⟨.present presentOutcome lockContext lockOutcome s,
     ((.ok true, s) : Except Failing Bool × Session)⟩,
   recorded .result (lockTags.withOutcome "error"),
   recorded .event ((Tags.ofEvent lockEvent).withOutcome "error")]

/-- A handler that breaks off leaves a handled event with an internal error. -/
theorem lock_ends_handled :
    lockPipeline.IsSteady ∧
      Runs (lockPipeline.moves lockEvent) lockRun (.ok (.ok (.handled lockOutcome .fallback))) ∧
      ∃ ending, (.ok (.ok (.handled lockOutcome .fallback)) :
          Except Failing (Except MatchViolation Ending)) = .ok ending ∧
        lockPipeline.EndsAs lockEvent lockRun ending := by
  have hsteady : lockPipeline.IsSteady := by
    refine ⟨trivial, ?_⟩
    intro path style r h
    obtain ⟨hlast, -⟩ := (CommandTable.registry_ofList_iff _ path style r).1 h
    obtain ⟨hmem, -⟩ := List.mem_filter.1 (List.mem_of_getLast? hlast)
    obtain rfl := List.mem_singleton.1 hmem
    exact trivial
  have hrun : Runs (lockPipeline.moves lockEvent) lockRun
      (.ok (.ok (.handled lockOutcome .fallback))) := by
    rw [Pipeline.moves, Pipeline.procedure, Pipeline.processInner, matching_lock]
    exact .ask (.ask (.ask (.ask (.ask (.ask (.ask (.ask (.ask (.ask (.ask (.ask (.ask (.ask
      (.done _))))))))))))))
  have hcalm : ∀ x ∈ lockRun, Move.IsCalm x := by
    have hguild : Query.IsCalm ⟨.guild ⟨1⟩,
        (.ok (some ⟨⟨1⟩, "home", ⟨3⟩⟩) : Except Failing (Option Guild))⟩ := by
      rintro ⟨b, hb⟩
      cases hb
    have howner : Query.IsCalm ⟨.applicationOwner, (.ok ⟨3⟩ : Except Failing UserId)⟩ := by
      rintro ⟨b, hb⟩
      cases hb
    simp only [lockRun, lockHistory, List.forall_mem_append, List.forall_mem_cons]
    exact ⟨⟨trivial, trivial, hguild, howner, trivial, .cons ⟨[], .done _, by simp⟩ .nil, trivial,
      by simp⟩, trivial, trivial, trivial, trivial, trivial, trivial, trivial, by simp⟩
  exact ⟨hsteady, hrun, (process_ends_in_one_way lockPipeline hsteady lockEvent).2 _ _ hrun hcalm⟩

end ChatCommands
