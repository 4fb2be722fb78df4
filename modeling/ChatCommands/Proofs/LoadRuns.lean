import ChatCommands.Pipeline.Loading
import ChatCommands.Proofs.InteractionRuns

set_option autoImplicit false

/-!
# Runs of a load

What a load does depends on the session only by whether it is initialized and whether a load is
finished. `Parses` tells what parsing the arguments comes to, `Loads` what a load does in a session;
both are computed (`Context.ends_parseAndBind_iff`, `Context.ends_load_iff`). Any two sessions in
which the load is still to be done load alike (`Context.Loads.underLimit`).
-/

namespace ChatCommands

open Program (Exchange Runs)
open Interaction

/-- How a finished load ended; nothing when none is finished. -/
def Loading.end? : Loading → Option Context.LoadEnd
  | .notLoaded => none
  | .loading => none
  | .ready _ => some .loaded
  | .ended outcome => some (.ended outcome)

namespace Context

/-- The exchange of the lookups of all parameters. -/
def gathered (ctx : Context) (command : Command) (limit : Option Nat)
    (raw : List (String × RawArgument)) (a : Except Failing (Option (List ParameterEnd))) :
    Exchange Request Request.Answer :=
  ⟨.gather (parameterLookups ctx.place command.parameters raw) limit, a⟩

/-! ## What a load can do -/

/-- What parsing the arguments comes to: the loading it leads to, or nothing when it is given up. -/
inductive Parses (ctx : Context) (limit : Option Nat) :
    List (Exchange Request Request.Answer) → Except Failing (Option Loading) → Prop where
  | no_command (none_invoked : ctx.chain.getLast? = none) :
      Parses ctx limit [] (.ok (some (.ended (.ofMessage "no command to bind arguments for"))))
  | misassigned {command : Command} {failure : Failure}
      (invoked : ctx.chain.getLast? = some command)
      (assigned : assign command.parameters ctx.source = .error failure) :
      Parses ctx limit [] (.ok (some (.ended (.failure failure))))
  | gathered {command : Command} {raw : List (String × RawArgument)}
      (invoked : ctx.chain.getLast? = some command)
      (assigned : assign command.parameters ctx.source = .ok raw)
      (answer : Except Failing (Option (List ParameterEnd))) :
      Parses ctx limit [ctx.gathered command limit raw answer]
        (answer.map (Option.map (bind command.parameters)))

/-- What a load does in a session. -/
inductive Loads (ctx : Context) (limit : Option Nat) (s : Session) :
    List (Exchange Request Request.Answer) → Except Failing LoadEnd → Session → Prop where
  | refused (uninitialized : s.isInitialized = false) : Loads ctx limit s [] (.ok .notInitialized) s
  /-- A finished load answers. -/
  | again {e : LoadEnd} (initialized : s.isInitialized = true)
      (finished : s.loading.end? = some e) : Loads ctx limit s [] (.ok e) s
  | finished {t : List (Exchange Request Request.Answer)} {bound : Loading} {e : LoadEnd}
      (initialized : s.isInitialized = true) (pending : s.loading.end? = none)
      (parsed : ctx.Parses limit t (.ok (some bound))) (finishes : bound.end? = some e) :
      Loads ctx limit s t (.ok e) { s with loading := bound }
  | cancelled {t : List (Exchange Request Request.Answer)} (initialized : s.isInitialized = true)
      (pending : s.loading.end? = none) (parsed : ctx.Parses limit t (.ok none)) :
      Loads ctx limit s t (.ok .givenUp) { s with loading := .loading }
  | broken {t : List (Exchange Request Request.Answer)} {f : Failing}
      (initialized : s.isInitialized = true) (pending : s.loading.end? = none)
      (parsed : ctx.Parses limit t (.error f)) :
      Loads ctx limit s t (.error f) { s with loading := .loading }

variable {ctx : Context} {s s' : Session} {t : List (Exchange Request Request.Answer)}

/-- The lookups of all parameters are a single request. -/
theorem ends_gather_iff {lookups : List (Lookup ParameterEnd)} {limit : Option Nat}
    {r : Except Failing (Option (List ParameterEnd))} :
    Ends (Act.ofEnding (Request.gather lookups limit).put) s t r s' ↔
      t = [⟨.gather lookups limit, r⟩] ∧ s' = s :=
  Act.ends_ofEnding_iff.trans (and_congr_left fun _ => Program.runs_question_iff)

/-- Parsing does not look at the session. -/
theorem ends_parseAndBind_iff {limit : Option Nat} {r : Except Failing (Option Loading)} :
    Ends (ctx.parseAndBind limit) s t r s' ↔ ctx.Parses limit t r ∧ s' = s := by
  rw [parseAndBind]
  cases hinvoked : ctx.chain.getLast? with
  | none =>
    dsimp only
    rw [ends_pure_iff]
    constructor
    · rintro ⟨rfl, rfl, rfl⟩
      exact ⟨.no_command hinvoked, rfl⟩
    · rintro ⟨h, rfl⟩
      cases h with
      | no_command => exact ⟨rfl, rfl, rfl⟩
      | misassigned hother => simp [hinvoked] at hother
      | gathered hother => simp [hinvoked] at hother
  | some command =>
    dsimp only
    cases hassign : assign command.parameters ctx.source with
    | error failure =>
      dsimp only
      rw [ends_pure_iff]
      constructor
      · rintro ⟨rfl, rfl, rfl⟩
        exact ⟨.misassigned hinvoked hassign, rfl⟩
      · rintro ⟨h, rfl⟩
        cases h with
        | no_command hother => simp [hinvoked] at hother
        | misassigned hother hfailure =>
          obtain rfl := Option.some.inj (hinvoked.symm.trans hother)
          obtain rfl := Except.error.inj (hassign.symm.trans hfailure)
          exact ⟨rfl, rfl, rfl⟩
        | gathered hother hraw =>
          obtain rfl := Option.some.inj (hinvoked.symm.trans hother)
          simp [hassign] at hraw
    | ok raw =>
      dsimp only
      rw [ends_bind_iff]
      constructor
      · rintro (⟨ends, s₁, t₁, t₂, rfl, hgather, hbound⟩ | ⟨f, rfl, hgather⟩)
        · obtain ⟨rfl, rfl⟩ := ends_gather_iff.1 hgather
          obtain ⟨rfl, rfl, rfl⟩ := ends_pure_iff.1 hbound
          exact ⟨.gathered hinvoked hassign (.ok ends), rfl⟩
        · obtain ⟨rfl, rfl⟩ := ends_gather_iff.1 hgather
          exact ⟨.gathered hinvoked hassign (.error f), rfl⟩
      · rintro ⟨h, rfl⟩
        cases h with
        | no_command hother => simp [hinvoked] at hother
        | misassigned hother hfailure =>
          obtain rfl := Option.some.inj (hinvoked.symm.trans hother)
          simp [hassign] at hfailure
        | gathered hother hraw answer =>
          obtain rfl := Option.some.inj (hinvoked.symm.trans hother)
          obtain rfl := Except.ok.inj (hassign.symm.trans hraw)
          cases answer with
          | ok ends =>
            exact Or.inl ⟨ends, s', _, [], rfl, ends_gather_iff.2 ⟨rfl, rfl⟩,
              ends_pure_iff.2 ⟨rfl, rfl, rfl⟩⟩
          | error f => exact Or.inr ⟨f, rfl, ends_gather_iff.2 ⟨rfl, rfl⟩⟩

/-- Parsing for a command puts the lookups of its parameters, unless what was given does not fit. -/
theorem Parses.of_invoked {command : Command} {limit : Option Nat}
    {r : Except Failing (Option Loading)} (h : ctx.Parses limit t r)
    (hcommand : ctx.chain.getLast? = some command) :
    (∃ failure, assign command.parameters ctx.source = .error failure ∧ t = [] ∧
        r = .ok (some (.ended (.failure failure)))) ∨
      ∃ raw answer, assign command.parameters ctx.source = .ok raw ∧
        t = [ctx.gathered command limit raw answer] ∧
          r = answer.map (Option.map (bind command.parameters)) := by
  cases h with
  | no_command hnone => simp [hcommand] at hnone
  | misassigned hinvoked hassigned =>
    obtain rfl := Option.some.inj (hcommand.symm.trans hinvoked)
    exact Or.inl ⟨_, hassigned, rfl, rfl⟩
  | gathered hinvoked hassigned answer =>
    obtain rfl := Option.some.inj (hcommand.symm.trans hinvoked)
    exact Or.inr ⟨_, answer, hassigned, rfl, rfl⟩

/-- Parsing that is not given up finishes the load. -/
theorem Parses.exists_end {limit : Option Nat} {r : Except Failing (Option Loading)}
    (h : ctx.Parses limit t r) {bound : Loading} (hr : r = .ok (some bound)) :
    ∃ e, bound.end? = some e := by
  cases h with
  | no_command =>
    cases hr
    exact ⟨_, rfl⟩
  | misassigned =>
    cases hr
    exact ⟨_, rfl⟩
  | gathered _ _ answer =>
    rcases answer with f | _ | ends
    · simp [Except.map] at hr
    · simp [Except.map] at hr
    · obtain rfl : bind _ ends = bound := by simpa [Except.map] using hr
      rw [bind]
      cases joinParameters _ ends with
      | ok arguments => exact ⟨_, rfl⟩
      | error outcome => exact ⟨_, rfl⟩

theorem ends_conclusion_iff {s₀ : Session} {bound : Loading} {e : LoadEnd}
    (hend : bound.end? = some e) {r : Except Failing LoadEnd} :
    Ends (do
        Act.setSession { s with loading := bound }
        match bound with
        | .ended outcome => return .ended outcome
        | _ => return .loaded : Act LoadEnd) s₀ t r s' ↔
      t = [] ∧ r = .ok e ∧ s' = { s with loading := bound } := by
  rw [Act.ends_setSession_bind_iff]
  cases bound with
  | notLoaded => simp [Loading.end?] at hend
  | loading => simp [Loading.end?] at hend
  | ready arguments =>
    obtain rfl := Option.some.inj hend
    exact ends_pure_iff
  | ended outcome =>
    obtain rfl := Option.some.inj hend
    exact ends_pure_iff

/-- What a load comes to when none is finished: it finishes, is given up, or breaks off. -/
theorem ends_parsing_iff {limit : Option Nat} {s₀ : Session} {r : Except Failing LoadEnd} :
    Ends (do
        Act.setSession { s with loading := .loading }
        match ← ctx.parseAndBind limit with
        | none => return .givenUp
        | some bound =>
          Act.setSession { s with loading := bound }
          match bound with
          | .ended outcome => return .ended outcome
          | _ => return .loaded : Act LoadEnd) s₀ t r s' ↔
      (∃ bound e, ctx.Parses limit t (.ok (some bound)) ∧ bound.end? = some e ∧ r = .ok e ∧
        s' = { s with loading := bound }) ∨
      (ctx.Parses limit t (.ok none) ∧ r = .ok .givenUp ∧ s' = { s with loading := .loading }) ∨
      ∃ f, ctx.Parses limit t (.error f) ∧ r = .error f ∧ s' = { s with loading := .loading } := by
  rw [Act.ends_setSession_bind_iff, ends_bind_iff]
  constructor
  · rintro (⟨bound, s₁, t₁, t₂, rfl, hparse, hrest⟩ | ⟨f, rfl, hparse⟩)
    · obtain ⟨hparsed, rfl⟩ := ends_parseAndBind_iff.1 hparse
      cases bound with
      | none =>
        obtain ⟨rfl, rfl, rfl⟩ := ends_pure_iff.1 hrest
        rw [List.append_nil]
        exact Or.inr (Or.inl ⟨hparsed, rfl, rfl⟩)
      | some bound =>
        obtain ⟨e, hend⟩ := hparsed.exists_end rfl
        obtain ⟨rfl, rfl, rfl⟩ := (ends_conclusion_iff hend).1 hrest
        rw [List.append_nil]
        exact Or.inl ⟨bound, e, hparsed, hend, rfl, rfl⟩
    · obtain ⟨hparsed, rfl⟩ := ends_parseAndBind_iff.1 hparse
      exact Or.inr (Or.inr ⟨f, hparsed, rfl, rfl⟩)
  · rintro (⟨bound, e, hparsed, hend, rfl, rfl⟩ | ⟨hparsed, rfl, rfl⟩ | ⟨f, hparsed, rfl, rfl⟩)
    · exact Or.inl ⟨some bound, _, t, [], by rw [List.append_nil],
        ends_parseAndBind_iff.2 ⟨hparsed, rfl⟩, (ends_conclusion_iff hend).2 ⟨rfl, rfl, rfl⟩⟩
    · exact Or.inl ⟨none, _, t, [], by rw [List.append_nil],
        ends_parseAndBind_iff.2 ⟨hparsed, rfl⟩, ends_pure_iff.2 ⟨rfl, rfl, rfl⟩⟩
    · exact Or.inr ⟨f, rfl, ends_parseAndBind_iff.2 ⟨hparsed, rfl⟩⟩

/-- Of a load that is still to be done nothing but the session's place is used. -/
theorem loads_of_pending_iff {limit : Option Nat} {r : Except Failing LoadEnd}
    (hs : s.isInitialized = true) (hpending : s.loading.end? = none) :
    ctx.Loads limit s t r s' ↔
      (∃ bound e, ctx.Parses limit t (.ok (some bound)) ∧ bound.end? = some e ∧ r = .ok e ∧
        s' = { s with loading := bound }) ∨
      (ctx.Parses limit t (.ok none) ∧ r = .ok .givenUp ∧ s' = { s with loading := .loading }) ∨
      ∃ f, ctx.Parses limit t (.error f) ∧ r = .error f ∧ s' = { s with loading := .loading } := by
  constructor
  · intro h
    cases h with
    | refused huninitialized => simp [hs] at huninitialized
    | again _ hfinished => simp [hpending] at hfinished
    | finished _ _ hparsed hend => exact Or.inl ⟨_, _, hparsed, hend, rfl, rfl⟩
    | cancelled _ _ hparsed => exact Or.inr (Or.inl ⟨hparsed, rfl, rfl⟩)
    | broken _ _ hparsed => exact Or.inr (Or.inr ⟨_, hparsed, rfl, rfl⟩)
  · rintro (⟨bound, e, hparsed, hend, rfl, rfl⟩ | ⟨hparsed, rfl, rfl⟩ | ⟨f, hparsed, rfl, rfl⟩)
    · exact .finished hs hpending hparsed hend
    · exact .cancelled hs hpending hparsed
    · exact .broken hs hpending hparsed

theorem loads_of_finished_iff {limit : Option Nat} {e : LoadEnd} {r : Except Failing LoadEnd}
    (hs : s.isInitialized = true) (hfinished : s.loading.end? = some e) :
    ctx.Loads limit s t r s' ↔ t = [] ∧ r = .ok e ∧ s' = s := by
  constructor
  · intro h
    cases h with
    | refused huninitialized => simp [hs] at huninitialized
    | again _ hother =>
      obtain rfl := Option.some.inj (hfinished.symm.trans hother)
      exact ⟨rfl, rfl, rfl⟩
    | finished _ hpending => simp [hfinished] at hpending
    | cancelled _ hpending => simp [hfinished] at hpending
    | broken _ hpending => simp [hfinished] at hpending
  · rintro ⟨rfl, rfl, rfl⟩
    exact .again hs hfinished

theorem ends_load_iff {limit : Option Nat} {r : Except Failing LoadEnd} :
    Ends (ctx.load limit) s t r s' ↔ ctx.Loads limit s t r s' := by
  rw [load, Act.ends_session_bind_iff]
  cases hs : s.isInitialized with
  | false =>
    constructor
    · intro h
      obtain ⟨rfl, rfl, rfl⟩ := ends_pure_iff.1 h
      exact .refused hs
    · intro h
      cases h with
      | refused => exact ends_pure_iff.2 ⟨rfl, rfl, rfl⟩
      | again hinitialized | finished hinitialized | cancelled hinitialized | broken hinitialized =>
        simp [hs] at hinitialized
  | true =>
    simp only [Bool.not_true, Bool.false_eq_true, if_false]
    cases hloading : s.loading with
    | ready arguments =>
      have hend : s.loading.end? = some .loaded := by rw [hloading, Loading.end?]
      exact ends_pure_iff.trans (loads_of_finished_iff hs hend).symm
    | ended outcome =>
      have hend : s.loading.end? = some (.ended outcome) := by rw [hloading, Loading.end?]
      exact ends_pure_iff.trans (loads_of_finished_iff hs hend).symm
    | notLoaded =>
      have hpending : s.loading.end? = none := by rw [hloading, Loading.end?]
      exact ends_parsing_iff.trans (loads_of_pending_iff hs hpending).symm
    | loading =>
      have hpending : s.loading.end? = none := by rw [hloading, Loading.end?]
      exact ends_parsing_iff.trans (loads_of_pending_iff hs hpending).symm

/-! ## Loads in other sessions and under other limits -/

/-- The exchange with the lookups of parameters given another limit. -/
def underLimit (limit : Option Nat) :
    Exchange Request Request.Answer → Exchange Request Request.Answer
  | ⟨.gather lookups _, answer⟩ => ⟨.gather lookups limit, answer⟩
  | x => x

/-- Arguments are parsed alike whatever the limit is, if the lookups are answered alike. -/
theorem Parses.underLimit {limit : Option Nat} {r : Except Failing (Option Loading)}
    (h : ctx.Parses limit t r) (other : Option Nat) :
    ctx.Parses other (t.map (underLimit other)) r := by
  cases h with
  | no_command hinvoked => exact .no_command hinvoked
  | misassigned hinvoked hassigned => exact .misassigned hinvoked hassigned
  | gathered hinvoked hassigned answer => exact .gathered hinvoked hassigned answer

/-- Any two sessions in which the load is still to be done load alike. -/
theorem Loads.underLimit {limit : Option Nat} {r : Except Failing LoadEnd}
    (h : ctx.Loads limit s t r s') (hs : s.isInitialized = true) (hpending : s.loading.end? = none)
    {s₂ : Session} (hs₂ : s₂.isInitialized = true) (hpending₂ : s₂.loading.end? = none)
    (other : Option Nat) :
    ctx.Loads other s₂ (t.map (underLimit other)) r { s₂ with loading := s'.loading } := by
  cases h with
  | refused huninitialized => simp [hs] at huninitialized
  | again _ hfinished => simp [hpending] at hfinished
  | finished _ _ hparsed hend => exact .finished hs₂ hpending₂ (hparsed.underLimit other) hend
  | cancelled _ _ hparsed => exact .cancelled hs₂ hpending₂ (hparsed.underLimit other)
  | broken _ _ hparsed => exact .broken hs₂ hpending₂ (hparsed.underLimit other)

end Context

end ChatCommands
