import ChatCommands.Proofs.SlotTexts
import ChatCommands.Proofs.StageContracts
import Mathlib.Data.Set.List

set_option autoImplicit false

/-!
# Parsing side by side

The parameters of a command are parsed side by side, by programs that share nothing (`SideBySide`):
in any order of their questions and with any answers, what belongs to one of them is a run of its
own program (`Program.sideBySide_iff`). A platform lays the lookups out on one timeline, which is
one of these orders (`Timeline.sideBySide_together`). `Parameter.Parses` says how the parsing of one
parameter ends, and `arguments_of_joinParameters` and `joinParameters_eq_error_iff` what the ends
come to together. All of it is put together in `parameters_parse_side_by_side`.
-/

namespace ChatCommands

open Program (Exchange Runs)
open Reference (Place)

/-! ## Programs side by side -/

namespace Program

variable {Q : Type} {R : Q → Type} {α β γ : Type}

/-- Programs run side by side: one after the other, in any order, they put their next question and
are answered, until all of them have ended. -/
inductive SideBySide : List (Program Q R α) → List (Nat × Exchange Q R) → List α → Prop where
  | ended (values : List α) : SideBySide (values.map .done) [] values
  | turn {programs : List (Program Q R α)} {i : Nat} {q : Q} {k : R q → Program Q R α} {r : R q}
      {t : List (Nat × Exchange Q R)} {values : List α} (asks : programs[i]? = some (.ask q k))
      (later : SideBySide (programs.set i (k r)) t values) :
      SideBySide programs ((i, ⟨q, r⟩) :: t) values

/-- What is at a place, of what is at several places. -/
def own (i : Nat) (t : List (Nat × β)) : List β :=
  t.filterMap fun x => if x.1 = i then some x.2 else none

theorem own_cons_self (i : Nat) (b : β) (t : List (Nat × β)) :
    own i ((i, b) :: t) = b :: own i t := by
  simp [own]

theorem own_cons_of_ne {i j : Nat} (h : j ≠ i) (b : β) (t : List (Nat × β)) :
    own i ((j, b) :: t) = own i t := by
  simp [own, h]

theorem mem_own {i : Nat} {b : β} {t : List (Nat × β)} : b ∈ own i t ↔ (i, b) ∈ t := by
  simp [own]

theorem own_eq_nil {i : Nat} {t : List (Nat × β)} (h : ∀ x ∈ t, x.1 ≠ i) : own i t = [] := by
  rw [List.eq_nil_iff_forall_not_mem]
  intro b hb
  exact h _ (mem_own.1 hb) rfl

theorem own_map (f : β → γ) (i : Nat) (t : List (Nat × β)) :
    own i (t.map fun x => (x.1, f x.2)) = (own i t).map f := by
  induction t with
  | nil => rfl
  | cons x t ih =>
    obtain ⟨j, b⟩ := x
    rw [List.map_cons]
    rcases eq_or_ne j i with rfl | hother
    · rw [own_cons_self, own_cons_self, List.map_cons, ih]
    · rw [own_cons_of_ne hother, own_cons_of_ne hother, ih]

theorem own_map_pair (i : Nat) (bs : List β) : own i (bs.map (i, ·)) = bs := by
  induction bs with
  | nil => rfl
  | cons b bs ih => rw [List.map_cons, own_cons_self, ih]

/-- A merge keeps the order of what is at a place in one of its parts only. -/
theorem own_merge {i : Nat} {xs ys : List (Nat × β)} (le : Nat × β → Nat × β → Bool)
    (h : own i xs = [] ∨ own i ys = []) : own i (xs.merge ys le) = own i xs ++ own i ys := by
  fun_induction List.merge xs ys le with
  | case1 ys => rfl
  | case2 xs => exact (List.append_nil _).symm
  | case3 x xs y ys _ ih =>
    obtain ⟨j, b⟩ := x
    rcases eq_or_ne j i with rfl | hother
    · rw [own_cons_self] at h ⊢
      have hys := h.resolve_left (List.cons_ne_nil _ _)
      rw [ih (Or.inr hys), own_cons_self, List.cons_append]
    · rw [own_cons_of_ne hother] at h
      rw [own_cons_of_ne hother, own_cons_of_ne hother, ih h]
  | case4 x xs y ys _ ih =>
    obtain ⟨j, b⟩ := y
    rcases eq_or_ne j i with rfl | hother
    · rw [own_cons_self] at h
      have hxs := h.resolve_right (List.cons_ne_nil _ _)
      rw [own_cons_self, own_cons_self, ih (Or.inl hxs), hxs, List.nil_append, List.nil_append]
    · rw [own_cons_of_ne hother] at h
      rw [own_cons_of_ne hother, own_cons_of_ne hother, ih h]

/-- Programs whose runs ask nothing have ended. -/
theorem eq_map_done {programs : List (Program Q R α)} {values : List α}
    (hlength : values.length = programs.length)
    (hruns : ∀ (i : Nat) p v, programs[i]? = some p → values[i]? = some v → Runs p [] v) :
    programs = values.map .done := by
  apply List.ext_getElem?
  intro i
  rw [List.getElem?_map]
  cases hp : programs[i]? with
  | none =>
    have hle := List.getElem?_eq_none_iff.1 hp
    rw [List.getElem?_eq_none_iff.2 (hlength ▸ hle)]
    rfl
  | some p =>
    obtain ⟨hi, -⟩ := List.getElem?_eq_some_iff.1 hp
    have hv := List.getElem?_eq_getElem (hlength ▸ hi)
    have hrun := hruns i p _ hp hv
    rw [hv]
    cases hrun
    rfl

/-- Runs of the programs, in any order of their exchanges, are the programs side by side. -/
theorem sideBySide_of_runs {programs : List (Program Q R α)} {t : List (Nat × Exchange Q R)}
    {values : List α} (hlength : values.length = programs.length)
    (hplaces : ∀ x ∈ t, x.1 < programs.length)
    (hruns : ∀ i p v, programs[i]? = some p → values[i]? = some v → Runs p (own i t) v) :
    SideBySide programs t values := by
  induction t generalizing programs with
  | nil =>
    rw [eq_map_done hlength hruns]
    exact .ended values
  | cons x t ih =>
    obtain ⟨i, q, r⟩ := x
    obtain ⟨hi, hplaces⟩ := List.forall_mem_cons.1 hplaces
    have hp := List.getElem?_eq_getElem hi
    have hv := List.getElem?_eq_getElem (hlength ▸ hi)
    have hrun := hruns i _ _ hp hv
    rw [own_cons_self] at hrun
    generalize programs[i] = p at hp hrun
    -- the program at the place of the first exchange has put its question
    cases hrun with
    | @ask _ k _ _ _ hnext =>
      apply SideBySide.turn hp
      apply ih
      · rw [List.length_set]
        exact hlength
      · rw [List.length_set]
        exact hplaces
      · intro j p v hp' hv'
        rcases eq_or_ne i j with rfl | hother
        · rw [List.getElem?_set_self hi] at hp'
          obtain rfl := Option.some.inj hp'
          obtain rfl := Option.some.inj (hv.symm.trans hv')
          exact hnext
        · rw [List.getElem?_set_ne hother] at hp'
          have hown := hruns j p v hp' hv'
          rwa [own_cons_of_ne hother] at hown

/-- In any order and with any answers, the exchanges of each program are those of a
run of its own. -/
theorem sideBySide_iff {programs : List (Program Q R α)} {t : List (Nat × Exchange Q R)}
    {values : List α} :
    SideBySide programs t values ↔ values.length = programs.length ∧
      (∀ x ∈ t, x.1 < programs.length) ∧
      ∀ i p v, programs[i]? = some p → values[i]? = some v → Runs p (own i t) v := by
  constructor
  · intro h
    induction h with
    | ended values =>
      refine ⟨(List.length_map _).symm, by simp, ?_⟩
      intro i p v hp hv
      rw [List.getElem?_map, hv] at hp
      obtain rfl := Option.some.inj hp
      exact .done v
    | @turn programs i q k r t values hasks _ ih =>
      obtain ⟨hlength, hplaces, hruns⟩ := ih
      rw [List.length_set] at hlength hplaces
      obtain ⟨hi, -⟩ := List.getElem?_eq_some_iff.1 hasks
      refine ⟨hlength, List.forall_mem_cons.2 ⟨hi, hplaces⟩, ?_⟩
      intro j p v hp hv
      rcases eq_or_ne i j with rfl | hother
      · obtain rfl := Option.some.inj (hasks.symm.trans hp)
        rw [own_cons_self]
        exact .ask (hruns i _ v (List.getElem?_set_self hi) hv)
      · rw [own_cons_of_ne hother]
        exact hruns j p v (by rw [List.getElem?_set_ne hother, hp]) hv
  · rintro ⟨hlength, hplaces, hruns⟩
    exact sideBySide_of_runs hlength hplaces hruns

/-- The same exchanges lead to the same end. -/
theorem Runs.end_unique {p : Program Q R α} {t : List (Exchange Q R)} {a a' : α} (h : Runs p t a)
    (h' : Runs p t a') : a = a' := by
  induction h with
  | done a => exact (runs_done_iff.1 h').2.symm
  | ask _ ih =>
    cases h' with
    | ask hnext => exact ih hnext

/-- Runs in which the same questions are answered alike are the same. -/
theorem Runs.unique {p : Program Q R α} {t t' : List (Exchange Q R)} {a a' : α}
    {answer : (q : Q) → R q} (h : Runs p t a) (h' : Runs p t' a') (ht : ∀ x ∈ t, x.2 = answer x.1)
    (ht' : ∀ x ∈ t', x.2 = answer x.1) : t = t' ∧ a = a' := by
  induction h generalizing t' with
  | done a =>
    obtain ⟨rfl, rfl⟩ := runs_done_iff.1 h'
    exact ⟨rfl, rfl⟩
  | @ask q k r t a _ ih =>
    obtain ⟨r', later, rfl, hnext⟩ := runs_ask_iff.1 h'
    obtain ⟨hr, hlater⟩ := List.forall_mem_cons.1 ht
    obtain ⟨hr', hlater'⟩ := List.forall_mem_cons.1 ht'
    obtain rfl : r = r' := hr.trans hr'.symm
    obtain ⟨rfl, rfl⟩ := ih hnext hlater hlater'
    exact ⟨rfl, rfl⟩

end Program

open Program (SideBySide own)

/-! ## Timelines side by side -/

namespace Timeline

variable {α : Type}

/-- The questions of timelines that have been merged stand at the places of the timelines. -/
theorem exists_own_eq (parts : List (List (Nat × Query))) :
    ∃ t : List (Nat × Nat × Query), t.map (·.2) = parts.foldl mergeQuestions [] ∧
      (∀ x ∈ t, x.1 < parts.length) ∧ ∀ i part, parts[i]? = some part → own i t = part := by
  induction parts using List.reverseRecOn with
  | nil => exact ⟨[], rfl, by simp, by simp⟩
  | append_singleton parts last ih =>
    obtain ⟨t, ht, hplaces, hown⟩ := ih
    have hlast : own parts.length t = [] := Program.own_eq_nil fun x hx => (hplaces x hx).ne
    refine ⟨t.merge (last.map (parts.length, ·)) fun x y => x.2.1 ≤ y.2.1, ?_, ?_, ?_⟩
    · have huntagged : (last.map (parts.length, ·)).map (·.2) = last := by
        rw [List.map_map]
        exact List.map_id last
      rw [List.foldl_append, ← ht, List.foldl_cons, List.foldl_nil, mergeQuestions]
      conv_rhs => rw [← huntagged]
      exact List.map_merge fun _ _ _ _ => rfl
    · intro x hx
      rw [List.length_append, List.length_singleton]
      rcases List.mem_merge.1 hx with hx | hx
      · exact (hplaces x hx).trans (Nat.lt_succ_self _)
      · obtain ⟨y, -, rfl⟩ := List.mem_map.1 hx
        exact Nat.lt_succ_self _
    · intro i part hpart
      obtain ⟨hi, -⟩ := List.getElem?_eq_some_iff.1 hpart
      rw [List.length_append, List.length_singleton] at hi
      rcases Nat.lt_succ_iff_lt_or_eq.1 hi with hi | rfl
      · rw [List.getElem?_append_left hi] at hpart
        have hother : own i (last.map (parts.length, ·)) = [] := by
          apply Program.own_eq_nil
          intro x hx
          obtain ⟨y, -, rfl⟩ := List.mem_map.1 hx
          exact hi.ne'
        rw [Program.own_merge _ (Or.inr hother), hother, List.append_nil, hown i part hpart]
      · rw [List.getElem?_concat_length] at hpart
        obtain rfl := Option.some.inj hpart
        rw [Program.own_merge _ (Or.inl hlast), hlast, List.nil_append, Program.own_map_pair]

/-- A question that has been put at a time, with its answer. -/
def answered (answer : (q : Query) → Nat × q.Answer) (x : Nat × Query) :
    Exchange Query Query.Answer :=
  ⟨x.2, (answer x.2).2⟩

/-- The questions of a timeline with their answers are a run of its program. -/
theorem runs_questions (answer : (q : Query) → Nat × q.Answer)
    (p : Program Query Query.Answer α) (now : Nat) :
    Runs p ((ofProgram answer p now).questions.map (answered answer))
      (ofProgram answer p now).result := by
  induction p generalizing now with
  | done a => exact .done a
  | ask q k ih => exact .ask (ih (answer q).2 (now + (answer q).1))

/-- Timelines put together are those of programs side by side. -/
theorem sideBySide_together (answer : (q : Query) → Nat × q.Answer)
    (programs : List (Program Query Query.Answer α)) :
    ∃ t, SideBySide programs t (together (programs.map fun p => ofProgram answer p 0)).result ∧
      t.map (·.2) = (together (programs.map fun p => ofProgram answer p 0)).questions.map
        (answered answer) := by
  obtain ⟨t, ht, hplaces, hown⟩ :=
    exists_own_eq ((programs.map fun p => ofProgram answer p 0).map (·.questions))
  refine ⟨t.map fun x => (x.1, answered answer x.2), ?_, ?_⟩
  · rw [Program.sideBySide_iff]
    refine ⟨by simp [together], ?_, ?_⟩
    · intro x hx
      obtain ⟨y, hy, rfl⟩ := List.mem_map.1 hx
      simpa using hplaces y hy
    · intro i p v hp hv
      obtain rfl : (ofProgram answer p 0).result = v := by simpa [together, hp] using hv
      rw [Program.own_map, hown i (ofProgram answer p 0).questions (by simp [hp])]
      exact runs_questions answer p 0
  · rw [together, ← ht, List.map_map, List.map_map]
    rfl

/-- Timelines that all end with a value are gathered as they are put together. -/
theorem gather_of_ok {parts : List (Timeline (Except Failing α))} {values : List α}
    (h : (together parts).result = values.map .ok) :
    gather parts = ⟨(together parts).questions, (together parts).length, .ok values⟩ := by
  have hnone : firstFailure? parts = none := by
    rw [Option.eq_none_iff_forall_ne_some]
    rintro ⟨time, count, f⟩ hsome
    obtain ⟨part, hmem, hpart⟩ := result_of_firstFailure?_some hsome
    have hresult : part.result ∈ (together parts).result := List.mem_map_of_mem hmem
    rw [h, hpart] at hresult
    obtain ⟨value, -, hvalue⟩ := List.mem_map.1 hresult
    cases hvalue
  rw [gather, hnone]
  dsimp only
  rw [h, List.filterMap_map]
  congr 2
  exact List.filterMap_some

end Timeline

/-! ## One parameter -/

/-- How the parsing of a parameter ends, from its raw argument or without one, after some exchanges
with the directory. -/
inductive Parameter.Parses (place : Place) (p : Parameter) :
    Option RawArgument → List (Exchange Query Query.Answer) → ParameterEnd → Prop where
  | missing (required : p.required = true) :
      Parses place p none [] (.error (.failure (.argumentMissing p.name)))
  | omitted (optional : p.required = false) : Parses place p none [] (.ok p.default)
  | parsed {raw : RawArgument} {t : List (Exchange Query Query.Answer)} {value : Argument}
      (parses : Lookup.Ends (parseValue place p.kind raw).run t (.ok (.ok value))) :
      Parses place p (some raw) t (.ok (some value))
  /-- The raw argument is at fault. -/
  | invalid {raw : RawArgument} {t : List (Exchange Query Query.Answer)} {reason : String}
      (refused : Lookup.Ends (parseValue place p.kind raw).run t (.ok (.error (.invalid reason)))) :
      Parses place p (some raw) t (.error (.failure (.argumentInvalid p.name reason)))
  /-- The directory has failed. -/
  | unresolved {raw : RawArgument} {t : List (Exchange Query Query.Answer)} {cause : Cause}
      (failed : Lookup.Ends (parseValue place p.kind raw).run t (.ok (.error (.lookup cause)))) :
      Parses place p (some raw) t
        (.error
          (.ofCause ((ArgumentError.lookup cause).cause.context ("parsing parameter " ++ p.name))))

theorem Parameter.parses_iff {place : Place} {p : Parameter} {raw : Option RawArgument}
    {t : List (Exchange Query Query.Answer)} {e : ParameterEnd} :
    p.Parses place raw t e ↔ (parseParameter place p raw).Ends t (.ok e) := by
  cases raw with
  | none =>
    rw [parseParameter]
    constructor
    · intro h
      cases h with
      | missing hrequired =>
        rw [if_pos hrequired]
        exact Lookup.ends_pure_iff.2 ⟨rfl, rfl⟩
      | omitted hoptional =>
        rw [if_neg (by simp [hoptional])]
        exact Lookup.ends_pure_iff.2 ⟨rfl, rfl⟩
    · intro h
      split at h
      · rename_i hrequired
        obtain ⟨rfl, he⟩ := Lookup.ends_pure_iff.1 h
        obtain rfl := Except.ok.inj he
        exact .missing hrequired
      · rename_i hoptional
        obtain ⟨rfl, he⟩ := Lookup.ends_pure_iff.1 h
        obtain rfl := Except.ok.inj he
        exact .omitted (by simpa using hoptional)
  | some raw =>
    rw [parseParameter]
    constructor
    · intro h
      cases h with
      -- nothing is asked once the value has been parsed or refused
      | parsed h | invalid h | unresolved h =>
        apply Lookup.ends_bind_iff.2
        exact Or.inl ⟨_, t, [], (List.append_nil t).symm, h, Lookup.ends_pure_iff.2 ⟨rfl, rfl⟩⟩
    · intro h
      rcases Lookup.ends_bind_iff.1 h with ⟨r, t₁, t₂, rfl, h₁, h₂⟩ | ⟨f, hf, -⟩
      · rcases r with (reason | cause) | value
        all_goals
          obtain ⟨rfl, he⟩ := Lookup.ends_pure_iff.1 h₂
          obtain rfl := Except.ok.inj he
          rw [List.append_nil]
        · exact .invalid h₁
        · exact .unresolved h₁
        · exact .parsed h₁
      · cases hf

/-! ## The ends of all parameters -/

theorem joinParameters_cons (p : Parameter) (ps : List Parameter) (value : Option Argument)
    (es : List ParameterEnd) :
    joinParameters (p :: ps) (.ok value :: es) =
      (joinParameters ps es).map (prependValue p.name value) := by
  rw [joinParameters]
  cases joinParameters ps es <;> cases value <;> rfl

/-- The joined ends are the first failure, if there is one. -/
theorem joinParameters_eq_error_iff {ps : List Parameter} {es : List ParameterEnd}
    (hlength : es.length = ps.length) {outcome : Outcome} :
    joinParameters ps es = .error outcome ↔
      ∃ i : Nat, es[i]? = some (.error outcome) ∧ ∀ j < i, ∃ value, es[j]? = some (.ok value) := by
  induction ps generalizing es with
  | nil =>
    obtain rfl := List.length_eq_zero_iff.1 hlength
    simp [joinParameters, pure, Except.pure]
  | cons p ps ih =>
    obtain ⟨e, es, rfl⟩ := List.exists_cons_of_length_eq_add_one hlength
    have hlater := ih (Nat.succ.inj hlength)
    cases e with
    | error first =>
      constructor
      · intro h
        obtain rfl : first = outcome := Except.error.inj h
        exact ⟨0, rfl, by simp⟩
      · rintro ⟨i, hi, hbefore⟩
        cases i with
        | zero =>
          obtain rfl : first = outcome := by simpa using hi
          rfl
        | succ i =>
          obtain ⟨value, hvalue⟩ := hbefore 0 (Nat.succ_pos i)
          simp at hvalue
    | ok value =>
      constructor
      · intro h
        have hjoin := (joinParameters_cons_error h).resolve_left (by simp)
        obtain ⟨i, hi, hbefore⟩ := hlater.1 hjoin
        refine ⟨i + 1, hi, ?_⟩
        intro j hj
        cases j with
        | zero => exact ⟨value, rfl⟩
        | succ j => exact hbefore j (Nat.lt_of_succ_lt_succ hj)
      · rintro ⟨i, hi, hbefore⟩
        cases i with
        | zero => simp at hi
        | succ i =>
          have hjoin : joinParameters ps es = .error outcome := by
            apply hlater.2
            refine ⟨i, hi, ?_⟩
            intro j hj
            exact hbefore (j + 1) (Nat.succ_lt_succ hj)
          rw [joinParameters_cons, hjoin]
          rfl

theorem valueOf?_of_fresh {α : Type} {name : String} {entries : List (String × α)}
    (h : name ∉ entries.map (·.1)) : valueOf? name entries = none := by
  rw [Option.eq_none_iff_forall_ne_some]
  intro a ha
  obtain ⟨x, hx, hname⟩ := List.any_eq_true.1 (exists_valueOf?_iff.1 ⟨a, ha⟩)
  rw [← beq_iff_eq.1 hname] at h
  exact h (List.mem_map_of_mem hx)

theorem prependValue_of_fresh {name : String} {values : List (String × Argument)}
    (h : name ∉ values.map (·.1)) (v : Argument) :
    prependValue name (some v) values = (name, v) :: values := by
  apply if_neg
  intro hany
  obtain ⟨w, hw⟩ := exists_valueOf?_iff.2 hany
  rw [valueOf?_of_fresh h] at hw
  cases hw

/-- With different names, the arguments are what the parameters have been parsed to, in declaration
order. -/
theorem arguments_of_joinParameters {ps : List Parameter} (hnames : (ps.map (·.name)).Nodup)
    {es : List ParameterEnd} (hlength : es.length = ps.length)
    {arguments : List (String × Argument)} (h : joinParameters ps es = .ok arguments) :
    (arguments.map (·.1)).Sublist (ps.map (·.name)) ∧
      ∀ (i : Nat) (p : Parameter), ps[i]? = some p →
        es[i]? = some (.ok (valueOf? p.name arguments)) := by
  induction ps generalizing es arguments with
  | nil =>
    obtain rfl := List.length_eq_zero_iff.1 hlength
    obtain rfl := Except.ok.inj h
    exact ⟨List.Sublist.refl _, by simp⟩
  | cons p ps ih =>
    obtain ⟨e, es, rfl⟩ := List.exists_cons_of_length_eq_add_one hlength
    obtain ⟨value, values, rfl, hvalues, rfl⟩ := joinParameters_cons_ok h
    rw [List.map_cons, List.nodup_cons] at hnames
    obtain ⟨hsub, hlater⟩ := ih hnames.2 (Nat.succ.inj hlength) hvalues
    -- no later parameter has the name of the first one
    have hfresh : p.name ∉ values.map (·.1) := by
      intro hmem
      exact hnames.1 (hsub.subset hmem)
    cases value with
    | none =>
      refine ⟨hsub.cons _, ?_⟩
      intro i q hq
      cases i with
      | zero =>
        obtain rfl : p = q := by simpa using hq
        rw [prependValue, valueOf?_of_fresh hfresh]
        rfl
      | succ i => exact hlater i q hq
    | some v =>
      rw [prependValue_of_fresh hfresh]
      refine ⟨hsub.cons_cons _, ?_⟩
      intro i q hq
      cases i with
      | zero =>
        obtain rfl : p = q := by simpa using hq
        rw [valueOf?_cons_self]
        rfl
      | succ i =>
        rw [List.getElem?_cons_succ] at hq
        have hother : q.name ≠ p.name :=
          ne_of_mem_of_not_mem (List.mem_map_of_mem (List.mem_of_getElem? hq)) hnames.1
        rw [valueOf?_cons_of_ne v values hother.symm]
        exact hlater i q hq

/-! ## All parameters -/

section All

variable {place : Place} {parameters : List Parameter} {raw raw' : List (String × RawArgument)}
  {t t' : List (Nat × Exchange Query Query.Answer)} {ends ends' : List ParameterEnd}

/-- The parameters are parsed side by side, with these exchanges and ends. -/
abbrev ParsedTogether (place : Place) (parameters : List Parameter)
    (raw : List (String × RawArgument)) (t : List (Nat × Exchange Query Query.Answer))
    (ends : List ParameterEnd) : Prop :=
  SideBySide ((parameterLookups place parameters raw).map (·.run)) t (ends.map .ok)

/-- How the parsing of the parameter at a place ends, from the raw argument of its name after the
exchanges at this place. -/
abbrev Parameter.ParsesAt (p : Parameter) (place : Place) (raw : List (String × RawArgument))
    (t : List (Nat × Exchange Query Query.Answer)) (i : Nat) (e : ParameterEnd) : Prop :=
  p.Parses place (valueOf? p.name raw) (own i t) e

theorem length_parameterLookups (place : Place) (parameters : List Parameter)
    (raw : List (String × RawArgument)) :
    (parameterLookups place parameters raw).length = parameters.length := by
  induction parameters generalizing raw with
  | nil => rfl
  | cons p ps ih => rw [parameterLookups, List.length_cons, List.length_cons, ih]

theorem parsedTogether_iff (hnames : (parameters.map (·.name)).Nodup) :
    ParsedTogether place parameters raw t ends ↔ ends.length = parameters.length ∧
      (∀ x ∈ t, x.1 < parameters.length) ∧
        ∀ (i : Nat) (p : Parameter) (e : ParameterEnd), parameters[i]? = some p →
          ends[i]? = some e → p.ParsesAt place raw t i e := by
  rw [ParsedTogether, Program.sideBySide_iff, List.length_map, List.length_map,
    length_parameterLookups]
  refine and_congr_right fun _ => and_congr_right fun _ => ?_
  simp only [List.getElem?_map, getElem?_parameterLookups place hnames, Option.map_map]
  constructor
  · intro h i p e hp he
    exact Parameter.parses_iff.2 (h i _ _ (by rw [hp]; rfl) (by rw [he]; rfl))
  · intro h i program r hprogram hr
    obtain ⟨p, hp, rfl⟩ := Option.map_eq_some_iff.1 hprogram
    obtain ⟨e, he, rfl⟩ := Option.map_eq_some_iff.1 hr
    exact Parameter.parses_iff.1 (h i p e hp he)

/-- The parameter at a place has the end that stands there. -/
theorem ParsedTogether.parsesAt_iff (hnames : (parameters.map (·.name)).Nodup)
    (h : ParsedTogether place parameters raw t ends) {i : Nat} {p : Parameter}
    (hp : parameters[i]? = some p) {e : ParameterEnd} :
    p.ParsesAt place raw t i e ↔ ends[i]? = some e := by
  obtain ⟨hlength, -, hparses⟩ := (parsedTogether_iff hnames).1 h
  obtain ⟨hi, -⟩ := List.getElem?_eq_some_iff.1 hp
  have he := List.getElem?_eq_getElem (hlength ▸ hi)
  constructor
  · intro hend
    have hrun := Parameter.parses_iff.1 (hparses i p _ hp he)
    rw [he, Except.ok.inj (hrun.end_unique (Parameter.parses_iff.1 hend))]
  · exact hparses i p e hp

/-- There are arguments if and only if each parameter has been parsed to a value or to none. -/
theorem ParsedTogether.joined_iff (hnames : (parameters.map (·.name)).Nodup)
    (h : ParsedTogether place parameters raw t ends) :
    (∃ arguments, joinParameters parameters ends = .ok arguments) ↔
      ∀ (i : Nat) (p : Parameter), parameters[i]? = some p →
        ∃ value, p.ParsesAt place raw t i (.ok value) := by
  obtain ⟨hlength, -, -⟩ := (parsedTogether_iff hnames).1 h
  constructor
  · rintro ⟨arguments, hjoin⟩ i p hp
    obtain ⟨-, hends⟩ := arguments_of_joinParameters hnames hlength hjoin
    exact ⟨valueOf? p.name arguments, (h.parsesAt_iff hnames hp).2 (hends i p hp)⟩
  · intro hall
    cases hjoin : joinParameters parameters ends with
    | ok arguments => exact ⟨arguments, rfl⟩
    | error outcome =>
      obtain ⟨i, hi, -⟩ := (joinParameters_eq_error_iff hlength).1 hjoin
      obtain ⟨hlt, -⟩ := List.getElem?_eq_some_iff.1 hi
      have hp := List.getElem?_eq_getElem (hlength ▸ hlt)
      obtain ⟨value, hvalue⟩ := hall i _ hp
      rw [h.parsesAt_iff hnames hp, hi] at hvalue
      simp at hvalue

/-- The parsing is refused with the failure of the first parameter that has one. -/
theorem ParsedTogether.refused_iff (hnames : (parameters.map (·.name)).Nodup)
    (h : ParsedTogether place parameters raw t ends) (outcome : Outcome) :
    joinParameters parameters ends = .error outcome ↔
      ∃ (i : Nat) (p : Parameter), parameters[i]? = some p ∧
        p.ParsesAt place raw t i (.error outcome) ∧
          ∀ (j : Nat) (q : Parameter), j < i → parameters[j]? = some q →
            ∃ value, q.ParsesAt place raw t j (.ok value) := by
  obtain ⟨hlength, -, -⟩ := (parsedTogether_iff hnames).1 h
  rw [joinParameters_eq_error_iff hlength]
  constructor
  · rintro ⟨i, hi, hbefore⟩
    obtain ⟨hlt, -⟩ := List.getElem?_eq_some_iff.1 hi
    have hp := List.getElem?_eq_getElem (hlength ▸ hlt)
    refine ⟨i, _, hp, (h.parsesAt_iff hnames hp).2 hi, ?_⟩
    intro j q hj hq
    obtain ⟨value, hvalue⟩ := hbefore j hj
    exact ⟨value, (h.parsesAt_iff hnames hq).2 hvalue⟩
  · rintro ⟨i, p, hp, hend, hbefore⟩
    refine ⟨i, (h.parsesAt_iff hnames hp).1 hend, ?_⟩
    intro j hj
    obtain ⟨hlt, -⟩ := List.getElem?_eq_some_iff.1 hp
    have hq := List.getElem?_eq_getElem (hj.trans hlt)
    obtain ⟨value, hvalue⟩ := hbefore j _ hj hq
    exact ⟨value, (h.parsesAt_iff hnames hq).1 hvalue⟩

/-- With a directory that does not break off, each parameter comes to an end. -/
theorem exists_ends_of_calm {values : List (Except Failing ParameterEnd)}
    (h : SideBySide ((parameterLookups place parameters raw).map (·.run)) t values)
    (hcalm : ∀ x ∈ t, Query.IsCalm x.2) : ∃ ends : List ParameterEnd, values = ends.map .ok := by
  obtain ⟨hlength, -, hruns⟩ := Program.sideBySide_iff.1 h
  have hok : values ∈ Set.range (List.map (Except.ok (ε := Failing) (α := ParameterEnd))) := by
    rw [Set.range_list_map]
    intro r hr
    obtain ⟨i, hi⟩ := List.mem_iff_getElem?.1 hr
    obtain ⟨hlt, -⟩ := List.getElem?_eq_some_iff.1 hi
    have hprogram := List.getElem?_eq_getElem (hlength ▸ hlt)
    have hrun := hruns i _ r hprogram hi
    obtain ⟨p, hp, hrunp⟩ := List.mem_map.1 (List.mem_of_getElem? hprogram)
    rw [← hrunp] at hrun
    cases r with
    | ok e => exact ⟨e, rfl⟩
    | error f =>
      -- the parsing itself does not fail, so the directory would have broken off
      exfalso
      apply (unfailing_parameterLookups place parameters raw hp).of_calm hrun
      intro x hx
      exact hcalm _ (Program.mem_own.1 hx)
  obtain ⟨ends, hends⟩ := hok
  exact ⟨ends, hends.symm⟩

/-- What belongs to a parameter depends on its own raw argument and on what it is answered. -/
theorem ParsedTogether.independent (hnames : (parameters.map (·.name)).Nodup)
    (h : ParsedTogether place parameters raw t ends)
    (h' : ParsedTogether place parameters raw' t' ends') {answer : (q : Query) → q.Answer} {i : Nat}
    {p : Parameter} (hp : parameters[i]? = some p)
    (hraw : valueOf? p.name raw' = valueOf? p.name raw)
    (ht : ∀ x ∈ own i t, x.2 = answer x.1) (ht' : ∀ x ∈ own i t', x.2 = answer x.1) :
    own i t' = own i t ∧ ends'[i]? = ends[i]? := by
  obtain ⟨hlength, -, hparses⟩ := (parsedTogether_iff hnames).1 h
  obtain ⟨hlength', -, hparses'⟩ := (parsedTogether_iff hnames).1 h'
  obtain ⟨hi, -⟩ := List.getElem?_eq_some_iff.1 hp
  have he := List.getElem?_eq_getElem (hlength ▸ hi)
  have he' := List.getElem?_eq_getElem (hlength' ▸ hi)
  have hrun := Parameter.parses_iff.1 (hparses i p _ hp he)
  have hrun' := Parameter.parses_iff.1 (hparses' i p _ hp he')
  rw [hraw] at hrun'
  obtain ⟨hown, hend⟩ := Runs.unique hrun' hrun ht' ht
  rw [he, he', Except.ok.inj hend]
  exact ⟨hown, rfl⟩

/-- Raw arguments without a parameter do not matter. -/
theorem parameterLookups_congr (place : Place) (hnames : (parameters.map (·.name)).Nodup)
    (h : ∀ p ∈ parameters, valueOf? p.name raw' = valueOf? p.name raw) :
    parameterLookups place parameters raw' = parameterLookups place parameters raw := by
  apply List.ext_getElem?
  intro i
  rw [getElem?_parameterLookups place hnames, getElem?_parameterLookups place hnames]
  cases hp : parameters[i]? with
  | none => rfl
  | some p => rw [Option.map_some, Option.map_some, h p (List.mem_of_getElem? hp)]

/-- A platform whose directory does not break off parses the parameters side by side. -/
theorem exists_parsedTogether {σ : Type} (platform : Platform σ)
    (hcalm : ∀ q, Query.IsCalm ⟨q, (platform.answer q).2⟩) (place : Place)
    (parameters : List Parameter) (raw : List (String × RawArgument)) :
    ∃ t ends, ParsedTogether place parameters raw t ends ∧
      t.map (·.2) = (platform.gather (parameterLookups place parameters raw) none).questions.map
        (Timeline.answered platform.answer) ∧
      (platform.gather (parameterLookups place parameters raw) none).result = .ok (some ends) := by
  obtain ⟨t, ht, hquestions⟩ := Timeline.sideBySide_together platform.answer
    ((parameterLookups place parameters raw).map (·.run))
  have hcalm' : ∀ x ∈ t, Query.IsCalm x.2 := by
    intro x hx
    have hmem := List.mem_map_of_mem (f := (·.2)) hx
    rw [hquestions] at hmem
    obtain ⟨y, -, hy⟩ := List.mem_map.1 hmem
    rw [← hy]
    exact hcalm y.2
  obtain ⟨ends, hends⟩ := exists_ends_of_calm ht hcalm'
  rw [hends] at ht
  rw [List.map_map] at hends hquestions
  have hgather : platform.gather (parameterLookups place parameters raw) none = _ :=
    congrArg (Timeline.within none) (Timeline.gather_of_ok hends)
  rw [hgather]
  exact ⟨t, ends, ht, hquestions, rfl⟩

/-- Parameters of different names are parsed side by side, each once and by itself. There are
arguments if and only if each raw argument of a parameter is parsed and no parameter that is
required lacks one; they are then what has been parsed, and the defaults of what has been left out.
Otherwise the first failure in declaration order is the outcome, whatever becomes of later
parameters. What is asked for a parameter, and how it ends, depends neither on the raw arguments of
the others nor on how they end, and raw arguments without a parameter do not matter. -/
theorem parameters_parse_side_by_side (place : Place) {parameters : List Parameter}
    (hnames : (parameters.map (·.name)).Nodup) (raw : List (String × RawArgument)) :
    -- in any order of the questions, each parameter is parsed once, from its own raw argument
    (∀ t ends, ParsedTogether place parameters raw t ends ↔ ends.length = parameters.length ∧
      (∀ x ∈ t, x.1 < parameters.length) ∧
        ∀ (i : Nat) (p : Parameter) (e : ParameterEnd), parameters[i]? = some p →
          ends[i]? = some e → p.ParsesAt place raw t i e) ∧
    (∀ t ends, ParsedTogether place parameters raw t ends →
      ((∃ arguments, joinParameters parameters ends = .ok arguments) ↔
        ∀ (i : Nat) (p : Parameter), parameters[i]? = some p →
          ∃ value, p.ParsesAt place raw t i (.ok value)) ∧
      (∀ arguments, joinParameters parameters ends = .ok arguments →
        (arguments.map (·.1)).Sublist (parameters.map (·.name)) ∧
          ∀ (i : Nat) (p : Parameter), parameters[i]? = some p →
            p.ParsesAt place raw t i (.ok (valueOf? p.name arguments))) ∧
      ∀ outcome, joinParameters parameters ends = .error outcome ↔
        ∃ (i : Nat) (p : Parameter), parameters[i]? = some p ∧
          p.ParsesAt place raw t i (.error outcome) ∧
            ∀ (j : Nat) (q : Parameter), j < i → parameters[j]? = some q →
              ∃ value, q.ParsesAt place raw t j (.ok value)) ∧
    -- nothing passes from one parameter to another
    (∀ raw' t t' ends ends', ParsedTogether place parameters raw t ends →
      ParsedTogether place parameters raw' t' ends' →
        ∀ (i : Nat) (p : Parameter) (answer : (q : Query) → q.Answer), parameters[i]? = some p →
          valueOf? p.name raw' = valueOf? p.name raw → (∀ x ∈ own i t, x.2 = answer x.1) →
            (∀ x ∈ own i t', x.2 = answer x.1) → own i t' = own i t ∧ ends'[i]? = ends[i]?) ∧
    (∀ raw', (∀ p ∈ parameters, valueOf? p.name raw' = valueOf? p.name raw) →
      parameterLookups place parameters raw' = parameterLookups place parameters raw) ∧
    -- a directory that does not break off leads every parameter to an end
    (∀ t values, SideBySide ((parameterLookups place parameters raw).map (·.run)) t values →
      (∀ x ∈ t, Query.IsCalm x.2) → ∃ ends : List ParameterEnd, values = ends.map .ok) ∧
    ∀ {σ : Type} (platform : Platform σ), (∀ q, Query.IsCalm ⟨q, (platform.answer q).2⟩) →
      ∃ t ends, ParsedTogether place parameters raw t ends ∧
        t.map (·.2) = (platform.gather (parameterLookups place parameters raw) none).questions.map
          (Timeline.answered platform.answer) ∧
        (platform.gather (parameterLookups place parameters raw) none).result =
      .ok (some ends) := by
  refine ⟨?_, ?_, ?_, ?_, ?_, ?_⟩
  · intro t ends
    exact parsedTogether_iff hnames
  · intro t ends h
    refine ⟨h.joined_iff hnames, ?_, h.refused_iff hnames⟩
    intro arguments hjoin
    obtain ⟨hlength, -, -⟩ := (parsedTogether_iff hnames).1 h
    obtain ⟨hsub, hends⟩ := arguments_of_joinParameters hnames hlength hjoin
    refine ⟨hsub, ?_⟩
    intro i p hp
    exact (h.parsesAt_iff hnames hp).2 (hends i p hp)
  · intro raw' t t' ends ends' h h' i p answer hp hraw ht ht'
    exact h.independent hnames h' hp hraw ht ht'
  · intro raw' hraw
    exact parameterLookups_congr place hnames hraw
  · intro t values h hcalm
    exact exists_ends_of_calm h hcalm
  · intro σ platform hcalm
    exact exists_parsedTogether platform hcalm place parameters raw

/-- The outage of the directory at the first parameter is told, not the fault in the second one,
though the first one has been given last and behind something that is no parameter. -/
theorem outage_outranks_later_fault :
    let place : Place := ⟨none, ⟨2⟩⟩
    let parameters : List Parameter := [.ofRequired "who" .user,
      .ofRequired "count" (.integer none none []),
      (Parameter.ofOptional "limit" (.integer none none [])).withDefault (.integer 10)]
    let raw : List (String × RawArgument) :=
      [("shade", .text "red"), ("count", .text "many"), ("who", .text "<@3>")]
    let down : Outcome :=
      .ofCause ⟨"parsing parameter who",
        ["entity lookup failed: directory is down", "directory is down"]⟩
    (parameters.map (·.name)).Nodup ∧
      ∃ t ends, ParsedTogether place parameters raw t ends ∧
        joinParameters parameters ends = .error down := by
  intro place parameters raw down
  have hnames : (parameters.map (·.name)).Nodup := by decide
  obtain ⟨htogether, hjoined, -⟩ := parameters_parse_side_by_side place hnames raw
  let outage : Exchange Query Query.Answer :=
    ⟨.user ⟨3⟩, (.error (.error (.ofText "directory is down")) : Except Failing (Option User))⟩
  let ends : List ParameterEnd := [.error down,
    .error (.failure (.argumentInvalid "count" "Not a valid integer: many")),
    .ok (some (.integer 10))]
  have hfailed : Lookup.Ends (parseValue place .user (.text "<@3>")).run [outage]
      (.ok (.error (.lookup (.ofText "directory is down")))) := .ask (.done _)
  have hwho := Parameter.Parses.unresolved (p := .ofRequired "who" .user) hfailed
  have hcount : (Parameter.ofRequired "count" (.integer none none [])).Parses place
      (some (.text "many")) [] ends[1] := .invalid (.done _)
  have hparsed : ParsedTogether place parameters raw [(0, outage)] ends := by
    refine (htogether _ _).2 ⟨rfl, by simp [parameters], ?_⟩
    intro i p e hp he
    match i with
    | 0 =>
      obtain rfl := Option.some.inj hp
      obtain rfl := Option.some.inj he
      exact hwho
    | 1 =>
      obtain rfl := Option.some.inj hp
      obtain rfl := Option.some.inj he
      exact hcount
    | 2 =>
      obtain rfl := Option.some.inj hp
      obtain rfl := Option.some.inj he
      exact .omitted rfl
    | i + 3 => cases hp
  refine ⟨hnames, [(0, outage)], ends, hparsed, ?_⟩
  obtain ⟨-, -, hrefused⟩ := hjoined _ _ hparsed
  exact (hrefused down).2 ⟨0, _, rfl, hwho, by simp⟩

end All

end ChatCommands
