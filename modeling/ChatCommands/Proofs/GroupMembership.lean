import ChatCommands.Directory.Basic
import ChatCommands.Proofs.ValidationVerdict

set_option autoImplicit false

/-!
# Membership in groups

A group is a tree of rules. `Group.Holds` is its reading as a condition, in which the order of
members does not count, and `Group.Evaluates` is its evaluation from the left, which passes over the
members after the one that decides. The main statement is `membership_follows_tree`: the runs of a
membership are exactly the evaluations, with the lookups of the rules reached; a directory that
answers every rule gives the reading; and an overriding group is one more member.
-/

namespace ChatCommands

open Program (Exchange Runs)

/-! ## Lookups put to a directory -/

namespace Directory

variable {α β : Type} {d : Directory}

/-- The end of a lookup whose questions the directory answers. -/
def resolve (d : Directory) (p : Lookup α) : Except Failing α :=
  (p.run.runWith (fun q (_ : Unit) => (d q, ())) ()).1

theorem exists_ends (d : Directory) (p : Lookup α) :
    ∃ t, p.Ends t (d.resolve p) ∧ ∀ x ∈ t, x.2 = d x.1 := by
  obtain ⟨t, ht, hx⟩ := Program.runs_runWith (fun q (_ : Unit) => (d q, ())) p.run ()
  refine ⟨t, ht, fun x hmem => ?_⟩
  obtain ⟨-, hanswer⟩ := hx x hmem
  exact hanswer

/-- A run in which every answer is that of the directory ends as the directory says. -/
theorem resolve_of_ends {p : Lookup α} {t : List (Exchange Query Query.Answer)}
    {r : Except Failing α} (h : p.Ends t r) (hd : ∀ x ∈ t, x.2 = d x.1) : d.resolve p = r := by
  have hruns : ∀ (p : Program Query Query.Answer (Except Failing α)) t r, Runs p t r →
      (∀ x ∈ t, x.2 = d x.1) → (p.runWith (fun q (_ : Unit) => (d q, ())) ()).1 = r := by
    intro p t r h
    induction h with
    | done a => exact fun _ => rfl
    | @ask q k answer t a next ih =>
      intro hd
      obtain ⟨hq, hrest⟩ := List.forall_mem_cons.1 hd
      obtain rfl : answer = d q := hq
      exact ih hrest
  exact hruns p.run t r h hd

theorem resolve_bind (p : Lookup α) (f : α → Lookup β) :
    d.resolve (p >>= f) = (d.resolve p).bind fun a => d.resolve (f a) := by
  obtain ⟨t, ht, hd⟩ := d.exists_ends p
  cases hr : d.resolve p with
  | ok a =>
    rw [hr] at ht
    obtain ⟨u, hu, hd'⟩ := d.exists_ends (f a)
    refine resolve_of_ends (Lookup.ends_bind_iff.2 (Or.inl ⟨a, t, u, rfl, ht, hu⟩)) ?_
    intro x hx
    exact (List.mem_append.1 hx).elim (hd x) (hd' x)
  | error failing =>
    rw [hr] at ht
    exact resolve_of_ends (Lookup.ends_bind_iff.2 (Or.inr ⟨failing, rfl, ht⟩)) hd

theorem exists_of_resolve_answered {p : Lookup α} {f : α → β} {b : β}
    (h : d.resolve (do return f (← p)) = .ok b) : ∃ a, d.resolve p = .ok a ∧ f a = b := by
  rw [resolve_bind] at h
  cases hp : d.resolve p with
  | ok a =>
    rw [hp] at h
    exact ⟨a, rfl, Except.ok.inj h⟩
  | error failing =>
    rw [hp] at h
    cases h

end Directory

/-! ## Trees -/

namespace Group

/-- What holds of every rule, and of a composed group whenever it holds of its members,
holds of every group. -/
@[elab_as_elim]
theorem byMembers {motive : Group → Prop} (basic : ∀ name rule, motive (.basic name rule))
    (any : ∀ name members, (∀ g ∈ members, motive g) → motive (.any name members))
    (all : ∀ name members, (∀ g ∈ members, motive g) → motive (.all name members)) (g : Group) :
    motive g :=
  match g with
  | .basic name rule => basic name rule
  | .any name members => any name members fun g _ => byMembers basic any all g
  | .all name members => all name members fun g _ => byMembers basic any all g

/-- The rules of a group, from the left. -/
def leaves : Group → List Rule
  | .basic _ rule => [rule]
  | .any _ members => members.flatMap leaves
  | .all _ members => members.flatMap leaves

/-- The group read as a condition on what holds of its rules. -/
def Holds (leaf : Rule → Prop) : Group → Prop
  | .basic _ rule => leaf rule
  | .any _ members => ∃ g, ∃ _ : g ∈ members, g.Holds leaf
  | .all _ members => ∀ g, ∀ _ : g ∈ members, g.Holds leaf

/-- The members of some composed groups, at any depth, stand in another order. -/
inductive Permuted : Group → Group → Prop where
  | refl (g : Group) : Permuted g g
  | any {name : Option String} {members members' : List Group} (perm : members.Perm members') :
    Permuted (.any name members) (.any name members')
  | all {name : Option String} {members members' : List Group} (perm : members.Perm members') :
    Permuted (.all name members) (.all name members')
  | insideAny {name : Option String} {before after : List Group} {g g' : Group}
    (below : Permuted g g') :
    Permuted (.any name (before ++ g :: after)) (.any name (before ++ g' :: after))
  | insideAll {name : Option String} {before after : List Group} {g g' : Group}
    (below : Permuted g g') :
    Permuted (.all name (before ++ g :: after)) (.all name (before ++ g' :: after))
  | trans {g g' g'' : Group} (first : Permuted g g') (second : Permuted g' g'') : Permuted g g''

/-! ### Reading a tree -/

theorem holds_basic {leaf : Rule → Prop} {name : Option String} {rule : Rule} :
    (basic name rule).Holds leaf ↔ leaf rule := by
  rw [Holds]

theorem holds_any {leaf : Rule → Prop} {name : Option String} {members : List Group} :
    (any name members).Holds leaf ↔ ∃ g ∈ members, g.Holds leaf := by
  rw [Holds]
  simp only [exists_prop]

theorem holds_all {leaf : Rule → Prop} {name : Option String} {members : List Group} :
    (all name members).Holds leaf ↔ ∀ g ∈ members, g.Holds leaf := by
  rw [Holds]

namespace Permuted

variable {g g' : Group}

/-- The order of members does not count. -/
theorem holds_iff (h : Permuted g g') (leaf : Rule → Prop) : g'.Holds leaf ↔ g.Holds leaf := by
  induction h with
  | refl g => rfl
  | any perm => simp only [holds_any, perm.mem_iff]
  | all perm => simp only [holds_all, perm.mem_iff]
  | insideAny below ih =>
    simp only [holds_any, List.mem_append, List.mem_cons, or_and_right, exists_or, exists_eq_left,
      ih]
  | insideAll below ih => simp only [holds_all, List.forall_mem_append, List.forall_mem_cons, ih]
  | trans first second ih₁ ih₂ => exact ih₂.trans ih₁

theorem mem_leaves_iff (h : Permuted g g') (rule : Rule) : rule ∈ g'.leaves ↔ rule ∈ g.leaves := by
  induction h with
  | refl g => rfl
  | any perm => simp only [leaves, List.mem_flatMap, perm.mem_iff]
  | all perm => simp only [leaves, List.mem_flatMap, perm.mem_iff]
  | insideAny below ih | insideAll below ih =>
    simp only [leaves, List.flatMap_append, List.flatMap_cons, List.mem_append, ih]
  | trans first second ih₁ ih₂ => exact ih₂.trans ih₁

end Permuted

end Group

/-! ## Rules -/

/-- The rule holds for the caller at the place, according to the directory. -/
inductive Rule.Holds (d : Directory) (scope : AccessScope) : Rule → Prop where
  | everyone : Holds d scope .everyone
  | serverOwner {id : GuildId} {guild : Guild} (in_guild : scope.guild = some id)
      (found : d (.guild id) = .ok (some guild)) (owns : guild.owner = scope.caller.id) :
      Holds d scope .serverOwner
  | botOwner (owns : d .applicationOwner = .ok scope.caller.id) : Holds d scope .botOwner
  | users {ids : List UserId} (listed : scope.caller.id ∈ ids) : Holds d scope (.users ids)
  | hasRole {role : RoleId} {id : GuildId} {roles : List RoleId} (in_guild : scope.guild = some id)
      (found : d (.memberRoles id scope.caller.id) = .ok roles) (holds : role ∈ roles) :
      Holds d scope (.hasRole role)
  /-- A condition of another making holds when it ends so. -/
  | custom {belongs : AccessScope → Lookup Bool} (granted : d.resolve (belongs scope) = .ok true) :
      Holds d scope (.custom belongs)

section Answers

variable {d : Directory} {scope : AccessScope} {b : Bool}

/-- Outside of guilds nobody owns the guild, and no guild is looked up. -/
theorem Rule.holds_serverOwner_iff_of_resolve
    (h : d.resolve (serverOwner.belongs scope) = .ok b) : serverOwner.Holds d scope ↔ b = true := by
  rw [belongs] at h
  cases hplace : scope.guild with
  | none =>
    rw [hplace] at h
    obtain rfl : false = b := Except.ok.inj h
    refine iff_of_false ?_ Bool.false_ne_true
    intro hholds
    cases hholds with
    | serverOwner hguild => simp [hplace] at hguild
  | some id =>
    rw [hplace] at h
    obtain ⟨found, hfound, rfl⟩ := Directory.exists_of_resolve_answered h
    have hanswer : d (.guild id) = .ok found := hfound
    constructor
    · intro hholds
      cases hholds with
      | serverOwner hguild hfound' howns =>
        obtain rfl := Option.some.inj (hplace.symm.trans hguild)
        obtain rfl := Except.ok.inj (hanswer.symm.trans hfound')
        simp [howns]
    · intro hany
      cases found with
      | none => simp at hany
      | some guild => exact .serverOwner hplace hanswer (by simpa using hany)

theorem Rule.holds_botOwner_iff_of_resolve
    (h : d.resolve (botOwner.belongs scope) = .ok b) : botOwner.Holds d scope ↔ b = true := by
  obtain ⟨owner, howner, rfl⟩ := Directory.exists_of_resolve_answered h
  have hanswer : d .applicationOwner = .ok owner := howner
  rw [beq_iff_eq]
  constructor
  · intro hholds
    cases hholds with
    | botOwner howns => exact Except.ok.inj (hanswer.symm.trans howns)
  · rintro rfl
    exact .botOwner hanswer

theorem Rule.holds_users_iff_of_resolve {ids : List UserId}
    (h : d.resolve ((users ids).belongs scope) = .ok b) : (users ids).Holds d scope ↔ b = true := by
  obtain rfl : ids.contains scope.caller.id = b := Except.ok.inj h
  rw [List.contains_iff_mem]
  constructor
  · intro hholds
    cases hholds with
    | users hlisted => exact hlisted
  · exact .users

/-- Outside of guilds nobody has a role, and no roles are looked up. -/
theorem Rule.holds_hasRole_iff_of_resolve {role : RoleId}
    (h : d.resolve ((hasRole role).belongs scope) = .ok b) :
    (hasRole role).Holds d scope ↔ b = true := by
  rw [belongs] at h
  cases hplace : scope.guild with
  | none =>
    rw [hplace] at h
    obtain rfl : false = b := Except.ok.inj h
    refine iff_of_false ?_ Bool.false_ne_true
    intro hholds
    cases hholds with
    | hasRole hguild => simp [hplace] at hguild
  | some id =>
    rw [hplace] at h
    obtain ⟨roles, hroles, rfl⟩ := Directory.exists_of_resolve_answered h
    have hanswer : d (.memberRoles id scope.caller.id) = .ok roles := hroles
    rw [List.contains_iff_mem]
    constructor
    · intro hholds
      cases hholds with
      | hasRole hguild hfound hmem =>
        obtain rfl := Option.some.inj (hplace.symm.trans hguild)
        obtain rfl := Except.ok.inj (hanswer.symm.trans hfound)
        exact hmem
    · exact .hasRole hplace hanswer

/-- A condition of another making is answered as it ends. -/
theorem Rule.holds_custom_iff_of_resolve {belongs : AccessScope → Lookup Bool}
    (h : d.resolve (belongs scope) = .ok b) : (custom belongs).Holds d scope ↔ b = true := by
  constructor
  · intro hholds
    cases hholds with
    | custom hgranted => exact Except.ok.inj (h.symm.trans hgranted)
  · rintro rfl
    exact .custom h

/-- A rule that is answered is answered with whether it holds. -/
theorem Rule.holds_iff_of_resolve {rule : Rule} (h : d.resolve (rule.belongs scope) = .ok b) :
    rule.Holds d scope ↔ b = true := by
  cases rule with
  | everyone =>
    obtain rfl : true = b := Except.ok.inj h
    exact iff_of_true .everyone rfl
  | nobody =>
    obtain rfl : false = b := Except.ok.inj h
    exact iff_of_false nofun Bool.false_ne_true
  | serverOwner => exact holds_serverOwner_iff_of_resolve h
  | botOwner => exact holds_botOwner_iff_of_resolve h
  | users ids => exact holds_users_iff_of_resolve h
  | hasRole role => exact holds_hasRole_iff_of_resolve h
  | custom belongs => exact holds_custom_iff_of_resolve h

end Answers

/-! ## Evaluation from the left -/

/-- A rule that has been reached: the exchanges of its lookup and how it ended. -/
structure Visit where
  rule : Rule
  exchanges : List (Exchange Query Query.Answer)
  answer : Except Failing Bool

/-- The visit is a run of the lookup of its rule. -/
def Visit.IsRun (scope : AccessScope) (v : Visit) : Prop :=
  (v.rule.belongs scope).Ends v.exchanges v.answer

namespace Group

mutual

/-- The group is evaluated from the left with these visits to its rules, and ends so. -/
inductive Evaluates : Group → List Visit → Except Failing Bool → Prop where
  | basic {name : Option String} (v : Visit) : Evaluates (.basic name v.rule) [v] v.answer
  | any {name : Option String} {members : List Group} {visits : List Visit}
      {r : Except Failing Bool} (scan : Scans true members visits r) :
      Evaluates (.any name members) visits r
  | all {name : Option String} {members : List Group} {visits : List Visit}
      {r : Except Failing Bool} (scan : Scans false members visits r) :
      Evaluates (.all name members) visits r

/-- Members are evaluated in order, up to the first whose end decides: the decisive answer, or a
failure. Without such a member the other answer is given. -/
inductive Scans : Bool → List Group → List Visit → Except Failing Bool → Prop where
  | exhausted {decisive : Bool} : Scans decisive [] [] (.ok !decisive)
  | passed {decisive : Bool} {g : Group} {members : List Group} {visits later : List Visit}
      {r : Except Failing Bool} (other : Evaluates g visits (.ok !decisive))
      (rest : Scans decisive members later r) : Scans decisive (g :: members) (visits ++ later) r
  | decided {decisive : Bool} {g : Group} {members : List Group} {visits : List Visit}
      {r : Except Failing Bool} (ends : Evaluates g visits r) (decides : r ≠ .ok !decisive) :
      Scans decisive (g :: members) visits r

end

theorem evaluates_any_iff {name : Option String} {members : List Group} {visits : List Visit}
    {r : Except Failing Bool} :
    Evaluates (.any name members) visits r ↔ Scans true members visits r := by
  constructor
  · rintro ⟨⟩
    assumption
  · exact .any

theorem evaluates_all_iff {name : Option String} {members : List Group} {visits : List Visit}
    {r : Except Failing Bool} :
    Evaluates (.all name members) visits r ↔ Scans false members visits r := by
  constructor
  · rintro ⟨⟩
    assumption
  · exact .all

theorem scans_nil_iff {decisive : Bool} {visits : List Visit} {r : Except Failing Bool} :
    Scans decisive [] visits r ↔ visits = [] ∧ r = .ok !decisive := by
  constructor
  · intro h
    cases h
    exact ⟨rfl, rfl⟩
  · rintro ⟨rfl, rfl⟩
    exact .exhausted

theorem scans_cons_iff {decisive : Bool} {g : Group} {members : List Group} {visits : List Visit}
    {r : Except Failing Bool} :
    Scans decisive (g :: members) visits r ↔
      (∃ first later, visits = first ++ later ∧ Evaluates g first (.ok !decisive) ∧
        Scans decisive members later r) ∨
      (r ≠ .ok !decisive ∧ Evaluates g visits r) := by
  constructor
  · intro h
    cases h with
    | passed other rest => exact Or.inl ⟨_, _, rfl, other, rest⟩
    | decided ends decides => exact Or.inr ⟨decides, ends⟩
  · rintro (⟨first, later, rfl, other, rest⟩ | ⟨decides, ends⟩)
    · exact .passed other rest
    · exact .decided ends decides

/-- The exchanges are those of visits that are evaluated so, one after the other. -/
def AreOf (scope : AccessScope) (t : List (Exchange Query Query.Answer))
    (evaluated : List Visit → Prop) : Prop :=
  ∃ visits, evaluated visits ∧ (∀ v ∈ visits, v.IsRun scope) ∧ t = visits.flatMap (·.exchanges)

/-- A lookup that is decided by one answer of its first part, and otherwise goes on. -/
theorem ends_decisive_iff {decisive : Bool} {p q : Lookup Bool} {f : Bool → Lookup Bool}
    (hdecided : f decisive = pure decisive) (hpassed : f (!decisive) = q)
    {t : List (Exchange Query Query.Answer)} {r : Except Failing Bool} :
    (p >>= f).Ends t r ↔
      (∃ t₁ t₂, t = t₁ ++ t₂ ∧ p.Ends t₁ (.ok !decisive) ∧ q.Ends t₂ r) ∨
      (r ≠ .ok !decisive ∧ p.Ends t r) := by
  rw [Lookup.ends_bind_iff]
  constructor
  · rintro (⟨b, t₁, t₂, rfl, h₁, h₂⟩ | ⟨failing, rfl, h₁⟩)
    · obtain rfl | rfl : b = decisive ∨ b = !decisive := by
        cases b <;> cases decisive <;> simp
      · rw [hdecided] at h₂
        obtain ⟨rfl, rfl⟩ := Lookup.ends_pure_iff.1 h₂
        rw [List.append_nil]
        exact Or.inr ⟨by simp, h₁⟩
      · exact Or.inl ⟨t₁, t₂, rfl, h₁, hpassed ▸ h₂⟩
    · exact Or.inr ⟨by simp, h₁⟩
  · rintro (⟨t₁, t₂, rfl, h₁, h₂⟩ | ⟨hr, h₁⟩)
    · exact Or.inl ⟨!decisive, t₁, t₂, rfl, h₁, hpassed ▸ h₂⟩
    · rcases r with failing | b
      · exact Or.inr ⟨failing, rfl, h₁⟩
      · obtain rfl : b = decisive := by simpa using hr
        exact Or.inl ⟨b, t, [], by simp, h₁, hdecided ▸ Lookup.ends_pure_iff.2 ⟨rfl, rfl⟩⟩

/-- The runs of a scan are its evaluations, if this is so for its first member and
for the others. -/
theorem areOf_scans_cons_iff {scope : AccessScope} (decisive : Bool) {g : Group}
    {members : List Group} {p q : Lookup Bool} {f : Bool → Lookup Bool}
    (hdecided : f decisive = pure decisive) (hpassed : f (!decisive) = q)
    (hp : ∀ t r, p.Ends t r ↔ AreOf scope t (g.Evaluates · r))
    (hq : ∀ t r, q.Ends t r ↔ AreOf scope t (Scans decisive members · r))
    (t : List (Exchange Query Query.Answer)) (r : Except Failing Bool) :
    (p >>= f).Ends t r ↔ AreOf scope t (Scans decisive (g :: members) · r) := by
  rw [ends_decisive_iff hdecided hpassed]
  simp only [hp, hq, AreOf, scans_cons_iff]
  constructor
  · rintro (⟨_, _, rfl, ⟨first, hfirst, hruns, rfl⟩, later, hlater, hruns', rfl⟩ |
      ⟨hr, visits, hvisits, hruns, rfl⟩)
    · refine ⟨first ++ later, Or.inl ⟨first, later, rfl, hfirst, hlater⟩, ?_, ?_⟩
      · exact List.forall_mem_append.2 ⟨hruns, hruns'⟩
      · exact List.flatMap_append.symm
    · exact ⟨visits, Or.inr ⟨hr, hvisits⟩, hruns, rfl⟩
  · rintro ⟨_, ⟨first, later, rfl, hfirst, hlater⟩ | ⟨hr, hvisits⟩, hruns, rfl⟩
    · obtain ⟨hruns, hruns'⟩ := List.forall_mem_append.1 hruns
      exact Or.inl ⟨_, _, List.flatMap_append, ⟨first, hfirst, hruns, rfl⟩, later, hlater, hruns',
        rfl⟩
    · exact Or.inr ⟨hr, _, hvisits, hruns, rfl⟩

theorem areOf_scans_nil_iff {scope : AccessScope} (decisive : Bool) {p : Lookup Bool}
    (hp : p = pure !decisive) (t : List (Exchange Query Query.Answer)) (r : Except Failing Bool) :
    p.Ends t r ↔ AreOf scope t (Scans decisive [] · r) := by
  rw [hp, Lookup.ends_pure_iff]
  constructor
  · rintro ⟨rfl, rfl⟩
    exact ⟨[], .exhausted, by simp, rfl⟩
  · rintro ⟨visits, hscan, -, rfl⟩
    obtain ⟨rfl, rfl⟩ := scans_nil_iff.1 hscan
    exact ⟨rfl, rfl⟩

/-- The runs of a membership are the evaluations of the group, with the lookups of
the rules reached. -/
theorem ends_belongs_iff (scope : AccessScope) (g : Group) (t : List (Exchange Query Query.Answer))
    (r : Except Failing Bool) : (g.belongs scope).Ends t r ↔ AreOf scope t (g.Evaluates · r) := by
  induction g using byMembers generalizing t r with
  | basic name rule =>
    rw [belongs]
    constructor
    · intro h
      exact ⟨[⟨rule, t, r⟩], .basic ⟨rule, t, r⟩, by simpa [Visit.IsRun] using h, by simp⟩
    · rintro ⟨_, ⟨v⟩, hruns, rfl⟩
      simpa [Visit.IsRun] using hruns
  -- what is known of each member is carried along the list of members
  | any name members ih =>
    rw [belongs]
    simp only [evaluates_any_iff]
    induction members generalizing t r with
    | nil => exact areOf_scans_nil_iff true rfl t r
    | cons g members ihMembers =>
      rw [anyBelongs]
      refine areOf_scans_cons_iff true ?_ ?_ (ih g List.mem_cons_self)
        (ihMembers fun g hg => ih g (List.mem_cons_of_mem _ hg)) t r
      · rfl
      · rfl
  | all name members ih =>
    rw [belongs]
    simp only [evaluates_all_iff]
    induction members generalizing t r with
    | nil => exact areOf_scans_nil_iff false rfl t r
    | cons g members ihMembers =>
      rw [allBelong]
      refine areOf_scans_cons_iff false ?_ ?_ (ih g List.mem_cons_self)
        (ihMembers fun g hg => ih g (List.mem_cons_of_mem _ hg)) t r
      · rfl
      · rfl

/-! ### What an evaluation tells -/

/-- Every rule reached was answered, or the last one failed and the evaluation with it. -/
inductive StopsAtFailure : List Visit → Except Failing Bool → Prop where
  | answered {visits : List Visit} {b : Bool} (all_answered : ∀ v ∈ visits, ∃ c, v.answer = .ok c) :
      StopsAtFailure visits (.ok b)
  | failed {earlier : List Visit} {last : Visit} {f : Failing}
      (all_answered : ∀ v ∈ earlier, ∃ c, v.answer = .ok c) (fails : last.answer = .error f) :
      StopsAtFailure (earlier ++ [last]) (.error f)

theorem StopsAtFailure.append {first later : List Visit} {b : Bool} {r : Except Failing Bool}
    (hfirst : StopsAtFailure first (.ok b)) (hlater : StopsAtFailure later r) :
    StopsAtFailure (first ++ later) r := by
  obtain ⟨hall⟩ := hfirst
  cases hlater with
  | answered hall' => exact .answered (List.forall_mem_append.2 ⟨hall, hall'⟩)
  | failed hall' hfails =>
    rw [← List.append_assoc]
    exact .failed (List.forall_mem_append.2 ⟨hall, hall'⟩) hfails

/-- An evaluation fails iff a rule reached failed, and as this rule did. -/
theorem StopsAtFailure.error_iff {visits : List Visit} {r : Except Failing Bool}
    (h : StopsAtFailure visits r) (f : Failing) :
    r = .error f ↔ ∃ v ∈ visits, v.answer = .error f := by
  have hno {earlier : List Visit} (hall : ∀ v ∈ earlier, ∃ c, v.answer = .ok c) :
      ¬ ∃ v ∈ earlier, v.answer = .error f := by
    rintro ⟨v, hv, hf⟩
    obtain ⟨c, hc⟩ := hall v hv
    cases hc.symm.trans hf
  cases h with
  | answered hall => exact iff_of_false nofun (hno hall)
  | failed hall hfails =>
    simp only [List.mem_append, List.mem_singleton, or_and_right, exists_or, exists_eq_left,
      hno hall, false_or, hfails]

/-- The answers that the visits got are those of a reading of the rules. -/
def AgreesWith (leaf : Rule → Prop) (visits : List Visit) : Prop :=
  ∀ v ∈ visits, ∀ c, v.answer = .ok c → (leaf v.rule ↔ c = true)

/-- What is told of an evaluation of rules that stand in this order, with an answer that says
this of their reading. -/
structure Tells (leaves : List Rule) (meaning : (Rule → Prop) → Bool → Prop) (visits : List Visit)
    (r : Except Failing Bool) : Prop where
  in_order : (visits.map (·.rule)).Sublist leaves
  stops : StopsAtFailure visits r
  /-- An answer is that of every reading that agrees with the visits, whatever the
  other rules are. -/
  decided : ∀ leaf b, AgreesWith leaf visits → r = .ok b → meaning leaf b

theorem Scans.tells {decisive : Bool} {members : List Group}
    (ih : ∀ g ∈ members, ∀ visits r, g.Evaluates visits r →
      Tells g.leaves (fun leaf b => g.Holds leaf ↔ b = true) visits r)
    {visits : List Visit} {r : Except Failing Bool} (h : Scans decisive members visits r) :
    Tells (members.flatMap leaves)
      (fun leaf b => (∃ g ∈ members, (g.Holds leaf ↔ decisive = true)) ↔ b = decisive)
      visits r := by
  induction members generalizing visits with
  | nil =>
    obtain ⟨rfl, rfl⟩ := scans_nil_iff.1 h
    refine ⟨List.nil_sublist _, .answered (by simp), ?_⟩
    intro leaf b _ hb
    obtain rfl := Except.ok.inj hb
    simp
  | cons g members ihMembers =>
    rw [List.flatMap_cons]
    rcases scans_cons_iff.1 h with ⟨first, later, rfl, hfirst, hlater⟩ | ⟨hr, hfirst⟩
    · have htells := ih g List.mem_cons_self _ _ hfirst
      have hrest := ihMembers (fun g hg => ih g (List.mem_cons_of_mem _ hg)) hlater
      refine ⟨?_, htells.stops.append hrest.stops, ?_⟩
      · rw [List.map_append]
        exact htells.in_order.append hrest.in_order
      · intro leaf b hagrees hb
        obtain ⟨hagrees, hagrees'⟩ := List.forall_mem_append.1 hagrees
        have hg := htells.decided leaf _ hagrees rfl
        have hothers := hrest.decided leaf b hagrees' hb
        rw [← hothers]
        -- the first member does not decide
        simp [hg]
    · have htells := ih g List.mem_cons_self _ _ hfirst
      refine ⟨htells.in_order.trans (List.sublist_append_left _ _), htells.stops, ?_⟩
      rintro leaf b hagrees rfl
      obtain rfl : b = decisive := by simpa using hr
      have hg := htells.decided leaf b hagrees rfl
      simp [hg]

theorem Evaluates.tells (g : Group) {visits : List Visit} {r : Except Failing Bool}
    (h : g.Evaluates visits r) :
    Tells g.leaves (fun leaf b => g.Holds leaf ↔ b = true) visits r := by
  induction g using byMembers generalizing visits r with
  | basic name rule =>
    obtain ⟨v⟩ := h
    refine ⟨by simp [leaves], ?_, ?_⟩
    · cases hv : v.answer with
      | ok b => exact .answered (by simp [hv])
      | error f =>
        have hfails : StopsAtFailure ([] ++ [v]) (.error f) := .failed (by simp) hv
        exact hfails
    · intro leaf b hagrees hb
      rw [holds_basic]
      exact hagrees v (List.mem_singleton_self v) b hb
  | any name members ih =>
    have htells := Scans.tells (fun g hg visits r => ih g hg) (evaluates_any_iff.1 h)
    refine ⟨by simpa [leaves] using htells.in_order, htells.stops, ?_⟩
    intro leaf b hagrees hb
    simpa [holds_any] using htells.decided leaf b hagrees hb
  | all name members ih =>
    have htells := Scans.tells (fun g hg visits r => ih g hg) (evaluates_all_iff.1 h)
    refine ⟨by simpa [leaves] using htells.in_order, htells.stops, ?_⟩
    intro leaf b hagrees hb
    have hdecided := htells.decided leaf b hagrees hb
    simp only [Bool.false_eq_true, iff_false] at hdecided
    rw [holds_all, ← Bool.not_eq_false, ← hdecided]
    simp only [not_exists, not_and, not_not]

/-- A directory that answers every rule of a group answers the group, with whether it holds. -/
theorem exists_resolve_belongs {d : Directory} {scope : AccessScope} (g : Group)
    (hanswered : ∀ rule ∈ g.leaves, ∃ b, d.resolve (rule.belongs scope) = .ok b) :
    ∃ b, d.resolve (g.belongs scope) = .ok b ∧ (b = true ↔ g.Holds (Rule.Holds d scope)) := by
  obtain ⟨t, hends, hd⟩ := d.exists_ends (g.belongs scope)
  obtain ⟨visits, hvisits, hruns, rfl⟩ := (ends_belongs_iff scope g t _).1 hends
  have htells := hvisits.tells
  -- each rule reached ended as the directory says
  have hresolved : ∀ v ∈ visits, d.resolve (v.rule.belongs scope) = v.answer := by
    intro v hv
    refine Directory.resolve_of_ends (hruns v hv) fun x hx => hd x ?_
    exact List.mem_flatMap.2 ⟨v, hv, hx⟩
  have hreached : ∀ v ∈ visits, ∃ b, v.answer = .ok b := by
    intro v hv
    rw [← hresolved v hv]
    exact hanswered v.rule (htells.in_order.subset (List.mem_map_of_mem hv))
  cases hresult : d.resolve (g.belongs scope) with
  | error f =>
    obtain ⟨v, hv, hf⟩ := (htells.stops.error_iff f).1 hresult
    obtain ⟨c, hc⟩ := hreached v hv
    cases hc.symm.trans hf
  | ok b =>
    refine ⟨b, rfl, Iff.symm (htells.decided _ b ?_ hresult)⟩
    intro v hv c hc
    exact Rule.holds_iff_of_resolve ((hresolved v hv).trans hc)

end Group

/-- The access under an overriding group is membership in one of the two groups, as one program. -/
theorem AccessPolicy.hasAccess_overridable (g override : Group) (name : Option String)
    (scope : AccessScope) :
    (overridable override).hasAccess g scope = basic.hasAccess (.any name [g, override]) scope := by
  -- the last member of a list is asked for its own answer
  have hlast : (do if ← override.belongs scope then return true else return false : Lookup Bool) =
      override.belongs scope := by
    refine Eq.trans ?_ (bind_pure (override.belongs scope))
    congr 1
    funext b
    cases b <;> rfl
  simp only [hasAccess, Group.belongs, Group.anyBelongs, hlast]

/-- Membership in a group means what its tree says. Its runs are the evaluations of the group
from the left, with exactly the lookups of the rules reached, in order. An evaluation fails
iff it reaches a rule that fails, and stops there; its answer is that of the group read as a
condition, whatever the rules hold that were not reached. If a directory answers every rule,
it answers the group, with whether it holds, in whatever order members stand. An overriding
group is one more member. -/
theorem membership_follows_tree (g : Group) (scope : AccessScope) :
    (∀ t r, (g.belongs scope).Ends t r ↔
      ∃ visits, g.Evaluates visits r ∧ (∀ v ∈ visits, v.IsRun scope) ∧
        t = visits.flatMap (·.exchanges)) ∧
    (∀ visits r, g.Evaluates visits r →
      (visits.map (·.rule)).Sublist g.leaves ∧ Group.StopsAtFailure visits r ∧
        (∀ f, r = .error f ↔ ∃ v ∈ visits, v.answer = .error f) ∧
        ∀ leaf b, Group.AgreesWith leaf visits → r = .ok b → (g.Holds leaf ↔ b = true)) ∧
    (∀ d : Directory, (∀ rule ∈ g.leaves, ∃ b, d.resolve (rule.belongs scope) = .ok b) →
      ∃ b, d.resolve (g.belongs scope) = .ok b ∧ (b = true ↔ g.Holds (Rule.Holds d scope)) ∧
        ∀ g', g.Permuted g' → d.resolve (g'.belongs scope) = .ok b) ∧
    ∀ override name, (AccessPolicy.overridable override).hasAccess g scope =
      AccessPolicy.basic.hasAccess (.any name [g, override]) scope := by
  refine ⟨g.ends_belongs_iff scope, ?_, ?_, ?_⟩
  · intro visits r h
    have htells := h.tells
    exact ⟨htells.in_order, htells.stops, htells.stops.error_iff, htells.decided⟩
  · intro d hanswered
    obtain ⟨b, hb, hholds⟩ := g.exists_resolve_belongs hanswered
    refine ⟨b, hb, hholds, ?_⟩
    intro g' hperm
    have hanswered' : ∀ rule ∈ g'.leaves, ∃ b, d.resolve (rule.belongs scope) = .ok b :=
      fun rule hrule => hanswered rule ((hperm.mem_leaves_iff rule).1 hrule)
    obtain ⟨b', hb', hholds'⟩ := g'.exists_resolve_belongs hanswered'
    rw [hperm.holds_iff, ← hholds] at hholds'
    rw [hb', Bool.eq_iff_iff.2 hholds']
  · intro override name
    exact AccessPolicy.hasAccess_overridable g override name scope

/-- A directory with one guild, one member of which holds a role; the owner of the
application is not known. -/
def smallDirectory : Directory :=
  .ofRoster none { guilds := [⟨⟨1⟩, "home", ⟨3⟩⟩], members := [⟨⟨1⟩, ⟨4⟩, [⟨7⟩]⟩] }

/-- This member, in the guild. -/
def memberScope : AccessScope := ⟨some ⟨1⟩, ⟨2⟩, ⟨⟨4⟩, "bob", false⟩⟩

/-- Those who hold the role. -/
def roleGroup : Group := .basic none (.hasRole ⟨7⟩)

/-- The member holds the role and so belongs to the staff, in either order of the groups.
Asked for the owner of the application first, the directory fails, and the group of
everyone is not reached. -/
theorem member_is_staff :
    let staff : Group := .any none [.serverOwner, .all none [roleGroup, .everyone]]
    let turned : Group := .any none [.all none [.everyone, roleGroup], .serverOwner]
    let unknown : Failing := .error (.ofText "application owner is not configured")
    let visit : Visit :=
      ⟨.botOwner, [⟨.applicationOwner, (.error unknown : Except Failing UserId)⟩], .error unknown⟩
    (∀ rule ∈ staff.leaves, ∃ b, smallDirectory.resolve (rule.belongs memberScope) = .ok b) ∧
      staff.Permuted turned ∧
      smallDirectory.resolve (staff.belongs memberScope) = .ok true ∧
      staff.Holds (Rule.Holds smallDirectory memberScope) ∧
      smallDirectory.resolve (turned.belongs memberScope) = .ok true ∧
      Group.Evaluates (.any none [.botOwner, .everyone]) [visit] (.error unknown) ∧
      Group.StopsAtFailure [visit] (.error unknown) := by
  intro staff turned unknown visit
  have hanswered : ∀ rule ∈ staff.leaves,
      ∃ b, smallDirectory.resolve (rule.belongs memberScope) = .ok b := by
    simp only [staff, roleGroup, Group.leaves, Group.serverOwner, Group.everyone,
      List.flatMap_cons, List.flatMap_nil, List.append_nil, List.forall_mem_append,
      List.forall_mem_singleton]
    exact ⟨⟨false, rfl⟩, ⟨true, rfl⟩, true, rfl⟩
  have hinside : Group.Permuted
      (.any none ([] ++ .all none [roleGroup, .everyone] :: [.serverOwner])) turned :=
    .insideAny (.all (.swap _ _ []))
  have hperm : staff.Permuted turned := .trans (.any (.swap _ _ [])) hinside
  have hevaluates : Group.Evaluates (.any none [.botOwner, .everyone]) [visit] (.error unknown) :=
    .any (.decided (.basic visit) (by simp))
  obtain ⟨b, hb, hholds, hturned⟩ :=
    (membership_follows_tree staff memberScope).2.2.1 smallDirectory hanswered
  have hstaff : smallDirectory.resolve (staff.belongs memberScope) = .ok true := rfl
  obtain rfl : true = b := Except.ok.inj (hstaff.symm.trans hb)
  exact ⟨hanswered, hperm, hstaff, hholds.1 rfl, hturned turned hperm, hevaluates,
    ((membership_follows_tree _ memberScope).2.1 _ _ hevaluates).2.1⟩

end ChatCommands
