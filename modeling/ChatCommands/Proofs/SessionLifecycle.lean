import ChatCommands.Proofs.Clearance
import ChatCommands.Proofs.ReplyChains

set_option autoImplicit false

/-!
# The life of a session

A context is used by calls in any order: it is initialized, its arguments are loaded, perhaps by a
load that is given up, replies are sent, and values are stored and read. A `Use` is one call as it
ran, a `Lifecycle` a sequence of uses from the fresh session on. What a single call can do is said
once, by `Does`; from it follows, for every lifecycle, the `LifecycleLaw`: nothing works before
initialization, access is opened once, and the arguments are loaded once (`law_of_lifecycle`).
-/

namespace ChatCommands

open Program (Exchange Runs)
open Interaction

namespace Context

/-! ## Calls and uses -/

/-- A call of a context. -/
inductive Call where
  | begin
  /-- A load, given up after a number of milliseconds when a limit is set. -/
  | load (limit : Option Nat)
  | replyManager
  | replaceReplyManager (c : ReplyChain)
  | reply (spec : ReplySpec)
  | accessValidator
  | hasAccess (group : Group)
  | setContext (key : String) (value : StoredValue) (replace : Bool)
  | argument (name : String)

/-- What a call answers. -/
inductive Answer where
  | done
  | loadEnd (e : LoadEnd)
  | manager (c : ReplyChain)
  | sent (reply : SentReply)
  | validator (decides : Group → Lookup Bool)
  | granted (access : Bool)
  | stored (new : Bool)
  | argument (value : Option Argument)

/-- The act of a call. -/
def Call.perform (ctx : Context) : Call → Act Answer
  | .begin => do
    ctx.begin
    return .done
  | .load limit => return .loadEnd (← ctx.load limit)
  | .replyManager => return .manager (← replyChain)
  | .replaceReplyManager c => return .manager (← replaceReplyChain c)
  | .reply spec => return .sent (← Context.reply spec)
  | .accessValidator => return .validator (← ctx.accessValidator)
  | .hasAccess group => return .granted (← ctx.hasAccess group)
  | .setContext key value replace => do
    let (new, s) := (← Act.session).setStored key value replace
    Act.setSession s
    return .stored new
  | .argument name => return .argument ((← Act.session).argument? name)

/-- A call as it ran, between two sessions. -/
structure Use where
  before : Session
  call : Call
  exchanges : List (Exchange Request Request.Answer)
  ended : Except Failing Answer
  after : Session

/-- The uses of a context from the fresh session on, and the session after them. -/
inductive Lifecycle (ctx : Context) : List Use → Session → Prop where
  | fresh : Lifecycle ctx [] .fresh
  | use {h : List Use} {x : Use} (past : Lifecycle ctx h x.before)
      (ran : Ends (x.call.perform ctx) x.before x.exchanges x.ended x.after) :
      Lifecycle ctx (h ++ [x]) x.after

variable {ctx : Context} {s s' : Session} {t : List (Exchange Request Request.Answer)}

/-! ## What a call can do -/

/-- The call fails before initialization. -/
def Call.needsInitialization : Call → Bool
  | .begin => false
  | .setContext _ _ _ => false
  | .argument _ => false
  | _ => true

/-- How a call fails before initialization. -/
def Call.refusal : Call → Except Failing Answer
  | .load _ => .ok (.loadEnd .notInitialized)
  | _ => .error (.error notInitialized)

/-- The chain of replies that an initialization starts. -/
def firstChain (ctx : Context) : ReplyChain :=
  .start ctx.event.channel ctx.event.caller.id ctx.event.message?

/-- What a call can do in a session: its exchanges, how it ends, and the session it leaves. -/
inductive Does (ctx : Context) (s : Session) :
    Call → List (Exchange Request Request.Answer) → Except Failing Answer → Session → Prop where
  | initializes (uninitialized : s.isInitialized = false) :
      Does ctx s .begin
        [⟨.openAccess ctx.event.guild ctx.event.channel ctx.event.caller.id, ()⟩] (.ok .done)
        { s with replies := some ctx.firstChain }
  | initialized (initialized : s.isInitialized = true) : Does ctx s .begin [] (.ok .done) s
  | refused {call : Call} (needed : call.needsInitialization = true)
      (uninitialized : s.isInitialized = false) : Does ctx s call [] call.refusal s
  | loads {limit : Option Nat} {t : List (Exchange Request Request.Answer)}
      {r : Except Failing LoadEnd} {s' : Session} (initialized : s.isInitialized = true)
      (runs : ctx.Loads limit s t r s') : Does ctx s (.load limit) t (r.map .loadEnd) s'
  | finds_manager {c : ReplyChain} (held : s.replies = some c) :
      Does ctx s .replyManager [] (.ok (.manager c)) s
  | replaces {c c' : ReplyChain} (held : s.replies = some c) :
      Does ctx s (.replaceReplyManager c') [] (.ok (.manager c)) { s with replies := some c' }
  | replies {spec : ReplySpec} {c c' : ReplyChain} {t : List (Exchange Request Request.Answer)}
      {sent : Except Cause SentReply} (held : s.replies = some c)
      (runs : Runs (c.add spec) t (sent, c')) :
      Does ctx s (.reply spec) t ((sent.mapError .error).map .sent) { s with replies := some c' }
  | finds_validator (initialized : s.isInitialized = true) :
      Does ctx s .accessValidator []
        (.ok (.validator fun group => ctx.policy.hasAccess group ctx.scope)) s
  | decides {group : Group} {t : List (Exchange Query Query.Answer)} {r : Except Failing Bool}
      (initialized : s.isInitialized = true)
      (runs : (ctx.policy.hasAccess group ctx.scope).Ends t r) :
      Does ctx s (.hasAccess group) (t.map Act.lookedUp) (r.map .granted) s
  | stores {key : String} {value : StoredValue} {replace : Bool} :
      Does ctx s (.setContext key value replace) []
        (.ok (.stored (s.setStored key value replace).1)) (s.setStored key value replace).2
  | finds_argument {name : String} :
      Does ctx s (.argument name) [] (.ok (.argument (s.argument? name))) s

theorem isInitialized_of_replies {c : ReplyChain} (h : s.replies = some c) :
    s.isInitialized = true := by
  rw [Session.isInitialized, h, Option.isSome_some]

theorem ends_replyChain_of_some {c : ReplyChain} (hc : s.replies = some c)
    {r : Except Failing ReplyChain} :
    Ends replyChain s t r s' ↔ t = [] ∧ r = .ok c ∧ s' = s := by
  rw [replyChain, Act.ends_session_bind_iff, hc]
  exact ends_pure_iff

theorem ends_replyChain_of_none (hnone : s.replies = none) {r : Except Failing ReplyChain} :
    Ends replyChain s t r s' ↔ t = [] ∧ r = .error (.error notInitialized) ∧ s' = s := by
  rw [replyChain, Act.ends_session_bind_iff, hnone]
  exact Act.ends_fail_iff

/-- An act that begins with the chain of replies fails where there is none. -/
theorem ends_replyChain_bind_of_none {α : Type} {f : ReplyChain → Act α} (hnone : s.replies = none)
    {r : Except Failing α} (h : Ends (replyChain >>= f) s t r s') :
    t = [] ∧ r = .error (.error notInitialized) ∧ s' = s := by
  rcases ends_bind_iff.1 h with ⟨c, s₁, t₁, t₂, rfl, hchain, -⟩ | ⟨f, rfl, hchain⟩
  · obtain ⟨-, hr, -⟩ := (ends_replyChain_of_none hnone).1 hchain
    simp at hr
  · obtain ⟨rfl, hr, rfl⟩ := (ends_replyChain_of_none hnone).1 hchain
    obtain rfl := Except.error.inj hr
    exact ⟨rfl, rfl, rfl⟩

/-- An act that begins with the chain of replies goes on with it where there is one. -/
theorem ends_replyChain_bind_of_some {α : Type} {f : ReplyChain → Act α} {c : ReplyChain}
    (hc : s.replies = some c) {r : Except Failing α} (h : Ends (replyChain >>= f) s t r s') :
    Ends (f c) s t r s' := by
  rcases ends_bind_iff.1 h with ⟨c', s₁, t₁, t₂, rfl, hchain, hrest⟩ | ⟨f, rfl, hchain⟩
  · obtain ⟨rfl, hr, rfl⟩ := (ends_replyChain_of_some hc).1 hchain
    obtain rfl := Except.ok.inj hr
    exact hrest
  · obtain ⟨-, hr, -⟩ := (ends_replyChain_of_some hc).1 hchain
    simp at hr

/-- Access is decided by what decides about it. -/
theorem hasAccess_eq (ctx : Context) (group : Group) :
    ctx.hasAccess group = (do Act.lookup ((← ctx.accessValidator) group)) := by
  rw [hasAccess, accessValidator, bind_assoc]
  congr 1
  funext s
  split
  · rw [pure_bind]
  · rfl

theorem ends_accessValidator_of_initialized (hs : s.isInitialized = true)
    {r : Except Failing (Group → Lookup Bool)} :
    Ends ctx.accessValidator s t r s' ↔
      t = [] ∧ r = .ok (fun group => ctx.policy.hasAccess group ctx.scope) ∧ s' = s := by
  rw [accessValidator, Act.ends_session_bind_iff, if_pos hs]
  exact ends_pure_iff

theorem ends_accessValidator_of_uninitialized (hs : s.isInitialized = false)
    {r : Except Failing (Group → Lookup Bool)} :
    Ends ctx.accessValidator s t r s' ↔
      t = [] ∧ r = .error (.error notInitialized) ∧ s' = s := by
  rw [accessValidator, Act.ends_session_bind_iff, if_neg (by simp [hs])]
  exact Act.ends_fail_iff

theorem does_begin {r : Except Failing Answer}
    (h : Ends (Call.perform ctx .begin) s t r s') : Does ctx s .begin t r s' := by
  obtain ⟨r₀, hbegin, rfl⟩ := ends_map_iff.1 h
  rw [begin, Act.ends_session_bind_iff] at hbegin
  cases hs : s.isInitialized with
  | true =>
    rw [if_pos hs] at hbegin
    obtain ⟨rfl, rfl, rfl⟩ := ends_pure_iff.1 hbegin
    exact .initialized hs
  | false =>
    rw [if_neg (by simp [hs])] at hbegin
    obtain ⟨a, t', rfl, hset⟩ := Act.ends_request_bind_iff.1 hbegin
    obtain ⟨rfl, rfl, rfl⟩ := Act.ends_setSession_iff.1 hset
    exact .initializes hs

theorem does_load {limit : Option Nat} {r : Except Failing Answer}
    (h : Ends (Call.perform ctx (.load limit)) s t r s') : Does ctx s (.load limit) t r s' := by
  obtain ⟨r₀, hload, rfl⟩ := ends_map_iff.1 h
  have hloads := ends_load_iff.1 hload
  cases hs : s.isInitialized with
  | true => exact .loads hs hloads
  | false =>
    cases hloads with
    | refused => exact .refused rfl hs
    | again hinitialized | finished hinitialized | cancelled hinitialized | broken hinitialized =>
      simp [hs] at hinitialized

theorem does_accessValidator {r : Except Failing Answer}
    (h : Ends (Call.perform ctx .accessValidator) s t r s') :
    Does ctx s .accessValidator t r s' := by
  obtain ⟨r₀, hvalidator, rfl⟩ := ends_map_iff.1 h
  cases hs : s.isInitialized with
  | true =>
    obtain ⟨rfl, rfl, rfl⟩ := (ends_accessValidator_of_initialized hs).1 hvalidator
    exact .finds_validator hs
  | false =>
    obtain ⟨rfl, rfl, rfl⟩ := (ends_accessValidator_of_uninitialized hs).1 hvalidator
    exact .refused rfl hs

theorem does_hasAccess {group : Group} {r : Except Failing Answer}
    (h : Ends (Call.perform ctx (.hasAccess group)) s t r s') :
    Does ctx s (.hasAccess group) t r s' := by
  obtain ⟨r₀, haccess, rfl⟩ := ends_map_iff.1 h
  rw [hasAccess_eq] at haccess
  cases hs : s.isInitialized with
  | true =>
    rcases ends_bind_iff.1 haccess with
      ⟨v, s₁, t₁, t₂, rfl, hvalidator, hlookup⟩ | ⟨f, -, hvalidator⟩
    · obtain ⟨rfl, hv, rfl⟩ := (ends_accessValidator_of_initialized hs).1 hvalidator
      obtain rfl := Except.ok.inj hv
      obtain ⟨⟨part, rfl, hpart⟩, rfl⟩ := Act.ends_lookup_iff.1 hlookup
      exact .decides hs hpart
    · obtain ⟨-, hr, -⟩ := (ends_accessValidator_of_initialized hs).1 hvalidator
      simp at hr
  | false =>
    rcases ends_bind_iff.1 haccess with ⟨v, s₁, t₁, t₂, rfl, hvalidator, -⟩ | ⟨f, rfl, hvalidator⟩
    · obtain ⟨-, hr, -⟩ := (ends_accessValidator_of_uninitialized hs).1 hvalidator
      simp at hr
    · obtain ⟨rfl, hr, rfl⟩ := (ends_accessValidator_of_uninitialized hs).1 hvalidator
      obtain rfl := Except.error.inj hr
      exact .refused rfl hs

/-- A call of the chain of replies is refused where there is none. -/
theorem does_refused_of_none {call : Call} {α : Type} {p : ReplyChain → Act α} {f : α → Answer}
    (hperform : call.perform ctx = (do return f (← replyChain >>= p)))
    (hneeded : call.needsInitialization = true)
    (hrefusal : call.refusal = .error (.error notInitialized)) (hnone : s.replies = none)
    {r : Except Failing Answer} (h : Ends (call.perform ctx) s t r s') :
    Does ctx s call t r s' := by
  rw [hperform] at h
  obtain ⟨r₀, hcall, rfl⟩ := ends_map_iff.1 h
  obtain ⟨rfl, rfl, rfl⟩ := ends_replyChain_bind_of_none hnone hcall
  have huninitialized : s'.isInitialized = false := by
    rw [Session.isInitialized, hnone, Option.isSome_none]
  have hdoes : Does ctx s' call [] call.refusal s' := .refused hneeded huninitialized
  rw [hrefusal] at hdoes
  exact hdoes

theorem does_replyManager {r : Except Failing Answer}
    (h : Ends (Call.perform ctx .replyManager) s t r s') : Does ctx s .replyManager t r s' := by
  cases hc : s.replies with
  | none =>
    refine does_refused_of_none (p := pure) (f := .manager) ?_ rfl rfl hc h
    rw [bind_pure]
    rfl
  | some c =>
    obtain ⟨r₀, hmanager, rfl⟩ := ends_map_iff.1 h
    obtain ⟨rfl, rfl, rfl⟩ := (ends_replyChain_of_some hc).1 hmanager
    exact .finds_manager hc

theorem does_replaceReplyManager {c' : ReplyChain} {r : Except Failing Answer}
    (h : Ends (Call.perform ctx (.replaceReplyManager c')) s t r s') :
    Does ctx s (.replaceReplyManager c') t r s' := by
  cases hc : s.replies with
  | none => exact does_refused_of_none rfl rfl rfl hc h
  | some c =>
    obtain ⟨r₀, hreplace, rfl⟩ := ends_map_iff.1 h
    have hrest := ends_replyChain_bind_of_some hc hreplace
    rw [Act.ends_session_bind_iff, Act.ends_setSession_bind_iff] at hrest
    obtain ⟨rfl, rfl, rfl⟩ := ends_pure_iff.1 hrest
    exact .replaces hc

theorem does_reply {spec : ReplySpec} {r : Except Failing Answer}
    (h : Ends (Call.perform ctx (.reply spec)) s t r s') : Does ctx s (.reply spec) t r s' := by
  cases hc : s.replies with
  | none => exact does_refused_of_none rfl rfl rfl hc h
  | some c =>
    obtain ⟨r₀, hreply, rfl⟩ := ends_map_iff.1 h
    have hrest := ends_replyChain_bind_of_some hc hreply
    rcases ends_bind_iff.1 hrest with ⟨⟨sent, c'⟩, s₁, t₁, t₂, rfl, hadd, htold⟩ | ⟨f, -, hadd⟩
    · obtain ⟨e, hruns, he, rfl⟩ := Act.ends_ofRequests_iff.1 hadd
      obtain rfl := Except.ok.inj he
      dsimp only at htold
      rw [Act.ends_session_bind_iff, Act.ends_setSession_bind_iff] at htold
      obtain ⟨rfl, rfl, rfl⟩ := Act.ends_ofExcept_iff.1 htold
      rw [List.append_nil]
      exact .replies hc hruns
    · obtain ⟨e, -, he, -⟩ := Act.ends_ofRequests_iff.1 hadd
      simp at he

/-- Whatever a call does, it is one of these. -/
theorem does_of_ends {call : Call} {r : Except Failing Answer}
    (h : Ends (call.perform ctx) s t r s') : Does ctx s call t r s' := by
  cases call with
  | begin => exact does_begin h
  | load limit => exact does_load h
  | replyManager => exact does_replyManager h
  | replaceReplyManager c => exact does_replaceReplyManager h
  | reply spec => exact does_reply h
  | accessValidator => exact does_accessValidator h
  | hasAccess group => exact does_hasAccess h
  | setContext key value replace =>
    rw [Call.perform, Act.ends_session_bind_iff] at h
    dsimp only at h
    rw [Act.ends_setSession_bind_iff] at h
    obtain ⟨rfl, rfl, rfl⟩ := ends_pure_iff.1 h
    exact .stores
  | argument name =>
    rw [Call.perform, Act.ends_session_bind_iff] at h
    obtain ⟨rfl, rfl, rfl⟩ := ends_pure_iff.1 h
    exact .finds_argument

/-! ## What calls preserve -/

/-- How a call finished the load, or found it finished. -/
def finished? : Except Failing Answer → Option LoadEnd
  | .ok (.loadEnd .loaded) => some .loaded
  | .ok (.loadEnd (.ended outcome)) => some (.ended outcome)
  | _ => none

/-- The exchange asks for access to be decided. -/
def isOpening : Exchange Request Request.Answer → Bool
  | ⟨.openAccess _ _ _, _⟩ => true
  | _ => false

theorem finished?_of_end? {bound : Loading} {e : LoadEnd} (h : bound.end? = some e) :
    finished? (.ok (.loadEnd e)) = some e := by
  cases bound with
  | notLoaded => simp [Loading.end?] at h
  | loading => simp [Loading.end?] at h
  | ready arguments =>
    obtain rfl := Option.some.inj h
    rfl
  | ended outcome =>
    obtain rfl := Option.some.inj h
    rfl

theorem Parses.countP_isOpening {limit : Option Nat} {r : Except Failing (Option Loading)}
    (h : ctx.Parses limit t r) : t.countP isOpening = 0 := by
  cases h with
  | no_command => rfl
  | misassigned => rfl
  | gathered => rfl

namespace Does

variable {call : Call} {r : Except Failing Answer}

theorem isInitialized_iff (h : Does ctx s call t r s') :
    s'.isInitialized = true ↔ s.isInitialized = true ∨ call = .begin := by
  cases h with
  | initializes => simp [Session.isInitialized]
  | initialized hs => simp [hs]
  | refused hneeded hs =>
    rw [hs]
    constructor
    · intro hfalse
      simp at hfalse
    · rintro (hfalse | rfl)
      · simp at hfalse
      · simp [Call.needsInitialization] at hneeded
  | loads hs hloads =>
    have hkept : s'.replies = s.replies := by
      cases hloads <;> rfl
    simp [Session.isInitialized, hkept]
  | finds_manager => simp
  | replaces hheld => simp [Session.isInitialized, hheld]
  | replies hheld => simp [Session.isInitialized, hheld]
  | finds_validator => simp
  | decides => simp
  | stores =>
    rw [Session.setStored]
    split <;> simp [Session.isInitialized]
  | finds_argument => simp

/-- Access is asked for exactly when the session becomes initialized. -/
theorem countP_isOpening (h : Does ctx s call t r s') :
    s.isInitialized.toNat + t.countP isOpening = s'.isInitialized.toNat := by
  have hinitialized := h.isInitialized_iff
  cases h with
  | initializes hs =>
    rw [hs]
    rfl
  | initialized => simp
  | refused => simp
  | loads hs hloads =>
    have hnone : t.countP isOpening = 0 := by
      cases hloads with
      | refused => rfl
      | again => rfl
      | finished _ _ hparsed => exact hparsed.countP_isOpening
      | cancelled _ _ hparsed => exact hparsed.countP_isOpening
      | broken _ _ hparsed => exact hparsed.countP_isOpening
    have hs' : s'.isInitialized = true := hinitialized.2 (Or.inl hs)
    rw [hnone, hs, hs', Nat.add_zero]
  | finds_manager => simp
  | replaces hheld => simp [Session.isInitialized, hheld]
  | replies hheld hruns =>
    obtain ⟨answer, rfl, -⟩ := ReplyChain.runs_add_iff.1 hruns
    simp [isOpening, Session.isInitialized, hheld]
  | finds_validator => simp
  | decides =>
    rw [List.countP_map]
    simp [Function.comp_def, Act.lookedUp, isOpening]
  | stores =>
    rw [Session.setStored]
    split <;> simp [Session.isInitialized]
  | finds_argument => simp

/-- The end that a session keeps of its load is the first one that a call told. -/
theorem end?_eq (h : Does ctx s call t r s') :
    s'.loading.end? = s.loading.end?.or (finished? r) := by
  cases h with
  | initializes => simp [finished?]
  | initialized => simp [finished?]
  | refused =>
    have hnone : finished? call.refusal = none := by
      cases call <;> rfl
    rw [hnone, Option.or_none]
  | loads _ hloads =>
    cases hloads with
    | refused => simp [finished?, Except.map]
    | again _ hfinished => rw [hfinished, Option.some_or]
    | finished _ hpending _ hend =>
      rw [hpending, Option.none_or, Except.map, finished?_of_end? hend, hend]
    | cancelled _ hpending =>
      rw [hpending]
      rfl
    | broken _ hpending =>
      rw [hpending]
      rfl
  | finds_manager => simp [finished?]
  | replaces => simp [finished?]
  | @replies _ _ _ _ sent =>
    cases sent <;> simp [finished?, Except.map, Except.mapError]
  | finds_validator => simp [finished?]
  | @decides _ _ r =>
    cases r <;> simp [finished?, Except.map]
  | stores =>
    rw [Session.setStored]
    split <;> simp [finished?]
  | finds_argument => simp [finished?]

/-- Only in an initialized session is a load finished. -/
theorem isInitialized_of_finished? (h : Does ctx s call t r s') {e : LoadEnd}
    (hfinished : finished? r = some e) : s.isInitialized = true := by
  cases h with
  | initialized hs => exact hs
  | loads hs => exact hs
  | finds_manager hheld => exact isInitialized_of_replies hheld
  | replaces hheld => exact isInitialized_of_replies hheld
  | replies hheld => exact isInitialized_of_replies hheld
  | finds_validator hs => exact hs
  | decides hs => exact hs
  | initializes => simp [finished?] at hfinished
  | refused =>
    have hnone : finished? call.refusal = none := by
      cases call <;> rfl
    simp [hnone] at hfinished
  | stores => simp [finished?] at hfinished
  | finds_argument => simp [finished?] at hfinished

/-- A finished load stays as it is. -/
theorem loading_eq (h : Does ctx s call t r s') {e : LoadEnd}
    (hfinished : s.loading.end? = some e) : s'.loading = s.loading := by
  cases h with
  | loads hs hloads =>
    obtain ⟨-, -, rfl⟩ := (loads_of_finished_iff hs hfinished).1 hloads
    rfl
  | stores =>
    rw [Session.setStored]
    split <;> rfl
  | _ => rfl

theorem refused_eq (h : Does ctx s call t r s') (hneeded : call.needsInitialization = true)
    (hs : s.isInitialized = false) : t = [] ∧ r = call.refusal ∧ s' = s := by
  cases h with
  | initializes => simp [Call.needsInitialization] at hneeded
  | initialized => simp [Call.needsInitialization] at hneeded
  | refused => exact ⟨rfl, rfl, rfl⟩
  | loads hinitialized => simp [hs] at hinitialized
  | finds_manager hheld => simp [Session.isInitialized, hheld] at hs
  | replaces hheld => simp [Session.isInitialized, hheld] at hs
  | replies hheld => simp [Session.isInitialized, hheld] at hs
  | finds_validator hinitialized => simp [hs] at hinitialized
  | decides hinitialized => simp [hs] at hinitialized
  | stores => simp [Call.needsInitialization] at hneeded
  | finds_argument => simp [Call.needsInitialization] at hneeded

/-- A finished load answers every later one. -/
theorem load_eq {limit : Option Nat} (h : Does ctx s (.load limit) t r s') {e : LoadEnd}
    (hs : s.isInitialized = true) (hfinished : s.loading.end? = some e) :
    t = [] ∧ r = .ok (.loadEnd e) ∧ s' = s := by
  cases h with
  | refused _ huninitialized => simp [hs] at huninitialized
  | loads _ hloads =>
    obtain ⟨rfl, rfl, rfl⟩ := (loads_of_finished_iff hs hfinished).1 hloads
    exact ⟨rfl, rfl, rfl⟩

/-- A load that is given up found none finished and leaves none. -/
theorem givenUp_eq {limit : Option Nat} (h : Does ctx s (.load limit) t r s')
    (hr : r = .ok (.loadEnd .givenUp)) :
    s.isInitialized = true ∧ s.loading.end? = none ∧ s' = { s with loading := .loading } := by
  -- no finished load answers that it was given up
  have hnever {bound : Loading} : bound.end? ≠ some .givenUp := by
    intro hend
    have hfinished := finished?_of_end? hend
    simp [finished?] at hfinished
  cases h with
  | refused => simp [Call.refusal] at hr
  | loads hs hloads =>
    cases hloads with
    | refused => simp [Except.map] at hr
    | again _ hend =>
      obtain rfl := Answer.loadEnd.inj (Except.ok.inj hr)
      exact absurd hend hnever
    | finished _ _ _ hend =>
      obtain rfl := Answer.loadEnd.inj (Except.ok.inj hr)
      exact absurd hend hnever
    | cancelled _ hpending => exact ⟨hs, hpending, rfl⟩
    | broken => simp [Except.map] at hr

end Does

/-! ## Lifecycles -/

/-- How the first finished load among uses ended. -/
def firstEnd? (h : List Use) : Option LoadEnd := h.findSome? (finished? ·.ended)

/-- How often access has been asked for. -/
def openings (h : List Use) : Nat := (h.flatMap (·.exchanges)).countP isOpening

theorem firstEnd?_append (past later : List Use) :
    firstEnd? (past ++ later) = (firstEnd? past).or (firstEnd? later) :=
  List.findSome?_append

namespace Lifecycle

variable {h : List Use}

theorem isInitialized_iff (hlife : Lifecycle ctx h s) :
    s.isInitialized = true ↔ ∃ x ∈ h, x.call = .begin := by
  induction hlife with
  | fresh => simp [Session.fresh, Session.isInitialized]
  | @use h x past ran ih =>
    rw [(does_of_ends ran).isInitialized_iff, ih]
    simp [or_and_right, exists_or]

theorem openings_eq (hlife : Lifecycle ctx h s) : openings h = s.isInitialized.toNat := by
  induction hlife with
  | fresh => rfl
  | @use h x past ran ih =>
    have hstep := (does_of_ends ran).countP_isOpening
    rw [openings] at ih ⊢
    rw [List.flatMap_append, List.countP_append, ih, List.flatMap_singleton]
    exact hstep

/-- The end kept in the session is that of the first finished load. -/
theorem end?_eq (hlife : Lifecycle ctx h s) : s.loading.end? = firstEnd? h := by
  induction hlife with
  | fresh => rfl
  | @use h x past ran ih =>
    rw [(does_of_ends ran).end?_eq, ih, firstEnd?_append]
    congr 1
    rw [firstEnd?, List.findSome?_singleton]

theorem isInitialized_of_end? (hlife : Lifecycle ctx h s) {e : LoadEnd}
    (hfinished : s.loading.end? = some e) : s.isInitialized = true := by
  induction hlife with
  | fresh => simp [Session.fresh, Loading.end?] at hfinished
  | @use h x past ran ih =>
    have hdoes := does_of_ends ran
    have hbefore : x.before.isInitialized = true := by
      rw [hdoes.end?_eq] at hfinished
      -- the end was kept before, or this use has told it
      rcases Option.or_eq_some_iff.1 hfinished with hkept | ⟨-, htold⟩
      · exact ih hkept
      · exact hdoes.isInitialized_of_finished? htold
    exact hdoes.isInitialized_iff.2 (Or.inl hbefore)

/-- What is before a use is a lifecycle too, and the use ran from the session after it. -/
theorem split (hlife : Lifecycle ctx h s) {past later : List Use} {x : Use}
    (hx : h = past ++ x :: later) :
    Lifecycle ctx past x.before ∧ Does ctx x.before x.call x.exchanges x.ended x.after := by
  induction hlife generalizing later with
  | fresh => simp at hx
  | @use h y before ran ih =>
    rcases List.eq_nil_or_concat later with rfl | ⟨later, z, rfl⟩
    -- the use is the last one
    · obtain ⟨rfl, hy⟩ := List.append_inj' hx rfl
      obtain rfl := List.head_eq_of_cons_eq hy
      exact ⟨before, does_of_ends ran⟩
    · rw [List.concat_eq_append, ← List.cons_append, ← List.append_assoc] at hx
      exact ih (List.append_inj' hx rfl).1

end Lifecycle

/-- What holds of a context after any uses `h`, which have left the session `s`. -/
structure LifecycleLaw (ctx : Context) (h : List Use) (s : Session) : Prop where
  /-- Before initialization the calls that need it fail, without an exchange and
  without a change. -/
  refused : ∀ past x later, h = past ++ x :: later → (∀ y ∈ past, y.call ≠ .begin) →
    x.call.needsInitialization = true →
      x.exchanges = [] ∧ x.ended = x.call.refusal ∧ x.after = x.before
  opened_once : openings h ≤ 1
  /-- There are arguments iff the first finished load has loaded them. -/
  arguments_iff : (∃ arguments, s.loading = .ready arguments) ↔ firstEnd? h = some .loaded
  no_arguments : firstEnd? h ≠ some .loaded → ∀ name, s.argument? name = none
  /-- Once a load is finished, every load answers as it did and looks nothing up. -/
  loaded_once : ∀ past x later e limit, h = past ++ x :: later → firstEnd? past = some e →
    x.call = .load limit → x.exchanges = [] ∧ x.ended = .ok (.loadEnd e) ∧ x.after = x.before
  /-- Once a load is finished, no call changes the arguments. -/
  arguments_kept : ∀ past x later e, h = past ++ x :: later → firstEnd? past = some e →
    x.after.loading = x.before.loading
  /-- A load that is given up binds nothing. Until a load is finished, a later one does what the
  load that was given up could have done: it asks for the same lookups, and if these are answered
  alike, it ends alike with the same arguments. -/
  cancelled : ∀ past x later limit, h = past ++ x :: later → x.call = .load limit →
    x.ended = .ok (.loadEnd .givenUp) →
      (∀ name, x.after.argument? name = none) ∧
      (firstEnd? later = none → ∀ l l' t r s',
        (Ends (ctx.load l) x.before t r s' →
          Ends (ctx.load l') s (t.map (underLimit l')) r { s with loading := s'.loading }) ∧
        (Ends (ctx.load l) s t r s' →
          Ends (ctx.load l') x.before (t.map (underLimit l')) r
            { x.before with loading := s'.loading }))

theorem arguments_iff_end? :
    (∃ arguments, s.loading = .ready arguments) ↔ s.loading.end? = some .loaded := by
  cases s.loading with
  | notLoaded => simp [Loading.end?]
  | loading => simp [Loading.end?]
  | ready arguments => simp [Loading.end?]
  | ended outcome => simp [Loading.end?]

theorem argument?_of_end? (h : s.loading.end? ≠ some .loaded) (name : String) :
    s.argument? name = none := by
  rw [Session.argument?]
  cases hloading : s.loading with
  | ready arguments => exact absurd (arguments_iff_end?.1 ⟨arguments, hloading⟩) h
  | _ => rfl

/-- Every lifecycle keeps the law: nothing works before initialization, access is opened once, and
the arguments are loaded once, whichever loads are given up before. -/
theorem law_of_lifecycle (ctx : Context) (h : List Use) (s : Session) (hlife : Lifecycle ctx h s) :
    LifecycleLaw ctx h s where
  refused := by
    intro past x later hx hnone hneeded
    obtain ⟨hpast, hdoes⟩ := hlife.split hx
    refine hdoes.refused_eq hneeded ?_
    rw [← Bool.not_eq_true, hpast.isInitialized_iff]
    rintro ⟨y, hy, hbegin⟩
    exact hnone y hy hbegin
  opened_once := by
    rw [hlife.openings_eq]
    exact Bool.toNat_le _
  arguments_iff := by
    rw [← hlife.end?_eq]
    exact arguments_iff_end?
  no_arguments := by
    intro hnone name
    rw [← hlife.end?_eq] at hnone
    exact argument?_of_end? hnone name
  loaded_once := by
    intro past x later e limit hx hfinished hcall
    obtain ⟨hpast, hdoes⟩ := hlife.split hx
    rw [← hpast.end?_eq] at hfinished
    rw [hcall] at hdoes
    exact hdoes.load_eq (hpast.isInitialized_of_end? hfinished) hfinished
  arguments_kept := by
    intro past x later e hx hfinished
    obtain ⟨hpast, hdoes⟩ := hlife.split hx
    rw [← hpast.end?_eq] at hfinished
    exact hdoes.loading_eq hfinished
  cancelled := by
    intro past x later limit hx hcall hended
    obtain ⟨hpast, hdoes⟩ := hlife.split hx
    rw [hcall] at hdoes
    obtain ⟨hs, hpending, hafter⟩ := hdoes.givenUp_eq hended
    constructor
    · intro name
      rw [hafter]
      rfl
    · intro hlater l l' t r s'
      have hs' : s.isInitialized = true := by
        obtain ⟨y, hy, hbegin⟩ := hpast.isInitialized_iff.1 hs
        rw [hlife.isInitialized_iff, hx]
        exact ⟨y, List.mem_append_left _ hy, hbegin⟩
      have hpending' : s.loading.end? = none := by
        have hx' : firstEnd? [x] = none := by
          rw [firstEnd?, List.findSome?_singleton, hended]
          rfl
        rw [hlife.end?_eq, hx, ← List.singleton_append, firstEnd?_append, firstEnd?_append,
          ← hpast.end?_eq, hpending, hx', hlater]
        rfl
      simp only [ends_load_iff]
      constructor
      · intro hloads
        exact hloads.underLimit hs hpending hs' hpending' l'
      · intro hloads
        exact hloads.underLimit hs' hpending' hs hpending l'

/-- The call of the lock is loaded too early, then initialized, then loaded twice: the first of
these loads is given up. -/
def lockUses : List Use :=
  let loading : Session := { lockContext.opened with loading := .loading }
  let loaded : Session := { lockContext.opened with loading := .ready [("open", .boolean true)] }
  let raw : List (String × RawArgument) := [("open", .slot (.boolean true))]
  [⟨.fresh, .load none, [], .ok (.loadEnd .notInitialized), .fresh⟩,
   ⟨.fresh, .begin, [⟨.openAccess (some ⟨1⟩) ⟨2⟩ ⟨3⟩, ()⟩], .ok .done, lockContext.opened⟩,
   ⟨lockContext.opened, .load (some 5), [lockContext.gathered lockCommand (some 5) raw (.ok none)],
     .ok (.loadEnd .givenUp), loading⟩,
   ⟨loading, .load none,
     [lockContext.gathered lockCommand none raw (.ok (some [.ok (some (.boolean true))]))],
     .ok (.loadEnd .loaded), loaded⟩]

theorem lifecycle_lockUses :
    Lifecycle lockContext lockUses
      { lockContext.opened with loading := .ready [("open", .boolean true)] } := by
  have hrefused : Lifecycle lockContext (lockUses.take 1) .fresh :=
    .use (x := lockUses[0]) .fresh (.done _)
  have hbegun : Lifecycle lockContext (lockUses.take 2) lockContext.opened :=
    .use (x := lockUses[1]) hrefused (.ask (.done _))
  have hgivenUp : Lifecycle lockContext (lockUses.take 3)
      { lockContext.opened with loading := .loading } :=
    .use (x := lockUses[2]) hbegun (.ask (.done _))
  exact .use (x := lockUses[3]) hgivenUp (.ask (.done _))

/-- The second load finds what the first one could have found. -/
theorem lock_lifecycle_keeps_law :
    Lifecycle lockContext lockUses
        { lockContext.opened with loading := .ready [("open", .boolean true)] } ∧
      LifecycleLaw lockContext lockUses
        { lockContext.opened with loading := .ready [("open", .boolean true)] } :=
  ⟨lifecycle_lockUses, law_of_lifecycle lockContext lockUses _ lifecycle_lockUses⟩

end Context

end ChatCommands
