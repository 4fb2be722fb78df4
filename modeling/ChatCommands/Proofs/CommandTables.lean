import ChatCommands.Proofs.ProcessEndings

set_option autoImplicit false

/-!
# Commands reached over a table

Over a table of commands, whatever commands were inserted in whatever order, a stream of tokens
matches the longest beginning of it all of whose beginnings are paths of commands offered to the
style. The chain lists the commands last registered along this path, so it is normalized and no
event is ignored for an invalid chain. The main statement is `table_matches_longest_offered_path`.
-/

namespace ChatCommands

open Program (Runs)

namespace CommandTable

variable {rs : List Registration} {style : Style}

/-- The chain over a table, seen through the number of tokens that it takes. -/
structure Reaches (rs : List Registration) (style : Style) (tokens : List String) (k : Nat)
    (found : ChainMatch) : Prop where
  greatest : IsGreatest
    {m | m ≤ tokens.length ∧ ∀ j, 1 ≤ j → j ≤ m → Offers rs style (tokens.take j)} k
  /-- The commands are those last registered at the beginnings of the path. -/
  chain : found.chain.map some = (List.range k).map fun j => lastAt rs ⟨tokens.take (j + 1)⟩
  names : found.chain.map (·.command.name) = tokens.take k
  invocation : found.invocation = ⟨tokens.take k⟩

theorem reaches_matchChain (rs : List Registration) (style : Style) (s : TokenStream) :
    ∃ k, Reaches rs style s.toList k (matchChain (ofList rs).registry style s).1 ∧
      (matchChain (ofList rs).registry style s).2.toList = s.toList.drop k := by
  obtain ⟨k, hk, hoffers, hstop, hchain, hnames, hpath, hrest⟩ :=
    matchBelow_table rs style .root s
  simp only [Invocation.root, List.nil_append] at hoffers hstop hchain hpath
  refine ⟨k, ⟨⟨⟨hk, hoffers⟩, ?_⟩, hchain, hnames, hpath⟩, hrest⟩
  rintro m ⟨hm, hall⟩
  by_contra hlt
  -- a longer beginning would contain the one at which the match stopped
  have hnext : k < s.toList.length := by omega
  exact hstop hnext (hall (k + 1) (by omega) (by omega))

namespace Reaches

variable {tokens : List String} {k : Nat} {found : ChainMatch} (h : Reaches rs style tokens k found)
include h

theorem length_chain : found.chain.length = k := by
  have hlength := congrArg List.length h.chain
  simpa using hlength

theorem getElem?_chain {i : Nat} (hi : i < k) :
    found.chain[i]? = lastAt rs ⟨tokens.take (i + 1)⟩ := by
  have hlt : i < found.chain.length := by
    rw [h.length_chain]
    exact hi
  have hget := congrArg (·[i]?) h.chain
  simp only [List.getElem?_map, List.getElem?_range hi, List.getElem?_eq_getElem hlt,
    Option.map_some] at hget
  rw [List.getElem?_eq_getElem hlt]
  exact Option.some.inj hget

/-- A command of the chain stands at the beginning of the tokens that leads to it. -/
theorem invocation_of_getElem? {i : Nat} {r : Registration} (hr : found.chain[i]? = some r) :
    r.command.invocation = ⟨tokens.take (i + 1)⟩ := by
  have hi : i < k := by
    rw [← h.length_chain]
    exact (List.getElem?_eq_some_iff.1 hr).1
  rw [h.getElem?_chain hi] at hr
  exact invocation_of_lastAt hr

/-- Each path on the way to a command of the chain is that of a command offered to the style. -/
theorem offers_of_mem {r : Registration} (hr : r ∈ found.chain) {j : Nat} (hj : 1 ≤ j)
    (hlen : j ≤ r.command.invocation.length) :
    Offers rs style (r.command.invocation.names.take j) := by
  obtain ⟨i, hi⟩ := List.mem_iff_getElem?.1 hr
  have hik : i < k := by
    rw [← h.length_chain]
    exact (List.getElem?_eq_some_iff.1 hi).1
  rw [h.invocation_of_getElem? hi, Invocation.length, List.length_take] at hlen
  rw [h.invocation_of_getElem? hi, List.take_take, Nat.min_eq_left (by omega)]
  exact h.greatest.1.2 j hj (by omega)

/-- The names of the chain spell the path of its last command. -/
theorem checkNormalized_chain (hk : 1 ≤ k) :
    checkNormalized (found.chain.map (·.command)) = .ok () := by
  obtain ⟨invoked, hlast⟩ : ∃ r, found.chain.getLast? = some r := by
    rw [← Option.isSome_iff_exists, List.getLast?_isSome, ← List.length_pos_iff, h.length_chain]
    exact hk
  have hpath : invoked.command.invocation = ⟨tokens.take k⟩ := by
    rw [List.getLast?_eq_getElem?, h.length_chain] at hlast
    rw [h.invocation_of_getElem? hlast, Nat.sub_add_cancel hk]
  have hspelled : (found.chain.map (·.command)).map (·.name) = tokens.take k := by
    rw [List.map_map]
    exact h.names
  rw [checkNormalized, List.getLast?_map, hlast, Option.map_some]
  simp only [hspelled, hpath, if_true]

end Reaches

/-- Over a table the first reason to ignore an event is never an invalid chain. -/
theorem reason?_ne_invalidChain {p : Pipeline} (hp : p.registry = (ofList rs).registry)
    (e : Event) : p.reason? e ≠ some .invalidChain := by
  intro hreason
  have hinvalid : p.applies e .invalidChain = true := List.find?_some hreason
  have hcalled : p.applies e .notCommand = false := by
    by_contra hnone
    rw [Bool.not_eq_false] at hnone
    simp [Pipeline.reason?, IgnoreReason.inOrder, hnone] at hreason
  cases hread : p.reading e with
  | none => simp [Pipeline.applies, hread] at hinvalid
  | some r =>
    obtain ⟨tokens, -, hmatch⟩ := Option.map_eq_some_iff.1 hread
    rw [hp] at hmatch
    obtain ⟨k, hreaches, -⟩ := reaches_matchChain rs e.style (p.aliases.apply tokens).2
    rw [hmatch] at hreaches
    -- a chain of no commands calls none, and any other is normalized
    cases k with
    | zero =>
      have hempty : r.1.chain = [] := List.length_eq_zero_iff.1 hreaches.length_chain
      simp [Pipeline.applies, Pipeline.invoked?, hread, hempty] at hcalled
    | succ k =>
      have hnormal := hreaches.checkNormalized_chain (Nat.succ_pos k)
      simp [Pipeline.applies, hread, hnormal, Except.isOk, Except.toBool] at hinvalid

end CommandTable

open CommandTable

/-- Over a table of commands inserted in any order, a stream of tokens matches the greatest number
`k` of tokens such that each beginning of them is the path of a command offered to the style. The
chain lists the commands last registered at these beginnings, exactly `k` tokens are consumed, and
nothing but offered paths leads to a command of the chain. Such a chain is normalized, so that no
processing of an event over the table ever ignores it for an invalid chain. -/
theorem table_matches_longest_offered_path (rs : List Registration) (style : Style)
    (s : TokenStream) :
    let tokens := s.drain
    let registry := (ofList rs).registry
    let found := (matchChain registry style s).1
    ∃ k, IsGreatest
        {m | m ≤ tokens.length ∧ ∀ j, 1 ≤ j → j ≤ m → Offers rs style (tokens.take j)} k ∧
      found.chain.map some = (List.range k).map (fun j => lastAt rs ⟨tokens.take (j + 1)⟩) ∧
      found.invocation = ⟨tokens.take k⟩ ∧
      (matchChain registry style s).2.drain = tokens.drop k ∧
      (1 ≤ k → checkNormalized (found.chain.map (·.command)) = .ok ()) ∧
      (∀ r ∈ found.chain, ∀ j, 1 ≤ j → j ≤ r.command.invocation.length →
        Offers rs style (r.command.invocation.names.take j)) ∧
      ∀ p : Pipeline, p.registry = registry → ∀ e t,
        ¬ Runs (p.moves e) t (.ok (.ok (.ignored .invalidChain))) := by
  intro tokens registry found
  obtain ⟨k, hreaches, hrest⟩ := reaches_matchChain rs style s
  rw [← TokenStream.drain_eq_toList, ← TokenStream.drain_eq_toList] at hrest
  rw [← TokenStream.drain_eq_toList] at hreaches
  refine ⟨k, hreaches.greatest, hreaches.chain, hreaches.invocation, hrest,
    hreaches.checkNormalized_chain, ?_, ?_⟩
  · intro r hr j hj hlen
    exact hreaches.offers_of_mem hr hj hlen
  · intro p hp e t hrun
    exact reason?_ne_invalidChain hp e (Pipeline.reason?_of_runs hrun)

end ChatCommands
