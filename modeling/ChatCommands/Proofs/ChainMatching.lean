import ChatCommands.Command.Registry
import ChatCommands.Proofs.TokenStreams
import Mathlib.Order.Bounds.Defs

set_option autoImplicit false

/-!
# Matching chains of commands

A matched chain holds only commands that the registry offers at the paths of the chain
(`matchBelow_offered`), streams that read alike match alike (`TokenStream.Alike.matchBelow`), and
over a table of commands the match is the longest beginning of the tokens whose every beginning is
the path of a command that the style may use (`matchBelow_table`).
-/

namespace ChatCommands

variable {registry : Registry} {style : Style} {path : Invocation} {s : TokenStream}

/-! ## One step of matching -/

theorem matchBelow_of_next?_none (h : s.next? = none) :
    matchBelow registry style path s = (⟨[], path⟩, s) := by
  rw [matchBelow]
  split
  · rfl
  · rename_i heq
    rw [h] at heq
    simp at heq

theorem matchBelow_of_unknown {token : String} {rest : TokenStream}
    (hs : s.next? = some (token, rest)) (hr : registry (path.child token) style = none) :
    matchBelow registry style path s = (⟨[], path⟩, s) := by
  rw [matchBelow]
  split
  · rfl
  · rename_i heq
    rw [hs] at heq
    obtain ⟨rfl, rfl⟩ : token = _ ∧ rest = _ := by simpa using heq
    rw [hr]

theorem matchBelow_of_known {token : String} {rest : TokenStream} {r : Registration}
    (hs : s.next? = some (token, rest)) (hr : registry (path.child token) style = some r) :
    matchBelow registry style path s =
      (⟨r :: (matchBelow registry style (path.child r.command.name) rest).1.chain,
        (matchBelow registry style (path.child r.command.name) rest).1.invocation⟩,
       (matchBelow registry style (path.child r.command.name) rest).2) := by
  rw [matchBelow]
  split
  · rename_i heq
    rw [hs] at heq
    simp at heq
  · rename_i heq
    rw [hs] at heq
    obtain ⟨rfl, rfl⟩ : token = _ ∧ rest = _ := by simpa using heq
    rw [hr]

/-! ## Any registry -/

/-- Each command of a matched chain is what the registry offers below the path of the
commands before it. -/
theorem matchBelow_offered (registry : Registry) (style : Style) (path : Invocation)
    (s : TokenStream) {i : Nat} {r : Registration}
    (h : (matchBelow registry style path s).1.chain[i]? = some r) :
    ∃ token, registry (Invocation.child
      ⟨path.names ++ ((matchBelow registry style path s).1.chain.take i).map (·.command.name)⟩
      token) style = some r := by
  fun_induction matchBelow registry style path s generalizing i with
  | case1 => simp at h
  | case2 => simp at h
  | case3 path s token rest hs known hr below s' hbelow ih =>
    rw [hbelow] at ih
    -- the first command is offered below the path itself, the others below its child
    cases i with
    | zero =>
      obtain rfl : known = r := by simpa using h
      exact ⟨token, by simpa using hr⟩
    | succ i =>
      obtain ⟨token', h'⟩ := ih (by simpa using h)
      exact ⟨token', by simpa [Invocation.child] using h'⟩

/-- Streams that read alike match the same chain and leave streams that read alike. -/
theorem TokenStream.Alike.matchBelow {t : TokenStream} (h : Alike s t) (registry : Registry)
    (style : Style) (path : Invocation) :
    (ChatCommands.matchBelow registry style path s).1 =
        (ChatCommands.matchBelow registry style path t).1 ∧
      Alike (ChatCommands.matchBelow registry style path s).2
        (ChatCommands.matchBelow registry style path t).2 := by
  fun_induction ChatCommands.matchBelow registry style path s generalizing t with
  | case1 path s hs =>
    rw [matchBelow_of_next?_none (h.next?_none hs)]
    exact ⟨rfl, h⟩
  | case2 path s token rest hs hr =>
    obtain ⟨t', ht, -⟩ := h.next?_some hs
    rw [matchBelow_of_unknown ht hr]
    exact ⟨rfl, h⟩
  | case3 path s token rest hs known hr below s' hbelow ih =>
    obtain ⟨t', ht, hrest⟩ := h.next?_some hs
    obtain ⟨hchain, halike⟩ := ih hrest
    rw [hbelow] at hchain halike
    rw [matchBelow_of_known ht hr, ← hchain]
    exact ⟨rfl, halike⟩

theorem TokenStream.Alike.matchChain {t : TokenStream} (h : Alike s t) (registry : Registry)
    (style : Style) :
    (ChatCommands.matchChain registry style s).1 = (ChatCommands.matchChain registry style t).1 ∧
      Alike (ChatCommands.matchChain registry style s).2
        (ChatCommands.matchChain registry style t).2 :=
  h.matchBelow registry style .root

/-! ## Tables of commands -/

/-- Without the entries of another key, the first entry of a key is the same. -/
theorem find?_filter_key_ne {κ α : Type} [BEq κ] [LawfulBEq κ] (entries : List (κ × α))
    {key other : κ} (h : key ≠ other) :
    (entries.filter (·.1 != other)).find? (·.1 == key) = entries.find? (·.1 == key) := by
  rw [List.find?_filter]
  congr 1
  funext entry
  by_cases hentry : entry.1 = key
  · have hne : (key != other) = true := by simpa using h
    simp [hentry, hne]
  · simp [hentry]

namespace CommandTable

/-- The command last registered at a path, of commands registered in order. -/
def lastAt (rs : List Registration) (path : Invocation) : Option Registration :=
  (rs.filter fun r => r.command.invocation == path).getLast?

theorem invocation_of_lastAt {rs : List Registration} {path : Invocation} {r : Registration}
    (h : lastAt rs path = some r) : r.command.invocation = path := by
  have hmem := List.mem_of_getLast? h
  rw [List.mem_filter] at hmem
  exact eq_of_beq hmem.2

theorem entry?_insert (t : CommandTable) (r : Registration) (path : Invocation) :
    entry? (t.insert r) path =
      if r.command.invocation = path then some r else entry? t path := by
  simp only [insert, entry?, List.find?_append]
  by_cases h : r.command.invocation = path
  · subst h
    -- the old command at this path is gone, so the new one is found
    have hold : (t.entries.filter (·.1 != r.command.invocation)).find?
        (·.1 == r.command.invocation) = none := by
      rw [List.find?_eq_none]
      intro row hrow
      simpa using (List.mem_filter.1 hrow).2
    simp [hold]
  · have hkept := find?_filter_key_ne t.entries (Ne.symm h)
    have hnew : (r.command.invocation == path) = false := by simpa using h
    simp [hkept, hnew, h]

theorem ofList_concat (rs : List Registration) (r : Registration) :
    ofList (rs ++ [r]) = (ofList rs).insert r := by
  simp [ofList]

/-- A table answers a path with the command last registered there. -/
theorem entry?_ofList (rs : List Registration) (path : Invocation) :
    entry? (ofList rs) path = lastAt rs path := by
  induction rs using List.reverseRecOn with
  | nil => rfl
  | append_singleton rs r ih =>
    rw [ofList_concat, entry?_insert, ih, lastAt, lastAt, List.filter_append]
    by_cases h : r.command.invocation = path
    · simp [h]
    · simp [h]

theorem registry_ofList_iff (rs : List Registration) (path : Invocation) (style : Style)
    (r : Registration) :
    (ofList rs).registry path style = some r ↔
      lastAt rs path = some r ∧ style ∈ r.command.styles := by
  simp [registry, entry?_ofList, Option.filter_eq_some_iff]

/-- The command last registered at a path may be used in the style. -/
def Offers (rs : List Registration) (style : Style) (names : List String) : Prop :=
  ∃ r, lastAt rs ⟨names⟩ = some r ∧ style ∈ r.command.styles

theorem registry_ofList_eq_none_iff (rs : List Registration) (style : Style)
    (names : List String) :
    (ofList rs).registry ⟨names⟩ style = none ↔ ¬ Offers rs style names := by
  rw [← Option.not_isSome_iff_eq_none, Option.isSome_iff_exists]
  simp only [registry_ofList_iff, Offers]

end CommandTable

open CommandTable

/-- Over a table, the chain below a path takes tokens as long as each beginning of them leads to a
command of the style; the chain lists the commands last registered at these beginnings. -/
theorem matchBelow_table (rs : List Registration) (style : Style) (path : Invocation)
    (s : TokenStream) :
    let found := matchBelow (ofList rs).registry style path s
    ∃ k, k ≤ s.toList.length ∧
      (∀ j, 1 ≤ j → j ≤ k → Offers rs style (path.names ++ s.toList.take j)) ∧
      (k < s.toList.length → ¬ Offers rs style (path.names ++ s.toList.take (k + 1))) ∧
      found.1.chain.map some =
        (List.range k).map (fun j => lastAt rs ⟨path.names ++ s.toList.take (j + 1)⟩) ∧
      found.1.chain.map (·.command.name) = s.toList.take k ∧
      found.1.invocation = ⟨path.names ++ s.toList.take k⟩ ∧
      found.2.toList = s.toList.drop k := by
  intro found
  subst found
  fun_induction matchBelow (ofList rs).registry style path s with
  | case1 path s hs =>
    have hnil : s.toList = [] := (TokenStream.next?_eq_none_iff s).1 hs
    refine ⟨0, by simp, ?_, ?_, by simp, by simp, by simp, by simp⟩
    · intro j hj hj0
      omega
    · simp [hnil]
  | case2 path s token rest hs hr =>
    have htokens := TokenStream.toList_of_next? hs
    -- the next token leads to no command of the style, and the match stops here
    refine ⟨0, by simp, ?_, ?_, by simp, by simp, by simp, by simp⟩
    · intro j hj hj0
      omega
    · intro _
      rw [htokens]
      exact (registry_ofList_eq_none_iff rs style _).1 hr
  | case3 path s token rest hs known hr below s' hbelow ih =>
    have htokens := TokenStream.toList_of_next? hs
    obtain ⟨hlast, hstyle⟩ := (registry_ofList_iff rs _ style known).1 hr
    -- The table keeps a command at its own path, so the command's name is the token.
    have hname : known.command.name = token := by
      have hpath := invocation_of_lastAt hlast
      simp only [Command.invocation, Invocation.child, Invocation.mk.injEq] at hpath
      exact (List.append_inj' hpath rfl).2 |> List.cons.inj |>.1
    have hchild : (path.child known.command.name).names = path.names ++ [token] := by
      rw [hname]
      rfl
    obtain ⟨k, hk, hoffers, hstop, hchain, hnames, hpath, hrest⟩ := ih
    rw [hbelow] at hchain hnames hpath hrest
    simp only [hchild, List.append_assoc, List.singleton_append] at hoffers hstop hchain hpath
    -- one token more than the match below the child takes
    refine ⟨k + 1, ?_, ?_, ?_, ?_, ?_, ?_, ?_⟩
    · simp [htokens, hk]
    · intro j hj hjk
      obtain ⟨j, rfl⟩ : ∃ i, j = i + 1 := ⟨j - 1, by omega⟩
      rw [htokens, List.take_succ_cons]
      cases j with
      | zero => exact ⟨known, hlast, hstyle⟩
      | succ j => exact hoffers (j + 1) (by omega) (by omega)
    · intro hlt
      rw [htokens, List.take_succ_cons]
      exact hstop (by simpa [htokens] using hlt)
    · rw [List.range_succ_eq_map, List.map_cons, List.map_cons, hchain, htokens]
      simp only [List.map_map, List.take_succ_cons, List.take_zero]
      congr 1
      exact hlast.symm
    · simp [hnames, htokens, hname]
    · simp [hpath, htokens]
    · simp [hrest, htokens]

end ChatCommands
