import Mathlib
import ParseForest.Limits
import ParseForest.Proofs.Except
import ParseForest.Proofs.Pattern.Compile

namespace ParseForest

namespace Automaton

variable {automaton next built : Automaton} {change : Change} {changes : List Change} {symbol : SymbolId}

theorem checkState_iff {state : StateId} : automaton.checkState state = .ok () ↔ state < automaton.stateCount := by
  unfold checkState
  split
  · rename_i inside
    exact ⟨fun _ => inside,fun _ => rfl⟩
  · rename_i outside
    simp [outside]

-- A change that is carried out names states of the automaton only.
theorem apply_inside (applied : automaton.apply change = .ok next) : change.Inside automaton.stateCount := by
  cases change with
  | start state => exact checkState_iff.mp (checked_ok.mp applied).1
  | accept state => exact checkState_iff.mp (checked_ok.mp applied).1
  | edge source symbol target =>
    obtain ⟨first,rest⟩ := checked_ok.mp applied
    exact ⟨checkState_iff.mp first,checkState_iff.mp (checked_ok.mp rest).1⟩

-- A change leaves the rows as they are or adds an edge to one of them.
theorem apply_rows (applied : automaton.apply change = .ok next) :
    (∀ source symbol target, change ≠ .edge source symbol target) ∧ next.rows = automaton.rows ∨
      ∃ source symbol target, change = .edge source symbol target ∧ source < automaton.rows.length ∧
        next.rows = automaton.rows.modify source (addToRow symbol target) := by
  cases change with
  | start state =>
    cases (checked_ok.mp applied).2
    exact .inl ⟨nofun,rfl⟩
  | accept state =>
    cases (checked_ok.mp applied).2
    exact .inl ⟨nofun,rfl⟩
  | edge source symbol target =>
    have result := (checked_ok.mp (checked_ok.mp applied).2).2
    split at result
    · rename_i stored
      cases result
      exact .inr ⟨source,symbol,target,rfl,stored,rfl⟩
    · cases result

theorem apply_symbols (applied : automaton.apply change = .ok next) (member : symbol ∈ next.symbols) :
    symbol ∈ automaton.symbols ∨ ∃ source target, change = .edge source symbol target := by
  rcases apply_rows applied with ⟨_,same⟩ | ⟨source,label,target,rfl,_,same⟩
  · rw [symbols,same] at member
    exact .inl member
  · rw [symbols,same] at member
    obtain ⟨edge,listed,rfl⟩ := List.mem_map.mp member
    obtain ⟨row,stored,inside⟩ := List.mem_flatten.mp listed
    rcases mem_modify stored with before | ⟨old,before,rfl⟩
    · exact .inl (List.mem_map_of_mem (List.mem_flatten_of_mem before inside))
    · rcases addToRow_mem_symbols.mp (List.mem_map_of_mem inside) with known | same
      · obtain ⟨entry,kept,same⟩ := List.mem_map.mp known
        exact .inl (same ▸ List.mem_map_of_mem (List.mem_flatten_of_mem before kept))
      · exact .inr ⟨source,target,by rw [same]⟩

-- What a change that is carried out makes of an automaton.
theorem made_of_applied (wellFormed : automaton.WellFormed) (applied : automaton.apply change = .ok next) :
    Made automaton next [change] := by
  obtain ⟨built,same,made⟩ := apply_made wellFormed (apply_inside applied)
  cases applied.symm.trans same
  exact made

-- All symbols come from the automaton or from changes.
theorem applyAll_symbols (applied : automaton.applyAll changes = .ok built) (member : symbol ∈ built.symbols) :
    symbol ∈ automaton.symbols ∨ ∃ source target, .edge source symbol target ∈ changes := by
  induction changes generalizing automaton with
  | nil =>
    cases applied
    exact .inl member
  | cons change rest ih =>
    obtain ⟨middle,first,others⟩ := bind_ok.mp applied
    rcases ih others with early | ⟨source,target,later⟩
    · rcases apply_symbols first early with before | ⟨source,target,rfl⟩
      · exact .inl before
      · exact .inr ⟨source,target,List.mem_cons_self⟩
    · exact .inr ⟨source,target,List.mem_cons_of_mem _ later⟩

theorem empty_symbols {stateCount : Nat} : (empty stateCount).symbols = [] := by
  refine List.eq_nil_iff_forall_not_mem.mpr fun symbol member => ?_
  obtain ⟨edge,listed,_⟩ := List.mem_map.mp member
  obtain ⟨row,stored,inside⟩ := List.mem_flatten.mp listed
  rw [(List.mem_replicate.mp stored).2] at inside
  cases inside

-- Numbers of symbols and states have 32 bits.
structure Fits (automaton : Automaton) : Prop where
  stateCount : automaton.stateCount < Limits.identifiers
  symbols : ∀ symbol ∈ automaton.symbols, symbol < Limits.identifiers

end Automaton

namespace Pattern

variable {pattern : Pattern} {automaton : Automaton}

-- No pattern is refused.
theorem compile_wellFormed (pattern : Pattern) : ∃ automaton, pattern.compile = .ok automaton ∧ automaton.WellFormed := by
  have scanned : Scanned .initial (pattern.scan .initial).1 (pattern.scan .initial).2 pattern.occurrences pattern.language :=
    scan_scanned pattern rfl
  obtain ⟨automaton,built,wellFormed,_⟩ := Automaton.build_made scanned.inside
  exact ⟨automaton,built,wellFormed⟩

-- A pattern whose symbols and positions have numbers of 32 bits.
structure Fits (pattern : Pattern) : Prop where
  symbols : ∀ symbol ∈ pattern.occurrences, symbol < Limits.identifiers
  positions : pattern.occurrences.length + 1 < Limits.identifiers

theorem Fits.compile (fits : pattern.Fits) (compiled : pattern.compile = .ok automaton) : automaton.Fits := by
  have scanned : Scanned .initial (pattern.scan .initial).1 (pattern.scan .initial).2 pattern.occurrences pattern.language :=
    scan_scanned pattern rfl
  have count : (pattern.scan .initial).1.symbols.length < Limits.identifiers := by
    rw [scanned.symbols,List.length_append]
    have bound := fits.positions
    change 1 + _ < _
    omega
  have stored : ∀ symbol ∈ (pattern.scan .initial).1.symbols, symbol < Limits.identifiers := by
    rw [scanned.symbols]
    exact List.forall_mem_cons.mpr ⟨Nat.zero_lt_of_lt count,fits.symbols⟩
  obtain ⟨built,same,stateCount,_⟩ := scanned.build
  cases same.symm.trans compiled
  refine ⟨stateCount ▸ count,?_⟩
  intro symbol member
  rcases Automaton.applyAll_symbols compiled member with before | ⟨source,target,edge⟩
  · rw [Automaton.empty_symbols] at before
    cases before
  · -- An edge is labelled with the symbol of the position that it leads to.
    obtain ⟨rfl,_⟩ := edge_mem_changes.mp edge
    change (pattern.scan .initial).1.symbols.getD target 0 < Limits.identifiers
    rw [List.getD_eq_getElem?_getD]
    cases found : (pattern.scan .initial).1.symbols[target]? with
    | none => exact Nat.zero_lt_of_lt count
    | some symbol => exact stored symbol (List.mem_of_getElem? found)

end Pattern

-- The automata that there are: empty ones and those of patterns, and what changes make of them.
inductive Automaton.Constructed : Automaton → Prop where
  | empty (stateCount : Nat) : Constructed (.empty stateCount)
  | compiled {pattern : Pattern} {automaton : Automaton} (accepted : pattern.compile = .ok automaton) : Constructed automaton
  | changed {automaton next : Automaton} {change : Change} (constructed : Constructed automaton)
      (accepted : automaton.apply change = .ok next) : Constructed next

theorem Automaton.Constructed.wellFormed {automaton : Automaton} (constructed : automaton.Constructed) : automaton.WellFormed := by
  induction constructed with
  | empty stateCount => exact empty_wellFormed stateCount
  | @compiled pattern automaton accepted =>
    obtain ⟨built,same,wellFormed⟩ := pattern.compile_wellFormed
    cases same.symm.trans accepted
    exact wellFormed
  | changed _ accepted ih => exact (made_of_applied ih accepted).wellFormed

end ParseForest
