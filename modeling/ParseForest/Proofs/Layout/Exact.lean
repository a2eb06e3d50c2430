import Mathlib
import ParseForest.Proofs.Layout

namespace ParseForest.Automaton

variable {edges : List Edge} {automaton laid : Automaton}

theorem eraseDups_concat (symbols : List SymbolId) (symbol : SymbolId) : (symbols ++ [symbol]).eraseDups =
    if symbol ∈ symbols then symbols.eraseDups else symbols.eraseDups ++ [symbol] := by
  rw [List.eraseDups_append]
  by_cases known : symbol ∈ symbols
  · simp [List.removeAll,known]
  · simp [List.removeAll,known,List.eraseDups_cons]

-- Merging keeps the first entry on each symbol where it stands.
theorem merge_symbols : (merge [] edges).map Edge.symbol = (edges.map Edge.symbol).eraseDups := by
  induction edges using List.reverseRecOn with
  | nil => rfl
  | append_singleton edges edge ih =>
    have last : merge [] (edges ++ [edge]) = mergeEntry edge (merge [] edges) := by
      unfold merge
      rw [List.foldl_append]
      rfl
    rw [last,mergeEntry_symbols 0,addToRow_symbols,ih,List.map_append,List.map_singleton,eraseDups_concat]
    simp only [List.mem_eraseDups]

theorem row_symbols (accepted : automaton.canonical = .ok laid) (state : StateId) :
    (laid.row state).map Edge.symbol = ((automaton.row state).map Edge.symbol).eraseDups := by
  obtain ⟨_,rfl⟩ := canonical_iff.mp accepted
  rw [row_arranged,canonicalRow_symbols,merge_symbols]

theorem canonical_error {flaw : LayoutFlaw} : automaton.canonical = .error flaw ↔
    automaton.rows.length ≠ automaton.stateCount ∧ flaw = .rowCount automaton.rows.length automaton.stateCount ∨
      automaton.rows.length = automaton.stateCount ∧ ∃ state, automaton.named.find? (automaton.stateCount ≤ ·) = some state ∧
        flaw = .missingState state automaton.stateCount := by
  rw [canonical_eq]
  split
  · rename_i rows
    simp [rows,eq_comm]
  · rename_i rows
    have counted := not_not.mp rows
    rw [← checkStates_error]
    cases checkStates automaton.stateCount automaton.named with
    | ok => simp [counted,bind,Except.bind,pure,Except.pure]
    | error found => simp [counted,bind,Except.bind]

-- An automaton is brought into canonical layout when every state that it names exists and has a row. Otherwise the
-- flaw is the number of rows, or else the first missing state in the order start, accept, targets by state. What it
-- denotes stays the same, the entries of a state stay in the order in which their symbols first occur, and there is
-- nothing left to do for a second time.
theorem canonical_exact (automaton : Automaton) :
    ((∃ laid, automaton.canonical = .ok laid) ↔ automaton.Inside) ∧
    (∀ flaw, automaton.canonical = .error flaw ↔
      automaton.rows.length ≠ automaton.stateCount ∧ flaw = .rowCount automaton.rows.length automaton.stateCount ∨
        automaton.rows.length = automaton.stateCount ∧ ∃ state,
          (automaton.start ++ automaton.accept ++ automaton.rows.flatten.flatMap Edge.targets).find?
              (automaton.stateCount ≤ ·) = some state ∧
            flaw = .missingState state automaton.stateCount) ∧
    ∀ laid, automaton.canonical = .ok laid → automaton.Alike laid ∧ laid.WellFormed ∧
      (∀ state, (laid.row state).map Edge.symbol = ((automaton.row state).map Edge.symbol).eraseDups) ∧
      laid.canonical = .ok laid := by
  refine ⟨?_,fun flaw => canonical_error,?_⟩
  · constructor
    · rintro ⟨laid,accepted⟩
      exact (canonical_iff.mp accepted).1
    · intro inside
      exact ⟨automaton.arranged,canonical_iff.mpr ⟨inside,rfl⟩⟩
  · intro laid accepted
    have wellFormed := canonical_wellFormed accepted
    exact ⟨canonical_alike accepted,wellFormed,row_symbols accepted,wellFormed.canonical_self⟩

-- A state listed twice, an entry split in two around another, and one without targets.
def scattered : Automaton := ⟨2,[1,0,1],[1],[[⟨7,[1]⟩,⟨3,[]⟩,⟨7,[0,1]⟩],[]]⟩

def gathered : Automaton := ⟨2,[0,1],[1],[[⟨7,[0,1]⟩,⟨3,[]⟩],[]]⟩

theorem scattered_alike : scattered.canonical = .ok gathered ∧ scattered.Alike gathered ∧ gathered.canonical = .ok gathered := by
  have accepted : scattered.canonical = .ok gathered := rfl
  obtain ⟨alike,_,_,again⟩ := (canonical_exact scattered).2.2 gathered accepted
  exact ⟨accepted,alike,again⟩

end ParseForest.Automaton
