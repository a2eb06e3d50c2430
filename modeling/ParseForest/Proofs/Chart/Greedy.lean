import Mathlib
import ParseForest.Proofs.Chart.Rank

namespace ParseForest.Session.Chart

variable {problem : Problem} {chart : Chart} {place further : Place} {goal : Goal} {node : Node} {derivation : Derivation}

-- Lengths are bounded by the text, so one of those recorded is the greatest.
theorem exists_longest (within : chart.Within problem) (member : derivation ∈ chart.derivations goal) :
    ∃ node, chart.Longest goal node ∧ derivation.node.length ≤ node.length := by
  let lengths : Set Nat := {length | ∃ derivation ∈ chart.derivations goal, derivation.node.length = length}
  have present : derivation.node.length ∈ lengths := ⟨derivation,member,rfl⟩
  have bounded : BddAbove lengths := by
    refine ⟨problem.text.length,?_⟩
    rintro length ⟨other,recorded,rfl⟩
    have stop := within.derivations goal other recorded
    unfold Node.stop at stop
    omega
  obtain ⟨best,recorded,most⟩ : sSup lengths ∈ lengths := Nat.sSup_mem ⟨_,present⟩ bounded
  refine ⟨best.node,⟨⟨best,recorded,rfl⟩,?_⟩,?_⟩
  · intro other known
    rw [most]
    exact le_csSup bounded ⟨other,known,rfl⟩
  · rw [most]
    exact le_csSup bounded present

theorem Longest.length_eq {other : Node} (one : chart.Longest goal node) (two : chart.Longest goal other) :
    node.length = other.length := by
  obtain ⟨⟨first,recorded,rfl⟩,most⟩ := one
  obtain ⟨⟨second,known,rfl⟩,best⟩ := two
  exact Nat.le_antisymm (best first recorded) (most second known)

variable [Regex.Library]

theorem rank_extends_lt (valid : problem.Valid) (reached : Reached problem chart) (walk : further ∈ chart.walks)
    (extended : further.Extends place) (different : further ≠ place) : problem.rank further < problem.rank place := by
  induction further using Place.rec_trail with
  | start goal => exact absurd (Place.first_extends extended).symm different
  | step further node ih =>
    have less := rank_extend_lt valid reached walk
    rcases Place.extends_cases extended with same | shorter
    · exact absurd same different
    · by_cases equal : further = place
      · exact equal ▸ less
      · exact less.trans (ih ((reached_linked reached).step further node walk).1 shorter equal)

-- Behind every walk that may end lies one that no further walk may end behind: the rank falls with
-- every walk further on.
theorem exists_maximal (valid : problem.Valid) (reached : Reached problem chart) (walk : place ∈ chart.walks)
    (accepting : place.accepting problem.grammar = true) :
    ∃ further ∈ chart.walks, further.Extends place ∧ further.accepting problem.grammar = true ∧ chart.Maximal problem further := by
  induction rank : problem.rank place using Nat.strong_induction_on generalizing place with
  | _ rank ih =>
    by_cases maximal : chart.Maximal problem place
    · exact ⟨place,walk,.refl,accepting,maximal⟩
    · unfold Maximal at maximal
      push Not at maximal
      obtain ⟨further,begun,extended,ends,different⟩ := maximal
      have less := rank_extends_lt valid reached begun extended different
      obtain ⟨last,walkLast,behind,endsLast,most⟩ := ih _ (by omega) begun ends rfl
      exact ⟨last,walkLast,extended.trans behind,endsLast,most⟩

-- What a greedy goal would publish reaches as far as any of its walks that have ended where they may.
theorem ended_longest (valid : problem.Valid) (reached : Reached problem chart) (greedy : IsGreedy problem place.owner)
    (ended : place ∈ chart.ended) (accepting : place.accepting problem.grammar = true) :
    ∃ node, chart.Longest place.owner node ∧ place.derivation.node.length ≤ node.length := by
  have linked := reached_linked reached
  obtain ⟨further,walk,extended,ends,maximal⟩ := exists_maximal valid reached ((reached_owned reached).ended ended) accepting
  have gone := linked.ended_of_extends ended walk extended
  have recorded := ((reached_recorded reached).greedy place.owner greedy _).mpr ⟨further,gone,extended.1,ends,maximal,rfl⟩
  obtain ⟨node,longest,bound⟩ := exists_longest (reached_within valid reached) recorded
  refine ⟨node,longest,le_trans ?_ bound⟩
  have position := extended.position_le
  simp only [Place.derivation,extended.1]
  omega

end ParseForest.Session.Chart
