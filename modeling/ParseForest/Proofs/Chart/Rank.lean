import Mathlib
import ParseForest.Proofs.Chart.Weight

namespace ParseForest.Session

variable {problem : Problem} {place : Place} {node : Node} {goal : Goal}

theorem le_foldl_max {α : Type} (size : α → Nat) (items : List α) (start : Nat) :
    start ≤ items.foldl (fun bound item => max bound (size item)) start ∧
      ∀ item ∈ items, size item ≤ items.foldl (fun bound item => max bound (size item)) start := by
  induction items generalizing start with
  | nil => exact ⟨Nat.le_refl _,fun _ member => absurd member List.not_mem_nil⟩
  | cons first items ih =>
    obtain ⟨low,all⟩ := ih (max start (size first))
    refine ⟨(Nat.le_max_left _ _).trans low,?_⟩
    intro item member
    rcases List.mem_cons.mp member with rfl | later
    · exact (Nat.le_max_right _ _).trans low
    · exact all item later

theorem stateCount_le {id : SymbolId} {production : Production} (found : problem.grammar.production? id = some production) :
    production.automaton.stateCount ≤ problem.stateBound := by
  obtain ⟨symbol,at_id,body⟩ := Option.bind_eq_some_iff.mp found
  refine (le_foldl_max (fun production => production.automaton.stateCount) _ 0).2 production ?_
  exact List.mem_filterMap.mpr ⟨symbol,Grammar.symbol_mem at_id,body⟩

namespace Place

theorem visited_pos (grammar : Grammar) : 0 < (place.visited grammar).length := by
  refine List.length_pos_iff_exists_mem.mpr ⟨place.states grammar,?_⟩
  exact mem_visited.mpr ⟨place,.refl,rfl,rfl⟩

theorem states_lt [Regex.Library] (wellFormed : problem.grammar.WellFormed) {state : StateId}
    (member : state ∈ place.states problem.grammar) : state < problem.stateBound := by
  induction place using rec_trail generalizing state with
  | start goal =>
    rw [first_states,Grammar.entryStates,Sorted.mem_ofList,Grammar.startStates] at member
    split at member
    · rename_i production found
      exact ((wellFormed.automaton found).start.2 state member).trans_le (stateCount_le found)
    · cases member
  | step place node ih =>
    rw [extend_states,Grammar.next] at member
    split at member
    · rename_i production found
      obtain ⟨source,_,move⟩ := Automaton.mem_next.mp member
      exact ((wellFormed.automaton found).move_lt move).trans_le (stateCount_le found)
    · cases member

-- As many different state sets as there are.
theorem visited_length_le [Regex.Library] (wellFormed : problem.grammar.WellFormed) (nodup : (place.visited problem.grammar).Nodup) :
    (place.visited problem.grammar).length ≤ 2 ^ problem.stateBound := by
  have ascending : ∀ set ∈ place.visited problem.grammar, Sorted.Ascending set ∧ ∀ state ∈ set, state < problem.stateBound := by
    intro set member
    obtain ⟨earlier,_,_,rfl⟩ := mem_visited.mp member
    exact ⟨states_ascending,fun state inside => states_lt wellFormed inside⟩
  have distinct : ((place.visited problem.grammar).map List.toFinset).Nodup := by
    refine List.Nodup.map_on ?_ nodup
    intro one memberOne two memberTwo same
    refine Sorted.Ascending.ext (ascending one memberOne).1 (ascending two memberTwo).1 ?_
    intro state
    rw [← List.mem_toFinset,same,List.mem_toFinset]
  calc (place.visited problem.grammar).length
      = ((place.visited problem.grammar).map List.toFinset).toFinset.card := by
        rw [List.toFinset_card_of_nodup distinct,List.length_map]
    _ ≤ (Finset.range problem.stateBound).powerset.card := by
        refine Finset.card_le_card ?_
        intro set member
        obtain ⟨states,inside,rfl⟩ := List.mem_map.mp (List.mem_toFinset.mp member)
        refine Finset.mem_powerset.mpr fun state present => ?_
        exact Finset.mem_range.mpr ((ascending states inside).2 state (List.mem_toFinset.mp present))
    _ = 2 ^ problem.stateBound := by rw [Finset.card_powerset,Finset.card_range]

end Place

-- How much further a walk can go: the text in front of it, and then the state sets not yet met here.
def Problem.rank (problem : Problem) (place : Place) : Nat :=
  (problem.text.length - place.position) * (2 ^ problem.stateBound + 1) +
    (2 ^ problem.stateBound + 1 - (place.visited problem.grammar).length)

theorem walkBound_eq : problem.walkBound = problem.positions * (2 ^ problem.stateBound + 1) + 2 := rfl

theorem rank_lt (start : problem.root.position ≤ place.position) :
    problem.rank place < problem.positions * (2 ^ problem.stateBound + 1) := by
  have met := place.visited_pos problem.grammar
  have front : problem.text.length - place.position ≤ problem.text.length - problem.root.position := by omega
  have bound := Nat.mul_le_mul_right (2 ^ problem.stateBound + 1) front
  unfold Problem.rank Problem.positions
  rw [Nat.add_mul,Nat.one_mul]
  generalize 2 ^ problem.stateBound = sets at bound ⊢
  omega

namespace Chart

variable {chart : Chart}

theorem Linked.visited_nodup (linked : chart.Linked problem) (walk : place ∈ chart.walks) :
    (place.visited problem.grammar).Nodup := by
  induction place using Place.rec_trail with
  | start goal => exact List.nodup_singleton _
  | step place node ih =>
    obtain ⟨before,continues⟩ := linked.step place node walk
    rw [Place.extend_visited]
    split
    · rename_i empty
      exact List.nodup_cons.mpr ⟨continues.admitted.2 empty,ih before⟩
    · exact List.nodup_singleton _

theorem rank_extend_lt [Regex.Library] (valid : problem.Valid) (reached : Reached problem chart) (walk : place.extend node ∈ chart.walks) :
    problem.rank (place.extend node) < problem.rank place := by
  have linked := reached_linked reached
  have inside := (reached_within valid reached).walks _ walk
  have room := Place.visited_length_le valid.wellFormed (linked.visited_nodup walk)
  have before := Place.visited_length_le valid.wellFormed (linked.visited_nodup (linked.step place node walk).1)
  unfold Problem.rank
  rw [Place.extend_position] at inside ⊢
  by_cases empty : node.length = 0
  · rw [Place.extend_visited,if_pos empty,List.length_cons] at room ⊢
    rw [empty,Nat.add_zero]
    omega
  · have front : problem.text.length - (place.position + node.length) + 1 ≤ problem.text.length - place.position := by omega
    have bound := Nat.mul_le_mul_right (2 ^ problem.stateBound + 1) front
    rw [Nat.add_mul] at bound
    rw [Place.extend_visited,if_neg empty,List.length_singleton]
    omega

end Chart

end ParseForest.Session
