import Mathlib
import ParseForest.Proofs.Chart.Exact

namespace ParseForest.Session.Chart

variable {problem : Problem} {chart next : Chart} {goal : Goal} {node : Node} {derivation : Derivation}

-- A node with a finite tree of recorded derivations.
inductive Grounded (chart : Chart) : Node → Prop where
  | tree {derivation : Derivation} (recorded : derivation ∈ chart.derivations derivation.node.goal)
      (parts : ∀ child ∈ derivation.children, Grounded chart child) : Grounded chart derivation.node

theorem Grounded.mono (more : ∀ goal, chart.derivations goal ⊆ next.derivations goal) (grounded : chart.Grounded node) :
    next.Grounded node := by
  induction grounded with
  | tree recorded parts ih => exact .tree (more _ recorded) ih

variable [Regex.Library]

-- Only published nodes stand in derivations, also in those recorded when their goal was closed.
theorem recorded_published (reached : Reached problem chart) (member : derivation ∈ chart.derivations goal) :
    ∀ child ∈ derivation.children, child ∈ chart.published child.goal := by
  have owned := reached_owned reached
  have recorded := reached_recorded reached
  intro child part
  by_cases production : IsProduction problem goal
  · obtain ⟨place,walk,_,_,rfl⟩ := recorded.walk owned production member
    exact ((reached_linked reached).spelled walk).2 child (List.mem_reverse.mp part)
  · obtain ⟨length,_,rfl⟩ := (recorded.terminal goal (owned.recorded_asked member) production derivation).mp member
    cases part

theorem recorded_accepted (wellFormed : problem.grammar.WellFormed) (reached : Reached problem chart) {production : Production}
    (found : problem.grammar.production? goal.symbol = some production) (member : derivation ∈ chart.derivations goal) :
    Tiles goal.position derivation.children derivation.node.stop ∧
      production.automaton.Accepts (derivation.children.map Node.symbol) := by
  have isProduction : IsProduction problem goal := isProduction_of_some found
  obtain ⟨place,walk,rfl,accepting,rfl⟩ := (reached_recorded reached).walk (reached_owned reached) isProduction member
  refine ⟨?_,(accepting_iff wellFormed found).mp accepting⟩
  rw [Place.derivation_stop]
  exact ((reached_linked reached).spelled walk).1

theorem event_derivations (event : Event problem chart next) (goal : Goal) : chart.derivations goal ⊆ next.derivations goal := by
  cases event with
  | ask other fresh wanted => exact Set.subset_union_left
  | begin place fresh ready => exact Set.subset_union_left
  | finish place live exhausted => exact Set.subset_union_left
  | settle other unsettled ended => exact subset_rfl

-- The children of a derivation are grounded before the derivation is recorded, so the node that it
-- makes public is too.
theorem Grounded.recorded (reached : Reached problem chart)
    (grounded : ∀ goal, ∀ node ∈ chart.published goal, chart.Grounded node)
    (member : derivation ∈ chart.derivations goal) : chart.Grounded derivation.node := by
  have own := (reached_recorded reached).goal_eq (reached_owned reached) member
  refine .tree (own ▸ member) fun child part => ?_
  exact grounded child.goal child (recorded_published reached member child part)

theorem event_grounded (reached : Reached problem chart) (event : Event problem chart next)
    (grounded : ∀ goal, ∀ node ∈ chart.published goal, chart.Grounded node) :
    ∀ goal, ∀ node ∈ next.published goal, next.Grounded node := by
  have more := event_derivations event
  have old : ∀ goal, ∀ node ∈ chart.published goal, next.Grounded node :=
    fun goal node shown => (grounded goal node shown).mono more
  intro goal node shown
  cases event with
  | ask other fresh wanted =>
    rcases shown with before | ⟨rfl,length,matched,rfl⟩
    · exact old goal node before
    · have leaf : Derivation.leaf ⟨goal,length⟩ ∈ (chart.ask problem goal).derivations goal := .inr ⟨rfl,length,matched,rfl⟩
      exact @Grounded.tree _ (.leaf ⟨goal,length⟩) leaf fun child part => absurd part List.not_mem_nil
  | begin place fresh ready =>
    rcases shown with before | ⟨rfl,plain,accepting,_,rfl⟩
    · exact old goal node before
    · have kept : place.derivation ∈ (chart.begin problem place).derivations place.owner := .inr ⟨rfl,plain,accepting,rfl⟩
      refine .tree kept fun child part => old child.goal child ?_
      exact (ready.spelled (reached_linked reached)).2 child (List.mem_reverse.mp part)
  | finish place live exhausted => exact old goal node shown
  | settle other unsettled ended =>
    rcases shown with before | ⟨rfl,_,⟨derivation,kept,rfl⟩,_⟩
    · exact old goal node before
    · exact (Grounded.recorded reached grounded kept).mono more

theorem round_grounded (reached : Reached problem chart)
    (grounded : ∀ goal, ∀ node ∈ chart.published goal, chart.Grounded node) :
    ∀ goal, ∀ node ∈ (chart.force problem).published goal, (chart.force problem).Grounded node := by
  intro goal node shown
  have more : ∀ goal, chart.derivations goal ⊆ (chart.force problem).derivations goal := fun _ => subset_rfl
  rcases shown with before | ⟨_,_,⟨derivation,kept,rfl⟩,_⟩
  · exact (grounded goal node before).mono more
  · exact (Grounded.recorded reached grounded kept).mono more

-- Every published node has a finite tree: the tree stood before the node was published.
theorem reached_grounded (reached : Reached problem chart) : ∀ goal, ∀ node ∈ chart.published goal, chart.Grounded node := by
  induction reached with
  | empty => exact fun _ _ member => member.elim
  | event before event ih => exact event_grounded before event ih
  | round before _ ih => exact round_grounded before ih

end ParseForest.Session.Chart
