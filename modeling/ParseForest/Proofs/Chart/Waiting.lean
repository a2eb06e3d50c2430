import Mathlib
import ParseForest.Proofs.Chart.Exact
import ParseForest.Proofs.Chart.Phase
import ParseForest.Proofs.Chart.Rank

namespace ParseForest.Session.Chart

variable {problem : Problem} {chart next : Chart} {place : Place} {goal other : Goal} {node : Node}

-- A walk asks where it stands, and it stands behind the start of its owner.
theorem Waits.position_le (waits : chart.Waits problem goal other) : goal.position ≤ other.position := by
  obtain ⟨_,_,place,_,rfl,wanted⟩ := waits
  rw [(Place.mem_site.mp wanted).1]
  exact Place.owner_le_position

theorem waiting_position_le (path : Relation.ReflTransGen (chart.Waits problem) goal other) :
    goal.position ≤ other.position := by
  induction path with
  | refl => exact Nat.le_refl _
  | tail _ waits ih => exact ih.trans waits.position_le

theorem Stuck.reaches (stuck : chart.Stuck problem goal) (path : Relation.ReflTransGen (chart.Waits problem) goal other) :
    chart.Stuck problem other := by
  induction path with
  | refl => exact stuck
  | tail _ waits ih => exact ih.waits waits

-- The goals of a circle all stand at one position, so a walk that has moved on waits for none of them.
theorem Stuck.position_eq (stuck : chart.Stuck problem goal)
    (path : Relation.ReflTransGen (chart.Waits problem) goal other) : other.position = goal.position :=
  Nat.le_antisymm (waiting_position_le (stuck.2 other path)) (waiting_position_le path)

variable [Regex.Library]

theorem Open.production (reached : Reached problem chart) (isOpen : chart.Open goal) : IsProduction problem goal := by
  by_contra terminal
  have settled := (reached_decided reached).terminal goal isOpen.1 terminal
  rw [isOpen.2] at settled
  cases settled

-- When nothing more can happen, a walk that has not ended waits for something, itself or further on:
-- otherwise it could end. Every step further on lowers the rank.
theorem live_waits (valid : problem.Valid) (reached : Reached problem chart) (saturated : chart.Saturated problem)
    (walk : place ∈ chart.walks) (live : place ∉ chart.ended) :
    ∃ further ∈ chart.walks, further.Extends place ∧ ∃ goal ∈ further.site problem.grammar, chart.Open goal := by
  induction rank : problem.rank place using Nat.strong_induction_on generalizing place with
  | _ rank ih =>
    by_cases waiting : ∃ goal ∈ place.site problem.grammar, chart.Open goal
    · exact ⟨place,walk,.refl,waiting⟩
    · have closed : ∀ goal ∈ place.site problem.grammar, chart.Closed goal :=
        fun goal wanted unsettled => waiting ⟨goal,wanted,saturated.asked place walk goal wanted,unsettled⟩
      obtain ⟨node,continues,going⟩ : ∃ node, chart.Continues problem place node ∧ place.extend node ∉ chart.ended := by
        by_contra nothing
        push Not at nothing
        exact live (saturated.finished place ⟨walk,closed,nothing⟩)
      have begun := saturated.begun _ (.extend walk continues)
      have less := rank_extend_lt valid reached begun
      obtain ⟨further,walkFurther,extended,waits⟩ := ih _ (by omega) begun going rfl
      exact ⟨further,walkFurther,Place.extends_extend.trans extended,waits⟩

theorem Open.waits (valid : problem.Valid) (reached : Reached problem chart) (saturated : chart.Saturated problem)
    (isOpen : chart.Open goal) : ∃ other, chart.Waits problem goal other := by
  have start := saturated.begun _ (.first isOpen.1 (isOpen.production reached))
  have live : .first goal ∉ chart.ended := fun ended => saturated.settled goal ended isOpen.2
  obtain ⟨further,walk,extended,other,wanted,waiting⟩ := live_waits valid reached saturated start live
  exact ⟨other,isOpen,waiting,further,walk,extended.1,wanted⟩

theorem Stuck.ended (valid : problem.Valid) (reached : Reached problem chart) (saturated : chart.Saturated problem)
    (stuck : chart.Stuck problem place.owner) (walk : place ∈ chart.walks) (moved : place.owner.position < place.position) :
    place ∈ chart.ended := by
  by_contra live
  obtain ⟨further,begun,extended,goal,wanted,waiting⟩ := live_waits valid reached saturated walk live
  have same := stuck.position_eq (.single ⟨stuck.1,waiting,further,begun,extended.1,wanted⟩)
  have ahead := extended.position_le
  rw [(Place.mem_site.mp wanted).1] at same
  omega

-- A forced goal was stuck when a round closed it, and nothing was taken back since.
theorem reached_forced (reached : Reached problem chart) (forced : chart.status goal = .forced) :
    ∃ before, Reached problem before ∧ before.Saturated problem ∧ before.Stuck problem goal ∧
      Later (before.force problem) chart := by
  induction reached with
  | empty => cases forced
  | event before event ih =>
    obtain ⟨earlier,reached,saturated,stuck,later⟩ := ih (event_forced event forced)
    exact ⟨earlier,reached,saturated,stuck,later.trans (event_later (reached_owned before) event)⟩
  | @round chart before saturated ih =>
    rcases force_status problem chart goal with ⟨stuck,_⟩ | ⟨_,same⟩
    · exact ⟨chart,before,saturated,stuck,.refl⟩
    · obtain ⟨earlier,reached,complete,stuck,later⟩ := ih (same ▸ forced)
      exact ⟨earlier,reached,complete,stuck,later.trans round_later⟩

-- Only a goal that asks for some production can be forced.
theorem forced_asks (valid : problem.Valid) (reached : Reached problem chart) (forced : chart.status goal = .forced) :
    ∃ place ∈ chart.walks, place.owner = goal ∧ ∃ other ∈ place.site problem.grammar, IsProduction problem other := by
  obtain ⟨before,earlier,saturated,stuck,later⟩ := reached_forced reached forced
  obtain ⟨other,_,waiting,place,walk,owner,wanted⟩ := stuck.1.waits valid earlier saturated
  exact ⟨place,later.walks walk,owner,other,wanted,waiting.production earlier⟩

end ParseForest.Session.Chart
