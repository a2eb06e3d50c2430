import Mathlib
import ParseForest.Proofs.Chart.Phase
import ParseForest.Proofs.Session.Force

namespace ParseForest.Session

variable {problem : Problem} {s next : State} {goal : Goal}

open State

variable [Regex.Library]

-- A run that has come to its end: no task is left, and no goal is left to force.
structure Complete (problem : Problem) (s : State) : Prop where
  steps : Steps problem (initial problem) s
  last : ∀ next, ¬Step problem s next

theorem no_step_iff : (∀ next, ¬Step problem s next) ↔ s.tasks = [] ∧ s.active = 0 := by
  constructor
  · intro last
    have idle : s.tasks = [] := by
      cases tasks : s.tasks with
      | nil => rfl
      | cons task rest => exact absurd (.task [] rest task tasks) (last _)
    refine ⟨idle,?_⟩
    by_contra stuck
    exact last _ (.round idle (Nat.pos_of_ne_zero stuck))
  · rintro ⟨idle,still⟩ next step
    cases step with
    | task before after task queued => simp [idle] at queued
    | round _ stuck => omega

theorem Steps.trans {first middle last : State} (one : Steps problem first middle) (two : Steps problem middle last) :
    Steps problem first last := by
  induction two with
  | refl => exact one
  | tail _ step ih => exact .tail ih step

theorem State.Coherent.open_iff (coherent : Coherent problem s) : (∃ goal, s.chart.Open goal) ↔ 0 < s.active := by
  rw [← openGoals_length coherent.good,List.length_pos_iff_exists_mem]
  simp only [mem_openGoals coherent.good]

theorem Step.coherent (valid : problem.Valid) (coherent : Coherent problem s) (step : Step problem s next) :
    Coherent problem next := by
  cases step with
  | task before after task queued =>
    obtain ⟨new,begun,performed⟩ := coherent.perform valid queued
    exact performed.coherent
  | round idle stuck => exact (coherent.force idle stuck).1

-- A task adds events to the phase that is going on, and a round begins the next phase.
theorem Step.rounds (valid : problem.Valid) (coherent : Coherent problem s) (step : Step problem s next)
    (rounds : Chart.Rounds problem .empty s.chart) : Chart.Rounds problem .empty next.chart := by
  cases step with
  | task before after task queued =>
    obtain ⟨new,begun,performed⟩ := coherent.perform valid queued
    exact rounds.extend performed.phase
  | round idle stuck =>
    rw [(coherent.force idle stuck).2.1]
    exact rounds.force (coherent.saturated idle) (coherent.open_iff.mpr stuck)

theorem Step.later (valid : problem.Valid) (coherent : Coherent problem s) (step : Step problem s next) :
    Chart.Later s.chart next.chart := by
  cases step with
  | task before after task queued =>
    obtain ⟨new,begun,performed⟩ := coherent.perform valid queued
    exact Chart.phase_later coherent.reached performed.phase
  | round idle stuck =>
    rw [(coherent.force idle stuck).2.1]
    exact Chart.round_later

theorem Step.places (valid : problem.Valid) (coherent : Coherent problem s) (step : Step problem s next) :
    ∃ begun, next.places = s.places ++ begun := by
  cases step with
  | task before after task queued =>
    obtain ⟨new,begun,performed⟩ := coherent.perform valid queued
    exact ⟨begun,performed.places⟩
  | round idle stuck => exact ⟨[],by rw [(coherent.force idle stuck).2.2.1,List.append_nil]⟩

theorem steps_coherent (valid : problem.Valid) (steps : Steps problem s next) (coherent : Coherent problem s) :
    Coherent problem next := by
  induction steps with
  | refl => exact coherent
  | tail _ step ih => exact step.coherent valid ih

theorem steps_rounds (valid : problem.Valid) (steps : Steps problem s next) (coherent : Coherent problem s)
    (rounds : Chart.Rounds problem .empty s.chart) : Chart.Rounds problem .empty next.chart := by
  induction steps with
  | refl => exact rounds
  | tail steps step ih => exact step.rounds valid (steps_coherent valid steps coherent) ih

theorem steps_later (valid : problem.Valid) (steps : Steps problem s next) (coherent : Coherent problem s) :
    Chart.Later s.chart next.chart := by
  induction steps with
  | refl => exact .refl
  | tail steps step ih => exact ih.trans (step.later valid (steps_coherent valid steps coherent))

theorem steps_places (valid : problem.Valid) (steps : Steps problem s next) (coherent : Coherent problem s) :
    ∃ begun, next.places = s.places ++ begun := by
  induction steps with
  | refl => exact ⟨[],(List.append_nil _).symm⟩
  | tail steps step ih =>
    obtain ⟨begun,places⟩ := ih
    obtain ⟨more,further⟩ := step.places valid (steps_coherent valid steps coherent)
    exact ⟨begun ++ more,by rw [further,places,List.append_assoc]⟩

namespace Complete

variable (valid : problem.Valid) (complete : Complete problem s)

include complete

theorem idle : s.tasks = [] := (no_step_iff.mp complete.last).1

theorem still : s.active = 0 := (no_step_iff.mp complete.last).2

include valid

theorem coherent : Coherent problem s := steps_coherent valid complete.steps initial_coherent

theorem reached : Chart.Reached problem s.chart := (complete.coherent valid).reached

theorem rounds : Chart.Rounds problem .empty s.chart := by
  refine steps_rounds valid complete.steps initial_coherent ?_
  rw [initial_chart]
  exact .phase .refl

theorem saturated : s.chart.Saturated problem := (complete.coherent valid).saturated complete.idle

theorem not_open : ¬s.chart.Open goal := by
  intro isOpen
  have stuck := (complete.coherent valid).open_iff.mp ⟨goal,isOpen⟩
  exact absurd complete.still (Nat.ne_of_gt stuck)

theorem closed (asked : goal ∈ s.chart.asked) : s.chart.Closed goal :=
  fun unsettled => complete.not_open valid ⟨asked,unsettled⟩

-- Whatever the order in which tasks were taken, the same has been found out.
theorem chart_unique {other : State} (also : Complete problem other) : s.chart = other.chart :=
  Chart.rounds_unique .empty (complete.rounds valid) (also.rounds valid) (complete.saturated valid) (also.saturated valid)
    (fun _ => complete.not_open valid) (fun _ => also.not_open valid)

end Complete

end ParseForest.Session
