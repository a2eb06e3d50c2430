import Mathlib
import ParseForest.Proofs.Session.Termination

namespace ParseForest.Session

variable {problem : Problem} {s next : State} {task : Task}

namespace State

-- A bound on the chain of tasks that begins with a task.
noncomputable def budget (problem : Problem) (s : State) (task : Task) : Nat :=
  s.chart.weight problem * (problem.walkBound + 1) + task.rank problem s.places + 1

theorem Coherent.budget_le [Regex.Library] (valid : problem.Valid) (coherent : Coherent problem s) (member : task ∈ s.tasks) :
    s.budget problem task ≤ problem.chainBound := by
  have small := coherent.rank_lt valid member
  have weight : s.chart.weight problem ≤ problem.goalBound * (problem.positions+2) := Chart.weight_le
  have bound := Nat.mul_le_mul_right (problem.walkBound + 1) weight
  unfold budget Problem.chainBound
  rw [Nat.add_mul]
  omega

theorem Performed.budget_lt [Regex.Library] (valid : problem.Valid) (coherent : Coherent problem s) {before after new : List Task}
    {begun : List Place} (performed : Performed problem s next before after task new begun) {caused : Task}
    (member : caused ∈ new) : next.budget problem caused < s.budget problem task := by
  have queued : caused ∈ next.tasks := by
    rw [performed.tasks]
    exact List.mem_append_left _ member
  have small := performed.coherent.rank_lt valid queued
  unfold budget
  rcases performed.descends valid coherent with less | ⟨same,below⟩
  · have bound := Nat.mul_le_mul_right (problem.walkBound + 1) (Nat.succ_le_of_lt less)
    rw [Nat.succ_mul] at bound
    omega
  · have less := below caused member
    rw [same]
    omega

end State

open State

-- A task that waits while others are dealt with gets no longer chain by that.
theorem steps_budget_le [Regex.Library] (valid : problem.Valid) (coherent : Coherent problem s) (steps : Steps problem s next)
    (member : task ∈ s.tasks) : next.budget problem task ≤ s.budget problem task := by
  have later := steps_later valid steps coherent
  have bound := Nat.mul_le_mul_right (problem.walkBound + 1) (later.weight_le valid (steps_coherent valid steps coherent).reached)
  obtain ⟨begun,places⟩ := steps_places valid steps coherent
  unfold State.budget
  rw [places,coherent.rank_append member]
  omega

theorem takeLatest_steps [Regex.Library] (valid : problem.Valid) (coherent : Coherent problem s) {rest : List Task} {follow : Nat → State → State}
    (queued : s.tasks = task :: rest)
    (followed : ∀ next new, Step problem s next → Coherent problem next → next.tasks = new ++ rest →
      (∀ caused ∈ new, next.budget problem caused < s.budget problem task) →
        Steps problem next (follow new.length next) ∧ (follow new.length next).tasks = rest) :
    Steps problem s (s.takeLatest problem follow) ∧ (s.takeLatest problem follow).tasks = rest := by
  have split : s.tasks = [] ++ task :: rest := queued
  obtain ⟨new,begun,performed⟩ := coherent.perform valid split
  have step : Step problem s _ := .task [] rest task split
  rw [List.nil_append] at performed step
  have before : s.held = rest.length + 1 := by rw [coherent.held,queued,List.length_cons]
  have after : ({ s with tasks := rest }.perform problem task).held = new.length + rest.length := by
    rw [performed.coherent.held,performed.tasks,List.length_append]
    rfl
  have count : ({ s with tasks := rest }.perform problem task).held + 1 - s.held = new.length := by
    rw [after,before]
    omega
  unfold State.takeLatest
  simp only [queued,count]
  obtain ⟨steps,left⟩ := followed _ new step performed.coherent performed.tasks fun _ member => performed.budget_lt valid coherent member
  exact ⟨Steps.trans (.tail (.refl _) step) steps,left⟩

-- The chains are cut off nowhere: the tasks at the front and all that they cause are dealt with.
theorem drain_steps [Regex.Library] (valid : problem.Valid) (chain : Nat) :
    ∀ {s : State} {first rest : List Task}, Coherent problem s → s.tasks = first ++ rest →
      (∀ task ∈ first, s.budget problem task ≤ chain) →
      Steps problem s (s.drain problem chain first.length) ∧ (s.drain problem chain first.length).tasks = rest := by
  induction chain with
  | zero =>
    intro s first rest coherent queued bounded
    cases first with
    | nil => exact ⟨.refl s,queued⟩
    | cons task first => exact absurd (bounded task List.mem_cons_self) (Nat.not_succ_le_zero _)
  | succ chain ih =>
    intro s first
    induction first using List.reverseRecOn with
    | nil =>
      intro rest coherent queued _
      exact ⟨.refl s,queued⟩
    | append_singleton first task inner =>
      intro rest coherent queued bounded
      rw [List.append_assoc] at queued
      obtain ⟨steps,left⟩ := inner coherent queued fun other member => bounded other (List.mem_append_left _ member)
      have within := bounded task (List.mem_append_right _ List.mem_cons_self)
      have inside : task ∈ s.tasks := by simp [queued]
      have waited := steps_budget_le valid coherent steps inside
      rw [List.length_append,List.length_singleton]
      obtain ⟨further,done⟩ := takeLatest_steps valid (steps_coherent valid steps coherent) left
        fun next new _ after tasks less => ih after tasks fun caused member => by
          have strict := less caused member
          omega
      exact ⟨steps.trans further,done⟩

namespace Chart

variable {chart last : Chart}

-- The goals that a round may still close.
def unclosed (problem : Problem) (chart : Chart) : Set Goal := {goal | goal ∈ problem.goals ∧ ¬chart.Closed goal}

theorem unclosed_finite : (chart.unclosed problem).Finite :=
  (Finset.finite_toSet problem.goals).subset fun _ member => Finset.mem_coe.mpr member.1

theorem unclosed_le : (chart.unclosed problem).ncard ≤ problem.goalBound := by
  refine le_trans ?_ goals_card
  rw [← Set.ncard_coe_finset]
  exact Set.ncard_le_ncard (fun _ member => Finset.mem_coe.mpr member.1) (Finset.finite_toSet _)

theorem Later.unclosed_sub (later : Later chart last) (problem : Problem) : last.unclosed problem ⊆ chart.unclosed problem :=
  fun _ member => ⟨member.1,fun closed => member.2 (later.closed_mono closed)⟩

-- Whatever is new in a round comes of a goal that was stuck.
theorem stirred_stuck (stirred : Stirred chart (chart.force problem)) : ∃ goal, chart.Stuck problem goal := by
  rcases stirred with ⟨goal,asked,fresh⟩ | ⟨goal,node,shown,fresh⟩ | ⟨goal,closed,fresh⟩
  · exact absurd asked fresh
  · rcases shown with old | ⟨stuck,_⟩
    · exact absurd old fresh
    · exact ⟨goal,stuck⟩
  · by_contra none_stuck
    rw [not_exists] at none_stuck
    refine fresh ?_
    unfold Closed at closed ⊢
    simpa only [force,if_neg (none_stuck goal)] using closed

theorem force_unclosed_lt [Regex.Library] (valid : problem.Valid) (reached : Reached problem chart)
    (stirred : Stirred chart (chart.force problem)) :
    ((chart.force problem).unclosed problem).ncard < (chart.unclosed problem).ncard := by
  obtain ⟨goal,stuck⟩ := stirred_stuck stirred
  have inside := (reached_within valid reached).asked goal stuck.1.1
  have closed : (chart.force problem).Closed goal := by simp [Closed,force,stuck]
  refine Set.ncard_lt_ncard ⟨round_later.unclosed_sub problem,?_⟩ unclosed_finite
  intro back
  exact (back ⟨inside,fun before => before stuck.1.2⟩).2 closed

end Chart

theorem runRounds_complete [Regex.Library] (valid : problem.Valid) (rounds : Nat) (steps : Steps problem (initial problem) s)
    (bounded : (s.chart.unclosed problem).ncard < rounds) :
    Complete problem (s.runRounds problem problem.chainBound rounds) := by
  induction rounds generalizing s with
  | zero => exact absurd bounded (Nat.not_lt_zero _)
  | succ rounds ih =>
    have coherent := steps_coherent valid steps initial_coherent
    obtain ⟨further,empty⟩ := drain_steps valid problem.chainBound coherent (List.append_nil _).symm
      fun task member => coherent.budget_le valid member
    rw [← coherent.held] at further empty
    unfold State.runRounds
    generalize s.drain problem problem.chainBound s.held = drained at further empty ⊢
    have here := steps_coherent valid further coherent
    have less := Set.ncard_le_ncard ((steps_later valid further coherent).unclosed_sub problem) Chart.unclosed_finite
    simp only [empty,List.isEmpty_nil,Bool.true_and,decide_eq_true_eq]
    split
    · rename_i stuck
      obtain ⟨_,chart,_,stirred⟩ := here.force empty stuck
      have fewer := Chart.force_unclosed_lt valid here.reached stirred
      refine ih (.tail (steps.trans further) (.round empty stuck)) ?_
      rw [chart]
      omega
    · rename_i still
      exact ⟨steps.trans further,no_step_iff.mpr ⟨empty,Nat.eq_zero_of_not_pos still⟩⟩

-- The run that takes the latest task first is a complete one.
theorem run_complete [Regex.Library] (valid : problem.Valid) : Complete problem (run problem) := by
  refine runRounds_complete valid _ (.refl _) ?_
  exact Nat.lt_succ_of_le Chart.unclosed_le

end ParseForest.Session
