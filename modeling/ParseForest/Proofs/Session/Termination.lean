import Mathlib
import ParseForest.Proofs.Chart.Rank
import ParseForest.Proofs.Session.Runs

namespace ParseForest.Session

-- A bound on the walks in a row that may begin with a task.
def Task.rank (problem : Problem) (places : List Place) : Task → Nat
  | .request _ => 0
  | .enter goal => problem.rank (.first goal) + 1
  | .deliver id _ => (places[id]?).elim 0 problem.rank
  | .exhausted _ => 0

variable {problem : Problem} {s next : State} {task : Task} {places : List Place} {place : Place}

theorem deliver_rank {id : WalkId} {node : Node} (found : places[id]? = some place) :
    (Task.deliver id node).rank problem places = problem.rank place := by
  simp [Task.rank,found]

namespace State

variable [Regex.Library]

theorem Coherent.rank_append (coherent : Coherent problem s) (member : task ∈ s.tasks) (begun : List Place) :
    task.rank problem (s.places ++ begun) = task.rank problem s.places := by
  cases task with
  | request goal => rfl
  | enter goal => rfl
  | deliver id node =>
    obtain ⟨place,found,_⟩ := coherent.good.mail.delivery id node (task_mem_owe.mpr member)
    obtain ⟨inside,_⟩ := List.getElem?_eq_some_iff.mp found
    simp only [Task.rank,List.getElem?_append_left inside]
  | exhausted id => rfl

theorem Coherent.start_le (valid : problem.Valid) (coherent : Coherent problem s)
    (member : place ∈ s.places) : problem.root.position ≤ place.position := by
  have within := Chart.reached_within valid coherent.reached
  have owner := ((Chart.reached_owned coherent.reached).walk place (chart_walks.mpr member)).1
  exact (Chart.mem_goals.mp (within.asked _ owner)).1.1.trans place.owner_le_position

theorem Coherent.rank_lt (valid : problem.Valid) (coherent : Coherent problem s) (member : task ∈ s.tasks) :
    task.rank problem s.places < problem.walkBound := by
  have within := Chart.reached_within valid coherent.reached
  rw [walkBound_eq]
  cases task with
  | request goal => simp [Task.rank]
  | enter goal =>
    have asked := (coherent.good.mail.enter goal (task_mem_owe.mpr member)).1
    have start := (Chart.mem_goals.mp (within.asked goal asked)).1.1
    have bound : problem.rank (.first goal) < _ := ParseForest.Session.rank_lt start
    simp only [Task.rank]
    omega
  | deliver id node =>
    obtain ⟨place,found,_⟩ := coherent.good.mail.delivery id node (task_mem_owe.mpr member)
    have bound := ParseForest.Session.rank_lt (coherent.start_le valid (List.mem_of_getElem? found))
    rw [deliver_rank found]
    omega
  | exhausted id => simp [Task.rank]

-- The walk that a task begins stays below the task.
theorem Opens.rank_lt (valid : problem.Valid) (reached : Chart.Reached problem next.chart)
    (opens : Opens problem s.places task place) (walk : place ∈ next.places) :
    problem.rank place < task.rank problem s.places := by
  cases opens with
  | enter goal => exact Nat.lt_succ_self _
  | deliver found admitted =>
    rw [deliver_rank found]
    exact Chart.rank_extend_lt valid reached (chart_walks.mpr walk)

-- A task that tells nobody anything new causes only smaller tasks.
theorem Performed.descends (valid : problem.Valid) (coherent : Coherent problem s) {before after new : List Task}
    {begun : List Place} (performed : Performed problem s next before after task new begun) :
    next.chart.weight problem < s.chart.weight problem ∨
      next.chart.weight problem = s.chart.weight problem ∧
        ∀ caused ∈ new, caused.rank problem next.places < task.rank problem s.places := by
  have reached := performed.coherent.reached
  have later := Chart.phase_later coherent.reached performed.phase
  rcases (later.weight_le valid reached).lt_or_eq with less | same
  · exact .inl less
  · rcases performed.quiet with stirred | quiet
    · exact .inl (later.weight_lt valid reached stirred)
    · refine .inr ⟨same,?_⟩
      intro caused member
      have queued : caused ∈ next.tasks := by
        rw [performed.tasks]
        exact List.mem_append_left _ member
      have here := quiet caused member
      have mail := performed.coherent.good.mail
      -- The walk that the caused task is for has begun just now.
      have opened : ∀ place, next.places[s.walks.size]? = some place →
          problem.rank place < task.rank problem s.places := by
        intro place found
        have inside := List.mem_of_getElem? found
        rw [performed.places,List.getElem?_append_right (by rw [places_length])] at found
        exact Opens.rank_lt valid reached (performed.opens place (List.mem_of_getElem? found)) inside
      cases caused with
      | request goal => cases here
      | enter goal => cases here
      | deliver id node =>
        obtain rfl := Option.some.inj here
        obtain ⟨place,found,_⟩ := mail.delivery _ node (task_mem_owe.mpr queued)
        rw [deliver_rank found]
        exact opened place found
      | exhausted id =>
        obtain rfl := Option.some.inj here
        have inside := mail.notice _ (task_mem_owe.mpr queued)
        exact Nat.zero_lt_of_lt (opened _ (List.getElem?_eq_getElem inside))

-- What may still be found out, and below that the ranks of the tasks that are left.
noncomputable def measure (problem : Problem) (s : State) : Nat × Multiset Nat :=
  (s.chart.weight problem,↑(s.tasks.map (Task.rank problem s.places)))

end State

open State

def Smaller : Nat × Multiset Nat → Nat × Multiset Nat → Prop := Prod.Lex (· < ·) (Relation.CutExpand (· < ·))

theorem smaller_wellFounded : WellFounded Smaller := WellFounded.prod_lex Nat.lt_wfRel.wf Nat.lt_wfRel.wf.cutExpand

variable [Regex.Library]

theorem State.Performed.smaller (valid : problem.Valid) (coherent : Coherent problem s) {before after new : List Task}
    {begun : List Place} (queued : s.tasks = before ++ task :: after)
    (performed : Performed problem s next before after task new begun) :
    Smaller (next.measure problem) (s.measure problem) := by
  rcases performed.descends valid coherent with less | ⟨same,below⟩
  · exact .left _ _ less
  · have kept : (before ++ after).map (Task.rank problem next.places) = (before ++ after).map (Task.rank problem s.places) := by
      rw [performed.places]
      refine List.map_congr_left fun other member => coherent.rank_append ?_ begun
      rw [queued]
      simp only [List.mem_append,List.mem_cons] at member ⊢
      tauto
    unfold State.measure
    rw [same]
    refine .right _ ⟨↑(new.map (Task.rank problem next.places)),task.rank problem s.places,?_,?_⟩
    · intro rank member
      obtain ⟨caused,inside,rfl⟩ := List.mem_map.mp (Multiset.mem_coe.mp member)
      exact below caused inside
    · rw [performed.tasks,queued,List.map_append,kept,← Multiset.coe_singleton,Multiset.coe_add,Multiset.coe_add,
        Multiset.coe_eq_coe]
      simp only [List.map_append,List.map_cons]
      grind

theorem Step.smaller (valid : problem.Valid) (coherent : Coherent problem s) (step : Step problem s next) :
    Smaller (next.measure problem) (s.measure problem) := by
  cases step with
  | task before after task queued =>
    obtain ⟨new,begun,performed⟩ := coherent.perform valid queued
    exact performed.smaller valid coherent queued
  | round idle stuck =>
    obtain ⟨after,chart,_,stirred⟩ := coherent.force idle stuck
    refine .left _ _ ?_
    rw [chart]
    exact Chart.round_later.weight_lt valid (chart ▸ after.reached) stirred

-- No order of the tasks makes a parse go on for ever.
theorem no_endless_run (valid : problem.Valid) {run : Nat → State} (start : Coherent problem (run 0))
    (steps : ∀ index, Step problem (run index) (run (index+1))) : False := by
  have coherent : ∀ index, Coherent problem (run index) := by
    intro index
    induction index with
    | zero => exact start
    | succ index ih => exact (steps index).coherent valid ih
  have : IsWellFounded _ Smaller := ⟨smaller_wellFounded⟩
  obtain ⟨index,stays⟩ := WellFounded.not_rel_apply_succ (r := Smaller) fun index => (run index).measure problem
  exact stays ((steps index).smaller valid (coherent index))

end ParseForest.Session
