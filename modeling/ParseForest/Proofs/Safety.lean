import Mathlib
import ParseForest.Proofs.Engine

namespace ParseForest

namespace Session

open State

variable {problem : Problem} {s : State} {id : WalkId} {walk : Walk} {goal : Goal}

theorem owe_burdens {tasks : List Task} : (owe tasks).countP (fun duty => duty.burdens id = true) =
    tasks.countP fun task => task.walk? = some id := by
  induction tasks with
  | nil => rfl
  | cons task tasks ih =>
    rw [owe_cons,Multiset.countP_cons,ih,List.countP_cons]
    cases task with
    | request goal => simp [Duty.burdens,Task.walk?]
    | enter goal => simp [Duty.burdens,Task.walk?]
    | deliver other node => simp [Duty.burdens,Task.walk?]
    | exhausted other => simp [Duty.burdens,Task.walk?]

variable [Regex.Library]

-- The counter of a walk covers every task that will take something off it.
theorem State.Coherent.counter_covers (coherent : Coherent problem s) (found : s.walks[id]? = some walk) :
    s.tasks.countP (fun task => task.walk? = some id) ≤ walk.pending := by
  have frame : s.frames[id]? = some walk.frame := by rw [frames_getElem?,found]; rfl
  have balance := coherent.good.balance id walk.frame frame
  rw [pendingAt_eq found,owe_burdens] at balance
  omega

theorem State.Coherent.goal_inside (valid : problem.Valid) (coherent : Coherent problem s) (member : goal ∈ s.goals) :
    goal.symbol < problem.grammar.size ∧ problem.root.position ≤ goal.position ∧ goal.position ≤ problem.root.stop := by
  have asked := (coherent.good.books.listed goal).mp member
  obtain ⟨⟨start,stop⟩,known⟩ := Chart.mem_goals.mp ((Chart.reached_within valid coherent.reached).asked goal asked)
  exact ⟨known,start,valid.stop ▸ stop⟩

theorem State.Coherent.published_inside (valid : problem.Valid) (coherent : Coherent problem s) {entry : Entry} {node : Node}
    (found : s.entries[goal]? = some entry) (member : node ∈ entry.published) : node.stop ≤ problem.root.stop := by
  obtain ⟨_,rfl⟩ := State.entered found
  have stop := (Chart.reached_within valid coherent.reached).published goal node member
  rwa [← valid.stop] at stop

end Session

open Session

variable {engine : Engine} {document : Text.Document} {root : SymbolId} {range : Option (Nat × Nat)} {problem : Problem}
  {s : State} {start length : Nat}

-- No check of the parse fails, in whatever order tasks are taken: the counters cover what is taken
-- off them, a round of forcing has something to force, and nothing lies outside the range.
theorem no_check_fails [Regex.Library] (wellFormed : engine.grammar.WellFormed)
    (accepted : engine.problem document root range = .ok problem)
    (bounds : range.getD (0,document.length) = (start,length)) (steps : Steps problem (State.initial problem) s) :
    s.breaches = [] ∧ s.held = s.tasks.length ∧ s.active = s.openGoals.length ∧
    (∀ (id : WalkId) (walk : Walk), s.walks[id]? = some walk →
      s.tasks.countP (fun task => task.walk? = some id) ≤ walk.pending) ∧
    (s.tasks = [] → 0 < s.active → s.deadlocked ≠ []) ∧
    (∀ goal ∈ s.goals, goal.symbol < engine.grammar.size ∧ start ≤ goal.position ∧ goal.position ≤ start + length) ∧
    ∀ (goal : Goal) (entry : Entry), s.entries[goal]? = some entry → ∀ node ∈ entry.published,
      node.stop ≤ start + length ∧ (document.length < Limits.sizes → node.stop? = some node.stop) := by
  have valid := Engine.problem_valid wellFormed accepted
  have coherent := steps_coherent valid steps State.initial_coherent
  obtain ⟨grammar,_,first,extent,same,inside,_,node⟩ := Engine.problem_ok accepted
  cases bounds.symm.trans same
  have position : problem.root.position = start := by rw [node]; rfl
  have stop : problem.root.stop = start + length := by rw [node]; rfl
  refine ⟨coherent.good.breaches,coherent.held,(State.openGoals_length coherent.good).symm,
    fun _ _ => coherent.counter_covers,fun idle => (coherent.deadlocked_spec idle).2.2,?_,?_⟩
  · intro goal member
    have place := coherent.goal_inside valid member
    rwa [grammar,position,stop] at place
  · intro goal entry found node member
    have bound := coherent.published_inside valid found member
    rw [stop] at bound
    refine ⟨bound,fun small => if_pos ?_⟩
    omega

-- The small grammar with greedy pairs, at the end of its parse.
theorem pairs_unbreached : (State.run (pairProblem true)).breaches = [] ∧
    ∀ goal ∈ (State.run (pairProblem true)).goals, goal.symbol < 2 ∧ goal.position ≤ 2 := by
  have complete := run_complete (pairProblem_valid true)
  obtain ⟨breaches,_,_,_,_,goals,_⟩ := no_check_fails (pairs_wellFormed true) (pairProblem_ok true) rfl complete.steps
  exact ⟨breaches,fun goal member => ⟨(goals goal member).1,(goals goal member).2.2⟩⟩

end ParseForest
