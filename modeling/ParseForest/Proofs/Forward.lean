import Mathlib
import ParseForest.Proofs.Session.Growth
import ParseForest.Proofs.LeftRecursion

namespace ParseForest

namespace Session

open State

-- What an entry holds between the steps of a parse.
structure Entry.Kept (problem : Problem) (goal : Goal) (entry : Entry) : Prop where
  distinct : entry.published.Nodup
  own : ∀ node ∈ entry.published, node.goal = goal
  recorded : ∀ node ∈ entry.published, ∃ derivation ∈ entry.derivations, derivation.node = node
  dismissed : entry.status ≠ .unsettled → entry.waiting = []
  silent : problem.grammar.isGreedy goal.symbol = true → entry.status = .unsettled → entry.published = []

-- The lengths of what a greedy goal publishes when it is closed: one if anything is recorded.
def Entry.greatest (entry : Entry) : List Nat := (entry.derivations.map (·.node.length)).max?.toList

variable {problem : Problem} {s next : State} {goal : Goal}

theorem State.Coherent.kept [Regex.Library] (coherent : Coherent problem s) (goal : Goal) : (s.entryAt goal).Kept problem goal := by
  obtain ⟨_,_,_,_,_,published,own,_,closed⟩ := coherent.good.books
  have announced := Chart.reached_announced coherent.reached
  refine ⟨published goal,own goal,announced.recorded goal,closed goal,?_⟩
  intro greedy unsettled
  refine List.eq_nil_iff_forall_not_mem.mpr ?_
  intro node member
  have shown : node ∈ s.chart.published goal := member
  rw [announced.greedy_open goal greedy unsettled] at shown
  exact shown

-- What is published of a greedy goal when it is closed is the longest that is recorded.
theorem Step.closing [Regex.Library] (valid : problem.Valid) (coherent : State.Coherent problem s) (step : Step problem s next)
    (greedy : Chart.IsGreedy problem goal) (unsettled : s.chart.status goal = .unsettled) (closed : next.chart.Closed goal)
    (node : Node) : node ∈ next.chart.published goal ↔ next.chart.Longest goal node := by
  cases step with
  | task before after task queued =>
    obtain ⟨_,_,performed⟩ := coherent.perform valid queued
    have reached := performed.coherent.reached
    refine (Chart.reached_announced reached).greedy_settled goal greedy ?_ node
    cases status : (State.chart _).status goal with
    | unsettled => exact absurd status closed
    | settled => rfl
    | forced =>
      have earlier := Chart.phase_forced performed.phase status
      rw [unsettled] at earlier
      cases earlier
  | round idle waiting =>
    rw [(coherent.force idle waiting).2.1] at closed ⊢
    rcases Chart.force_status problem s.chart goal with ⟨stuck,_⟩ | ⟨_,same⟩
    · have silent := (Chart.reached_announced coherent.reached).greedy_open goal greedy unsettled
      rw [Chart.mem_force_published,silent]
      simp only [Set.mem_empty_iff_false,false_or,and_iff_right stuck,and_iff_right greedy]
      exact Iff.rfl
    · exact absurd (same.trans unsettled) closed

-- Of two nodes of one goal and of greatest length there is only one.
theorem Entry.Kept.published_eq {entry : Entry} (kept : entry.Kept problem goal) {longest : Node} (shown : longest ∈ entry.published)
    (same : ∀ node ∈ entry.published, node.length = longest.length) : entry.published = [longest] := by
  have only : ∀ node ∈ entry.published, node = longest := by
    intro node member
    have goals := (kept.own node member).trans (kept.own longest shown).symm
    cases node
    cases longest
    cases goals
    cases same _ member
    rfl
  have size := List.eq_replicate_of_mem only
  have single : entry.published.length ≤ 1 := by
    have distinct := kept.distinct
    rw [size] at distinct
    exact List.nodup_replicate.mp distinct
  have positive := List.length_pos_of_mem shown
  rw [size,show entry.published.length = 1 by omega]
  rfl

theorem Step.greatest [Regex.Library] (valid : problem.Valid) (coherent : State.Coherent problem s) (step : Step problem s next)
    (greedy : problem.grammar.isGreedy goal.symbol = true) (unsettled : (s.entryAt goal).status = .unsettled)
    (closed : (next.entryAt goal).status ≠ .unsettled) :
    (next.entryAt goal).published.map (·.length) = (next.entryAt goal).greatest := by
  have longest := step.closing valid coherent greedy unsettled closed
  have kept := (step.coherent valid coherent).kept goal
  generalize entered : next.entryAt goal = entry at kept ⊢
  have shown : ∀ node, node ∈ entry.published ↔ (∃ derivation ∈ entry.derivations, derivation.node = node) ∧
      ∀ derivation ∈ entry.derivations, derivation.node.length ≤ node.length := by
    intro node
    rw [← entered]
    exact longest node
  cases most : (entry.derivations.map (·.node.length)).max? with
  | none =>
    have nothing : entry.derivations = [] := by simpa using most
    have silent : entry.published = [] := by
      refine List.eq_nil_iff_forall_not_mem.mpr ?_
      intro node member
      obtain ⟨⟨derivation,recorded,_⟩,_⟩ := (shown node).mp member
      rw [nothing] at recorded
      cases recorded
    rw [Entry.greatest,most,silent]
    rfl
  | some length =>
    obtain ⟨attained,bound⟩ := List.max?_eq_some_iff.mp most
    obtain ⟨derivation,recorded,rfl⟩ := List.mem_map.mp attained
    have best : derivation.node ∈ entry.published :=
      (shown _).mpr ⟨⟨derivation,recorded,rfl⟩,fun other known => bound _ (List.mem_map_of_mem known)⟩
    have alone := kept.published_eq best (by
      intro node member
      obtain ⟨⟨other,known,rfl⟩,greatest⟩ := (shown node).mp member
      exact Nat.le_antisymm (bound _ (List.mem_map_of_mem known)) (greatest derivation recorded))
    rw [Entry.greatest,most,alone]
    rfl

-- A derivation that comes to a forced goal is only noted.
theorem State.record_forced {derivation : Derivation} (forced : (s.entryAt goal).status = .forced) :
    s.record problem goal derivation =
      s.setEntry goal { s.entryAt goal with derivations := derivation :: (s.entryAt goal).derivations } := by
  have asked : goal ∈ s.entries := by
    by_contra fresh
    rw [entryAt_unasked fresh] at forced
    cases forced
  simp only [record,entries_some asked,forced]

-- A goal that is closed in the end was closed by some step.
theorem exists_closing_step [Regex.Library] {first last : State} (steps : Steps problem first last)
    (unsettled : (first.entryAt goal).status = .unsettled) (closed : (last.entryAt goal).status ≠ .unsettled) :
    ∃ s next, Steps problem first s ∧ Step problem s next ∧ (s.entryAt goal).status = .unsettled ∧
      (next.entryAt goal).status ≠ .unsettled := by
  induction steps with
  | refl => exact absurd unsettled closed
  | @tail middle last steps step ih =>
    by_cases still : (middle.entryAt goal).status = .unsettled
    · exact ⟨middle,last,steps,step,still,closed⟩
    · exact ih still

end Session

open Session

variable {engine : Engine} {document : Text.Document} {root : SymbolId} {range : Option (Nat × Nat)} {problem : Problem}
  {s : State}

-- Entries only move forward, whatever task is taken, and a greedy goal publishes only when it is closed.
theorem entries_move_forward [Regex.Library] (wellFormed : engine.grammar.WellFormed)
    (accepted : engine.problem document root range = .ok problem) (steps : Steps problem (State.initial problem) s) :
    s.active = s.openGoals.length ∧ (∀ goal, (s.entryAt goal).Kept problem goal) ∧
    (∀ goal derivation, (s.entryAt goal).status = .forced → s.record problem goal derivation =
      s.setEntry goal { s.entryAt goal with derivations := derivation :: (s.entryAt goal).derivations }) ∧
    ∀ next, Step problem s next → s.Precedes next ∧
      ∀ goal, problem.grammar.isGreedy goal.symbol = true → (s.entryAt goal).status = .unsettled →
        (next.entryAt goal).status ≠ .unsettled →
        (next.entryAt goal).published.map (·.length) = (next.entryAt goal).greatest := by
  have valid := Engine.problem_valid wellFormed accepted
  have coherent := steps_coherent valid steps State.initial_coherent
  refine ⟨(State.openGoals_length coherent.good).symm,coherent.kept,fun _ _ => State.record_forced,?_⟩
  intro next step
  exact ⟨step.precedes,fun goal => step.greatest valid coherent⟩

-- Greedy pairs: some step of the run closes the root, and what it then publishes is the longest.
theorem pairs_closing : ∃ s next, Step (pairProblem true) s next ∧ (s.entryAt ⟨0,1⟩).published = [] ∧
    (next.entryAt ⟨0,1⟩).waiting = [] ∧ (next.entryAt ⟨0,1⟩).published.map (·.length) = (next.entryAt ⟨0,1⟩).greatest := by
  have valid := pairProblem_valid true
  have complete := run_complete valid
  have closed := complete.closed valid (complete.root_asked valid)
  have fresh : ((State.initial (pairProblem true)).entryAt ⟨0,1⟩).status = .unsettled := by
    rw [State.entryAt_unasked Std.HashMap.not_mem_empty]
  obtain ⟨s,next,steps,step,unsettled,closed⟩ := exists_closing_step complete.steps fresh closed
  obtain ⟨_,kept,_,moves⟩ := entries_move_forward (pairs_wellFormed true) (pairProblem_ok true) steps
  obtain ⟨_,keptNext,_,_⟩ := entries_move_forward (pairs_wellFormed true) (pairProblem_ok true) (steps.tail step)
  exact ⟨s,next,step,(kept _).silent rfl unsettled,(keptNext _).dismissed closed,(moves next step).2 _ rfl unsettled closed⟩

end ParseForest
