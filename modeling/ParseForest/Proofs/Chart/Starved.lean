import Mathlib
import ParseForest.Proofs.Chart.Waiting

namespace ParseForest.Session.Chart

variable {problem : Problem} {chart next : Chart} {goal one two : Goal} {node : Node}

variable [Regex.Library]

-- A production is closed by its first walk alone, between two rounds.
theorem event_closed (event : Event problem chart next) (isProduction : IsProduction problem goal)
    (closed : next.Closed goal) : chart.Closed goal ∨ chart.status goal = .unsettled ∧ .first goal ∈ chart.ended := by
  cases event with
  | ask other fresh wanted =>
    by_cases same : goal = other
    · subst same
      rw [Closed,ask_status_production isProduction] at closed
      exact .inl closed
    · rw [Closed,ask_status_ne same] at closed
      exact .inl closed
  | begin place fresh ready => exact .inl closed
  | finish place live exhausted => exact .inl closed
  | settle other unsettled ended =>
    by_cases same : goal = other
    · subst same
      exact .inr ⟨unsettled,ended⟩
    · rw [Closed,settle_status_ne same] at closed
      exact .inl closed

-- Two goals whose first walks ask for one another close together, in one round: neither can end
-- before the other is closed.
theorem mutual_forced (reached : Reached problem chart) (isProduction : IsProduction problem one)
    (alsoProduction : IsProduction problem two) (there : two ∈ (Place.first one).site problem.grammar)
    (back : one ∈ (Place.first two).site problem.grammar) (closed : chart.Closed one) : chart.status two = .forced := by
  induction reached generalizing one two with
  | empty => exact absurd rfl closed
  | @event chart next before event ih =>
    have later := event_later (reached_owned before) event
    rcases event_closed event isProduction closed with already | ⟨unsettled,ended⟩
    · have forced := ih isProduction alsoProduction there back already
      exact later.status_eq forced (by decide)
    · have other := ((reached_linked before).exhausted _ ended).closed two there
      have forced := ih alsoProduction isProduction back there other
      rw [unsettled] at forced
      cases forced
  | @round chart before saturated ih =>
    rcases force_status problem chart one with ⟨stuck,_⟩ | ⟨_,same⟩
    · have walk := saturated.begun _ (.first stuck.1.1 isProduction)
      have waiting : chart.Open two := by
        refine ⟨saturated.asked _ walk two there,?_⟩
        by_contra already
        have forced := ih alsoProduction isProduction back there already
        rw [stuck.1.2] at forced
        cases forced
      exact (stuck.waits ⟨stuck.1,waiting,_,walk,rfl,there⟩).force_status
    · rw [Closed,same] at closed
      have forced := ih isProduction alsoProduction there back closed
      exact round_later.status_eq forced (by decide)

-- The first walk of a goal asks only for greedy goals whose first walks ask for it in turn.
structure Starved (problem : Problem) (goal : Goal) : Prop where
  isProduction : IsProduction problem goal
  asks : (Place.first goal).site problem.grammar ≠ []
  greedy : ∀ other ∈ (Place.first goal).site problem.grammar, IsGreedy problem other
  back : ∀ other ∈ (Place.first goal).site problem.grammar, goal ∈ (Place.first other).site problem.grammar

-- The first walk of a starved goal neither ends nor goes on before the goal is forced.
theorem Starved.recorded (starved : Starved problem goal) (reached : Reached problem chart)
    (unforced : chart.status goal ≠ .forced) {derivation : Derivation} (member : derivation ∈ chart.derivations goal) :
    ¬IsGreedy problem goal ∧ (Place.first goal).accepting problem.grammar = true ∧ derivation = (Place.first goal).derivation := by
  have linked := reached_linked reached
  have waiting : ∀ other ∈ (Place.first goal).site problem.grammar, chart.status other = .unsettled := by
    intro other wanted
    by_contra closed
    exact unforced (mutual_forced reached (starved.greedy other wanted).production starved.isProduction
      (starved.back other wanted) wanted closed)
  have only : ∀ place ∈ chart.walks, place.owner = goal → place = .first goal := by
    rintro place walk rfl
    rcases linked.extends_cases walk Place.extends_first with same | ⟨node,continues,_⟩
    · exact same
    · have quiet := (reached_announced reached).greedy_open node.goal (starved.greedy _ continues.wanted) (waiting _ continues.wanted)
      have published := continues.published
      rw [quiet] at published
      cases published
  have live : .first goal ∉ chart.ended := by
    intro ended
    obtain ⟨other,wanted⟩ := List.exists_mem_of_ne_nil _ starved.asks
    exact (linked.exhausted _ ended).closed other wanted (waiting other wanted)
  obtain ⟨place,walk,owner,accepting,same⟩ := (reached_recorded reached).walk (reached_owned reached) starved.isProduction member
  refine ⟨?_,only place walk owner ▸ accepting,only place walk owner ▸ same⟩
  intro greedy
  obtain ⟨place,ended,owner,_⟩ := ((reached_recorded reached).greedy goal greedy derivation).mp member
  exact live (only place ((reached_owned reached).ended ended) owner ▸ ended)

-- So it publishes its empty node at most, and that only if it is plain.
theorem Starved.published (starved : Starved problem goal) (reached : Reached problem chart) (member : node ∈ chart.published goal) :
    ¬IsGreedy problem goal ∧ (Place.first goal).accepting problem.grammar = true ∧ node = (Place.first goal).derivation.node := by
  by_cases forced : chart.status goal = .forced
  · obtain ⟨before,earlier,_,stuck,later⟩ := reached_forced reached forced
    have closed : (before.force problem).Closed goal := by simp [Closed,stuck.force_status]
    rw [(later.closed goal closed).2,mem_force_published] at member
    have recorded : ∃ derivation ∈ before.derivations goal, derivation.node = node := by
      rcases member with old | ⟨_,_,longest⟩
      · exact (reached_announced earlier).recorded goal node old
      · exact longest.1
    obtain ⟨derivation,kept,rfl⟩ := recorded
    obtain ⟨plain,accepting,same⟩ := starved.recorded earlier (by simp [stuck.1.2]) kept
    exact ⟨plain,accepting,congrArg Derivation.node same⟩
  · obtain ⟨derivation,kept,rfl⟩ := (reached_announced reached).recorded goal node member
    obtain ⟨plain,accepting,same⟩ := starved.recorded reached forced kept
    exact ⟨plain,accepting,congrArg Derivation.node same⟩

end ParseForest.Session.Chart
