import Mathlib
import ParseForest.Proofs.Chart.Laws

namespace ParseForest.Session.Chart

variable {problem : Problem} {chart next : Chart} {place further : Place} {goal : Goal} {node : Node}

theorem IsGreedy.production (greedy : IsGreedy problem goal) : IsProduction problem goal := by
  unfold IsGreedy Grammar.isGreedy at greedy
  split at greedy
  · rename_i symbol found
    unfold GrammarSymbol.isGreedy at greedy
    split at greedy
    · rename_i body kind
      have here : problem.grammar.production? goal.symbol = some body := Grammar.production_iff.mpr ⟨symbol,found,kind⟩
      simp [IsProduction,here]
    · cases greedy
  · cases greedy

theorem Owned.recorded_asked (owned : chart.Owned problem) {derivation : Derivation}
    (member : derivation ∈ chart.derivations goal) : goal ∈ chart.asked := by
  by_contra unasked
  rw [(owned.unasked goal unasked).2.1] at member
  exact member

-- Closed goals have a reason: terminals are settled when asked for, productions by their first walk.
structure Decided (problem : Problem) (chart : Chart) : Prop where
  terminal : ∀ goal ∈ chart.asked, ¬IsProduction problem goal → chart.status goal = .settled
  settled : ∀ goal, chart.status goal = .settled → IsProduction problem goal → .first goal ∈ chart.ended

theorem round_decided (decided : chart.Decided problem) : (chart.force problem).Decided problem := by
  constructor
  · intro goal asked terminal
    have settled := decided.terminal goal asked terminal
    exact round_later.status_eq settled (by decide)
  · intro goal settled production
    rcases force_status problem chart goal with ⟨_,forced⟩ | ⟨_,same⟩
    · rw [forced] at settled
      cases settled
    · exact decided.settled goal (same ▸ settled) production

theorem Decided.walk_ended (decided : chart.Decided problem) (linked : chart.Linked problem)
    (settled : chart.status place.owner = .settled) (production : IsProduction problem place.owner)
    (walk : place ∈ chart.walks) : place ∈ chart.ended :=
  linked.ended_of_extends (decided.settled place.owner settled production) walk Place.extends_first

-- Publications: plain goals publish what they record until they are forced, greedy ones publish
-- their longest node when they close.
structure Announced (problem : Problem) (chart : Chart) : Prop where
  recorded : ∀ goal, ∀ node ∈ chart.published goal, ∃ derivation ∈ chart.derivations goal, derivation.node = node
  plain : ∀ goal, ¬IsGreedy problem goal → chart.status goal ≠ .forced →
    ∀ derivation ∈ chart.derivations goal, derivation.node ∈ chart.published goal
  greedy_open : ∀ goal, IsGreedy problem goal → chart.status goal = .unsettled → chart.published goal = ∅
  greedy_settled : ∀ goal, IsGreedy problem goal → chart.status goal = .settled →
    ∀ node, node ∈ chart.published goal ↔ chart.Longest goal node

theorem Decided.begin_unsettled (decided : chart.Decided problem) (owned : chart.Owned problem)
    (linked : chart.Linked problem) (fresh : place ∉ chart.walks) (ready : chart.Ready problem place) :
    chart.status place.owner ≠ .settled := by
  intro settled
  have ended := decided.settled place.owner settled (ready.owner owned).2
  exact linked.ready_not_ended owned fresh ready ended Place.extends_first

theorem begin_announced (owned : chart.Owned problem) (linked : chart.Linked problem)
    (decided : chart.Decided problem) (announced : chart.Announced problem)
    (fresh : place ∉ chart.walks) (ready : chart.Ready problem place) : (chart.begin problem place).Announced problem := by
  have unsettled := decided.begin_unsettled owned linked fresh ready
  refine ⟨?_,?_,?_,?_⟩
  · intro other node member
    rcases member with old | ⟨same,plain,accepting,_,rfl⟩
    · obtain ⟨derivation,kept,equal⟩ := announced.recorded other node old
      exact ⟨derivation,.inl kept,equal⟩
    · exact ⟨place.derivation,.inr ⟨same,plain,accepting,rfl⟩,rfl⟩
  · intro other plain unforced derivation member
    rcases member with old | ⟨rfl,_,accepting,rfl⟩
    · exact .inl (announced.plain other plain unforced derivation old)
    · refine .inr ⟨rfl,plain,accepting,?_,rfl⟩
      cases status : chart.status place.owner with
      | unsettled => rfl
      | settled => exact absurd status unsettled
      | forced => exact absurd status unforced
  · intro other greedy open_here
    ext node
    simp [greedy,announced.greedy_open other greedy open_here]
  · intro other greedy settled node
    have before := announced.greedy_settled other greedy settled node
    simpa [Longest,greedy] using before

theorem finish_announced (linked : chart.Linked problem) (decided : chart.Decided problem)
    (announced : chart.Announced problem) (live : place ∉ chart.ended) (walk : place ∈ chart.walks) :
    (chart.finish problem place).Announced problem := by
  refine ⟨?_,?_,announced.greedy_open,?_⟩
  · intro other node member
    obtain ⟨derivation,kept,equal⟩ := announced.recorded other node member
    exact ⟨derivation,.inl kept,equal⟩
  · intro other plain unforced derivation member
    rcases member with old | ⟨_,greedy,_⟩
    · exact announced.plain other plain unforced derivation old
    · exact absurd greedy plain
  · intro other greedy settled node
    -- The walks of a settled goal have all ended, so this walk has another owner.
    have different : other ≠ place.owner := by
      rintro rfl
      exact live (decided.walk_ended linked settled greedy.production walk)
    have before := announced.greedy_settled other greedy settled node
    change node ∈ chart.published other ↔ _
    simpa [Longest,different] using before

theorem settle_announced (announced : chart.Announced problem) (unsettled : chart.status goal = .unsettled) :
    (chart.settle problem goal).Announced problem := by
  refine ⟨?_,?_,?_,?_⟩
  · intro other node member
    rcases member with old | ⟨rfl,_,longest⟩
    · exact announced.recorded other node old
    · exact longest.1
  · intro other plain unforced derivation member
    by_cases same : other = goal
    · subst same
      exact .inl (announced.plain other plain (by simp [unsettled]) derivation member)
    · exact .inl (announced.plain other plain (settle_status_ne same ▸ unforced) derivation member)
  · intro other greedy open_here
    have different : other ≠ goal := by
      rintro rfl
      simp [settle] at open_here
    ext node
    simp [different,announced.greedy_open other greedy (settle_status_ne different ▸ open_here)]
  · intro other greedy settled node
    rw [mem_settle_published]
    by_cases same : other = goal
    · subst same
      rw [announced.greedy_open other greedy unsettled]
      simp [greedy,Longest,settle]
    · have before := announced.greedy_settled other greedy (settle_status_ne same ▸ settled) node
      simpa [Longest,same,settle] using before

theorem round_announced (announced : chart.Announced problem) : (chart.force problem).Announced problem := by
  have free_status : ∀ goal, (chart.force problem).status goal ≠ .forced →
      ¬chart.Stuck problem goal ∧ (chart.force problem).status goal = chart.status goal := by
    intro goal unforced
    rcases force_status problem chart goal with ⟨_,forced⟩ | free
    · exact absurd forced unforced
    · exact free
  refine ⟨?_,?_,?_,?_⟩
  · intro goal node member
    rcases member with old | ⟨_,_,longest⟩
    · exact announced.recorded goal node old
    · exact longest.1
  · intro goal plain unforced derivation member
    obtain ⟨_,same⟩ := free_status goal unforced
    exact .inl (announced.plain goal plain (same ▸ unforced) derivation member)
  · intro goal greedy unsettled
    obtain ⟨free,same⟩ := free_status goal (by simp [unsettled])
    ext node
    simp [free,announced.greedy_open goal greedy (same ▸ unsettled)]
  · intro goal greedy settled node
    obtain ⟨free,same⟩ := free_status goal (by simp [settled])
    have before := announced.greedy_settled goal greedy (same ▸ settled) node
    simpa [free,Longest,force] using before

variable [Regex.Library]

theorem terminalMatch_production (production : IsProduction problem goal) :
    problem.grammar.terminalMatch? goal.symbol problem.text goal.position = none := by
  obtain ⟨body,found⟩ := Option.isSome_iff_exists.mp production
  obtain ⟨symbol,at_id,kind⟩ := Grammar.production_iff.mp found
  simp [Grammar.terminalMatch?,at_id,GrammarSymbol.terminal?,kind]

theorem not_production_of_match {length : Nat}
    (matched : problem.grammar.terminalMatch? goal.symbol problem.text goal.position = some length) :
    ¬IsProduction problem goal := by
  intro production
  rw [terminalMatch_production production] at matched
  cases matched

theorem event_decided (owned : chart.Owned problem) (decided : chart.Decided problem)
    (event : Event problem chart next) : next.Decided problem := by
  have later := event_later owned event
  have kept : ∀ goal ∈ chart.asked, ¬IsProduction problem goal → next.status goal = .settled := by
    intro goal asked terminal
    have settled := decided.terminal goal asked terminal
    exact later.status_eq settled (by decide)
  cases event with
  | ask goal fresh wanted =>
    constructor
    · intro other asked terminal
      rcases Set.mem_insert_iff.mp asked with rfl | before
      · rw [ask_status_terminal terminal,Function.update_self]
      · exact kept other before terminal
    · intro other settled production
      have different : other ≠ goal := by
        rintro rfl
        rw [ask_status_production production,(owned.unasked other fresh).1] at settled
        cases settled
      rw [ask_status_ne different] at settled
      exact decided.settled other settled production
  | begin place fresh ready => exact ⟨decided.terminal,decided.settled⟩
  | finish place live exhausted =>
    exact ⟨decided.terminal,fun goal settled production => Set.mem_insert_of_mem _ (decided.settled goal settled production)⟩
  | settle goal unsettled ended =>
    refine ⟨kept,?_⟩
    intro other settled production
    by_cases same : other = goal
    · exact same ▸ ended
    · exact decided.settled other (settle_status_ne same ▸ settled) production

theorem reached_decided (reached : Reached problem chart) : chart.Decided problem := by
  induction reached with
  | empty => exact ⟨fun _ member => member.elim,fun _ settled => by cases settled⟩
  | event before event ih => exact event_decided (reached_owned before) ih event
  | round _ _ ih => exact round_decided ih

-- Derivations: which are recorded is decided by the walks that have begun and ended.
structure Recorded (problem : Problem) (chart : Chart) : Prop where
  terminal : ∀ goal ∈ chart.asked, ¬IsProduction problem goal → ∀ derivation,
    derivation ∈ chart.derivations goal ↔ ∃ length,
      problem.grammar.terminalMatch? goal.symbol problem.text goal.position = some length ∧
        derivation = .leaf ⟨goal,length⟩
  plain : ∀ goal, IsProduction problem goal → ¬IsGreedy problem goal → ∀ derivation,
    derivation ∈ chart.derivations goal ↔ ∃ place ∈ chart.walks, place.owner = goal ∧
      place.accepting problem.grammar = true ∧ derivation = place.derivation
  greedy : ∀ goal, IsGreedy problem goal → ∀ derivation,
    derivation ∈ chart.derivations goal ↔ ∃ place ∈ chart.ended, place.owner = goal ∧
      place.accepting problem.grammar = true ∧ chart.Maximal problem place ∧ derivation = place.derivation

theorem ask_recorded (owned : chart.Owned problem) (recorded : chart.Recorded problem)
    (fresh : goal ∉ chart.asked) : (chart.ask problem goal).Recorded problem := by
  have none_new : ∀ other, IsProduction problem other → ∀ derivation,
      derivation ∈ (chart.ask problem goal).derivations other ↔ derivation ∈ chart.derivations other := by
    intro other production derivation
    rw [mem_ask_derivations]
    refine or_iff_left ?_
    rintro ⟨rfl,length,matched,_⟩
    exact not_production_of_match matched production
  refine ⟨?_,?_,?_⟩
  · intro other asked terminal derivation
    rw [mem_ask_derivations]
    rcases Set.mem_insert_iff.mp asked with rfl | before
    · simp [(owned.unasked other fresh).2.1]
    · have different : other ≠ goal := fun same => fresh (same ▸ before)
      simpa [different] using recorded.terminal other before terminal derivation
  · intro other production plain derivation
    rw [none_new other production]
    exact recorded.plain other production plain derivation
  · intro other greedy derivation
    rw [none_new other greedy.production]
    exact recorded.greedy other greedy derivation

-- A walk that begins lies behind no ended walk, so it takes nothing from what greedy goals have.
theorem begin_recorded (owned : chart.Owned problem) (linked : chart.Linked problem)
    (recorded : chart.Recorded problem) (fresh : place ∉ chart.walks) (ready : chart.Ready problem place) :
    (chart.begin problem place).Recorded problem := by
  have production := (ready.owner owned).2
  refine ⟨?_,?_,?_⟩
  · intro other asked terminal derivation
    have different : other ≠ place.owner := fun same => terminal (same ▸ production)
    rw [mem_begin_derivations,recorded.terminal other asked terminal]
    simp [different]
  · intro other production plain derivation
    rw [mem_begin_derivations,recorded.plain other production plain]
    constructor
    · rintro (⟨walk,member,rest⟩ | ⟨rfl,_,accepting,rfl⟩)
      · exact ⟨walk,Set.mem_insert_of_mem _ member,rest⟩
      · exact ⟨place,Set.mem_insert _ _,rfl,accepting,rfl⟩
    · rintro ⟨walk,member,rfl,accepting,rfl⟩
      rcases Set.mem_insert_iff.mp member with rfl | before
      · exact .inr ⟨rfl,plain,accepting,rfl⟩
      · exact .inl ⟨walk,before,rfl,accepting,rfl⟩
  · intro other greedy derivation
    have maximal : ∀ walk ∈ chart.ended, (chart.begin problem place).Maximal problem walk ↔ chart.Maximal problem walk := by
      intro walk ended
      constructor
      · intro maximal further member
        exact maximal further (Set.mem_insert_of_mem _ member)
      · intro maximal further member extended
        rcases Set.mem_insert_iff.mp member with rfl | before
        · exact absurd extended (linked.ready_not_ended owned fresh ready ended)
        · exact maximal further before extended
    rw [mem_begin_derivations,recorded.greedy other greedy]
    constructor
    · rintro (⟨walk,ended,owner,accepting,most,equal⟩ | ⟨_,plain,_⟩)
      · exact ⟨walk,ended,owner,accepting,(maximal walk ended).mpr most,equal⟩
      · exact absurd greedy plain
    · rintro ⟨walk,ended,owner,accepting,most,equal⟩
      exact .inl ⟨walk,ended,owner,accepting,(maximal walk ended).mp most,equal⟩

theorem finish_recorded (owned : chart.Owned problem) (recorded : chart.Recorded problem)
    (walk : place ∈ chart.walks) : (chart.finish problem place).Recorded problem := by
  have production := (owned.walk place walk).2
  refine ⟨?_,?_,?_⟩
  · intro other asked terminal derivation
    have different : other ≠ place.owner := fun same => terminal (same ▸ production)
    rw [mem_finish_derivations,recorded.terminal other asked terminal]
    simp [different]
  · intro other production plain derivation
    rw [mem_finish_derivations,recorded.plain other production plain]
    simp [plain,finish]
  · intro other greedy derivation
    rw [mem_finish_derivations,recorded.greedy other greedy]
    constructor
    · rintro (⟨other,ended,rest⟩ | ⟨rfl,_,accepting,most,rfl⟩)
      · exact ⟨other,Set.mem_insert_of_mem _ ended,rest⟩
      · exact ⟨place,Set.mem_insert _ _,rfl,accepting,most,rfl⟩
    · rintro ⟨other,ended,rfl,accepting,most,rfl⟩
      rcases Set.mem_insert_iff.mp ended with rfl | before
      · exact .inr ⟨rfl,greedy,accepting,most,rfl⟩
      · exact .inl ⟨other,before,rfl,accepting,most,rfl⟩

theorem reached_recorded (reached : Reached problem chart) : chart.Recorded problem := by
  induction reached with
  | empty =>
    refine ⟨fun _ member => member.elim,?_,?_⟩
    · intro goal _ _ derivation
      simp [Chart.empty]
    · intro goal _ derivation
      simp [Chart.empty]
  | event before event ih =>
    cases event with
    | ask goal fresh wanted => exact ask_recorded (reached_owned before) ih fresh
    | begin place fresh ready => exact begin_recorded (reached_owned before) (reached_linked before) ih fresh ready
    | finish place live exhausted => exact finish_recorded (reached_owned before) ih exhausted.walk
    | settle goal unsettled ended => exact ⟨ih.terminal,ih.plain,ih.greedy⟩
  | round _ _ ih => exact ⟨ih.terminal,ih.plain,ih.greedy⟩

-- Behind every derivation of a production stands a walk that has come to an end of its automaton.
theorem Recorded.walk (recorded : chart.Recorded problem) (owned : chart.Owned problem) {derivation : Derivation}
    (production : IsProduction problem goal) (member : derivation ∈ chart.derivations goal) :
    ∃ place ∈ chart.walks, place.owner = goal ∧ place.accepting problem.grammar = true ∧ derivation = place.derivation := by
  by_cases greedy : IsGreedy problem goal
  · obtain ⟨place,ended,owner,accepting,_,same⟩ := (recorded.greedy goal greedy derivation).mp member
    exact ⟨place,owned.ended ended,owner,accepting,same⟩
  · exact (recorded.plain goal production greedy derivation).mp member

theorem Recorded.goal_eq (recorded : chart.Recorded problem) (owned : chart.Owned problem) {derivation : Derivation}
    (member : derivation ∈ chart.derivations goal) : derivation.node.goal = goal := by
  by_cases production : IsProduction problem goal
  · obtain ⟨place,_,rfl,_,rfl⟩ := recorded.walk owned production member
    rfl
  · obtain ⟨length,_,rfl⟩ := (recorded.terminal goal (owned.recorded_asked member) production derivation).mp member
    rfl

theorem ask_announced (owned : chart.Owned problem) (announced : chart.Announced problem)
    (fresh : goal ∉ chart.asked) : (chart.ask problem goal).Announced problem := by
  have unknown := owned.unasked goal fresh
  have greedy_ne : ∀ other, IsGreedy problem other → (chart.ask problem goal).published other = chart.published other ∧
      (chart.ask problem goal).derivations other = chart.derivations other := by
    intro other greedy
    have none_here : other = goal → ∀ length,
        problem.grammar.terminalMatch? goal.symbol problem.text goal.position ≠ some length := by
      rintro rfl length matched
      exact not_production_of_match matched greedy.production
    constructor
    · ext node
      simp only [mem_ask_published,or_iff_left_iff_imp]
      rintro ⟨same,length,matched,_⟩
      exact absurd matched (none_here same length)
    · ext derivation
      simp only [mem_ask_derivations,or_iff_left_iff_imp]
      rintro ⟨same,length,matched,_⟩
      exact absurd matched (none_here same length)
  have status_ne : ∀ other, IsGreedy problem other → (chart.ask problem goal).status other = chart.status other := by
    intro other greedy
    by_cases same : other = goal
    · subst same
      rw [ask_status_production greedy.production]
    · exact ask_status_ne same
  refine ⟨?_,?_,?_,?_⟩
  · intro other node member
    rcases member with old | ⟨rfl,length,matched,rfl⟩
    · obtain ⟨derivation,kept,equal⟩ := announced.recorded other node old
      exact ⟨derivation,.inl kept,equal⟩
    · exact ⟨.leaf ⟨other,length⟩,.inr ⟨rfl,length,matched,rfl⟩,rfl⟩
  · intro other plain unforced derivation member
    rcases member with old | ⟨rfl,length,matched,rfl⟩
    · by_cases same : other = goal
      · rw [same,unknown.2.1] at old
        cases old
      · rw [ask_status_ne same] at unforced
        exact .inl (announced.plain other plain unforced derivation old)
    · exact .inr ⟨rfl,length,matched,rfl⟩
  · intro other greedy unsettled
    rw [(greedy_ne other greedy).1]
    exact announced.greedy_open other greedy (status_ne other greedy ▸ unsettled)
  · intro other greedy settled node
    have before := announced.greedy_settled other greedy (status_ne other greedy ▸ settled) node
    simpa only [Longest,(greedy_ne other greedy).1,(greedy_ne other greedy).2] using before

theorem reached_announced (reached : Reached problem chart) : chart.Announced problem := by
  induction reached with
  | empty =>
    refine ⟨fun _ _ member => member.elim,fun _ _ _ _ member => member.elim,fun _ _ _ => rfl,?_⟩
    intro goal _ settled
    cases settled
  | event before event ih =>
    have owned := reached_owned before
    have linked := reached_linked before
    have decided := reached_decided before
    cases event with
    | ask goal fresh wanted => exact ask_announced owned ih fresh
    | begin place fresh ready => exact begin_announced owned linked decided ih fresh ready
    | finish place live exhausted => exact finish_announced linked decided ih live exhausted.walk
    | settle goal unsettled ended => exact settle_announced ih unsettled
  | round _ _ ih => exact round_announced ih

theorem Announced.goal_eq (announced : chart.Announced problem) (recorded : chart.Recorded problem)
    (owned : chart.Owned problem) (member : node ∈ chart.published goal) : node.goal = goal := by
  obtain ⟨derivation,kept,rfl⟩ := announced.recorded goal node member
  exact recorded.goal_eq owned kept

end ParseForest.Session.Chart
