import Mathlib
import ParseForest.Proofs.Chart.Basic

namespace ParseForest.Session.Chart

variable {problem : Problem} {chart next : Chart} {place further : Place} {goal : Goal} {node : Node}

-- Membership after one change, in the form in which the laws below use it.
section Membership

variable {other : Goal} {derivation : Derivation}

@[simp] theorem mem_begin_derivations : derivation ∈ (chart.begin problem place).derivations other ↔
    derivation ∈ chart.derivations other ∨ other = place.owner ∧ ¬IsGreedy problem other ∧
      place.accepting problem.grammar = true ∧ derivation = place.derivation := Iff.rfl

@[simp] theorem mem_begin_published : node ∈ (chart.begin problem place).published other ↔
    node ∈ chart.published other ∨ other = place.owner ∧ ¬IsGreedy problem other ∧
      place.accepting problem.grammar = true ∧ chart.status other = .unsettled ∧
        node = place.derivation.node := Iff.rfl

@[simp] theorem mem_finish_derivations : derivation ∈ (chart.finish problem place).derivations other ↔
    derivation ∈ chart.derivations other ∨ other = place.owner ∧ IsGreedy problem other ∧
      place.accepting problem.grammar = true ∧ chart.Maximal problem place ∧ derivation = place.derivation := Iff.rfl

@[simp] theorem mem_settle_published : node ∈ (chart.settle problem goal).published other ↔
    node ∈ chart.published other ∨ other = goal ∧ IsGreedy problem goal ∧ chart.Longest goal node := Iff.rfl

@[simp] theorem mem_force_published : node ∈ (chart.force problem).published other ↔
    node ∈ chart.published other ∨ chart.Stuck problem other ∧ IsGreedy problem other ∧ chart.Longest other node := Iff.rfl

theorem force_status (problem : Problem) (chart : Chart) (goal : Goal) : chart.Stuck problem goal ∧ (chart.force problem).status goal = .forced ∨
    ¬chart.Stuck problem goal ∧ (chart.force problem).status goal = chart.status goal := by
  by_cases stuck : chart.Stuck problem goal
  · exact .inl ⟨stuck,if_pos stuck⟩
  · exact .inr ⟨stuck,if_neg stuck⟩

theorem Stuck.force_status (stuck : chart.Stuck problem goal) : (chart.force problem).status goal = .forced := if_pos stuck

theorem settle_status_ne (different : other ≠ goal) : (chart.settle problem goal).status other = chart.status other :=
  Function.update_of_ne different _ _

variable [Regex.Library]

@[simp] theorem mem_ask_derivations : derivation ∈ (chart.ask problem goal).derivations other ↔
    derivation ∈ chart.derivations other ∨ other = goal ∧ ∃ length,
      problem.grammar.terminalMatch? goal.symbol problem.text goal.position = some length ∧
        derivation = .leaf ⟨goal,length⟩ := Iff.rfl

@[simp] theorem mem_ask_published : node ∈ (chart.ask problem goal).published other ↔
    node ∈ chart.published other ∨ other = goal ∧ ∃ length,
      problem.grammar.terminalMatch? goal.symbol problem.text goal.position = some length ∧
        node = ⟨goal,length⟩ := Iff.rfl

theorem ask_status_production (production : IsProduction problem goal) :
    (chart.ask problem goal).status = chart.status := if_pos production

theorem ask_status_terminal (terminal : ¬IsProduction problem goal) :
    (chart.ask problem goal).status = Function.update chart.status goal .settled := if_neg terminal

theorem ask_status_ne (different : other ≠ goal) : (chart.ask problem goal).status other = chart.status other := by
  by_cases production : IsProduction problem goal
  · rw [ask_status_production production]
  · rw [ask_status_terminal production,Function.update_of_ne different]

end Membership

-- Facts are never taken back, and a closed goal publishes nothing more.
structure Later (chart next : Chart) : Prop where
  asked : chart.asked ⊆ next.asked
  walks : chart.walks ⊆ next.walks
  ended : chart.ended ⊆ next.ended
  published : ∀ goal, chart.published goal ⊆ next.published goal
  closed : ∀ goal, chart.Closed goal → next.status goal = chart.status goal ∧
    next.published goal = chart.published goal

theorem Later.refl : Later chart chart :=
  ⟨subset_rfl,subset_rfl,subset_rfl,fun _ => subset_rfl,fun _ _ => ⟨rfl,rfl⟩⟩

theorem Later.closed_mono (later : Later chart next) (closed : chart.Closed goal) : next.Closed goal := by
  unfold Closed
  rw [(later.closed goal closed).1]
  exact closed

theorem Later.status_eq (later : Later chart next) {status : Status} (known : chart.status goal = status)
    (closed : status ≠ .unsettled) : next.status goal = status := by
  subst known
  exact (later.closed goal closed).1

theorem Later.trans {last : Chart} (one : Later chart next) (two : Later next last) : Later chart last := by
  refine ⟨one.asked.trans two.asked,one.walks.trans two.walks,one.ended.trans two.ended,
    fun goal => (one.published goal).trans (two.published goal),?_⟩
  intro goal closed
  have first := one.closed goal closed
  have second := two.closed goal (one.closed_mono closed)
  exact ⟨second.1.trans first.1,second.2.trans first.2⟩

theorem Continues.later (later : Later chart next) (continues : chart.Continues problem place node) :
    next.Continues problem place node :=
  ⟨continues.wanted,later.published _ continues.published,continues.admitted⟩

-- Owners: walks work for goals that were asked for, and nothing is known of other goals.
structure Owned (problem : Problem) (chart : Chart) : Prop where
  walk : ∀ place ∈ chart.walks, place.owner ∈ chart.asked ∧ IsProduction problem place.owner
  unasked : ∀ goal ∉ chart.asked, chart.status goal = .unsettled ∧ chart.derivations goal = ∅ ∧
    chart.published goal = ∅
  ended : chart.ended ⊆ chart.walks

theorem Owned.closed_asked (owned : chart.Owned problem) (closed : chart.Closed goal) : goal ∈ chart.asked := by
  by_contra unasked
  exact closed (owned.unasked goal unasked).1

theorem Owned.published_asked (owned : chart.Owned problem) (shown : node ∈ chart.published goal) : goal ∈ chart.asked := by
  by_contra unasked
  rw [(owned.unasked goal unasked).2.2] at shown
  exact shown

theorem Ready.owner (owned : chart.Owned problem) (ready : chart.Ready problem place) :
    place.owner ∈ chart.asked ∧ IsProduction problem place.owner := by
  cases ready with
  | first asked production => exact ⟨asked,production⟩
  | @extend before node walk continues => exact owned.walk before walk

theorem empty_owned : Chart.empty.Owned problem := by
  refine ⟨?_,fun _ _ => ⟨rfl,rfl,rfl⟩,subset_rfl⟩
  intro place member
  cases member

theorem round_owned (owned : chart.Owned problem) : (chart.force problem).Owned problem := by
  refine ⟨owned.walk,?_,owned.ended⟩
  intro goal unasked
  have before := owned.unasked goal unasked
  rcases force_status problem chart goal with ⟨stuck,_⟩ | ⟨free,status⟩
  · exact absurd stuck.1.1 unasked
  · refine ⟨status.trans before.1,before.2.1,?_⟩
    ext node
    simp [free,before.2.2]

theorem round_later : Later chart (chart.force problem) := by
  refine ⟨subset_rfl,subset_rfl,subset_rfl,fun _ => Set.subset_union_left,?_⟩
  intro goal closed
  have free : ¬chart.Stuck problem goal := fun stuck => closed stuck.1.2
  refine ⟨if_neg free,?_⟩
  ext node
  simp [free]

theorem Exhausted.later (later : Later chart next) (exhausted : chart.Exhausted problem place) :
    next.Exhausted problem place := by
  refine ⟨later.walks exhausted.walk,fun goal member => later.closed_mono (exhausted.closed goal member),?_⟩
  intro node continues
  have same := (later.closed _ (exhausted.closed _ continues.wanted)).2
  exact later.ended (exhausted.ended node ⟨continues.wanted,same ▸ continues.published,continues.admitted⟩)

-- Walks: each was begun from one before it, by a node that is still published.
structure Linked (problem : Problem) (chart : Chart) : Prop where
  step : ∀ place node, place.extend node ∈ chart.walks →
    place ∈ chart.walks ∧ chart.Continues problem place node
  exhausted : ∀ place ∈ chart.ended, chart.Exhausted problem place

theorem round_linked (linked : chart.Linked problem) : (chart.force problem).Linked problem := by
  have later : Later chart (chart.force problem) := round_later
  refine ⟨?_,fun place member => (linked.exhausted place member).later later⟩
  intro place node member
  obtain ⟨walk,continues⟩ := linked.step place node member
  exact ⟨walk,continues.later later⟩

theorem Linked.walk_of_extends (linked : chart.Linked problem) (walk : further ∈ chart.walks)
    (extended : further.Extends place) : place ∈ chart.walks := by
  induction further using Place.rec_trail with
  | start goal =>
    exact Place.first_extends extended ▸ walk
  | step further node ih =>
    rcases Place.extends_cases extended with rfl | shorter
    · exact walk
    · exact ih (linked.step further node walk).1 shorter

theorem Linked.extends_cases (linked : chart.Linked problem) (walk : further ∈ chart.walks)
    (extended : further.Extends place) :
    further = place ∨ ∃ node, chart.Continues problem place node ∧ further.Extends (place.extend node) := by
  induction further using Place.rec_trail with
  | start goal => exact .inl (Place.first_extends extended).symm
  | step further node ih =>
    rcases Place.extends_cases extended with same | shorter
    · exact .inl same
    · obtain ⟨before,continues⟩ := linked.step further node walk
      rcases ih before shorter with rfl | ⟨step,leads,behind⟩
      · exact .inr ⟨node,continues,.refl⟩
      · exact .inr ⟨step,leads,behind.trans Place.extends_extend⟩

-- Whatever lies behind an ended walk has ended before it.
theorem Linked.ended_of_extends (linked : chart.Linked problem) (ended : place ∈ chart.ended)
    (walk : further ∈ chart.walks) (extended : further.Extends place) : further ∈ chart.ended := by
  induction further using Place.rec_trail with
  | start goal =>
    exact Place.first_extends extended ▸ ended
  | step further node ih =>
    rcases Place.extends_cases extended with rfl | shorter
    · exact ended
    · obtain ⟨before,continues⟩ := linked.step further node walk
      exact (linked.exhausted further (ih before shorter)).ended node continues

theorem Linked.ready_not_ended (linked : chart.Linked problem) (owned : chart.Owned problem)
    (fresh : further ∉ chart.walks) (ready : chart.Ready problem further) (ended : place ∈ chart.ended) :
    ¬further.Extends place := by
  intro extended
  cases ready with
  | @first goal asked production =>
    exact fresh (Place.first_extends extended ▸ owned.ended ended)
  | @extend before node walk continues =>
    rcases Place.extends_cases extended with rfl | shorter
    · exact fresh (owned.ended ended)
    · have gone := linked.ended_of_extends ended walk shorter
      exact fresh (owned.ended ((linked.exhausted before gone).ended node continues))

variable [Regex.Library]

theorem event_owned (owned : chart.Owned problem) (event : Event problem chart next) : next.Owned problem := by
  cases event with
  | ask goal fresh wanted =>
    refine ⟨fun place member => ⟨Set.mem_insert_of_mem _ (owned.walk place member).1,(owned.walk place member).2⟩,
      ?_,owned.ended⟩
    intro other unasked
    have different : other ≠ goal := fun same => unasked (same ▸ Set.mem_insert _ _)
    have before := owned.unasked other (fun member => unasked (Set.mem_insert_of_mem _ member))
    refine ⟨by rw [ask_status_ne different,before.1],?_,?_⟩
    · ext derivation
      simp [different,before.2.1]
    · ext node
      simp [different,before.2.2]
  | begin place fresh ready =>
    have asked := ready.owner owned
    refine ⟨?_,?_,owned.ended.trans (Set.subset_insert _ _)⟩
    · intro other member
      rcases Set.mem_insert_iff.mp member with rfl | before
      · exact asked
      · exact owned.walk other before
    · intro other unasked
      have different : other ≠ place.owner := fun same => unasked (same ▸ asked.1)
      have before := owned.unasked other unasked
      refine ⟨before.1,?_,?_⟩
      · ext derivation
        simp [different,before.2.1]
      · ext node
        simp [different,before.2.2]
  | finish place live exhausted =>
    have asked := owned.walk place exhausted.walk
    refine ⟨owned.walk,?_,Set.insert_subset exhausted.walk owned.ended⟩
    intro other unasked
    have different : other ≠ place.owner := fun same => unasked (same ▸ asked.1)
    have before := owned.unasked other unasked
    refine ⟨before.1,?_,before.2.2⟩
    ext derivation
    simp [different,before.2.1]
  | settle goal unsettled ended =>
    refine ⟨owned.walk,?_,owned.ended⟩
    intro other unasked
    have different : other ≠ goal := by
      rintro rfl
      exact unasked (owned.walk _ (owned.ended ended)).1
    have before := owned.unasked other unasked
    refine ⟨by rw [settle_status_ne different,before.1],before.2.1,?_⟩
    ext node
    simp [different,before.2.2]

theorem reached_owned (reached : Reached problem chart) : chart.Owned problem := by
  induction reached with
  | empty => exact empty_owned
  | event _ event ih => exact event_owned ih event
  | round _ _ ih => exact round_owned ih

theorem event_later (owned : chart.Owned problem) (event : Event problem chart next) : Later chart next := by
  cases event with
  | ask goal fresh wanted =>
    refine ⟨Set.subset_insert _ _,subset_rfl,subset_rfl,fun _ => Set.subset_union_left,?_⟩
    intro other closed
    have different : other ≠ goal := fun same => fresh (same ▸ owned.closed_asked closed)
    refine ⟨ask_status_ne different,?_⟩
    ext node
    simp [different]
  | begin place fresh ready =>
    refine ⟨subset_rfl,Set.subset_insert _ _,subset_rfl,fun _ => Set.subset_union_left,?_⟩
    intro other closed
    refine ⟨rfl,?_⟩
    have closed : chart.status other ≠ .unsettled := closed
    ext node
    simp [closed]
  | finish place live exhausted =>
    exact ⟨subset_rfl,subset_rfl,Set.subset_insert _ _,fun _ => subset_rfl,fun _ _ => ⟨rfl,rfl⟩⟩
  | settle goal unsettled ended =>
    refine ⟨subset_rfl,subset_rfl,subset_rfl,fun _ => Set.subset_union_left,?_⟩
    intro other closed
    have different : other ≠ goal := fun same => closed (same ▸ unsettled)
    refine ⟨settle_status_ne different,?_⟩
    ext node
    simp [different]

theorem phase_later (reached : Reached problem chart) (phase : Phase problem chart next) : Later chart next := by
  induction phase with
  | refl => exact .refl
  | tail phase event ih => exact ih.trans (event_later (reached_owned (reached.phase phase)) event)

theorem event_linked (owned : chart.Owned problem) (linked : chart.Linked problem)
    (event : Event problem chart next) : next.Linked problem := by
  have later := event_later owned event
  have old : ∀ place node, place.extend node ∈ chart.walks →
      place ∈ next.walks ∧ next.Continues problem place node := by
    intro place node member
    obtain ⟨walk,continues⟩ := linked.step place node member
    exact ⟨later.walks walk,continues.later later⟩
  have kept : ∀ place ∈ chart.ended, next.Exhausted problem place :=
    fun place member => (linked.exhausted place member).later later
  cases event with
  | ask goal fresh wanted => exact ⟨old,kept⟩
  | begin place fresh ready =>
    refine ⟨?_,kept⟩
    intro before node member
    rcases Set.mem_insert_iff.mp member with equal | walk
    · cases ready with
      | first asked production => exact absurd equal.symm Place.first_ne_extend
      | extend walk continues =>
        obtain ⟨rfl,rfl⟩ := Place.extend_inj.mp equal
        exact ⟨later.walks walk,continues.later later⟩
    · exact old before node walk
  | finish place live exhausted =>
    refine ⟨old,?_⟩
    intro other member
    rcases Set.mem_insert_iff.mp member with rfl | before
    · exact exhausted.later later
    · exact kept other before
  | settle goal unsettled ended => exact ⟨old,kept⟩

theorem reached_linked (reached : Reached problem chart) : chart.Linked problem := by
  induction reached with
  | empty => exact ⟨fun _ _ member => member.elim,fun _ member => member.elim⟩
  | event before event ih => exact event_linked (reached_owned before) ih event
  | round _ _ ih => exact round_linked ih

end ParseForest.Session.Chart
