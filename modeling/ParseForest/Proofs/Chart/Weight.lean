import Mathlib
import ParseForest.Proofs.Chart.Records
import ParseForest.Proofs.Terminal
import ParseForest.Session.Run

namespace ParseForest

theorem Grammar.terminalMatch_le [Regex.Library] {grammar : Grammar} {id : SymbolId} {text : List Char} {position length : Nat}
    (found : grammar.terminalMatch? id text position = some length) : position + length ≤ text.length := by
  obtain ⟨terminal,_,matched⟩ := Option.bind_eq_some_iff.mp found
  exact Terminal.matches_le matched

namespace Session

-- What a request that is not refused makes sure of.
structure Problem.Valid [Regex.Library] (problem : Problem) : Prop where
  wellFormed : problem.grammar.WellFormed
  root : problem.root.symbol < problem.grammar.size
  stop : problem.root.stop = problem.text.length

theorem Problem.Valid.start_le [Regex.Library] {problem : Problem} (valid : problem.Valid) : problem.root.position ≤ problem.text.length := by
  rw [← valid.stop]
  exact Nat.le_add_right _ _

-- The goals that a parse may ask for.
def Problem.goals (problem : Problem) : Finset Goal :=
  (Finset.Icc problem.root.position problem.text.length ×ˢ Finset.range problem.grammar.size).image
    fun pair => ⟨pair.1,pair.2⟩

namespace Chart

variable {problem : Problem} {chart next : Chart} {place : Place} {goal : Goal} {node : Node}

theorem mem_goals : goal ∈ problem.goals ↔
    (problem.root.position ≤ goal.position ∧ goal.position ≤ problem.text.length) ∧ goal.symbol < problem.grammar.size := by
  unfold Problem.goals
  rw [Finset.mem_image]
  constructor
  · rintro ⟨pair,member,rfl⟩
    simpa using member
  · intro inside
    exact ⟨(goal.position,goal.symbol),by simpa using inside,rfl⟩

theorem goals_card : problem.goals.card ≤ problem.goalBound := by
  refine Finset.card_image_le.trans ?_
  rw [Finset.card_product,Nat.card_Icc,Finset.card_range,Problem.goalBound,Problem.positions]
  refine Nat.mul_le_mul_right _ ?_
  omega

-- Everything happens between the start of the root and the end of the text.
structure Within (problem : Problem) (chart : Chart) : Prop where
  asked : ∀ goal ∈ chart.asked, goal ∈ problem.goals
  derivations : ∀ goal, ∀ derivation ∈ chart.derivations goal, derivation.node.stop ≤ problem.text.length
  published : ∀ goal, ∀ node ∈ chart.published goal, node.stop ≤ problem.text.length
  walks : ∀ place ∈ chart.walks, place.position ≤ problem.text.length

theorem Within.ready (within : chart.Within problem) (ready : chart.Ready problem place) :
    place.position ≤ problem.text.length := by
  cases ready with
  | @first goal asked production => exact (mem_goals.mp (within.asked goal asked)).1.2
  | @extend before node walk continues =>
    have stop := within.published _ node continues.published
    rwa [Node.stop,(Place.mem_site.mp continues.wanted).1] at stop

theorem round_within (within : chart.Within problem) : (chart.force problem).Within problem := by
  refine ⟨within.asked,within.derivations,?_,within.walks⟩
  intro goal node member
  rcases member with old | ⟨_,_,⟨derivation,recorded,rfl⟩,_⟩
  · exact within.published goal node old
  · exact within.derivations goal derivation recorded

theorem published_finite (within : chart.Within problem) (own : ∀ node ∈ chart.published goal, node.goal = goal)
    (inside : goal ∈ problem.goals) : (chart.published goal).Finite ∧ (chart.published goal).ncard ≤ problem.positions := by
  have sub : chart.published goal ⊆ ((Finset.range problem.positions).image fun length => (⟨goal,length⟩ : Node)) := by
    intro node member
    have start := (mem_goals.mp inside).1.1
    have stop := within.published goal node member
    rw [Node.stop,own node member] at stop
    refine Finset.mem_coe.mpr (Finset.mem_image.mpr ⟨node.length,?_,?_⟩)
    · rw [Finset.mem_range,Problem.positions]
      omega
    · rw [← own node member]
  refine ⟨(Finset.finite_toSet _).subset sub,?_⟩
  calc (chart.published goal).ncard
      ≤ ((Finset.range problem.positions).image fun length => (⟨goal,length⟩ : Node)).card := by
        rw [← Set.ncard_coe_finset]
        exact Set.ncard_le_ncard sub (Finset.finite_toSet _)
    _ ≤ problem.positions := Finset.card_image_le.trans (by rw [Finset.card_range])

open Classical in
-- What may still be found out about a goal.
noncomputable def cost (problem : Problem) (chart : Chart) (goal : Goal) : Nat :=
  if goal ∈ chart.asked then
    (if chart.Closed goal then 0 else 1) + (problem.positions - (chart.published goal).ncard)
  else problem.positions + 2

noncomputable def weight (problem : Problem) (chart : Chart) : Nat := ∑ goal ∈ problem.goals, chart.cost problem goal

-- Something is new that walks are told of: a goal, a node, or that a goal is closed.
def Stirred (chart next : Chart) : Prop :=
  (∃ goal ∈ next.asked, goal ∉ chart.asked) ∨ (∃ goal, ∃ node ∈ next.published goal, node ∉ chart.published goal) ∨
    ∃ goal, next.Closed goal ∧ ¬chart.Closed goal

theorem cost_le : chart.cost problem goal ≤ problem.positions + 2 := by
  unfold cost
  split
  · split <;> omega
  · exact Nat.le_refl _

theorem weight_le : chart.weight problem ≤ problem.goalBound * (problem.positions+2) :=
  calc chart.weight problem ≤ problem.goals.card * (problem.positions+2) := by
        rw [← smul_eq_mul]
        exact Finset.sum_le_card_nsmul _ _ _ fun _ _ => cost_le
    _ ≤ problem.goalBound * (problem.positions+2) := Nat.mul_le_mul_right _ goals_card

theorem Stirred.later {last : Chart} (stirred : Stirred chart next) (later : Later next last) : Stirred chart last := by
  rcases stirred with ⟨goal,asked,fresh⟩ | ⟨goal,node,shown,fresh⟩ | ⟨goal,closed,fresh⟩
  · exact .inl ⟨goal,later.asked asked,fresh⟩
  · exact .inr (.inl ⟨goal,node,later.published goal shown,fresh⟩)
  · exact .inr (.inr ⟨goal,later.closed_mono closed,fresh⟩)

theorem Stirred.earlier {first : Chart} (later : Later first chart) (stirred : Stirred chart next) : Stirred first next := by
  rcases stirred with ⟨goal,asked,fresh⟩ | ⟨goal,node,shown,fresh⟩ | ⟨goal,closed,fresh⟩
  · exact .inl ⟨goal,asked,fun before => fresh (later.asked before)⟩
  · exact .inr (.inl ⟨goal,node,shown,fun before => fresh (later.published goal before)⟩)
  · exact .inr (.inr ⟨goal,closed,fun before => fresh (later.closed_mono before)⟩)

variable [Regex.Library]

theorem Within.site (within : chart.Within problem) (valid : problem.Valid) (owned : chart.Owned problem)
    (walk : place ∈ chart.walks) (wanted : goal ∈ place.site problem.grammar) : goal ∈ problem.goals := by
  obtain ⟨here,outgoing⟩ := Place.mem_site.mp wanted
  have start := (mem_goals.mp (within.asked _ (owned.walk place walk).1)).1.1
  have further := place.owner_le_position
  have inside := within.walks place walk
  exact mem_goals.mpr ⟨by omega,valid.wellFormed.outgoing_lt outgoing⟩

theorem event_within (valid : problem.Valid) (owned : chart.Owned problem) (within : chart.Within problem)
    (event : Event problem chart next) : next.Within problem := by
  cases event with
  | ask goal fresh wanted =>
    refine ⟨?_,?_,?_,within.walks⟩
    · intro other member
      rcases Set.mem_insert_iff.mp member with rfl | before
      · rcases wanted with rfl | ⟨place,walk,wanted⟩
        · exact mem_goals.mpr ⟨⟨Nat.le_refl _,valid.start_le⟩,valid.root⟩
        · exact within.site valid owned walk wanted
      · exact within.asked other before
    · intro other derivation member
      rcases member with old | ⟨_,length,matched,rfl⟩
      · exact within.derivations other derivation old
      · exact Grammar.terminalMatch_le matched
    · intro other node member
      rcases member with old | ⟨_,length,matched,rfl⟩
      · exact within.published other node old
      · exact Grammar.terminalMatch_le matched
  | begin place fresh ready =>
    have inside := within.ready ready
    refine ⟨within.asked,?_,?_,?_⟩
    · intro other derivation member
      rcases member with old | ⟨_,_,_,rfl⟩
      · exact within.derivations other derivation old
      · rwa [Place.derivation_stop]
    · intro other node member
      rcases member with old | ⟨_,_,_,_,rfl⟩
      · exact within.published other node old
      · rwa [Place.derivation_stop]
    · intro other member
      rcases Set.mem_insert_iff.mp member with rfl | before
      · exact inside
      · exact within.walks other before
  | finish place live exhausted =>
    refine ⟨within.asked,?_,within.published,within.walks⟩
    intro other derivation member
    rcases member with old | ⟨_,_,_,_,rfl⟩
    · exact within.derivations other derivation old
    · rw [Place.derivation_stop]
      exact within.walks place exhausted.walk
  | settle goal unsettled ended =>
    refine ⟨within.asked,within.derivations,?_,within.walks⟩
    intro other node member
    rcases member with old | ⟨_,_,⟨derivation,recorded,rfl⟩,_⟩
    · exact within.published other node old
    · exact within.derivations goal derivation recorded

theorem reached_within (valid : problem.Valid) (reached : Reached problem chart) : chart.Within problem := by
  induction reached with
  | empty =>
    exact ⟨fun _ member => member.elim,fun _ _ member => member.elim,fun _ _ member => member.elim,
      fun _ member => member.elim⟩
  | event before event ih => exact event_within valid (reached_owned before) ih event
  | round _ _ ih => exact round_within ih

section Drop

variable (later : Later chart next) (valid : problem.Valid) (reached : Reached problem next)

include later valid reached

theorem Later.published_le (inside : goal ∈ problem.goals) : (chart.published goal).ncard ≤ (next.published goal).ncard ∧
    (next.published goal).ncard ≤ problem.positions ∧
    ∀ node ∈ next.published goal, node ∉ chart.published goal → (chart.published goal).ncard < (next.published goal).ncard := by
  have own : ∀ node ∈ next.published goal, node.goal = goal :=
    fun node => (reached_announced reached).goal_eq (reached_recorded reached) (reached_owned reached)
  obtain ⟨finite,bound⟩ := published_finite (reached_within valid reached) own inside
  refine ⟨Set.ncard_le_ncard (later.published goal) finite,bound,?_⟩
  intro node shown fresh
  refine Set.ncard_lt_ncard ⟨later.published goal,fun back => fresh (back shown)⟩ finite

theorem Later.cost_le (inside : goal ∈ problem.goals) : next.cost problem goal ≤ chart.cost problem goal := by
  obtain ⟨more,_,_⟩ := later.published_le valid reached inside
  unfold cost
  by_cases before : goal ∈ chart.asked
  · rw [if_pos before,if_pos (later.asked before)]
    by_cases closed : chart.Closed goal
    · rw [if_pos closed,if_pos (later.closed_mono closed)]
      omega
    · rw [if_neg closed]
      split <;> omega
  · rw [if_neg before]
    split
    · split <;> omega
    · exact Nat.le_refl _

theorem Later.cost_lt (stirred : Stirred chart next) :
    ∃ goal ∈ problem.goals, next.cost problem goal < chart.cost problem goal := by
  have owned := reached_owned reached
  have inside : ∀ goal ∈ next.asked, goal ∈ problem.goals := (reached_within valid reached).asked
  -- A goal asked for only now weighs less, whatever else is new about it.
  have asking : ∀ goal ∈ next.asked, goal ∉ chart.asked → next.cost problem goal < chart.cost problem goal := by
    intro goal asked fresh
    unfold cost
    rw [if_pos asked,if_neg fresh]
    split <;> omega
  rcases stirred with ⟨goal,asked,fresh⟩ | ⟨goal,node,shown,fresh⟩ | ⟨goal,closed,fresh⟩
  · exact ⟨goal,inside goal asked,asking goal asked fresh⟩
  · have asked := owned.published_asked shown
    refine ⟨goal,inside goal asked,?_⟩
    by_cases before : goal ∈ chart.asked
    · obtain ⟨_,bound,strict⟩ := later.published_le valid reached (inside goal asked)
      have grown := strict node shown fresh
      unfold cost
      rw [if_pos before,if_pos asked]
      by_cases closed : chart.Closed goal
      · rw [if_pos closed,if_pos (later.closed_mono closed)]
        omega
      · rw [if_neg closed]
        split <;> omega
    · exact asking goal asked before
  · have asked := owned.closed_asked closed
    refine ⟨goal,inside goal asked,?_⟩
    by_cases before : goal ∈ chart.asked
    · obtain ⟨more,_,_⟩ := later.published_le valid reached (inside goal asked)
      unfold cost
      rw [if_pos before,if_pos asked,if_pos closed,if_neg fresh]
      omega
    · exact asking goal asked before

theorem Later.weight_le : next.weight problem ≤ chart.weight problem :=
  Finset.sum_le_sum fun _ inside => later.cost_le valid reached inside

theorem Later.weight_lt (stirred : Stirred chart next) : next.weight problem < chart.weight problem :=
  Finset.sum_lt_sum (fun _ inside => later.cost_le valid reached inside) (later.cost_lt valid reached stirred)

end Drop

end Chart

end Session

end ParseForest
