import Mathlib
import ParseForest.Proofs.Place

namespace ParseForest.Session

-- What a parse has found out, without counters, numbers of walks and the order of discovery.
@[ext]
structure Chart where
  asked : Set Goal
  status : Goal → Status
  derivations : Goal → Set Derivation
  published : Goal → Set Node
  walks : Set Place
  ended : Set Place
  rounds : Nat
  forced : Nat

namespace Chart

def empty : Chart := ⟨∅,fun _ => .unsettled,fun _ => ∅,fun _ => ∅,∅,∅,0,0⟩

def Closed (chart : Chart) (goal : Goal) : Prop := chart.status goal ≠ .unsettled

def Open (chart : Chart) (goal : Goal) : Prop := goal ∈ chart.asked ∧ chart.status goal = .unsettled

def IsProduction (problem : Problem) (goal : Goal) : Prop :=
  (problem.grammar.production? goal.symbol).isSome = true

def IsGreedy (problem : Problem) (goal : Goal) : Prop := problem.grammar.isGreedy goal.symbol = true

theorem isProduction_of_some {problem : Problem} {goal : Goal} {production : Production}
    (found : problem.grammar.production? goal.symbol = some production) : IsProduction problem goal :=
  Option.isSome_iff_exists.mpr ⟨production,found⟩

-- A node of greatest length among those recorded for a goal.
def Longest (chart : Chart) (goal : Goal) (node : Node) : Prop :=
  (∃ derivation ∈ chart.derivations goal, derivation.node = node) ∧
    ∀ derivation ∈ chart.derivations goal, derivation.node.length ≤ node.length

-- No walk further on from a place may end.
def Maximal (problem : Problem) (chart : Chart) (place : Place) : Prop :=
  ∀ further ∈ chart.walks, further.Extends place → further.accepting problem.grammar = true → further = place

variable [Regex.Library]

-- Asks for a new goal. A terminal is decided and settled on the spot.
def ask (problem : Problem) (chart : Chart) (goal : Goal) : Chart where
  asked := insert goal chart.asked
  status := if (problem.grammar.production? goal.symbol).isSome then chart.status
    else Function.update chart.status goal .settled
  derivations other := chart.derivations other ∪ {derivation | other = goal ∧ ∃ length,
    problem.grammar.terminalMatch? goal.symbol problem.text goal.position = some length ∧
      derivation = .leaf ⟨goal,length⟩}
  published other := chart.published other ∪ {node | other = goal ∧ ∃ length,
    problem.grammar.terminalMatch? goal.symbol problem.text goal.position = some length ∧
      node = ⟨goal,length⟩}
  walks := chart.walks
  ended := chart.ended
  rounds := chart.rounds
  forced := chart.forced

-- Begins a walk. A plain production records its derivation at once, and publishes it while open.
def begin (problem : Problem) (chart : Chart) (place : Place) : Chart where
  asked := chart.asked
  status := chart.status
  derivations goal := chart.derivations goal ∪ {derivation | goal = place.owner ∧ ¬IsGreedy problem goal ∧
    place.accepting problem.grammar = true ∧ derivation = place.derivation}
  published goal := chart.published goal ∪ {node | goal = place.owner ∧ ¬IsGreedy problem goal ∧
    place.accepting problem.grammar = true ∧ chart.status goal = .unsettled ∧ node = place.derivation.node}
  walks := insert place chart.walks
  ended := chart.ended
  rounds := chart.rounds
  forced := chart.forced

-- Ends a walk. A greedy production records its derivation only now.
def finish (problem : Problem) (chart : Chart) (place : Place) : Chart where
  asked := chart.asked
  status := chart.status
  derivations goal := chart.derivations goal ∪ {derivation | goal = place.owner ∧ IsGreedy problem goal ∧
    place.accepting problem.grammar = true ∧ chart.Maximal problem place ∧ derivation = place.derivation}
  published := chart.published
  walks := chart.walks
  ended := insert place chart.ended
  rounds := chart.rounds
  forced := chart.forced

-- Settles a goal. A greedy one publishes its longest node.
def settle (problem : Problem) (chart : Chart) (goal : Goal) : Chart where
  asked := chart.asked
  status := Function.update chart.status goal .settled
  derivations := chart.derivations
  published other := chart.published other ∪ {node | other = goal ∧ IsGreedy problem goal ∧ chart.Longest goal node}
  walks := chart.walks
  ended := chart.ended
  rounds := chart.rounds
  forced := chart.forced

def Waits (problem : Problem) (chart : Chart) (one two : Goal) : Prop :=
  chart.Open one ∧ chart.Open two ∧ ∃ place ∈ chart.walks, place.owner = one ∧ two ∈ place.site problem.grammar

-- An open goal of a terminal component: whatever it waits for, directly or not, waits for it.
def Stuck (problem : Problem) (chart : Chart) (goal : Goal) : Prop :=
  chart.Open goal ∧ ∀ other, Relation.ReflTransGen (chart.Waits problem) goal other →
    Relation.ReflTransGen (chart.Waits problem) other goal

open Classical in
-- Closes every stuck goal at once.
noncomputable def force (problem : Problem) (chart : Chart) : Chart where
  asked := chart.asked
  status goal := if chart.Stuck problem goal then .forced else chart.status goal
  derivations := chart.derivations
  published goal := chart.published goal ∪ {node | chart.Stuck problem goal ∧ IsGreedy problem goal ∧ chart.Longest goal node}
  walks := chart.walks
  ended := chart.ended
  rounds := chart.rounds+1
  forced := chart.forced + {goal | chart.Stuck problem goal}.ncard

-- A node that has been published where a walk asked for it, and that leads on.
structure Continues (problem : Problem) (chart : Chart) (place : Place) (node : Node) : Prop where
  wanted : node.goal ∈ place.site problem.grammar
  published : node ∈ chart.published node.goal
  admitted : place.Admits problem.grammar node

inductive Ready (problem : Problem) (chart : Chart) : Place → Prop where
  | first {goal : Goal} (asked : goal ∈ chart.asked) (production : IsProduction problem goal) :
      Ready problem chart (.first goal)
  | extend {place : Place} {node : Node} (walk : place ∈ chart.walks) (continues : chart.Continues problem place node) :
      Ready problem chart (place.extend node)

-- Nothing more can come of a walk.
structure Exhausted (problem : Problem) (chart : Chart) (place : Place) : Prop where
  walk : place ∈ chart.walks
  closed : ∀ goal ∈ place.site problem.grammar, chart.Closed goal
  ended : ∀ node, chart.Continues problem place node → place.extend node ∈ chart.ended

-- One thing found out. Its premises are what has been found before.
inductive Event (problem : Problem) (chart : Chart) : Chart → Prop where
  | ask (goal : Goal) (fresh : goal ∉ chart.asked)
      (wanted : goal = problem.root.goal ∨ ∃ place ∈ chart.walks, goal ∈ place.site problem.grammar) :
      Event problem chart (chart.ask problem goal)
  | begin (place : Place) (fresh : place ∉ chart.walks) (ready : chart.Ready problem place) :
      Event problem chart (chart.begin problem place)
  | finish (place : Place) (live : place ∉ chart.ended) (exhausted : chart.Exhausted problem place) :
      Event problem chart (chart.finish problem place)
  | settle (goal : Goal) (unsettled : chart.status goal = .unsettled) (ended : .first goal ∈ chart.ended) :
      Event problem chart (chart.settle problem goal)

-- No event is possible any more.
structure Saturated (problem : Problem) (chart : Chart) : Prop where
  root : problem.root.goal ∈ chart.asked
  asked : ∀ place ∈ chart.walks, ∀ goal ∈ place.site problem.grammar, goal ∈ chart.asked
  begun : ∀ place, chart.Ready problem place → place ∈ chart.walks
  finished : ∀ place, chart.Exhausted problem place → place ∈ chart.ended
  settled : ∀ goal, .first goal ∈ chart.ended → chart.Closed goal

-- A stretch of events without forcing.
abbrev Phase (problem : Problem) : Chart → Chart → Prop := Relation.ReflTransGen (Event problem)

inductive Reached (problem : Problem) : Chart → Prop where
  | empty : Reached problem .empty
  | event {chart next : Chart} (reached : Reached problem chart) (event : Event problem chart next) :
      Reached problem next
  | round {chart : Chart} (reached : Reached problem chart) (saturated : chart.Saturated problem) :
      Reached problem (chart.force problem)

theorem Reached.phase {problem : Problem} {chart next : Chart} (reached : Reached problem chart)
    (phase : Phase problem chart next) : Reached problem next := by
  induction phase with
  | refl => exact reached
  | tail _ event ih => exact ih.event event

end Chart

end ParseForest.Session
