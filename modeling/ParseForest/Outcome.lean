import ParseForest.Forest.Basic
import ParseForest.Ratio
import ParseForest.Session.Run

namespace ParseForest

-- Counters of a parse. `hits` counts the requests that met an existing goal.
structure Statistics where
  goals : Nat
  hits : Nat
  tasks : Nat
  walks : Nat
  rounds : Nat
  forced : Nat
  deriving DecidableEq, Repr

namespace Statistics

def hitRate (statistics : Statistics) : String :=
  Ratio.render statistics.hits (statistics.hits + statistics.goals)

end Statistics

structure Outcome where
  forest : Forest
  suspects : List Suspect
  lengths : Std.ExtTreeMap Goal (List Nat)
  statistics : Statistics
  deriving DecidableEq

namespace Session.State

def groupByNode (derivations : List Derivation) : Std.HashMap Node (List Derivation) :=
  derivations.foldl (fun groups derivation =>
    groups.insert derivation.node (derivation :: groups.getD derivation.node [])) {}

def nodesOf (state : State) (goal : Goal) : List (Node × List Derivation) :=
  match state.entries[goal]? with
  | none => []
  | some entry =>
    let groups := groupByNode entry.derivations
    entry.published.filterMap fun node =>
      (groups[node]?).map fun derivations => (node,sortedSet derivations)

def lengthsOf (state : State) (goal : Goal) : List Nat :=
  match state.entries[goal]? with
  | none => []
  | some entry => (entry.published.map Node.length).mergeSort

def outcome (problem : Problem) (state : State) : Outcome where
  forest := Forest.pruned problem.root (.ofList (state.goals.flatMap state.nodesOf))
  suspects := rankSuspects state.goals (fun goal => !(state.lengthsOf goal).isEmpty)
    ([problem.root.goal] :: state.sites)
  lengths := .ofList (state.goals.map fun goal => (goal,state.lengthsOf goal))
  statistics :=
    { goals := state.goals.length
      hits := state.hits
      tasks := state.finished
      walks := state.walks.size
      rounds := state.rounds
      forced := state.forced }

end Session.State

namespace Outcome

def wasAsked (outcome : Outcome) (goal : Goal) : Bool := outcome.lengths.contains goal

def lengthsOf (outcome : Outcome) (goal : Goal) : List Nat := outcome.lengths.getD goal []

def lengthTable (outcome : Outcome) : List (Goal × List Nat) := outcome.lengths.toList

def derivationCount (outcome : Outcome) : Nat :=
  (outcome.forest.entries.flatMap Prod.snd).length

def report? (outcome : Outcome) (grammar : Grammar) (document : Text.Document) : Option Report :=
  if outcome.forest.isEmpty then
    some (failureReport grammar document outcome.forest.root outcome.suspects)
  else none

end Outcome

end ParseForest
