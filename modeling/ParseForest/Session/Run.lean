import ParseForest.Session.Step

namespace ParseForest.Session

variable [Regex.Library]

-- Tasks are taken in any order, and goals are forced when none is left.
inductive Step (problem : Problem) : State → State → Prop where
  | task {state : State} (before after : List Task) (task : Task)
      (queued : state.tasks = before ++ task :: after) :
      Step problem state ({ state with tasks := before ++ after }.perform problem task)
  | round {state : State} (idle : state.tasks = []) (stuck : 0 < state.active) :
      Step problem state (state.force problem)

inductive Steps (problem : Problem) : State → State → Prop where
  | refl (state : State) : Steps problem state state
  | tail {first middle last : State} (steps : Steps problem first middle)
      (step : Step problem middle last) : Steps problem first last

namespace Problem

def positions (problem : Problem) : Nat :=
  problem.text.length - problem.root.position + 1

def goalBound (problem : Problem) : Nat :=
  problem.positions * problem.grammar.size

def stateBound (problem : Problem) : Nat :=
  (problem.grammar.symbols.filterMap GrammarSymbol.production?).foldl
    (fun bound production => max bound production.automaton.stateCount) 0

-- A bound on the walks in a row that begin without a new goal or a new node: the position never goes back, and no state
-- set comes twice at one position.
def walkBound (problem : Problem) : Nat :=
  problem.positions * (Nat.pow 2 problem.stateBound + 1) + 2

-- A bound on chains of tasks that cause each other. A chain goes on only by walks in a row, a new goal, a newly closed
-- goal, or a new node of a goal.
def chainBound (problem : Problem) : Nat :=
  (problem.goalBound * (problem.positions + 2) + 1) * (problem.walkBound + 1)

end Problem

namespace State

-- Takes the latest task, and then lets `follow` deal with the tasks that it has caused. Their number shows in the count
-- of tasks held, which the task itself has left.
def takeLatest (problem : Problem) (follow : Nat → State → State) (state : State) : State :=
  match state.tasks with
  | [] => state
  | task :: rest =>
    let performed := { state with tasks := rest }.perform problem task
    follow (performed.held + 1 - state.held) performed

-- Deals with the given number of latest tasks and all that they cause, in chains of at most `chain` tasks.
def drain (problem : Problem) : (chain : Nat) → (count : Nat) → State → State
  | 0,_,state => state
  | chain + 1,count,state => Nat.repeat (takeLatest problem (drain problem chain)) count state

def runRounds (problem : Problem) (chain : Nat) : (rounds : Nat) → State → State
  | 0,state => state
  | rounds + 1,state =>
    let drained := state.drain problem chain state.held
    if drained.tasks.isEmpty && 0 < drained.active then
      runRounds problem chain rounds (drained.force problem)
    else drained

-- The state at the end of the parse. Each round of forcing closes a goal, so there are no more rounds than goals.
def run (problem : Problem) : State :=
  runRounds problem problem.chainBound (problem.goalBound + 1) (initial problem)

end State

end ParseForest.Session
