import ParseForest.Automaton.Basic

namespace ParseForest.Automaton

inductive LayoutFlaw where
  | rowCount (rows stateCount : Nat)
  | missingState (state : StateId) (stateCount : Nat)
  deriving DecidableEq, Repr

def LayoutFlaw.message : LayoutFlaw → String
  | rowCount rows stateCount => s!"{rows} transition lists for {stateCount} states"
  | missingState state stateCount => s!"state {state} out of range for {stateCount} states"

def checkStates (stateCount : Nat) : List StateId → Except LayoutFlaw Unit
  | [] => .ok ()
  | state :: rest =>
    if state < stateCount then checkStates stateCount rest
    else .error (.missingState state stateCount)

def mergeEntry (edge : Edge) : List Edge → List Edge
  | [] => [edge]
  | first :: rest =>
    if first.symbol = edge.symbol then
      { first with targets := first.targets ++ edge.targets } :: rest
    else first :: mergeEntry edge rest

-- Merges entries on the same symbol, in order of first occurrence, and sorts their targets.
def canonicalRow (edges : List Edge) : List Edge :=
  (edges.foldl (fun merged edge => mergeEntry edge merged) []).map fun edge =>
    { edge with targets := Sorted.ofList edge.targets }

def checkRow (stateCount : Nat) : List Edge → Except LayoutFlaw Unit
  | [] => .ok ()
  | edge :: rest => do
    checkStates stateCount edge.targets
    checkRow stateCount rest

def checkRows (stateCount : Nat) : List (List Edge) → Except LayoutFlaw Unit
  | [] => .ok ()
  | row :: rest => do
    checkRow stateCount row
    checkRows stateCount rest

-- The canonical layout. The first flaw is named in the order row count, start states, accept states, targets by state.
def canonical (automaton : Automaton) : Except LayoutFlaw Automaton := do
  if automaton.rows.length ≠ automaton.stateCount then
    .error (.rowCount automaton.rows.length automaton.stateCount)
  else
    checkStates automaton.stateCount automaton.start
    checkStates automaton.stateCount automaton.accept
    checkRows automaton.stateCount automaton.rows
    return {
      stateCount := automaton.stateCount
      start := Sorted.ofList automaton.start
      accept := Sorted.ofList automaton.accept
      rows := automaton.rows.map canonicalRow }

end ParseForest.Automaton
