import ParseForest.Sorted

namespace ParseForest

abbrev SymbolId := Nat

abbrev StateId := Nat

structure Edge where
  symbol : SymbolId
  targets : List StateId
  deriving DecidableEq, Repr

structure Automaton where
  stateCount : Nat
  start : List StateId
  accept : List StateId
  rows : List (List Edge)
  deriving DecidableEq, Repr

namespace Automaton

-- Why a mutator refuses: the automaton does not have the state, or a stored automaton that was never checked has no row
-- for it.
inductive Refusal where
  | missingState (state : StateId) (stateCount : Nat)
  | missingRow (state : StateId)
  deriving DecidableEq, Repr

def Refusal.message? : Refusal → Option String
  | missingState state stateCount =>
    some s!"state {state} out of range for an NFA with {stateCount} states"
  | missingRow _ => none

def empty (stateCount : Nat) : Automaton :=
  ⟨stateCount,[],[],List.replicate stateCount []⟩

def checkState (automaton : Automaton) (state : StateId) : Except Refusal Unit :=
  if state < automaton.stateCount then .ok ()
  else .error (.missingState state automaton.stateCount)

def addStart (automaton : Automaton) (state : StateId) : Except Refusal Automaton := do
  automaton.checkState state
  return { automaton with start := Sorted.insert automaton.start state }

def addAccept (automaton : Automaton) (state : StateId) : Except Refusal Automaton := do
  automaton.checkState state
  return { automaton with accept := Sorted.insert automaton.accept state }

-- Adds a target to the first entry for the symbol, or a new entry behind the others.
def addToRow (symbol : SymbolId) (target : StateId) : List Edge → List Edge
  | [] => [⟨symbol,[target]⟩]
  | edge :: rest =>
    if edge.symbol = symbol then { edge with targets := Sorted.insert edge.targets target } :: rest
    else edge :: addToRow symbol target rest

def addEdge (automaton : Automaton) (source : StateId) (symbol : SymbolId) (target : StateId) :
    Except Refusal Automaton := do
  automaton.checkState source
  automaton.checkState target
  if source < automaton.rows.length then
    return { automaton with rows := automaton.rows.modify source (addToRow symbol target) }
  else .error (.missingRow source)

inductive Change where
  | start (state : StateId)
  | accept (state : StateId)
  | edge (source : StateId) (symbol : SymbolId) (target : StateId)
  deriving DecidableEq, Repr

def apply (automaton : Automaton) : Change → Except Refusal Automaton
  | .start state => automaton.addStart state
  | .accept state => automaton.addAccept state
  | .edge source symbol target => automaton.addEdge source symbol target

def applyAll (automaton : Automaton) : List Change → Except Refusal Automaton
  | [] => .ok automaton
  | change :: rest => do
    let changed ← automaton.apply change
    changed.applyAll rest

def build (stateCount : Nat) (changes : List Change) : Except Refusal Automaton :=
  (empty stateCount).applyAll changes

def row (automaton : Automaton) (state : StateId) : List Edge :=
  automaton.rows.getD state []

def isAccept (automaton : Automaton) (state : StateId) : Bool :=
  Sorted.found automaton.accept state

def symbols (automaton : Automaton) : List SymbolId :=
  automaton.rows.flatten.map Edge.symbol

end Automaton

end ParseForest
