import ParseForest.Grammar.Basic

namespace ParseForest

namespace Automaton

def outgoing (automaton : Automaton) (states : List StateId) : List SymbolId :=
  Sorted.ofList (states.flatMap fun state => (automaton.row state).map Edge.symbol)

def next (automaton : Automaton) (states : List StateId) (symbol : SymbolId) : List StateId :=
  Sorted.ofList (states.flatMap fun state =>
    ((automaton.row state).filter (·.symbol == symbol)).flatMap Edge.targets)

def accepting (automaton : Automaton) (states : List StateId) : Bool :=
  states.any automaton.isAccept

end Automaton

namespace Grammar

def entryStates (grammar : Grammar) (id : SymbolId) : List StateId :=
  Sorted.ofList (grammar.startStates id)

def outgoing (grammar : Grammar) (id : SymbolId) (states : List StateId) : List SymbolId :=
  match grammar.production? id with
  | some production => production.automaton.outgoing states
  | none => []

def next (grammar : Grammar) (id : SymbolId) (states : List StateId) (symbol : SymbolId) :
    List StateId :=
  match grammar.production? id with
  | some production => production.automaton.next states symbol
  | none => []

def accepting (grammar : Grammar) (id : SymbolId) (states : List StateId) : Bool :=
  match grammar.production? id with
  | some production => production.automaton.accepting states
  | none => false

end Grammar

end ParseForest
