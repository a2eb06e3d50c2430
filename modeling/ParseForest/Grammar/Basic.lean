import ParseForest.Fault
import ParseForest.Terminal

namespace ParseForest

structure Production where
  automaton : Automaton
  greedy : Bool
  deriving DecidableEq, Repr

inductive SymbolKind where
  | terminal (terminal : Terminal)
  | production (production : Production)
  deriving DecidableEq, Repr

structure GrammarSymbol where
  name : String
  kind : SymbolKind
  deriving DecidableEq, Repr

structure Grammar where
  symbols : List GrammarSymbol
  deriving DecidableEq, Repr

namespace GrammarSymbol

def production? (symbol : GrammarSymbol) : Option Production :=
  match symbol.kind with
  | .production production => some production
  | .terminal _ => none

def terminal? (symbol : GrammarSymbol) : Option Terminal :=
  match symbol.kind with
  | .terminal terminal => some terminal
  | .production _ => none

def isGreedy (symbol : GrammarSymbol) : Bool :=
  match symbol.kind with
  | .production production => production.greedy
  | .terminal _ => false

variable [Regex.Library]

def flaw? (symbolCount : Nat) (symbol : GrammarSymbol) : Option GrammarFlaw :=
  match symbol.kind with
  | .terminal (.pattern regex) =>
    if Regex.isValid regex then none else some (.badPattern symbol.name)
  | .terminal _ => none
  | .production production =>
    (production.automaton.symbols.find? (symbolCount ≤ ·)).map (.unknownReference symbol.name)

end GrammarSymbol

namespace Grammar

def size (grammar : Grammar) : Nat := grammar.symbols.length

def symbol? (grammar : Grammar) (id : SymbolId) : Option GrammarSymbol := grammar.symbols[id]?

def findName? (grammar : Grammar) (name : String) : Option SymbolId :=
  grammar.symbols.findIdx? (·.name == name)

def name (grammar : Grammar) (id : SymbolId) : String :=
  match grammar.symbol? id with
  | some symbol => symbol.name
  | none => "?"

def require (grammar : Grammar) (name : String) : Except Fault SymbolId :=
  match grammar.findName? name with
  | some id => .ok id
  | none => .error (.invalidGrammar (.noSymbol name))

def production? (grammar : Grammar) (id : SymbolId) : Option Production :=
  (grammar.symbol? id).bind GrammarSymbol.production?

def startStates (grammar : Grammar) (id : SymbolId) : List StateId :=
  match grammar.production? id with
  | some production => production.automaton.start
  | none => []

def acceptStates (grammar : Grammar) (id : SymbolId) : List StateId :=
  match grammar.production? id with
  | some production => production.automaton.accept
  | none => []

def row (grammar : Grammar) (id : SymbolId) (state : StateId) : List Edge :=
  match grammar.production? id with
  | some production => production.automaton.row state
  | none => []

def isGreedy (grammar : Grammar) (id : SymbolId) : Bool :=
  match grammar.symbol? id with
  | some symbol => symbol.isGreedy
  | none => false

variable [Regex.Library]

def terminalMatch? (grammar : Grammar) (id : SymbolId) (text : List Char) (position : Nat) :
    Option Nat :=
  ((grammar.symbol? id).bind GrammarSymbol.terminal?).bind (·.matches? text position)

def validate (grammar : Grammar) : Except Fault Unit :=
  match grammar.symbols.findSome? (·.flaw? grammar.size) with
  | some flaw => .error (.invalidGrammar flaw)
  | none => .ok ()

end Grammar

end ParseForest
