import ParseForest.Grammar.Basic
import ParseForest.Pattern.Positions

namespace ParseForest

-- A symbol of a draft; a declared production has no kind before it is defined.
structure DraftSymbol where
  name : String
  kind : Option SymbolKind
  deriving DecidableEq, Repr

structure Draft where
  symbols : List DraftSymbol := []
  literals : List (String × SymbolId) := []

namespace Draft

inductive Refusal where
  | unknownSymbol (id : SymbolId)
  | badAutomaton (refusal : Automaton.Refusal)
  deriving DecidableEq, Repr

-- Numbers are not bounded here. A program keeps them in 32 bits, so drafts of 2 ^ 32 symbols and more are left out of account.
def introduce (draft : Draft) (name : String) (kind : Option SymbolKind) : SymbolId × Draft :=
  (draft.symbols.length,{ draft with symbols := draft.symbols ++ [⟨name,kind⟩] })

def terminal (draft : Draft) (name : String) (terminal : Terminal) : SymbolId × Draft :=
  draft.introduce name (some (.terminal terminal))

-- The literal with a text, introduced under its quoted text unless it is there.
def literal (draft : Draft) (text : String) : SymbolId × Draft :=
  match draft.literals.lookup text with
  | some id => (id,draft)
  | none =>
    let (id,extended) := draft.terminal (Text.quoted text) (.literal text)
    (id,{ extended with literals := (text,id) :: extended.literals })

def declare (draft : Draft) (name : String) : SymbolId × Draft :=
  draft.introduce name none

def defineAutomaton (draft : Draft) (id : SymbolId) (automaton : Automaton) (greedy : Bool) :
    Except Refusal Draft :=
  if id < draft.symbols.length then
    .ok { draft with
      symbols := draft.symbols.modify id fun symbol =>
        { symbol with kind := some (.production ⟨automaton,greedy⟩) } }
  else .error (.unknownSymbol id)

def define (draft : Draft) (id : SymbolId) (pattern : Pattern) (greedy : Bool) :
    Except Refusal Draft :=
  match pattern.compile with
  | .ok automaton => draft.defineAutomaton id automaton greedy
  | .error refusal => .error (.badAutomaton refusal)

def production (draft : Draft) (name : String) (pattern : Pattern) (greedy : Bool) :
    Except Refusal (SymbolId × Draft) := do
  let (id,declared) := draft.declare name
  let defined ← declared.define id pattern greedy
  return (id,defined)

def finished : List DraftSymbol → Except GrammarFlaw (List GrammarSymbol)
  | [] => .ok []
  | symbol :: rest =>
    match symbol.kind with
    | none => .error (.undefined symbol.name)
    | some kind => do
      let more ← finished rest
      return ⟨symbol.name,kind⟩ :: more

variable [Regex.Library]

def build (draft : Draft) : Except Fault Grammar :=
  match finished draft.symbols with
  | .error flaw => .error (.invalidGrammar flaw)
  | .ok symbols => do
    let grammar : Grammar := ⟨symbols⟩
    grammar.validate
    return grammar

end Draft

end ParseForest
