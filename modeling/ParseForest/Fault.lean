import ParseForest.Automaton.Layout
import ParseForest.Limits
import ParseForest.Text.Quoted

namespace ParseForest

inductive GrammarFlaw where
  | malformed
  | badPattern (terminal : String)
  | badLayout (production : String) (flaw : Automaton.LayoutFlaw)
  | unknownReference (production : String) (symbol : SymbolId)
  | undefined (production : String)
  | noSymbol (name : String)
  | other (reason : String)
  deriving DecidableEq, Repr

def GrammarFlaw.reason : GrammarFlaw → String
  | malformed => "malformed grammar JSON"
  | badPattern terminal => "terminal " ++ Text.quoted terminal
  | badLayout production flaw => "production " ++ Text.quoted production ++ ": " ++ flaw.message
  | unknownReference production symbol =>
    "production " ++ Text.quoted production ++ s!" refers to unknown symbol #{symbol}"
  | undefined production =>
    "production " ++ Text.quoted production ++ " was declared but never defined"
  | noSymbol name => "no symbol named " ++ Text.quoted name
  | other reason => reason

inductive Fault where
  | rangeOutOfBounds (start length documentLength : Nat)
  | inputTooLarge (inputSize maxSize : Nat)
  | unknownSymbol (id : SymbolId)
  | invalidGrammar (flaw : GrammarFlaw)
  | workers (message : String)
  deriving DecidableEq, Repr

def Fault.message : Fault → String
  | rangeOutOfBounds start length documentLength =>
    let stop := Limits.clampedSum start length
    s!"Range {start}..{stop} is outside a document of {documentLength} code points"
  | inputTooLarge inputSize maxSize =>
    s!"Input too large: {inputSize} code points exceeds limit of {maxSize}"
  | unknownSymbol id => s!"Unknown symbol #{id}"
  | invalidGrammar flaw => "Invalid grammar: " ++ flaw.reason
  | workers message => "Thread pool error: " ++ message

end ParseForest
