import ParseForest.Outcome

namespace ParseForest

-- Limits and names of an engine. A greatest input size of zero means that there is none. The number of workers and the
-- name of their threads have no influence on outcomes.
structure Configuration where
  workers : Option Nat := none
  maxInputSize : Nat := 100 * 1024 * 1024
  threadName : String := "ambiparse-worker"
  deriving DecidableEq, Repr

structure Engine where
  grammar : Grammar
  configuration : Configuration := {}

namespace Engine

-- The problem that a request stands for, or the fault that keeps it from being one: the input is too large, the root is
-- unknown, or the range does not lie in the document.
def problem (engine : Engine) (document : Text.Document) (root : SymbolId)
    (range : Option (Nat × Nat)) : Except Fault Session.Problem :=
  let limit := engine.configuration.maxInputSize
  let (start,length) := range.getD (0,document.length)
  if 0 < limit ∧ limit < document.length then .error (.inputTooLarge document.length limit)
  else if engine.grammar.size ≤ root then .error (.unknownSymbol root)
  else if document.length < start + length then
    .error (.rangeOutOfBounds start length document.length)
  else .ok ⟨engine.grammar,document.chars.take (start + length),.of start root length⟩

variable [Regex.Library]

def parse (engine : Engine) (document : Text.Document) (root : SymbolId)
    (range : Option (Nat × Nat)) : Except Fault Outcome := do
  let problem ← engine.problem document root range
  return (Session.State.run problem).outcome problem

def parseNamed (engine : Engine) (document : Text.Document) (name : String) :
    Except Fault Outcome := do
  let root ← engine.grammar.require name
  engine.parse document root none

end Engine

end ParseForest
