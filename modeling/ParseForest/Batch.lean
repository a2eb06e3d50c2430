import ParseForest.Engine
import ParseForest.Limits
import ParseForest.Regex.Standard

namespace ParseForest

-- A parse that was started stands for its problem and is run when it is joined: its outcome does not depend on what
-- else is under way.
abbrev Started := Except Fault Session.Problem

-- Programs run with the standard library.
variable [Regex.Library]

def Started.join (started : Started) : Except Fault Outcome :=
  started.map fun problem => (Session.State.run problem).outcome problem

namespace Batch

-- The greatest number of parses under way: the given one, or room for all when it is zero.
def window (maxInFlight count : Nat) : Nat :=
  if maxInFlight = 0 then max count 1 else maxInFlight

structure Progress where
  results : List (Except Fault Outcome) := []
  running : List Started := []

def makeRoom (window : Nat) (progress : Progress) : Progress :=
  if progress.running.length = window then
    match progress.running with
    | oldest :: rest => ⟨oldest.join :: progress.results,rest⟩
    | [] => progress
  else progress

def start (engine : Engine) (root : SymbolId) (window : Nat) (progress : Progress)
    (document : Text.Document) : Progress :=
  let roomy := makeRoom window progress
  { roomy with running := roomy.running ++ [engine.problem document root none] }

def parse (engine : Engine) (root : SymbolId) (documents : List Text.Document)
    (maxInFlight : Nat) : List (Except Fault Outcome) :=
  let progress := documents.foldl
    (start engine root (window maxInFlight documents.length)) {}
  progress.results.reverse ++ progress.running.map Started.join

def slotBytes : Nat := 32

def hasRoom (window : Nat) : Bool :=
  window * slotBytes < Limits.bytes

def parse? (engine : Engine) (root : SymbolId) (documents : List Text.Document)
    (maxInFlight : Nat) : Option (List (Except Fault Outcome)) :=
  if hasRoom (window maxInFlight documents.length) then
    some (parse engine root documents maxInFlight)
  else none

end Batch

end ParseForest
