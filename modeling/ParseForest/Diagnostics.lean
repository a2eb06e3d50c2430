import Std.Data.HashSet
import ParseForest.Forest.Node
import ParseForest.Grammar.Basic
import ParseForest.Report

namespace ParseForest

abbrev Site := List Goal

structure Suspect where
  goal : Goal
  bypassed : Bool
  deriving DecidableEq, Repr

namespace Suspect

def rank (first second : Suspect) : Ordering :=
  (compare first.bypassed second.bypassed).then
    ((compare second.goal.position first.goal.position).then
      (compare first.goal.symbol second.goal.symbol))

end Suspect

-- Goals are asked for in groups, the symbols that could come next at one place. A suspect is bypassed when some goal of
-- each of its groups had a match.
def unbypassedGoals (succeeded : Goal → Bool) (sites : List Site) : Std.HashSet Goal :=
  Std.HashSet.ofList (sites.filter fun site => site.all (!succeeded ·)).flatten

def rankSuspects (asked : List Goal) (succeeded : Goal → Bool) (sites : List Site) :
    List Suspect :=
  let unbypassed := unbypassedGoals succeeded sites
  let suspects := (asked.filter (!succeeded ·)).map fun goal =>
    Suspect.mk goal (!unbypassed.contains goal)
  dropRepeats (suspects.mergeSort fun first second => (first.rank second).isLE)

def frontier? (suspects : List Suspect) : Option Nat :=
  ((suspects.filter (!·.bypassed)).map (·.goal.position)).max?

def failureReport (grammar : Grammar) (document : Text.Document) (root : Node)
    (suspects : List Suspect) : Report :=
  let expectations := match frontier? suspects with
    | none => []
    | some position =>
      (suspects.filter fun suspect => !suspect.bypassed && suspect.goal.position == position).map
        fun suspect =>
          Report.expected (grammar.name suspect.goal.symbol) (.of document position position)
  .node ("Failed to match " ++ grammar.name root.symbol)
    (.of document root.position root.stop) none expectations

end ParseForest
