import Std.Data.ExtTreeMap
import Std.Data.HashSet
import ParseForest.Forest.Node
import ParseForest.Grammar.Basic

namespace ParseForest

abbrev NodeTable := Std.ExtTreeMap Node (List Derivation)

structure Forest where
  root : Node
  nodes : NodeTable
  deriving DecidableEq

namespace Forest

-- Goes through children. Those that are in the table and not yet seen are marked as seen and put before the nodes that
-- wait for a visit.
def discover (table : NodeTable) (seen : Std.HashSet Node) (waiting : List Node) :
    List Node → Std.HashSet Node × List Node
  | [] => (seen,waiting)
  | child :: rest =>
    if table.contains child && !seen.contains child then
      discover table (seen.insert child) (child :: waiting) rest
    else discover table seen waiting rest

-- Visits nodes until none is waiting. Every node of the table is visited at most once, so its size bounds the number of
-- visits, which the first argument counts.
def explore (table : NodeTable) : Nat → Std.HashSet Node → List Node → NodeTable → NodeTable
  | 0,_,_,kept => kept
  | _ + 1,_,[],kept => kept
  | visits + 1,seen,node :: waiting,kept =>
    let derivations := table.getD node []
    let (seen,waiting) := discover table seen waiting (derivations.flatMap Derivation.children)
    explore table visits seen waiting (kept.insert node derivations)

def pruned (root : Node) (table : NodeTable) : Forest where
  root := root
  nodes :=
    if table.contains root then explore table table.size (Std.HashSet.ofList [root]) [root] {}
    else {}

def size (forest : Forest) : Nat := forest.nodes.size

def isEmpty (forest : Forest) : Bool := forest.nodes.isEmpty

def derivations? (forest : Forest) (node : Node) : Option (List Derivation) := forest.nodes[node]?

def contains (forest : Forest) (node : Node) : Bool := forest.nodes.contains node

def isAmbiguous (forest : Forest) : Bool :=
  forest.nodes.any fun _ derivations => 1 < derivations.length

def entries (forest : Forest) : List (Node × List Derivation) := forest.nodes.toList

def derivationLine (grammar : Grammar) (derivation : Derivation) : String :=
  let child (node : Node) : String := grammar.name node.symbol ++ s!"@{node.position}"
  "  -> [" ++ ", ".intercalate (derivation.children.map child) ++ "]\n"

def nodeLines? (grammar : Grammar) (node : Node) (derivations : List Derivation) : Option String :=
  node.stop?.map fun stop =>
    grammar.name node.symbol ++ s!"@{node.position}..{stop}\n" ++
      String.join (derivations.map (derivationLine grammar))

-- A forest as text: each node in ascending order with its derivations below it. There is no text when a node ends
-- beyond every position.
def outline? (forest : Forest) (grammar : Grammar) : Option String :=
  (forest.entries.mapM fun (node,derivations) => nodeLines? grammar node derivations).map
    String.join

end Forest

end ParseForest
