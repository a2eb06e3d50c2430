import ParseForest.Automaton.Json
import ParseForest.Forest.Basic
import ParseForest.Json.Reader

namespace ParseForest
open Json

namespace Goal

def toJson (goal : Goal) : Value :=
  .object [("position",.natural goal.position),("symbol",.natural goal.symbol)]

def ofJson? (value : Value) : Option Goal := do
  match ← value.record? ["position","symbol"] with
  | [position,symbol] => return ⟨← size? position,← identifier? symbol⟩
  | _ => none

end Goal

namespace Node

def toJson (node : Node) : Value :=
  .object [("category",node.goal.toJson),("length",.natural node.length)]

def ofJson? (value : Value) : Option Node := do
  match ← value.record? ["category","length"] with
  | [goal,length] => return ⟨← Goal.ofJson? goal,← size? length⟩
  | _ => none

end Node

namespace Derivation

def toJson (derivation : Derivation) : Value :=
  .object [("class",derivation.node.toJson),
    ("children",.array (derivation.children.map Node.toJson))]

def ofJson? (value : Value) : Option Derivation := do
  match ← value.record? ["class","children"] with
  | [node,children] => return ⟨← Node.ofJson? node,← children.list? Node.ofJson?⟩
  | _ => none

end Derivation

namespace Forest

def entryToJson (entry : Node × List Derivation) : Value :=
  .object [("class",entry.1.toJson),("matches",.array (entry.2.map Derivation.toJson))]

def entryOfJson? (value : Value) : Option (Node × List Derivation) := do
  match ← value.record? ["class","matches"] with
  | [node,derivations] => return (← Node.ofJson? node,← derivations.list? Derivation.ofJson?)
  | _ => none

def toJson (forest : Forest) : Value :=
  .object [("root",forest.root.toJson),("nodes",.array (forest.entries.map entryToJson))]

def render (forest : Forest) : String :=
  forest.toJson.render

def ofJson? (value : Value) : Option Forest := do
  match ← value.record? ["root","nodes"] with
  | [root,nodes] =>
    return ⟨← Node.ofJson? root,.ofList (← nodes.list? entryOfJson?)⟩
  | _ => none

def parse? (text : String) : Option Forest :=
  (Value.parse? text).bind ofJson?

end Forest

end ParseForest
