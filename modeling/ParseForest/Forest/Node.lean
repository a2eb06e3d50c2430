import ParseForest.Automaton.Basic
import ParseForest.Limits

namespace ParseForest

@[ext]
structure Goal where
  position : Nat
  symbol : SymbolId
  deriving DecidableEq, Hashable, Repr

@[ext]
structure Node where
  goal : Goal
  length : Nat
  deriving DecidableEq, Hashable, Repr

@[ext]
structure Derivation where
  node : Node
  children : List Node
  deriving DecidableEq, Repr

instance : Ord Goal := ⟨compareLex (compareOn Goal.position) (compareOn Goal.symbol)⟩

instance : Std.TransOrd Goal :=
  inferInstanceAs (Std.TransCmp (compareLex (compareOn Goal.position) (compareOn Goal.symbol)))

instance : Std.LawfulEqOrd Goal where
  eq_of_compare same := by
    have parts := Ordering.then_eq_eq.mp same
    exact Goal.ext (Std.LawfulEqOrd.eq_of_compare parts.1) (Std.LawfulEqOrd.eq_of_compare parts.2)

instance : Ord Node := ⟨compareLex (compareOn Node.goal) (compareOn Node.length)⟩

instance : Std.TransOrd Node :=
  inferInstanceAs (Std.TransCmp (compareLex (compareOn Node.goal) (compareOn Node.length)))

instance : Std.LawfulEqOrd Node where
  eq_of_compare same := by
    have parts := Ordering.then_eq_eq.mp same
    exact Node.ext (Std.LawfulEqOrd.eq_of_compare parts.1) (Std.LawfulEqOrd.eq_of_compare parts.2)

-- Children are compared from the front, and a list comes before its extensions.
instance : Ord Derivation :=
  ⟨compareLex (compareOn Derivation.node) (compareOn Derivation.children)⟩

instance : Std.TransOrd Derivation :=
  inferInstanceAs
    (Std.TransCmp (compareLex (compareOn Derivation.node) (compareOn Derivation.children)))

instance : Std.LawfulEqOrd Derivation where
  eq_of_compare same := by
    have parts := Ordering.then_eq_eq.mp same
    exact Derivation.ext (Std.LawfulEqOrd.eq_of_compare parts.1)
      (Std.LawfulEqOrd.eq_of_compare parts.2)

namespace Goal

def describe (goal : Goal) : String :=
  s!"#{goal.symbol}@{goal.position}"

end Goal

namespace Node

def of (position : Nat) (symbol : SymbolId) (length : Nat) : Node := ⟨⟨position,symbol⟩,length⟩

def position (node : Node) : Nat := node.goal.position

def symbol (node : Node) : SymbolId := node.goal.symbol

def stop (node : Node) : Nat := node.goal.position + node.length

def stop? (node : Node) : Option Nat :=
  if node.stop < Limits.sizes then some node.stop else none

def describe? (node : Node) : Option String :=
  node.stop?.map fun stop => s!"{node.goal.describe}..{stop}"

end Node

def Derivation.leaf (node : Node) : Derivation := ⟨node,[]⟩

def dropRepeats {α : Type} [DecidableEq α] : List α → List α
  | [] => []
  | [item] => [item]
  | first :: second :: rest =>
    if first = second then dropRepeats (second :: rest)
    else first :: dropRepeats (second :: rest)

def sortedSet {α : Type} [Ord α] [DecidableEq α] (items : List α) : List α :=
  dropRepeats (items.mergeSort fun first second => (compare first second).isLE)

end ParseForest
