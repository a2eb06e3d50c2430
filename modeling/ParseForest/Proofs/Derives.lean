import Mathlib
import ParseForest.Forest.Node
import ParseForest.Proofs.Subset

namespace ParseForest

-- Consecutive nodes that cover a stretch of the text exactly.
def Tiles : Nat → List Node → Nat → Prop
  | start,[],stop => start = stop
  | start,node :: rest,stop => node.position = start ∧ Tiles node.stop rest stop

theorem tiles_concat {start stop : Nat} {nodes : List Node} {node : Node} :
    Tiles start (nodes ++ [node]) stop ↔ Tiles start nodes node.position ∧ node.stop = stop := by
  induction nodes generalizing start with
  | nil => simp [Tiles,eq_comm]
  | cons head rest ih => simp only [List.cons_append,Tiles,ih,and_assoc]

theorem Tiles.stop_eq {start stop : Nat} {nodes : List Node} (tiles : Tiles start nodes stop) :
    stop = start + (nodes.map Node.length).sum := by
  induction nodes generalizing start with
  | nil => simpa [Tiles] using tiles.symm
  | cons node rest ih =>
    obtain ⟨rfl,tail⟩ := tiles
    rw [ih tail,List.map_cons,List.sum_cons]
    simp only [Node.stop,Node.position]
    omega

-- The least meaning of a grammar over a text. Greediness has no part in it.
inductive Derives [Regex.Library] (grammar : Grammar) (text : List Char) : Node → Prop where
  | terminal {node : Node}
      (matched : grammar.terminalMatch? node.symbol text node.position = some node.length) :
      Derives grammar text node
  | production {node : Node} {production : Production} {children : List Node}
      (found : grammar.production? node.symbol = some production)
      (tiles : Tiles node.position children node.stop)
      (accepted : production.automaton.Accepts (children.map Node.symbol))
      (parts : ∀ child ∈ children, Derives grammar text child) : Derives grammar text node

end ParseForest
