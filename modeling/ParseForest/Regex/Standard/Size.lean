import ParseForest.Regex.Standard.Plan
import Std.Data.HashMap

namespace ParseForest.Regex.Standard
open Unicode

structure Size where
  states : Nat := 0
  arcs : Nat := 0
  branches : Nat := 0
  deriving DecidableEq

namespace Size

def add (first second : Size) : Size :=
  ⟨first.states + second.states,first.arcs + second.arcs,first.branches + second.branches⟩

instance : Add Size := ⟨add⟩

def times (copies : Nat) (size : Size) : Size :=
  ⟨copies * size.states,copies * size.arcs,copies * size.branches⟩

def sum (sizes : List Size) : Size :=
  sizes.foldl add {}

def bytes (size : Size) : Nat :=
  32 * size.states + 8 * size.arcs + 4 * size.branches

end Size

inductive Direction where
  | forward
  | backward
  deriving DecidableEq

abbrev ByteNode := List (Utf8.ByteRange × Nat)

abbrev ByteNodes := Std.HashMap ByteNode Nat

def byFirst (sequences : List (List Utf8.ByteRange)) :
    List (Utf8.ByteRange × List (List Utf8.ByteRange)) :=
  (sequences.splitBy fun a b => a.head? == b.head?).filterMap fun group =>
    match group with
    | (first :: _) :: _ => some (first,group.map (·.drop 1))
    | _ => none

-- Adds the node from which sequences are read, with all nodes behind it, and returns its number. The first argument
-- bounds the length of the sequences.
def addNode : Nat → List (List Utf8.ByteRange) → ByteNodes → Nat × ByteNodes
  | 0,_,known => (0,known)
  | length + 1,sequences,known =>
    let step (done : ByteNode × ByteNodes)
        (group : Utf8.ByteRange × List (List Utf8.ByteRange)) : ByteNode × ByteNodes :=
      let (target,known) := addNode length group.2 done.2
      ((group.1,target) :: done.1,known)
    let (node,known) := (byFirst sequences).foldl step ([],known)
    if node.isEmpty then (0,known)
    else
      match known[node]? with
      | some number => (number,known)
      | none => (known.size + 1,known.insert node (known.size + 1))

def beginnings : Nat → List (List Utf8.ByteRange) → Nat
  | 0,_ => 0
  | length + 1,sequences =>
    ((byFirst sequences).map fun group => beginnings length group.2 + 1).sum

def setSize (direction : Direction) (members : List Interval) : Size :=
  if members.all fun interval => interval.2 < 0x80 then ⟨2,members.length,0⟩
  else
    let sequences := members.flatMap Utf8.sequences
    match direction with
    | .forward =>
      let nodes := (addNode 4 sequences ∅).2
      ⟨nodes.size + 1,nodes.fold (fun arcs node _ => arcs + node.length) 0,0⟩
    | .backward => ⟨beginnings 4 sequences + 2,0,sequences.length⟩

def splitAtEmpty (words : List (List Nat)) : List (List (List Nat)) :=
  words.foldr (fun word segments => match word,segments with
    | [],segments => [] :: segments
    | word,segment :: rest => (word :: segment) :: rest
    | word,[] => [[word]]) [[]]

def byByte (words : List (List Nat)) : List (List (List Nat)) :=
  (words.filterMap List.head?).eraseDups.map fun byte =>
    words.filterMap fun word => match word with
      | first :: rest => if first = byte then some rest else none
      | [] => none

-- The size of the tree of the given words, its end apart. A word that ends where others go on divides those before it
-- in the list from those behind it. The first argument bounds the length of the words.
def treeSize : Nat → List (List Nat) → Size
  | 0,_ => {}
  | length + 1,words =>
    if words.all List.isEmpty then {}
    else
      let words := match words with
        | [] :: rest => [] :: rest.dropWhile List.isEmpty
        | words => words
      let segments := splitAtEmpty words
      let filled := segments.filter (!·.isEmpty)
      let inner := filled.map fun segment =>
        let groups := byByte segment
        let arcs := if groups.length = 1 then 0 else groups.length
        Size.sum (⟨1,arcs,0⟩ :: groups.map (treeSize length))
      Size.sum (⟨1,0,filled.length + (segments.length - 1)⟩ :: inner)

namespace Plan

def chars? : Plan → Option (List Char)
  | text chars => some chars
  | _ => none

-- The size of a repetition, from that of one copy. `positive` says that a copy matches at least one byte whenever it
-- matches.
def repetitionSize (least : Nat) (most : Option Nat) (positive : Bool) (copy : Size) : Size :=
  match least,most with
  | 0,none => if positive then copy + ⟨1,0,2⟩ else copy + ⟨3,0,4⟩
  | least,none => copy.times least + ⟨1,0,2⟩
  | 0,some 1 => copy + ⟨2,0,2⟩
  | least,some most =>
    if least = most then copy.times least
    else
      let required : Size := if least = 0 then ⟨1,0,0⟩ else copy.times least
      required + ⟨1,0,0⟩ + (copy + ⟨1,0,2⟩).times (most - least)

mutual
def size (direction : Direction) : Plan → Size
  | empty => ⟨1,0,0⟩
  | text chars => ⟨(chars.flatMap Utf8.encode).length,0,0⟩
  | set members => setSize direction members
  | look _ => ⟨1,0,0⟩
  | repeated least most inner =>
    repetitionSize least most ((least? inner).any (0 < ·)) (size direction inner)
  | capture inner =>
    match direction with
    | .forward => size direction inner + ⟨2,0,0⟩
    | .backward => size direction inner
  | sequence parts => sizeOfAll direction parts
  | choice alternatives =>
    match alternatives.mapM chars? with
    | some texts =>
      let words := texts.map (·.flatMap Utf8.encode)
      let words := if direction = .forward then words else words.map List.reverse
      treeSize ((words.map List.length).foldl max 0 + 1) words + ⟨1,0,0⟩
    | none => sizeOfAll direction alternatives + ⟨2,0,alternatives.length⟩

def sizeOfAll (direction : Direction) : List Plan → Size
  | [] => {}
  | plan :: rest => size direction plan + sizeOfAll direction rest
end

def isAnchored (direction : Direction) (plan : Plan) : Bool :=
  match direction with
  | .forward => plan.beginsWith .startOfText
  | .backward => plan.backward.beginsWith .endOfText

-- The size of the whole automaton: what lets it begin anywhere unless it is anchored, the group of the whole match, the
-- plan, and the state of success.
def automatonSize (direction : Direction) (plan : Plan) : Size :=
  (if plan.isAnchored direction then ⟨1,0,0⟩ else ⟨3,1,2⟩) +
    (capture plan).size direction + ⟨1,0,0⟩

end Plan

def sizeLimit : Nat := 10 * Nat.pow 2 20

-- Expressions up to this weight keep far below the limit, since a set takes less than a tenth of a mebibyte for each of
-- the characters, ranges and classes that it is written with.
def smallWeight : Nat := 32

namespace Expr

mutual
def weight : Expr → Nat
  | set _ members => members.weight
  | repeated least most inner => (max (most.getD (least + 1)) 1) * (weight inner + 1)
  | group _ inner => weight inner + 1
  | sequence parts => weightOfAll parts
  | choice alternatives => weightOfAll alternatives + 1
  | _ => 1

def weightOfAll : List Expr → Nat
  | [] => 1
  | expr :: rest => weight expr + weightOfAll rest
end

def fits (expr : Expr) : Bool :=
  expr.weight ≤ smallWeight ||
    ((expr.plan.automatonSize .forward).bytes ≤ sizeLimit &&
      (expr.plan.automatonSize .backward).bytes ≤ sizeLimit)

end Expr

end ParseForest.Regex.Standard
