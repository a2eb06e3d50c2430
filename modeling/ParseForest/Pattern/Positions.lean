import ParseForest.Pattern.Basic

namespace ParseForest.Pattern

-- The positions met so far: the symbol of each and the positions that may follow it. Index zero stands for the initial
-- state.
structure Positions where
  symbols : List SymbolId
  follow : List (List Nat)

structure Ends where
  nullable : Bool
  first : List Nat
  last : List Nat

namespace Positions

-- Only the initial state. No edge enters it, so its symbol is never read.
def initial : Positions := ⟨[0],[[]]⟩

def add (positions : Positions) (symbol : SymbolId) : Positions :=
  ⟨positions.symbols ++ [symbol],positions.follow ++ [[]]⟩

def connect (positions : Positions) (sources targets : List Nat) : Positions :=
  { positions with
    follow := sources.foldl (fun follow source => follow.modify source (Sorted.union · targets))
      positions.follow }

end Positions

namespace Ends

def empty : Ends := ⟨true,[],[]⟩

def none : Ends := ⟨false,[],[]⟩

def single (position : Nat) : Ends := ⟨false,[position],[position]⟩

def append (before after : Ends) : Ends where
  nullable := before.nullable && after.nullable
  first := if before.nullable then Sorted.union before.first after.first else before.first
  last := if after.nullable then Sorted.union after.last before.last else after.last

def either (before after : Ends) : Ends where
  nullable := before.nullable || after.nullable
  first := Sorted.union before.first after.first
  last := Sorted.union before.last after.last

end Ends

mutual
def scan : Pattern → Positions → Positions × Ends
  | empty,positions => (positions,.empty)
  | symbol id,positions => (positions.add id,.single positions.symbols.length)
  | sequence parts,positions => scanSequence parts positions .empty
  | choice alternatives,positions => scanChoice alternatives positions .none
  | star inner,positions =>
    let (positions,ends) := scan inner positions
    (positions.connect ends.last ends.first,{ ends with nullable := true })
  | plus inner,positions =>
    let (positions,ends) := scan inner positions
    (positions.connect ends.last ends.first,ends)
  | optional inner,positions =>
    let (positions,ends) := scan inner positions
    (positions,{ ends with nullable := true })

def scanSequence : List Pattern → Positions → Ends → Positions × Ends
  | [],positions,ends => (positions,ends)
  | part :: rest,positions,ends =>
    let (positions,next) := scan part positions
    scanSequence rest (positions.connect ends.last next.first) (ends.append next)

def scanChoice : List Pattern → Positions → Ends → Positions × Ends
  | [],positions,ends => (positions,ends)
  | alternative :: rest,positions,ends =>
    let (positions,next) := scan alternative positions
    scanChoice rest positions (ends.either next)
end

-- The changes that turn the empty automaton into the one of the scanned positions: the initial state starts, the last
-- positions accept, and each position is entered on its own symbol.
def Positions.changes (positions : Positions) (ends : Ends) : List Automaton.Change :=
  let edgeTo (source target : Nat) : Automaton.Change :=
    .edge source (positions.symbols.getD target 0) target
  [.start 0] ++ (if ends.nullable then [.accept 0] else []) ++ ends.last.map .accept ++
    ends.first.map (edgeTo 0) ++
    (positions.follow.mapIdx fun source targets => targets.map (edgeTo source)).flatten

def compile (pattern : Pattern) : Except Automaton.Refusal Automaton :=
  let (positions,ends) := pattern.scan .initial
  Automaton.build positions.symbols.length (positions.changes ends)

end ParseForest.Pattern
