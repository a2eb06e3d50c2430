import ParseForest.Unicode.Category

namespace ParseForest.Unicode

abbrev Interval := Nat × Nat

namespace Intervals

def last : Nat := 0x10FFFF

-- Joins intervals that overlap or touch. They come in the order of their lower bounds; the first is the one that may
-- still grow.
def joinFrom (grown : Interval) : List Interval → List Interval
  | [] => [grown]
  | next :: rest =>
    if next.1 ≤ grown.2 + 1 then joinFrom (grown.1,max grown.2 next.2) rest
    else grown :: joinFrom next rest

def ofList (intervals : List Interval) : List Interval :=
  match intervals.mergeSort fun a b => a.1 ≤ b.1 with
  | [] => []
  | first :: rest => joinFrom first rest

def ofPoints (points : List Nat) : List Interval :=
  ofList (points.map fun point => (point,point))

def union (first second : List Interval) : List Interval :=
  ofList (first ++ second)

def gapsFrom (next : Nat) : List Interval → List Interval
  | [] => if next ≤ last then [(next,last)] else []
  | (low,high) :: rest =>
    if next < low then (next,low - 1) :: gapsFrom (high + 1) rest else gapsFrom (high + 1) rest

def complement (set : List Interval) : List Interval :=
  gapsFrom 0 set

def intersection (first second : List Interval) : List Interval :=
  complement (union (complement first) (complement second))

def difference (first second : List Interval) : List Interval :=
  intersection first (complement second)

def symmetricDifference (first second : List Interval) : List Interval :=
  union (difference first second) (difference second first)

def ofCategories (accepted : Category → Bool) : List Interval :=
  let runs := Category.runs.toList
  let ends := (runs.drop 1).map (·.1 - 1) ++ [last]
  ofList ((runs.zip ends).filterMap fun ((first,category),final) =>
    if accepted category then some (first,final) else none)

end Intervals

end ParseForest.Unicode
