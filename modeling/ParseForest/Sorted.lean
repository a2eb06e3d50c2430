namespace ParseForest.Sorted

-- Puts a number at its place in an ascending list; one that is present is not repeated.
def place (x : Nat) : List Nat → List Nat
  | [] => [x]
  | y :: rest =>
    if x < y then x :: y :: rest
    else if x = y then y :: rest
    else y :: place x rest

def ofList (xs : List Nat) : List Nat :=
  xs.foldl (fun sorted x => place x sorted) []

def union (xs ys : List Nat) : List Nat :=
  ys.foldl (fun sorted y => place y sorted) xs

-- Narrows the window of `size` indices from `base` to one index. Each round keeps the upper half unless its first item
-- is above `x`. The first argument bounds the number of rounds.
def narrow (xs : List Nat) (x : Nat) : Nat → Nat → Nat → Nat
  | 0,base,_ => base
  | rounds + 1,base,size =>
    if 1 < size then
      let middle := base + size / 2
      narrow xs x rounds (if x < xs.getD middle 0 then base else middle) (size - size / 2)
    else base

def probe (xs : List Nat) (x : Nat) : Nat :=
  narrow xs x xs.length 0 xs.length

def found (xs : List Nat) (x : Nat) : Bool :=
  xs[probe xs x]? == some x

def insert (xs : List Nat) (x : Nat) : List Nat :=
  let index := probe xs x
  match xs[index]? with
  | none => [x]
  | some y =>
    if y = x then xs
    else xs.insertIdx (if y < x then index + 1 else index) x

end ParseForest.Sorted
