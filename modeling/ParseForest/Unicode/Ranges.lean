namespace ParseForest.Unicode

def hexDigit? (c : Char) : Option Nat :=
  if '0' ≤ c ∧ c ≤ '9' then some (c.toNat - '0'.toNat)
  else if 'a' ≤ c ∧ c ≤ 'f' then some (c.toNat - 'a'.toNat + 10)
  else if 'A' ≤ c ∧ c ≤ 'F' then some (c.toNat - 'A'.toNat + 10)
  else none

def hexValue (digits : List Char) : Nat :=
  digits.foldl (fun value c => match hexDigit? c with
    | some digit => value * 16 + digit
    | none => value) 0

def tableEntries (lines : List String) : List String :=
  lines.flatMap (·.splitOn " ")

-- The greatest index below `count` whose item is at most `x`, for an ascending sequence that starts at most at `x`. The
-- first argument bounds the number of halvings.
def lastAtMost (item : Nat → Nat) (x : Nat) : Nat → Nat → Nat → Nat
  | 0,base,_ => base
  | rounds + 1,base,count =>
    if 1 < count then
      let middle := base + count / 2
      if x < item middle then lastAtMost item x rounds base (count / 2)
      else lastAtMost item x rounds middle (count - count / 2)
    else base

structure Ranges where
  bounds : Array (Nat × Nat)

namespace Ranges

def entry (text : String) : Nat × Nat :=
  match (text.splitOn "-").map (hexValue ·.toList) with
  | [single] => (single,single)
  | first :: last :: _ => (first,last)
  | [] => (0,0)

def ofLines (lines : List String) : Ranges :=
  ⟨((tableEntries lines).map entry).toArray⟩

def contains (ranges : Ranges) (c : Char) : Bool :=
  let index := lastAtMost (fun i => (ranges.bounds.getD i (0,0)).1) c.toNat
    ranges.bounds.size 0 ranges.bounds.size
  match ranges.bounds[index]? with
  | some (first,last) => first ≤ c.toNat && c.toNat ≤ last
  | none => false

end Ranges

end ParseForest.Unicode
