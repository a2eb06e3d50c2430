import ParseForest.Regex.Standard.Expr
import ParseForest.Regex.Standard.Members
import ParseForest.Regex.Standard.Utf8

namespace ParseForest.Regex.Standard
open Unicode

inductive Plan where
  | empty
  | text (chars : List Char)
  | set (members : List Interval)
  | look (condition : Look)
  | repeated (least : Nat) (most : Option Nat) (inner : Plan)
  | capture (inner : Plan)
  | sequence (parts : List Plan)
  | choice (alternatives : List Plan)

namespace Plan

def addBounds (first second : Option Nat) : Option Nat := do
  return (← first) + (← second)

mutual
def least? : Plan → Option Nat
  | empty => some 0
  | text chars => some (chars.flatMap Utf8.encode).length
  | set members => members.head?.map fun interval => Utf8.size interval.1
  | look _ => some 0
  | repeated least _ inner => (least? inner).map (· * least)
  | capture inner => least? inner
  | sequence parts => leastOfSequence parts
  | choice alternatives => leastOfChoice alternatives

def leastOfSequence : List Plan → Option Nat
  | [] => some 0
  | part :: rest => addBounds (least? part) (leastOfSequence rest)

def leastOfChoice : List Plan → Option Nat
  | [] => none
  | [alternative] => least? alternative
  | alternative :: rest => do return min (← least? alternative) (← leastOfChoice rest)
end

mutual
def isNarrow : Plan → Bool
  | empty => true
  | text chars => chars.isEmpty
  | set _ => false
  | look _ => true
  | repeated _ most inner => most.isSome && isNarrow inner
  | capture inner => isNarrow inner
  | sequence parts => allNarrow parts
  | choice alternatives => allNarrow alternatives

def allNarrow : List Plan → Bool
  | [] => true
  | part :: rest => isNarrow part && allNarrow rest
end

mutual
def beginsWith (wanted : Look) : Plan → Bool
  | look condition => condition == wanted
  | repeated least _ inner => 0 < least && beginsWith wanted inner
  | capture inner => beginsWith wanted inner
  | sequence parts => anyBegins wanted parts
  | choice alternatives => allBegin wanted alternatives
  | _ => false

def anyBegins (wanted : Look) : List Plan → Bool
  | [] => false
  | part :: rest => beginsWith wanted part || (isNarrow part && anyBegins wanted rest)

def allBegin (wanted : Look) : List Plan → Bool
  | [] => true
  | alternative :: rest => beginsWith wanted alternative && allBegin wanted rest
end

mutual
def backward : Plan → Plan
  | repeated least most inner => repeated least most (backward inner)
  | capture inner => capture (backward inner)
  | sequence parts => sequence (backwardAll parts).reverse
  | choice alternatives => choice (backwardAll alternatives)
  | plan => plan

def backwardAll : List Plan → List Plan
  | [] => []
  | plan :: rest => backward plan :: backwardAll rest
end

mutual
def same : Plan → Plan → Bool
  | empty,empty => true
  | text first,text second => first == second
  | set first,set second => first == second
  | look first,look second => first == second
  | repeated least most inner,repeated least' most' inner' =>
    least == least' && most == most' && same inner inner'
  | sequence first,sequence second => sameAll first second
  | choice first,choice second => sameAll first second
  | _,_ => false

def sameAll : List Plan → List Plan → Bool
  | [],[] => true
  | first :: rest,second :: rest' => same first second && sameAll rest rest'
  | _,_ => false
end

mutual
def nodes : Plan → Nat
  | repeated _ _ inner => nodes inner + 1
  | capture inner => nodes inner + 1
  | sequence parts => nodesOfAll parts + 1
  | choice alternatives => nodesOfAll alternatives + 1
  | _ => 1

def nodesOfAll : List Plan → Nat
  | [] => 0
  | plan :: rest => nodes plan + nodesOfAll rest
end

def ofMembers (members : List Interval) : Plan :=
  match Intervals.difference members [(0xD800,0xDFFF)] with
  | [(low,high)] => if low = high then text [Char.ofNat low] else set [(low,high)]
  | members => set members

def ofRepetition (least : Nat) (most : Option Nat) (inner : Plan) : Plan :=
  let least' := if isNarrow inner then min least 1 else least
  let most' := if isNarrow inner then some (min (most.getD 1) 1) else most
  if least' = 0 ∧ most' = some 0 then empty
  else if least' = 1 ∧ most' = some 1 then inner
  else repeated least' most' inner

def parts : Plan → List Plan
  | sequence parts => parts
  | empty => []
  | plan => [plan]

def prepend (plan : Plan) (rest : List Plan) : List Plan :=
  match plan,rest with
  | text first,text second :: rest => text (first ++ second) :: rest
  | plan,rest => plan :: rest

def ofSequence (plans : List Plan) : Plan :=
  match (plans.flatMap parts).foldr prepend [] with
  | [] => empty
  | [plan] => plan
  | plans => sequence plans

def alternatives : Plan → List Plan
  | choice alternatives => alternatives
  | plan => [plan]

def char? : Plan → Option Char
  | text [c] => some c
  | _ => none

def members? : Plan → Option (List Interval)
  | set members => some members
  | _ => none

def parts? : Plan → Option (List Plan)
  | sequence parts => some parts
  | _ => none

def sharedLength : List Plan → List Plan → Nat
  | first :: rest,second :: rest' => if same first second then sharedLength rest rest' + 1 else 0
  | _,_ => 0

def sharedByAll : List (List Plan) → Nat
  | [] => 0
  | first :: others => (others.map (sharedLength first)).foldl min first.length

def ofChoiceWithin : Nat → List Plan → Plan
  | rounds,plans =>
    match plans.flatMap alternatives with
    | [] => set []
    | [plan] => plan
    | plans =>
      match plans.mapM char? with
      | some chars => ofMembers (Intervals.ofPoints (chars.map Char.toNat))
      | none =>
        match plans.mapM members? with
        | some sets => ofMembers (Intervals.ofList sets.flatten)
        | none =>
          match rounds,plans.mapM parts? with
          | rounds + 1,some sequences =>
            let shared := sharedByAll sequences
            if shared = 0 then choice plans
            else
              let rests := sequences.map fun parts => ofSequence (parts.drop shared)
              ofSequence (((sequences.head?.getD []).take shared) ++ [ofChoiceWithin rounds rests])
          | _,_ => choice plans

def ofChoice (plans : List Plan) : Plan :=
  ofChoiceWithin (nodesOfAll plans) plans

end Plan

namespace Expr

def dotMembers (flags : Flags) : List Interval :=
  if flags.dotAll then [(0,Intervals.last)]
  else Intervals.complement (Intervals.ofPoints
    (if flags.crlf then ['\n'.toNat,'\r'.toNat] else ['\n'.toNat]))

mutual
def plan : Expr → Plan
  | empty => .empty
  | directive => .empty
  | literal flags c => .ofMembers (Intervals.ofPoints ((flags.variants c).map Char.toNat))
  | dot flags => .ofMembers (dotMembers flags)
  | look condition => .look condition
  | set flags members => .ofMembers (members.members flags)
  | repeated least most inner => .ofRepetition least most (plan inner)
  | group captures inner => if captures then .capture (plan inner) else plan inner
  | sequence parts => .ofSequence (plans parts)
  | choice alternatives => .ofChoice (plans alternatives)

def plans : List Expr → List Plan
  | [] => []
  | expr :: rest => plan expr :: plans rest
end

end Expr

end ParseForest.Regex.Standard
