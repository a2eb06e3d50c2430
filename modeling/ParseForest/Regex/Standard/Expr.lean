import ParseForest.Regex.Standard.CharSet

namespace ParseForest.Regex.Standard

inductive Look where
  | startOfText
  | endOfText
  | startOfLine (crlf : Bool)
  | endOfLine (crlf : Bool)
  | wordBoundary (unicode : Bool)
  | notWordBoundary (unicode : Bool)
  | wordStart (unicode : Bool)
  | wordEnd (unicode : Bool)
  | wordStartHalf (unicode : Bool)
  | wordEndHalf (unicode : Bool)
  deriving DecidableEq

-- An expression. A directive sets flags for what follows it and matches nothing. A group may keep the place of what it
-- matches.
inductive Expr where
  | empty
  | directive
  | literal (flags : Flags) (c : Char)
  | dot (flags : Flags)
  | look (condition : Look)
  | set (flags : Flags) (members : CharSet)
  | repeated (least : Nat) (most : Option Nat) (inner : Expr)
  | group (captures : Bool) (inner : Expr)
  | sequence (parts : List Expr)
  | choice (alternatives : List Expr)

structure Effect where
  before : Bool
  across : Bool
  behind : Bool
  deriving DecidableEq

namespace Effect

def skip : Effect := ⟨true,false,true⟩

def fail : Effect := ⟨false,false,false⟩

def followedBy (first second : Effect) : Effect where
  before := first.before && second.before
  across := (first.before && second.across) || (first.across && second.behind)
  behind := first.behind && second.behind

def either (first second : Effect) : Effect :=
  ⟨first.before || second.before,first.across || second.across,first.behind || second.behind⟩

-- Matches a thing a number of times. From two times on the number makes no difference, since the character can be
-- matched once only.
def times (effect : Effect) : Nat → Effect
  | 0 => skip
  | 1 => effect
  | _ + 2 => effect.followedBy effect

def between (effect : Effect) (least : Nat) (most : Option Nat) : Effect :=
  let upTo (count : Nat) : Bool := match most with
    | some bound => count ≤ bound
    | none => true
  let one := if upTo (least + 1) then effect.times (least + 1) else fail
  let two := if upTo (least + 2) then effect.times (least + 2) else fail
  ((effect.times least).either one).either two

def isMatch (effect : Effect) : Bool :=
  effect.before || effect.across || effect.behind

end Effect

namespace Look

def endsLine (crlf : Bool) (c : Char) : Bool :=
  c == '\n' || (crlf && c == '\r')

def inWord (unicode : Bool) (c : Char) : Bool :=
  if unicode then Unicode.isWord .sixteenth c else ClassEscape.word.holdsAscii c

def effect (condition : Look) (c : Char) : Effect :=
  match condition with
  | startOfText => ⟨true,false,false⟩
  | endOfText => ⟨false,false,true⟩
  | startOfLine crlf => ⟨true,false,endsLine crlf c⟩
  | endOfLine crlf => ⟨endsLine crlf c,false,true⟩
  | wordBoundary unicode => ⟨inWord unicode c,false,inWord unicode c⟩
  | notWordBoundary unicode => ⟨!inWord unicode c,false,!inWord unicode c⟩
  | wordStart unicode => ⟨inWord unicode c,false,false⟩
  | wordEnd unicode => ⟨false,false,inWord unicode c⟩
  | wordStartHalf unicode => ⟨true,false,!inWord unicode c⟩
  | wordEndHalf unicode => ⟨!inWord unicode c,false,true⟩

end Look

namespace Expr

def dotHolds (flags : Flags) (c : Char) : Bool :=
  flags.dotAll || !(c == '\n' || (flags.crlf && c == '\r'))

mutual
def effect (c : Char) : Expr → Effect
  | empty => .skip
  | directive => .skip
  | literal flags wanted => ⟨false,(flags.variants c).contains wanted,false⟩
  | dot flags => ⟨false,dotHolds flags c,false⟩
  | look condition => condition.effect c
  | set flags members => ⟨false,members.holds flags c,false⟩
  | repeated least most inner => (effect c inner).between least most
  | group _ inner => effect c inner
  | sequence parts => effectOfSequence c parts
  | choice alternatives => effectOfChoice c alternatives

def effectOfSequence (c : Char) : List Expr → Effect
  | [] => .skip
  | part :: rest => (effect c part).followedBy (effectOfSequence c rest)

def effectOfChoice (c : Char) : List Expr → Effect
  | [] => .fail
  | alternative :: rest => (effect c alternative).either (effectOfChoice c rest)
end

mutual
def depth : Expr → Nat
  | set _ members => members.depth
  | repeated _ _ inner => depth inner + 1
  | group _ inner => depth inner + 1
  | sequence parts => depthOfAll parts + 1
  | choice alternatives => depthOfAll alternatives + 1
  | _ => 0

def depthOfAll : List Expr → Nat
  | [] => 0
  | part :: rest => max (depth part) (depthOfAll rest)
end

end Expr

end ParseForest.Regex.Standard
