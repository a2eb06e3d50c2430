import ParseForest.Regex.Library
import ParseForest.Text.Quoted

namespace ParseForest

inductive Terminal where
  | literal (text : String)
  | range (low high : Char)
  | set (members : String)
  | any
  | pattern (regex : String)
  deriving DecidableEq, Repr

namespace Terminal

def length : Terminal → Nat
  | literal text => text.toList.length
  | _ => 1

variable [Regex.Library]

def accepts : Terminal → Char → Bool
  | literal text,c => text.toList == [c]
  | range low high,c => low ≤ c && c ≤ high
  | set members,c => members.toList.contains c
  | any,_ => true
  | pattern regex,c => Regex.matchesChar regex c

def matchFront? (terminal : Terminal) (text : List Char) : Option Nat :=
  match terminal with
  | literal expected =>
    if expected.toList.isPrefixOf text then some expected.toList.length else none
  | terminal =>
    match text with
    | c :: _ => if terminal.accepts c then some 1 else none
    | [] => none

def matches? (terminal : Terminal) (text : List Char) (position : Nat) : Option Nat :=
  if position ≤ text.length then terminal.matchFront? (text.drop position) else none

def describe : Terminal → String
  | literal text => Text.quoted text
  | range low high => "[" ++ String.ofList [low,'-',high] ++ "]"
  | set members => "[" ++ members ++ "]"
  | any => "any"
  | pattern regex => "/" ++ regex ++ "/"

end Terminal

end ParseForest
