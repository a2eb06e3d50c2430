import ParseForest.Json.Value

namespace ParseForest.Json.Value

def record? (names : List String) : Value → Option (List Value)
  | object members =>
    names.mapM fun name =>
      match members.filter fun member => member.1 == name with
      | [member] => some member.2
      | _ => none
  | array items => if items.length = names.length then some items else none
  | _ => none

def choice? : Value → Option (String × Option Value)
  | string name => some (name,none)
  | object [(name,value)] => some (name,some value)
  | _ => none

def list? {α : Type} (read : Value → Option α) : Value → Option (List α)
  | array items => items.mapM read
  | _ => none

def natural? (bound : Nat) : Value → Option Nat
  | natural value => if value < bound then some value else none
  | _ => none

def string? : Value → Option String
  | string text => some text
  | _ => none

def char? : Value → Option Char
  | string text =>
    match text.toList with
    | [c] => some c
    | _ => none
  | _ => none

def bool? : Value → Option Bool
  | bool value => some value
  | _ => none

end ParseForest.Json.Value
