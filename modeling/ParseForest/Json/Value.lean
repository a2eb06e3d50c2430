namespace ParseForest.Json

inductive Value where
  | null
  | bool (value : Bool)
  | natural (value : Nat)
  | number (literal : String)
  | string (text : String)
  | array (items : List Value)
  | object (members : List (String × Value))
  | unreadable

namespace Value

def escapedChar (c : Char) : List Char :=
  if c = '"' then ['\\','"']
  else if c = '\\' then ['\\','\\']
  else if c = '\n' then ['\\','n']
  else if c = '\r' then ['\\','r']
  else if c = '\t' then ['\\','t']
  else if c = '\x08' then ['\\','b']
  else if c = '\x0c' then ['\\','f']
  else if c.toNat < 0x20 then
    ['\\','u','0','0',Nat.digitChar (c.toNat / 16),Nat.digitChar (c.toNat % 16)]
  else [c]

def writtenString (text : String) : List Char :=
  '"' :: text.toList.flatMap escapedChar ++ ['"']

mutual
def written : Value → List Char
  | null => "null".toList
  | bool true => "true".toList
  | bool false => "false".toList
  | natural value => Nat.toDigits 10 value
  | number literal => literal.toList
  | string text => writtenString text
  | array items => '[' :: writtenItems items ++ [']']
  | object members => '\x7b' :: writtenMembers members ++ ['\x7d']
  | unreadable => "null".toList

def writtenItems : List Value → List Char
  | [] => []
  | [item] => written item
  | item :: next :: rest => written item ++ ',' :: writtenItems (next :: rest)

def writtenMembers : List (String × Value) → List Char
  | [] => []
  | [(name,value)] => writtenString name ++ ':' :: written value
  | (name,value) :: next :: rest =>
    writtenString name ++ ':' :: written value ++ ',' :: writtenMembers (next :: rest)
end

def render (value : Value) : String :=
  String.ofList value.written

end Value

end ParseForest.Json
