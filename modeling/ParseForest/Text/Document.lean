namespace ParseForest.Text

-- A place in a document: its offset, and its line and column counted from one.
structure Position where
  offset : Nat
  line : Nat
  column : Nat
  deriving DecidableEq, Repr

namespace Position

def origin : Position := ⟨0,1,1⟩

def after (here : Position) (c : Char) : Position :=
  if c = '\n' then ⟨here.offset + 1,here.line + 1,1⟩
  else ⟨here.offset + 1,here.line,here.column + 1⟩

def describe (here : Position) : String :=
  s!"line {here.line}, column {here.column}"

end Position

structure Document where
  chars : List Char
  deriving DecidableEq

namespace Document

def ofString (text : String) : Document := ⟨text.toList⟩

def length (document : Document) : Nat := document.chars.length

def isEmpty (document : Document) : Bool := document.chars.isEmpty

def text (document : Document) (start length : Nat) : String :=
  String.ofList ((document.chars.drop start).take length)

def position (document : Document) (offset : Nat) : Position :=
  (document.chars.take offset).foldl Position.after Position.origin

def lineAt (document : Document) (offset : Nat) : String :=
  let before := ((document.chars.take offset).reverse.takeWhile (· ≠ '\n')).reverse
  let behind := (document.chars.drop offset).takeWhile (· ≠ '\n')
  String.ofList (before ++ behind)

end Document

end ParseForest.Text
