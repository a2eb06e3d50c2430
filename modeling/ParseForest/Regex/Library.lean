namespace ParseForest.Regex

-- A library of regular expressions, as far as it is called: it compiles a text or refuses it, and says whether what it
-- compiled matches the text of one character. Nothing else is known of it.
class Library where
  Compiled : Type
  compile? (text : List Char) : Option Compiled
  matchesChar (compiled : Compiled) (c : Char) : Bool

-- The pattern stands between the anchors as text, so one that closes the group reaches outside of it.
def anchored (pattern : String) : List Char :=
  ['^','(','?',':'] ++ pattern.toList ++ [')','$']

variable [Library]

def compile? (pattern : String) : Option Library.Compiled :=
  Library.compile? (anchored pattern)

def isValid (pattern : String) : Bool :=
  (compile? pattern).isSome

-- A pattern that is refused matches nothing.
def matchesChar (pattern : String) (c : Char) : Bool :=
  match compile? pattern with
  | some compiled => Library.matchesChar compiled c
  | none => false

end ParseForest.Regex
