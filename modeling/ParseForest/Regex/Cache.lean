import ParseForest.Regex.Library

namespace ParseForest.Regex

variable [Library]

structure Cache where
  entries : List (String × Library.Compiled) := []

namespace Cache

def empty : Cache := ⟨[]⟩

def size (cache : Cache) : Nat := cache.entries.length

def find? (cache : Cache) (pattern : String) : Option Library.Compiled :=
  (cache.entries.find? fun entry => entry.1 == pattern).map Prod.snd

-- Only what compiles is kept, so a pattern that is refused is compiled again whenever it is asked for.
def getOrCompile (cache : Cache) (pattern : String) : Option Library.Compiled × Cache :=
  match cache.find? pattern with
  | some compiled => (some compiled,cache)
  | none =>
    match compile? pattern with
    | some compiled => (some compiled,⟨(pattern,compiled) :: cache.entries⟩)
    | none => (none,cache)

def matchesChar (cache : Cache) (pattern : String) (c : Char) : Bool × Cache :=
  match cache.getOrCompile pattern with
  | (some compiled,cache) => (Library.matchesChar compiled c,cache)
  | (none,cache) => (false,cache)

def matchesChars (cache : Cache) (pattern : String) : List Char → List Bool × Cache
  | [] => ([],cache)
  | c :: rest =>
    let (answer,cache) := cache.matchesChar pattern c
    let (answers,cache) := cache.matchesChars pattern rest
    (answer :: answers,cache)

def clear (_ : Cache) : Cache := empty

end Cache

end ParseForest.Regex
