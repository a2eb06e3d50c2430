import ParseForest.Automaton.Basic

namespace ParseForest

-- A regular pattern. A sequence of nothing matches the empty word, a choice of nothing no word.
inductive Pattern where
  | empty
  | symbol (id : SymbolId)
  | sequence (parts : List Pattern)
  | choice (alternatives : List Pattern)
  | star (inner : Pattern)
  | plus (inner : Pattern)
  | optional (inner : Pattern)

end ParseForest
