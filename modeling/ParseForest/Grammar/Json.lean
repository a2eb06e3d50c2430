import ParseForest.Automaton.Json
import ParseForest.Grammar.Basic
import ParseForest.Json.Reader

namespace ParseForest
open Json

namespace Terminal

def toJson : Terminal → Value
  | literal text => .object [("Literal",.object [("text",.string text)])]
  | range low high =>
    .object [("Range",.object [
      ("lo",.string (String.ofList [low])),("hi",.string (String.ofList [high]))])]
  | set members => .object [("Set",.object [("chars",.string members)])]
  | any => .string "Any"
  | pattern regex => .object [("Pattern",.object [("pattern",.string regex)])]

def ofJson? (value : Value) : Option Terminal := do
  match ← value.choice? with
  | ("Any",none) => return any
  | ("Any",some .null) => return any
  | ("Literal",some body) =>
    match ← body.record? ["text"] with
    | [text] => return literal (← text.string?)
    | _ => none
  | ("Range",some body) =>
    match ← body.record? ["lo","hi"] with
    | [low,high] => return range (← low.char?) (← high.char?)
    | _ => none
  | ("Set",some body) =>
    match ← body.record? ["chars"] with
    | [members] => return set (← members.string?)
    | _ => none
  | ("Pattern",some body) =>
    match ← body.record? ["pattern"] with
    | [regex] => return pattern (← regex.string?)
    | _ => none
  | _ => none

end Terminal

namespace Production

def toJson (production : Production) : Value :=
  .object [("nfa",production.automaton.toJson),("greedy",.bool production.greedy)]

def ofJson? (value : Value) : Option Production := do
  match ← value.record? ["nfa","greedy"] with
  | [automaton,greedy] => return ⟨← Automaton.ofJson? automaton,← greedy.bool?⟩
  | _ => none

end Production

namespace SymbolKind

def toJson : SymbolKind → Value
  | terminal body => .object [("Terminal",body.toJson)]
  | production body => .object [("Production",body.toJson)]

def ofJson? (value : Value) : Option SymbolKind := do
  match ← value.choice? with
  | ("Terminal",some body) => return terminal (← Terminal.ofJson? body)
  | ("Production",some body) => return production (← Production.ofJson? body)
  | _ => none

end SymbolKind

namespace GrammarSymbol

def toJson (symbol : GrammarSymbol) : Value :=
  .object [("name",.string symbol.name),("kind",symbol.kind.toJson)]

def ofJson? (value : Value) : Option GrammarSymbol := do
  match ← value.record? ["name","kind"] with
  | [name,kind] => return ⟨← name.string?,← SymbolKind.ofJson? kind⟩
  | _ => none

def canonical (symbol : GrammarSymbol) : Except Fault GrammarSymbol :=
  match symbol.kind with
  | .terminal _ => .ok symbol
  | .production production =>
    match production.automaton.canonical with
    | .ok automaton => .ok { symbol with kind := .production { production with automaton } }
    | .error flaw => .error (.invalidGrammar (.badLayout symbol.name flaw))

end GrammarSymbol

namespace Grammar

def toJson (grammar : Grammar) : Value :=
  .object [("symbols",.array (grammar.symbols.map GrammarSymbol.toJson))]

def render (grammar : Grammar) : String :=
  grammar.toJson.render

def ofJson? (value : Value) : Option Grammar := do
  match ← value.record? ["symbols"] with
  | [symbols] => return ⟨← symbols.list? GrammarSymbol.ofJson?⟩
  | _ => none

def canonical (grammar : Grammar) : Except Fault Grammar := do
  return ⟨← grammar.symbols.mapM GrammarSymbol.canonical⟩

variable [Regex.Library]

def ofStored (stored : Grammar) : Except Fault Grammar := do
  let grammar ← stored.canonical
  grammar.validate
  return grammar

def parse (text : String) : Except Fault Grammar :=
  match (Value.parse? text).bind ofJson? with
  | some stored => stored.ofStored
  | none => .error (.invalidGrammar .malformed)

end Grammar

end ParseForest
