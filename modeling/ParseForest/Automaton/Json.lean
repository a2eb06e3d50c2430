import ParseForest.Automaton.Basic
import ParseForest.Json.Decode
import ParseForest.Limits

namespace ParseForest
open Json

def storedNaturals (values : List Nat) : Value :=
  .array (values.map .natural)

def identifier? : Value → Option Nat :=
  Value.natural? Limits.identifiers

def size? : Value → Option Nat :=
  Value.natural? Limits.sizes

namespace Edge

def toJson (edge : Edge) : Value :=
  .object [("on",.natural edge.symbol),("targets",storedNaturals edge.targets)]

def ofJson? (value : Value) : Option Edge := do
  match ← value.record? ["on","targets"] with
  | [symbol,targets] => return ⟨← identifier? symbol,← targets.list? identifier?⟩
  | _ => none

end Edge

namespace Automaton

def toJson (automaton : Automaton) : Value :=
  .object [
    ("state_count",.natural automaton.stateCount),
    ("start",storedNaturals automaton.start),
    ("accept",storedNaturals automaton.accept),
    ("transitions",.array (automaton.rows.map fun row => .array (row.map Edge.toJson)))]

def ofJson? (value : Value) : Option Automaton := do
  match ← value.record? ["state_count","start","accept","transitions"] with
  | [stateCount,start,accept,rows] =>
    return {
      stateCount := ← identifier? stateCount
      start := ← start.list? identifier?
      accept := ← accept.list? identifier?
      rows := ← rows.list? (Value.list? Edge.ofJson?) }
  | _ => none

end Automaton

end ParseForest
