import Mathlib
import ParseForest.Proofs.Chart.Exact
import ParseForest.Proofs.Engine

namespace ParseForest

open Session

variable {engine : Engine} {document : Text.Document} {root : SymbolId} {range : Option (Nat × Nat)} {problem : Problem}
  {s : State} {goal : Goal} {node : Node}

theorem isGreedy_false {grammar : Grammar} (plain : ∀ symbol ∈ grammar.symbols, symbol.isGreedy = false) (id : SymbolId) :
    grammar.isGreedy id = false := by
  unfold Grammar.isGreedy
  split
  · rename_i symbol found
    exact plain symbol (Grammar.symbol_mem found)
  · rfl

theorem isGreedy_eq {grammar : Grammar} {id : SymbolId} {production : Production}
    (found : grammar.production? id = some production) : grammar.isGreedy id = production.greedy := by
  obtain ⟨symbol,at_id,kind⟩ := Grammar.production_iff.mp found
  simp [Grammar.isGreedy,at_id,GrammarSymbol.isGreedy,kind]

namespace Session.Complete

variable [Regex.Library]

-- At the end every goal is closed, and what a closed goal has published is what the grammar derives.
theorem published_iff (valid : problem.Valid) (plain : Chart.Plain problem) (complete : Complete problem s)
    (asked : node.goal ∈ s.chart.asked) :
    node ∈ s.chart.published node.goal ↔ Derives problem.grammar problem.text node := by
  have reached := complete.reached valid
  constructor
  · exact Chart.reached_sound valid.wellFormed reached node.goal node
  · exact Chart.closed_exact valid.wellFormed plain reached (complete.closed valid asked) node rfl

theorem root_asked (valid : problem.Valid) (complete : Complete problem s) : problem.root.goal ∈ s.chart.asked :=
  (complete.saturated valid).root

theorem root_table (valid : problem.Valid) (complete : Complete problem s) :
    problem.root ∈ s.table ↔ problem.root ∈ s.chart.published problem.root.goal := by
  rw [← Std.ExtTreeMap.isSome_getElem?_iff_mem,Option.isSome_iff_exists]
  simp only [State.table_getElem? (complete.coherent valid)]
  constructor
  · rintro ⟨_,published,_⟩
    exact published
  · exact fun published => ⟨_,published,rfl⟩

theorem forest_isEmpty (valid : problem.Valid) (complete : Complete problem s) :
    (s.outcome problem).forest.isEmpty = false ↔ problem.root ∈ s.chart.published problem.root.goal :=
  Forest.pruned_isEmpty.trans (complete.root_table valid)

theorem root_listed (valid : problem.Valid) (complete : Complete problem s)
    (published : problem.root ∈ s.chart.published problem.root.goal) :
    ∃ derivations, (s.outcome problem).forest.derivations? problem.root = some derivations := by
  have kept := Forest.pruned_root.mpr ((complete.root_table valid).mpr published)
  exact Option.isSome_iff_exists.mp (Std.ExtTreeMap.isSome_getElem?_iff_mem.mpr (Std.ExtTreeMap.contains_iff_mem.mp kept))

theorem wasAsked_root (valid : problem.Valid) (complete : Complete problem s) :
    (s.outcome problem).wasAsked problem.root.goal = true := by
  rw [State.outcome_wasAsked (complete.coherent valid).good.books]
  exact complete.root_asked valid

theorem mem_lengthsOf (valid : problem.Valid) (complete : Complete problem s) {length : Nat} :
    length ∈ (s.outcome problem).lengthsOf goal ↔ ⟨goal,length⟩ ∈ s.chart.published goal := by
  have books := (complete.coherent valid).good.books
  rw [State.outcome_lengthsOf books,State.mem_lengthsOf books]

theorem matched_published (valid : problem.Valid) (complete : Complete problem s) (asked : node.goal ∈ s.chart.asked)
    (matched : problem.grammar.terminalMatch? node.symbol problem.text node.position = some node.length) :
    node ∈ s.chart.published node.goal :=
  Chart.terminal_exact (complete.reached valid) asked (Chart.not_production_of_match matched) node rfl (.terminal matched)

theorem lengthsOf_eq (valid : problem.Valid) (complete : Complete problem s) {lengths : List Nat} (ascending : Sorted.Ascending lengths)
    (same : ∀ length, ⟨goal,length⟩ ∈ s.chart.published goal ↔ length ∈ lengths) :
    (s.outcome problem).lengthsOf goal = lengths := by
  have books := (complete.coherent valid).good.books
  rw [State.outcome_lengthsOf books]
  refine Sorted.Ascending.ext (State.lengthsOf_ascending books) ascending fun length => ?_
  rw [State.mem_lengthsOf books,same]

end Session.Complete

-- Recognition is exact: the lengths found are the lengths derived.
theorem lengths_exact [Regex.Library] (wellFormed : engine.grammar.WellFormed)
    (plain : ∀ symbol ∈ engine.grammar.symbols, symbol.isGreedy = false)
    (accepted : engine.problem document root range = .ok problem) (complete : Complete problem s) :
    (∀ goal, (s.outcome problem).wasAsked goal = true → ((s.outcome problem).lengthsOf goal).Nodup ∧
      ∀ length, length ∈ (s.outcome problem).lengthsOf goal ↔ Derives engine.grammar problem.text ⟨goal,length⟩) ∧
    ((s.outcome problem).forest.isEmpty = false ↔ Derives engine.grammar problem.text problem.root) := by
  have valid := Engine.problem_valid wellFormed accepted
  have grammar := (Engine.problem_ok accepted).1
  have unforced : Chart.Plain problem := fun id => isGreedy_false (grammar ▸ plain) id
  have books := (complete.coherent valid).good.books
  rw [← grammar]
  constructor
  · intro goal asked
    rw [State.outcome_wasAsked books] at asked
    rw [State.outcome_lengthsOf books]
    refine ⟨(State.lengthsOf_ascending books).imp Nat.ne_of_lt,fun length => ?_⟩
    rw [State.mem_lengthsOf books]
    exact complete.published_iff valid unforced asked
  · rw [complete.forest_isEmpty valid]
    exact complete.published_iff valid unforced (complete.root_asked valid)

theorem pairAutomaton_accepts : pairAutomaton.Accepts [0] ∧ pairAutomaton.Accepts [1,1] := by
  have letter : pairAutomaton.Moves 0 0 1 := ⟨⟨0,[1]⟩,by decide,rfl,by decide⟩
  have left : pairAutomaton.Moves 0 1 2 := ⟨⟨1,[2]⟩,by decide,rfl,by decide⟩
  have right : pairAutomaton.Moves 2 1 1 := ⟨⟨1,[1]⟩,by decide,rfl,by decide⟩
  exact ⟨⟨0,by decide,1,by decide,.cons letter (.nil 1)⟩,⟨0,by decide,1,by decide,.cons left (.cons right (.nil 1))⟩⟩

theorem pairs_letter {greedy : Bool} {position : Nat} (inside : position < 2) :
    Derives (pairs greedy) ['a','a'] (.of position 1 1) := by
  have tiles : Tiles position [.of position 0 1] (position + 1) := ⟨rfl,rfl⟩
  refine .production rfl tiles pairAutomaton_accepts.1 fun child member => ?_
  obtain rfl := List.mem_singleton.mp member
  refine .terminal ?_
  interval_cases position <;> rfl

theorem pairs_children {greedy : Bool} : ∀ child ∈ [Node.of 0 1 1,.of 1 1 1], Derives (pairs greedy) ['a','a'] child := by
  intro child member
  rcases List.mem_cons.mp member with rfl | later
  · exact pairs_letter (by decide)
  · obtain rfl := List.mem_singleton.mp later
    exact pairs_letter (by decide)

theorem pairs_derives {greedy : Bool} : Derives (pairs greedy) ['a','a'] (.of 0 1 2) := by
  have tiles : Tiles 0 [.of 0 1 1,.of 1 1 1] 2 := ⟨rfl,rfl,rfl⟩
  exact .production rfl tiles pairAutomaton_accepts.2 pairs_children

theorem pairs_plain : ∀ symbol ∈ (pairEngine false).grammar.symbols, symbol.isGreedy = false := by
  simp [pairEngine,pairs,GrammarSymbol.isGreedy]

theorem pairs_recognized : ((State.run (pairProblem false)).outcome (pairProblem false)).forest.isEmpty = false := by
  have complete := run_complete (pairProblem_valid false)
  exact (lengths_exact (pairs_wellFormed false) pairs_plain (pairProblem_ok false) complete).2.mpr pairs_derives

end ParseForest
