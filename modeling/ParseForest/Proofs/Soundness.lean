import Mathlib
import ParseForest.Proofs.Chart.Grounded
import ParseForest.Proofs.Derivations

namespace ParseForest

-- A node with a finite tree of derivations that the forest lists.
inductive Forest.Grounded (forest : Forest) : Node → Prop where
  | tree {node : Node} {derivations : List Derivation} {derivation : Derivation}
      (listed : forest.derivations? node = some derivations) (member : derivation ∈ derivations)
      (parts : ∀ child ∈ derivation.children, Forest.Grounded forest child) : Forest.Grounded forest node

open Session

variable {engine : Engine} {document : Text.Document} {root : SymbolId} {range : Option (Nat × Nat)} {problem : Problem}
  {s : State} {node : Node} {derivations : List Derivation}

namespace Session.Complete

variable [Regex.Library]

variable (valid : problem.Valid) (complete : Complete problem s)
  (listed : (s.outcome problem).forest.derivations? node = some derivations)

include valid complete listed

theorem listed_iff : node ∈ s.chart.published node.goal ∧ derivations = s.derivationsOf node :=
  (State.table_getElem? (complete.coherent valid)).mp (Forest.pruned_sub listed)

theorem mem_listed {derivation : Derivation} :
    derivation ∈ derivations ↔ derivation ∈ s.chart.derivations node.goal ∧ derivation.node = node := by
  rw [(complete.listed_iff valid listed).2,State.mem_derivationsOf]

-- The children were published, so the table has them and the root reaches them through their parent.
theorem child_contained {derivation : Derivation} {child : Node} (member : derivation ∈ derivations)
    (part : child ∈ derivation.children) : (s.outcome problem).forest.contains child = true := by
  have recorded := ((complete.mem_listed valid listed).mp member).1
  have published := Chart.recorded_published (complete.reached valid) recorded child part
  have present := (State.table_getElem? (complete.coherent valid)).mpr ⟨published,rfl⟩
  exact Forest.pruned_closed listed member part (Std.ExtTreeMap.isSome_getElem?_iff_mem.mp (Option.isSome_of_eq_some present))

theorem grounded : (s.outcome problem).forest.Grounded node := by
  have published := (complete.listed_iff valid listed).1
  have tree := Chart.reached_grounded (complete.reached valid) node.goal node published
  clear published
  induction tree generalizing derivations with
  | @tree derivation recorded parts ih =>
    have member := (complete.mem_listed valid listed).mpr ⟨recorded,rfl⟩
    refine .tree listed member fun child part => ?_
    obtain ⟨others,found⟩ := Forest.contains_iff.mp (complete.child_contained valid listed member part)
    exact ih child part found

end Session.Complete

-- The forest is sound, closed and productive, also where goals are greedy or were forced: a node lists
-- only what its text and its automaton bear out, its children are there, and some of its trees is finite.
theorem forest_sound [Regex.Library] (wellFormed : engine.grammar.WellFormed)
    (accepted : engine.problem document root range = .ok problem) (complete : Complete problem s)
    (listed : (s.outcome problem).forest.derivations? node = some derivations) :
    (derivations ≠ [] ∧ (derivations.Pairwise fun one two => compare one two = .lt) ∧
      ∀ derivation ∈ derivations, derivation.node = node) ∧
    (engine.grammar.production? node.symbol = none → derivations = [.leaf node] ∧
      engine.grammar.terminalMatch? node.symbol problem.text node.position = some node.length) ∧
    (∀ production, engine.grammar.production? node.symbol = some production → ∀ derivation ∈ derivations,
      Tiles node.position derivation.children node.stop ∧
        production.automaton.Accepts (derivation.children.map Node.symbol)) ∧
    (∀ derivation ∈ derivations, ∀ child ∈ derivation.children, (s.outcome problem).forest.contains child = true) ∧
    (s.outcome problem).forest.Grounded node := by
  have valid := Engine.problem_valid wellFormed accepted
  have reached := complete.reached valid
  obtain ⟨published,rfl⟩ := complete.listed_iff valid listed
  rw [← (Engine.problem_ok accepted).1]
  refine ⟨⟨?_,sortedSet_strict,?_⟩,?_,?_,?_,complete.grounded valid listed⟩
  · obtain ⟨derivation,recorded,same⟩ := (Chart.reached_announced reached).recorded node.goal node published
    exact List.ne_nil_of_mem (State.mem_derivationsOf.mpr ⟨recorded,same⟩)
  · intro derivation member
    exact (State.mem_derivationsOf.mp member).2
  · intro terminal
    refine ⟨complete.derivationsOf_terminal valid published terminal,?_⟩
    cases Chart.reached_sound valid.wellFormed reached node.goal node published with
    | terminal matched => exact matched
    | production found _ _ _ => rw [terminal] at found; cases found
  · intro production found derivation member
    obtain ⟨recorded,rfl⟩ := State.mem_derivationsOf.mp member
    exact Chart.recorded_accepted valid.wellFormed reached found recorded
  · intro derivation member child part
    exact complete.child_contained valid listed member part

-- The root of the small grammar has its tree in the forest.
theorem pairs_grounded : ((State.run (pairProblem false)).outcome (pairProblem false)).forest.Grounded (.of 0 1 2) := by
  have complete := run_complete (pairProblem_valid false)
  have plain : Chart.Plain (pairProblem false) := fun id => isGreedy_false pairs_plain id
  have published := (complete.published_iff (pairProblem_valid false) plain (complete.root_asked (pairProblem_valid false))).mpr
    pairs_derives
  obtain ⟨derivations,listed⟩ := complete.root_listed (pairProblem_valid false) published
  exact (forest_sound (pairs_wellFormed false) (pairProblem_ok false) complete listed).2.2.2.2

end ParseForest
