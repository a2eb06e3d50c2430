import Mathlib
import ParseForest.Proofs.Engine
import ParseForest.Proofs.Shift.Session

namespace ParseForest

-- The same outcome at positions further on: nodes and derivations, suspects and goals come in the same order.
structure Outcome.Shifted (start : Nat) (part whole : Outcome) : Prop where
  root : part.forest.root = whole.forest.root.shift start
  entries : part.forest.entries = whole.forest.entries.map (Prod.map (Node.shift start) (List.map (Derivation.shift start)))
  suspects : part.suspects = whole.suspects.map (Suspect.shift start)
  lengthTable : part.lengthTable = whole.lengthTable.map (Prod.map (Goal.shift start) id)
  statistics : part.statistics = whole.statistics

theorem Outcome.Shifted.unique {start : Nat} {one two whole : Outcome} (first : one.Shifted start whole)
    (second : two.Shifted start whole) : one = two := by
  have root := first.root.trans second.root.symm
  have nodes := Std.ExtTreeMap.toList_inj.mp (first.entries.trans second.entries.symm)
  have suspects := first.suspects.trans second.suspects.symm
  have lengths := Std.ExtTreeMap.toList_inj.mp (first.lengthTable.trans second.lengthTable.symm)
  have statistics := first.statistics.trans second.statistics.symm
  obtain ⟨⟨_,_⟩,_,_,_⟩ := one
  obtain ⟨⟨_,_⟩,_,_,_⟩ := two
  simp_all

section Forests

variable {start : Nat} {after before : NodeTable}
  (carried : Carried (Node.shift start) (List.map (Derivation.shift start)) after before)

include carried

theorem contains_shift (node : Node) : after.contains (node.shift start) = before.contains node := by
  rw [Std.ExtTreeMap.contains_eq_isSome_getElem?,Std.ExtTreeMap.contains_eq_isSome_getElem?,carried.found,Option.isSome_map]

theorem derivations_shift (node : Node) : after.getD (node.shift start) [] = (before.getD node []).map (Derivation.shift start) := by
  rw [Std.ExtTreeMap.getD_eq_getD_getElem?,Std.ExtTreeMap.getD_eq_getD_getElem?,carried.found]
  cases before[node]? with
  | none => rfl
  | some derivations => rfl

theorem discover_shift {one two : Std.HashSet Node} (marked : ∀ node : Node, one.contains (node.shift start) = two.contains node)
    (waiting children : List Node) :
    (Forest.discover after one (waiting.map (Node.shift start)) (children.map (Node.shift start))).2 =
        (Forest.discover before two waiting children).2.map (Node.shift start) ∧
      ∀ node, (Forest.discover after one (waiting.map (Node.shift start)) (children.map (Node.shift start))).1.contains
        (node.shift start) = (Forest.discover before two waiting children).1.contains node := by
  induction children generalizing one two waiting with
  | nil => exact ⟨rfl,marked⟩
  | cons child rest ih =>
    simp only [List.map_cons,Forest.discover,contains_shift carried,marked]
    split
    · refine ih ?_ (child :: waiting)
      intro node
      have same : (child.shift start == node.shift start) = (child == node) := by
        rw [Bool.eq_iff_iff,beq_iff_eq,beq_iff_eq,Node.shift_injective.eq_iff]
      rw [Std.HashSet.contains_insert,Std.HashSet.contains_insert,marked,same]
    · exact ih marked waiting

theorem explore_shift (visits : Nat) {one two : Std.HashSet Node}
    (marked : ∀ node : Node, one.contains (node.shift start) = two.contains node) (waiting : List Node) {kept old : NodeTable}
    (taken : Carried (Node.shift start) (List.map (Derivation.shift start)) kept old) :
    Carried (Node.shift start) (List.map (Derivation.shift start))
      (Forest.explore after visits one (waiting.map (Node.shift start)) kept) (Forest.explore before visits two waiting old) := by
  induction visits generalizing one two waiting kept old with
  | zero => exact taken
  | succ visits ih =>
    cases waiting with
    | nil => exact taken
    | cons node waiting =>
      let children := (before.getD node []).flatMap Derivation.children
      have listed : (after.getD (node.shift start) []).flatMap Derivation.children = children.map (Node.shift start) := by
        rw [derivations_shift carried,List.flatMap_map,List.map_flatMap]
        rfl
      obtain ⟨order,found⟩ := discover_shift carried marked waiting children
      have visited := taken.insert Node.compare_shift node (before.getD node [])
      rw [← derivations_shift carried] at visited
      simp only [List.map_cons,Forest.explore,listed]
      rw [order]
      exact ih found _ visited

theorem pruned_shift (root : Node) : Carried (Node.shift start) (List.map (Derivation.shift start))
    (Forest.pruned (root.shift start) after).nodes (Forest.pruned root before).nodes := by
  have marked : ∀ node : Node, (Std.HashSet.ofList [root.shift start]).contains (node.shift start) =
      (Std.HashSet.ofList [root]).contains node := by
    intro node
    rw [Std.HashSet.contains_ofList,Std.HashSet.contains_ofList]
    exact contains_map Node.shift_injective node [root]
  unfold Forest.pruned
  simp only [contains_shift carried,carried.size Node.compare_shift]
  split
  · exact explore_shift carried _ marked [root] .empty
  · exact .empty

end Forests

section Suspects

variable {start : Nat} {one two : Goal → Bool} (matched : ∀ goal : Goal, one (goal.shift start) = two goal)

include matched

theorem unbypassed_shift (sites : List Site) (goal : Goal) :
    (unbypassedGoals one (sites.map (List.map (Goal.shift start)))).contains (goal.shift start) =
      (unbypassedGoals two sites).contains goal := by
  have failed : (sites.map (List.map (Goal.shift start))).filter (fun site => site.all (!one ·)) =
      (sites.filter fun site => site.all (!two ·)).map (List.map (Goal.shift start)) := by
    rw [List.filter_map]
    congr 2
    funext site
    simp [Function.comp_def,matched]
  unfold unbypassedGoals
  rw [Std.HashSet.contains_ofList,Std.HashSet.contains_ofList,failed,← List.map_flatten]
  exact contains_map Goal.shift_injective goal _

theorem rankSuspects_shift (asked : List Goal) (sites : List Site) :
    rankSuspects (asked.map (Goal.shift start)) one (sites.map (List.map (Goal.shift start))) =
      (rankSuspects asked two sites).map (Suspect.shift start) := by
  have failed : (fun goal => !one goal) ∘ Goal.shift start = fun goal => !two goal := by
    funext goal
    rw [Function.comp_apply,matched]
  unfold rankSuspects
  simp only [List.filter_map,failed,List.map_map]
  rw [← arranged_map Suspect.shift_injective Suspect.rank_shift,List.map_map]
  congr 3
  funext goal
  rw [Function.comp_apply,Function.comp_apply,unbypassed_shift matched]
  rfl

end Suspects

namespace Session

variable {start : Nat} {part whole : Problem} {s t : State} (similar : Similar start s t)

include similar

theorem Similar.lengthsOf (goal : Goal) : s.lengthsOf (goal.shift start) = t.lengthsOf goal := by
  unfold State.lengthsOf
  rw [similar.entries]
  cases t.entries[goal]? with
  | none => rfl
  | some entry =>
    have lengths : (entry.shift start).published.map Node.length = entry.published.map Node.length := List.map_map
    simp only [Option.map_some,lengths]

omit similar in
theorem group_shift (derivations : List Derivation) (node : Node) :
    (State.groupByNode (derivations.map (Derivation.shift start)))[node.shift start]? =
      (State.groupByNode derivations)[node]?.map (List.map (Derivation.shift start)) := by
  have same (derivation : Derivation) : (derivation.shift start).node = node.shift start ↔ derivation.node = node :=
    Node.shift_injective.eq_iff
  have kept : (fun derivation : Derivation => decide (derivation.node = node.shift start)) ∘ Derivation.shift start =
      fun derivation => decide (derivation.node = node) := by
    funext derivation
    simp only [Function.comp_apply,same]
  have recorded : (∃ derivation ∈ derivations.map (Derivation.shift start), derivation.node = node.shift start) ↔
      ∃ derivation ∈ derivations, derivation.node = node := by
    simp only [List.mem_map,exists_exists_and_eq_and,same]
  simp only [State.groupByNode_getElem?,recorded,List.filter_map,kept,apply_ite (Option.map _),Option.map_some,Option.map_none,
    List.map_reverse]

theorem Similar.nodesOf (goal : Goal) : s.nodesOf (goal.shift start) =
    (t.nodesOf goal).map (Prod.map (Node.shift start) (List.map (Derivation.shift start))) := by
  unfold State.nodesOf
  rw [similar.entries]
  cases t.entries[goal]? with
  | none => rfl
  | some entry =>
    have sorted (derivations : List Derivation) : sortedSet (derivations.map (Derivation.shift start)) =
        (sortedSet derivations).map (Derivation.shift start) :=
      arranged_map Derivation.shift_injective Derivation.compare_shift derivations
    simp only [Option.map_some,Entry.shift,List.filterMap_map,List.map_filterMap,Function.comp_def,group_shift,Option.map_map,sorted,
      Prod.map_apply]

-- The table of nodes before the root has picked its own.
theorem Similar.table : Carried (Node.shift start) (List.map (Derivation.shift start)) s.table t.table := by
  have listed : s.goals.flatMap s.nodesOf =
      (t.goals.flatMap t.nodesOf).map (Prod.map (Node.shift start) (List.map (Derivation.shift start))) := by
    rw [similar.goals,List.flatMap_map,List.map_flatMap]
    simp only [similar.nodesOf]
  unfold State.table
  rw [listed]
  exact .ofList Node.compare_shift _

theorem Similar.lengths : Carried (Goal.shift start) id (s.outcome part).lengths (t.outcome whole).lengths := by
  have listed : (s.goals.map fun goal => (goal,s.lengthsOf goal)) =
      (t.goals.map fun goal => (goal,t.lengthsOf goal)).map (Prod.map (Goal.shift start) id) := by
    simp only [similar.goals,List.map_map,Function.comp_def,similar.lengthsOf,Prod.map_apply,id_eq]
  unfold State.outcome
  simp only [listed]
  exact .ofList Goal.compare_shift _

theorem Similar.outcome (shifted : part.Shifted start whole) : (s.outcome part).Shifted start (t.outcome whole) where
  root := shifted.root
  entries := by
    have pruned := (pruned_shift similar.table whole.root).toList Node.compare_shift
    rw [← shifted.root] at pruned
    exact pruned
  suspects := by
    have root : [part.root.goal] = [whole.root.goal].map (Goal.shift start) := congrArg (fun node => [node.goal]) shifted.root
    have found (goal : Goal) : (!(s.lengthsOf (goal.shift start)).isEmpty) = !(t.lengthsOf goal).isEmpty := by
      rw [similar.lengthsOf]
    change rankSuspects s.goals _ ([part.root.goal] :: s.sites) = _
    rw [similar.goals,similar.sites,root,← List.map_cons]
    exact rankSuspects_shift found _ _
  lengthTable := similar.lengths.toList Goal.compare_shift
  statistics := by
    simp only [State.outcome,similar.goals,similar.walks,similar.hits,similar.finished,similar.rounds,similar.forced,
      List.length_map,Array.size_map]

end Session

namespace Engine

open Session

variable {engine : Engine} {document : Text.Document} {root : SymbolId} {start length : Nat}

def Admits (engine : Engine) (document : Text.Document) : Prop :=
  engine.configuration.maxInputSize = 0 ∨ document.length ≤ engine.configuration.maxInputSize

theorem problem_of_range (small : engine.Admits document) (known : root < engine.grammar.size)
    (inside : start+length ≤ document.length) : engine.problem document root (some (start,length)) =
      .ok ⟨engine.grammar,document.chars.take (start+length),.of start root length⟩ := by
  have admitted : ¬(0 < engine.configuration.maxInputSize ∧ engine.configuration.maxInputSize < document.length) := by
    rcases small with unlimited | fits
    · simp [unlimited]
    · exact fun large => Nat.not_lt.mpr fits large.2
  simp [Engine.problem,admitted,Nat.not_le.mpr known,Nat.not_lt.mpr inside]

theorem problem_of_whole : engine.problem document root none = engine.problem document root (some (0,document.length)) := rfl

-- The range of a document and the document that is cut out of it pose the same question.
theorem cut_shifted (inside : start+length ≤ document.length) :
    Problem.Shifted start ⟨engine.grammar,document.chars.take (start+length),.of start root length⟩
      ⟨engine.grammar,(document.chars.drop start).take length,.of 0 root length⟩ := by
  unfold Text.Document.length at inside
  refine ⟨rfl,?_,?_,rfl⟩
  · simp only [List.length_take]
    omega
  · simp [List.drop_take]

theorem problem_of_cut (small : engine.Admits document) (known : root < engine.grammar.size) (inside : start+length ≤ document.length) :
    engine.problem (.ofString (document.text start length)) root none =
      .ok ⟨engine.grammar,(document.chars.drop start).take length,.of 0 root length⟩ := by
  have chars : (Text.Document.ofString (document.text start length)).chars = (document.chars.drop start).take length :=
    String.toList_ofList
  have size : (Text.Document.ofString (document.text start length)).length = length := by
    unfold Text.Document.length at inside ⊢
    rw [chars,List.length_take,List.length_drop]
    omega
  have fits : engine.Admits (.ofString (document.text start length)) := by
    unfold Admits
    rw [size]
    exact small.imp_right fun most => Nat.le_trans (Nat.le_trans (Nat.le_add_left _ _) inside) most
  rw [problem_of_whole,problem_of_range fits known (Nat.le_of_eq (Nat.zero_add _)),Nat.zero_add,size,chars,List.take_take,Nat.min_self]

theorem parse_cut [Regex.Library] (small : engine.Admits document) (known : root < engine.grammar.size) (inside : start+length ≤ document.length) :
    ∃ whole part, engine.parse (.ofString (document.text start length)) root none = .ok whole ∧
      engine.parse document root (some (start,length)) = .ok part ∧ part.Shifted start whole := by
  have shifted : Problem.Shifted start ⟨engine.grammar,document.chars.take (start+length),.of start root length⟩
      ⟨engine.grammar,(document.chars.drop start).take length,.of 0 root length⟩ := cut_shifted inside
  exact ⟨_,_,parse_eq (problem_of_cut small known inside),parse_eq (problem_of_range small known inside),
    (run_similar shifted).outcome shifted⟩

end Engine

open Session

variable {engine : Engine} {document : Text.Document} {root : SymbolId} {start length : Nat}

-- A range is parsed as the text that is cut out of the document, with the start of the range added to every position.
-- What stands outside of the range makes no difference.
theorem parse_range_shifted [Regex.Library] (small : engine.Admits document) (known : root < engine.grammar.size)
    (inside : start+length ≤ document.length) :
    ∃ whole part, engine.parse (.ofString (document.text start length)) root none = .ok whole ∧
      engine.parse document root (some (start,length)) = .ok part ∧ part.Shifted start whole ∧
      ∀ other : Text.Document, engine.Admits other → start+length ≤ other.length →
        other.text start length = document.text start length → engine.parse other root (some (start,length)) = .ok part := by
  obtain ⟨whole,part,cut,here,shifted⟩ := Engine.parse_cut small known inside
  refine ⟨whole,part,cut,here,shifted,?_⟩
  intro other fits within same
  obtain ⟨again,elsewhere,cut_again,there,moved⟩ := Engine.parse_cut fits known within
  rw [same,cut] at cut_again
  obtain rfl := Except.ok.inj cut_again
  rw [there,moved.unique shifted]

def framedLetters : Text.Document := ⟨['(','a','a',')']⟩

theorem pairs_framed : ∃ whole part, (pairEngine true).parse (.ofString "aa") 1 none = .ok whole ∧
    (pairEngine true).parse framedLetters 1 (some (1,2)) = .ok part ∧ part.Shifted 1 whole := by
  have fits : (pairEngine true).Admits framedLetters := .inr (by decide)
  obtain ⟨whole,part,cut,framed,shifted,_⟩ := @parse_range_shifted (pairEngine true) framedLetters 1 1 2 _ fits (by decide) (by decide)
  exact ⟨whole,part,cut,framed,shifted⟩

end ParseForest
