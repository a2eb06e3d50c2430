import Mathlib
import ParseForest.Outcome
import ParseForest.Proofs.Forest
import ParseForest.Proofs.Session.Runs
import ParseForest.Proofs.SortedSet

namespace ParseForest.Session.State

variable {problem : Problem} {s : State} {goal : Goal} {node : Node} {derivations : List Derivation}

theorem lengthsOf_eq : s.lengthsOf goal = ((s.entryAt goal).published.map Node.length).mergeSort := by
  unfold lengthsOf
  by_cases asked : goal ∈ s.entries
  · rw [entries_some asked]
  · rw [Std.HashMap.getElem?_eq_none asked,entryAt_unasked asked]
    simp

theorem mem_lengthsOf (books : Books s.goals s.asked s.entryAt s.active) {length : Nat} :
    length ∈ s.lengthsOf goal ↔ ⟨goal,length⟩ ∈ s.chart.published goal := by
  rw [lengthsOf_eq,List.mem_mergeSort,List.mem_map]
  constructor
  · rintro ⟨node,member,rfl⟩
    obtain rfl := books.own goal node member
    exact member
  · exact fun member => ⟨_,member,rfl⟩

theorem lengthsOf_ascending (books : Books s.goals s.asked s.entryAt s.active) : Sorted.Ascending (s.lengthsOf goal) := by
  have distinct : (s.lengthsOf goal).Nodup := by
    rw [lengthsOf_eq,(List.mergeSort_perm _ _).nodup_iff]
    refine (books.published goal).map_on ?_
    intro one memberOne two memberTwo same
    exact Node.ext ((books.own goal one memberOne).trans (books.own goal two memberTwo).symm) same
  have sorted : (s.lengthsOf goal).Pairwise (· ≤ ·) := by
    rw [lengthsOf_eq]
    have ordered : (((s.entryAt goal).published.map Node.length).mergeSort).Pairwise fun one two => decide (one ≤ two) = true :=
      List.pairwise_mergeSort (by simp; omega) (by simp; omega) _
    simpa using ordered
  exact (sorted.and distinct).imp fun ⟨most,different⟩ => Nat.lt_of_le_of_ne most different

-- Grouping keeps every derivation with its node.
theorem group_getD (node : Node) (derivations : List Derivation) (groups : Std.HashMap Node (List Derivation)) :
    (derivations.foldl (fun groups derivation =>
      groups.insert derivation.node (derivation :: groups.getD derivation.node [])) groups).getD node [] =
      (derivations.filter (·.node = node)).reverse ++ groups.getD node [] := by
  induction derivations generalizing groups with
  | nil => rfl
  | cons first rest ih =>
    rw [List.foldl_cons,ih,Std.HashMap.getD_insert]
    by_cases same : first.node = node
    · simp [same]
    · simp [same]

theorem group_mem (node : Node) (derivations : List Derivation) (groups : Std.HashMap Node (List Derivation)) :
    node ∈ derivations.foldl (fun groups derivation =>
      groups.insert derivation.node (derivation :: groups.getD derivation.node [])) groups ↔
      node ∈ groups ∨ ∃ derivation ∈ derivations, derivation.node = node := by
  induction derivations generalizing groups with
  | nil => simp
  | cons first rest ih =>
    rw [List.foldl_cons,ih,Std.HashMap.mem_insert]
    simp only [beq_iff_eq,List.mem_cons,exists_eq_or_imp]
    tauto

theorem groupByNode_getElem? : (groupByNode derivations)[node]? =
    if ∃ derivation ∈ derivations, derivation.node = node then some (derivations.filter (·.node = node)).reverse else none := by
  unfold groupByNode
  have all := group_getD node derivations {}
  have some_one := group_mem node derivations {}
  generalize derivations.foldl _ _ = groups at all some_one ⊢
  split
  · rename_i recorded
    have present : node ∈ groups := some_one.mpr (.inr recorded)
    rw [Std.HashMap.getElem?_eq_some_getD present,all]
    simp
  · rename_i missing
    refine Std.HashMap.getElem?_eq_none fun present => ?_
    simp [some_one] at present
    tauto

-- The derivations recorded for a node, as the table lists them.
def derivationsOf (s : State) (node : Node) : List Derivation :=
  sortedSet ((s.entryAt node.goal).derivations.filter (·.node = node))

theorem mem_derivationsOf {derivation : Derivation} :
    derivation ∈ s.derivationsOf node ↔ derivation ∈ s.chart.derivations node.goal ∧ derivation.node = node := by
  simp [derivationsOf,chart]

-- The nodes of all goals, before the root has picked its own.
def table (s : State) : NodeTable := .ofList (s.goals.flatMap s.nodesOf)

theorem nodesOf_eq : s.nodesOf goal = (s.entryAt goal).published.filterMap fun node =>
    ((groupByNode (s.entryAt goal).derivations)[node]?).map fun derivations => (node,sortedSet derivations) := by
  unfold nodesOf
  by_cases asked : goal ∈ s.entries
  · rw [entries_some asked]
  · rw [Std.HashMap.getElem?_eq_none asked,entryAt_unasked asked]
    rfl

theorem mem_nodesOf (books : Books s.goals s.asked s.entryAt s.active) :
    (node,derivations) ∈ s.nodesOf goal ↔ node.goal = goal ∧ node ∈ s.chart.published goal ∧
      (∃ derivation ∈ s.chart.derivations goal, derivation.node = node) ∧ derivations = s.derivationsOf node := by
  have sorted : ∀ other, sortedSet ((s.entryAt goal).derivations.filter (·.node = other)).reverse =
      sortedSet ((s.entryAt goal).derivations.filter (·.node = other)) :=
    fun other => sortedSet_ext fun derivation => List.mem_reverse
  rw [nodesOf_eq,List.mem_filterMap]
  constructor
  · rintro ⟨other,published,listed⟩
    obtain ⟨group,found,same⟩ := Option.map_eq_some_iff.mp listed
    obtain ⟨rfl,rfl⟩ := Prod.mk.inj same
    obtain rfl := books.own goal other published
    rw [groupByNode_getElem?] at found
    split at found
    · rename_i recorded
      rw [← Option.some.inj found,sorted]
      exact ⟨rfl,published,recorded,rfl⟩
    · cases found
  · rintro ⟨rfl,published,recorded,rfl⟩
    refine ⟨node,published,?_⟩
    have some_one : ∃ derivation ∈ (s.entryAt node.goal).derivations, derivation.node = node := recorded
    rw [groupByNode_getElem?,if_pos some_one,Option.map_some,sorted]
    rfl

theorem keys_sublist (groups : Std.HashMap Node (List Derivation)) (nodes : List Node) :
    ((nodes.filterMap fun node => (groups[node]?).map fun derivations => (node,sortedSet derivations)).map Prod.fst).Sublist
      nodes := by
  induction nodes with
  | nil => exact .slnil
  | cons node rest ih =>
    rw [List.filterMap_cons]
    cases groups[node]? with
    | none => exact ih.cons _
    | some group => exact ih.cons_cons _

theorem nodesOf_nodup (books : Books s.goals s.asked s.entryAt s.active) : ((s.nodesOf goal).map Prod.fst).Nodup := by
  rw [nodesOf_eq]
  exact (books.published goal).sublist (keys_sublist _ _)

theorem table_distinct (books : Books s.goals s.asked s.entryAt s.active) :
    (s.goals.flatMap s.nodesOf).Pairwise fun one two => ¬compare one.1 two.1 = .eq := by
  have distinct : ((s.goals.flatMap s.nodesOf).map Prod.fst).Nodup := by
    rw [List.map_flatMap,List.nodup_flatMap]
    refine ⟨fun goal _ => nodesOf_nodup books,books.nodup.imp fun {one two} different => ?_⟩
    refine List.disjoint_left.mpr fun node first second => ?_
    obtain ⟨⟨_,_⟩,memberOne,rfl⟩ := List.mem_map.mp first
    obtain ⟨⟨_,_⟩,memberTwo,same⟩ := List.mem_map.mp second
    have goalOne := ((mem_nodesOf books).mp memberOne).1
    have goalTwo := ((mem_nodesOf books).mp memberTwo).1
    exact different (goalOne.symm.trans ((congrArg Node.goal same).symm.trans goalTwo))
  refine (List.pairwise_map.mp distinct).imp fun different same => different ?_
  exact Std.LawfulEqOrd.eq_of_compare same

theorem outcome_lengths (books : Books s.goals s.asked s.entryAt s.active) :
    (s.outcome problem).lengths[goal]? = if goal ∈ s.goals then some (s.lengthsOf goal) else none := by
  change (Std.ExtTreeMap.ofList (s.goals.map fun goal => (goal,s.lengthsOf goal)))[goal]? = _
  split
  · rename_i asked
    refine Std.ExtTreeMap.getElem?_ofList_of_mem Std.ReflCmp.compare_self ?_ (List.mem_map.mpr ⟨goal,asked,rfl⟩)
    refine List.pairwise_map.mpr (books.nodup.imp fun different same => different ?_)
    exact Std.LawfulEqOrd.eq_of_compare same
  · rename_i unasked
    refine Std.ExtTreeMap.getElem?_ofList_of_contains_eq_false ?_
    rw [List.contains_eq_mem,decide_eq_false_iff_not,List.map_map,List.mem_map]
    rintro ⟨other,member,rfl⟩
    exact unasked member

theorem outcome_wasAsked (books : Books s.goals s.asked s.entryAt s.active) :
    (s.outcome problem).wasAsked goal = true ↔ goal ∈ s.chart.asked := by
  rw [Outcome.wasAsked,Std.ExtTreeMap.contains_iff_mem,← Std.ExtTreeMap.isSome_getElem?_iff_mem,outcome_lengths books]
  rw [← show goal ∈ s.goals ↔ goal ∈ s.chart.asked from books.listed goal]
  split
  · simpa
  · simpa

theorem outcome_lengthsOf (books : Books s.goals s.asked s.entryAt s.active) :
    (s.outcome problem).lengthsOf goal = s.lengthsOf goal := by
  rw [Outcome.lengthsOf,Std.ExtTreeMap.getD_eq_getD_getElem?,outcome_lengths books]
  split
  · rfl
  · rename_i unasked
    rw [books.listed] at unasked
    rw [lengthsOf_eq,books.unasked goal unasked]
    simp

variable [Regex.Library]

-- The table holds the published nodes with all that was recorded for them.
theorem table_getElem? (coherent : Coherent problem s) :
    s.table[node]? = some derivations ↔ node ∈ s.chart.published node.goal ∧ derivations = s.derivationsOf node := by
  have books := coherent.good.books
  have listed : ∀ {list}, (node,list) ∈ s.goals.flatMap s.nodesOf ↔
      node ∈ s.chart.published node.goal ∧ list = s.derivationsOf node := by
    intro list
    rw [List.mem_flatMap]
    constructor
    · rintro ⟨goal,_,member⟩
      obtain ⟨rfl,published,_,rfl⟩ := (mem_nodesOf books).mp member
      exact ⟨published,rfl⟩
    · rintro ⟨published,rfl⟩
      have asked : node.goal ∈ s.goals := by
        rw [books.listed]
        by_contra unasked
        have empty := books.unasked node.goal unasked
        change node ∈ (s.entryAt node.goal).published at published
        rw [empty] at published
        cases published
      have recorded := (Chart.reached_announced coherent.reached).recorded node.goal node published
      exact ⟨node.goal,asked,(mem_nodesOf books).mpr ⟨rfl,published,recorded,rfl⟩⟩
  constructor
  · intro found
    by_cases published : node ∈ s.chart.published node.goal
    · have there := Std.ExtTreeMap.getElem?_ofList_of_mem Std.ReflCmp.compare_self (table_distinct books) (listed.mpr ⟨published,rfl⟩)
      exact ⟨published,Option.some.inj (found.symm.trans there)⟩
    · have absent : ((s.goals.flatMap s.nodesOf).map Prod.fst).contains node = false := by
        rw [List.contains_eq_mem,decide_eq_false_iff_not,List.mem_map]
        rintro ⟨⟨_,list⟩,member,rfl⟩
        exact published (listed.mp member).1
      rw [table,Std.ExtTreeMap.getElem?_ofList_of_contains_eq_false absent] at found
      cases found
  · rintro ⟨published,rfl⟩
    exact Std.ExtTreeMap.getElem?_ofList_of_mem Std.ReflCmp.compare_self (table_distinct books) (listed.mpr ⟨published,rfl⟩)

end ParseForest.Session.State
