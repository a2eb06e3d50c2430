import Mathlib
import ParseForest.Proofs.Sorted
import ParseForest.Proofs.WaitGraph.Label

namespace ParseForest.WaitGraph

variable {edges : Array (List Nat)} {labels : Array (Option Nat)} {marks : Array Bool} {i j node label count : Nat}
  {nodes : List Nat}

-- A strongly connected component that no edge leaves, in ascending order.
structure TerminalComponent (edges : Array (List Nat)) (nodes : List Nat) : Prop where
  ascending : nodes.Pairwise (· < ·)
  whole : ∃ node < edges.size, ∀ other, other ∈ nodes ↔ Mutual edges node other
  closed : ∀ node ∈ nodes, ∀ target, Edge edges node target → target ∈ nodes

-- A node of a terminal component: what it reaches reaches it.
def Terminal (edges : Array (List Nat)) (node : Nat) : Prop :=
  node < edges.size ∧ ∀ other, Reach edges node other → Reach edges other node

theorem bounded_iff : Bounded edges ↔ ∀ targets ∈ edges, ∀ target ∈ targets, target < edges.size := by
  constructor
  · intro bounded targets row target member
    obtain ⟨source,found⟩ := Array.mem_iff_getElem?.mp row
    exact bounded source target ⟨targets,found,member⟩
  · rintro inside source target ⟨targets,found,member⟩
    exact inside targets (Array.mem_of_getElem? found) target member

section Exits

theorem mark_set : (marks.setIfInBounds i true).getD label false = true ↔
    marks.getD label false = true ∨ label < marks.size ∧ label = i := by
  simp only [Array.getD_eq_getD_getElem?,Array.getElem?_setIfInBounds]
  by_cases same : i = label
  · subst same
    by_cases inside : i < marks.size
    · simp [inside]
    · simp [inside]
  · simp [same,Ne.symm same]

theorem markExit_iff : (markExit labels i marks j).getD label false = true ↔ marks.getD label false = true ∨
    label < marks.size ∧ labelOf labels i = some label ∧ labelOf labels j ≠ some label := by
  unfold markExit
  split
  · rename_i source labelled
    by_cases same : labelOf labels j = some source
    · rw [if_pos same,labelled,same]
      tauto
    · rw [if_neg same,mark_set,labelled,Option.some.injEq,@eq_comm _ source label]
      constructor
      · rintro (before | ⟨inside,rfl⟩)
        · exact .inl before
        · exact .inr ⟨inside,rfl,same⟩
      · rintro (before | ⟨inside,rfl,_⟩)
        · exact .inl before
        · exact .inr ⟨inside,rfl⟩
  · rename_i unlabelled
    simp [unlabelled]

theorem markExit_size : (markExit labels i marks j).size = marks.size := by
  unfold markExit
  split
  · split
    · rfl
    · exact Array.size_setIfInBounds
  · rfl

theorem markExit_all_size {targets : List Nat} : (targets.foldl (markExit labels i) marks).size = marks.size := by
  induction targets generalizing marks with
  | nil => rfl
  | cons target targets ih => rw [List.foldl_cons,ih,markExit_size]

theorem markExit_all {targets : List Nat} : (targets.foldl (markExit labels i) marks).getD label false = true ↔
    marks.getD label false = true ∨
      label < marks.size ∧ labelOf labels i = some label ∧ ∃ target ∈ targets, labelOf labels target ≠ some label := by
  induction targets generalizing marks with
  | nil => simp
  | cons target targets ih =>
    rw [List.foldl_cons,ih,markExit_iff,markExit_size]
    simp only [List.mem_cons,exists_eq_or_imp]
    tauto

theorem markExits_iff {rows : List (List Nat × Nat)} :
    (rows.foldl (fun marks row => row.1.foldl (markExit labels row.2) marks) marks).size = marks.size ∧
    ((rows.foldl (fun marks row => row.1.foldl (markExit labels row.2) marks) marks).getD label false = true ↔
      marks.getD label false = true ∨ label < marks.size ∧ ∃ row ∈ rows, labelOf labels row.2 = some label ∧
        ∃ target ∈ row.1, labelOf labels target ≠ some label) := by
  induction rows generalizing marks with
  | nil => simp
  | cons row rows ih =>
    obtain ⟨size,rest⟩ := @ih (row.1.foldl (markExit labels row.2) marks)
    rw [markExit_all_size] at size rest
    refine ⟨size,?_⟩
    rw [List.foldl_cons,rest,markExit_all]
    simp only [List.mem_cons,exists_eq_or_imp,and_or_left,or_assoc]

theorem exits_eq : exits edges labels count =
    edges.toList.zipIdx.foldl (fun marks row => row.1.foldl (markExit labels row.2) marks) (Array.replicate count false) := rfl

theorem exits_size : (exits edges labels count).size = count := by
  rw [exits_eq,(@markExits_iff labels _ 0 _).1,Array.size_replicate]

theorem exits_iff (below : label < count) : (exits edges labels count).getD label false = true ↔
    ∃ source target, Edge edges source target ∧ labelOf labels source = some label ∧ labelOf labels target ≠ some label := by
  rw [exits_eq,markExits_iff.2]
  have unmarked : (Array.replicate count false).getD label false = false := by
    simp [Array.getD_eq_getD_getElem?,below]
  simp only [unmarked,Array.size_replicate,below,true_and,Bool.false_eq_true,false_or]
  constructor
  · rintro ⟨⟨targets,source⟩,row,labelled,target,member,other⟩
    rw [List.mk_mem_zipIdx_iff_getElem?,Array.getElem?_toList] at row
    exact ⟨source,target,⟨targets,row,member⟩,labelled,other⟩
  · rintro ⟨source,target,⟨targets,row,member⟩,labelled,other⟩
    refine ⟨(targets,source),?_,labelled,target,member,other⟩
    rw [List.mk_mem_zipIdx_iff_getElem?,Array.getElem?_toList]
    exact row

end Exits

-- The nodes with a label.
def labelled (labels : Array (Option Nat)) (label : Nat) : List Nat :=
  (List.range labels.size).filter fun node => labelOf labels node = some label

theorem mem_labelled : node ∈ labelled labels label ↔ labelOf labels node = some label := by
  rw [labelled,List.mem_filter,List.mem_range,decide_eq_true_eq]
  refine and_iff_right_of_imp ?_
  intro found
  by_contra outside
  rw [labelOf,Array.getD_eq_getD_getElem?,Array.getElem?_eq_none (Nat.le_of_not_lt outside)] at found
  cases found

theorem labelled_ascending : (labelled labels label).Pairwise (· < ·) := List.pairwise_lt_range.filter _

theorem addNode_size {groups : Array (List Nat)} : (addNode labels marks node groups).size = groups.size := by
  unfold addNode
  split
  · split
    · rfl
    · exact Array.size_modify
  · rfl

theorem addNode_getElem? {groups : Array (List Nat)} {before : List Nat}
    (found : groups[label]? = some (if marks.getD label false then [] else before)) :
    (addNode labels marks node groups)[label]? =
      some (if marks.getD label false then [] else if labelOf labels node = some label then node :: before else before) := by
  unfold addNode
  cases own : labelOf labels node with
  | none =>
    rw [found]
    simp only [reduceCtorEq,if_false]
  | some other =>
    by_cases same : other = label
    · subst same
      by_cases exit : marks.getD other false = true
      · simp only [exit,if_true] at found ⊢
        exact found
      · simp only [exit,if_false,Array.getElem?_modify,if_true,Bool.false_eq_true] at found ⊢
        rw [found]
        rfl
    · simp only [Option.some.injEq,same,if_false]
      split
      · exact found
      · rw [Array.getElem?_modify,if_neg same,found]

theorem groups_size : (groups labels marks).size = marks.size := by
  unfold groups
  generalize List.range labels.size = nodes
  induction nodes with
  | nil => exact Array.size_replicate
  | cons node nodes ih => rw [List.foldr_cons,addNode_size,ih]

theorem groups_getElem? (below : label < marks.size) : (groups labels marks)[label]? =
    some (if marks.getD label false then [] else labelled labels label) := by
  unfold groups labelled
  generalize List.range labels.size = nodes
  induction nodes with
  | nil => simp [below]
  | cons node nodes ih =>
    rw [List.foldr_cons,addNode_getElem? ih,List.filter_cons]
    simp only [decide_eq_true_eq]

theorem groups_eq : (groups labels marks).toList =
    (List.range marks.size).map fun label => if marks.getD label false then [] else labelled labels label := by
  refine List.ext_getElem? fun label => ?_
  rw [Array.getElem?_toList,List.getElem?_map]
  by_cases below : label < marks.size
  · rw [groups_getElem? below,List.getElem?_range below]
    rfl
  · rw [Array.getElem?_eq_none (by rw [groups_size]; omega),List.getElem?_eq_none (by simpa using Nat.le_of_not_lt below)]
    rfl

-- The groups that hold nodes are the terminal components, and none of them shares a node with another.
theorem Labelling.mem_groups (labelling : Labelling edges labels count []) :
    nodes ∈ (groups labels (exits edges labels count)).toList.filter (!·.isEmpty) ↔ TerminalComponent edges nodes := by
  rw [groups_eq,exits_size,List.mem_filter,List.mem_map]
  simp only [List.mem_range,Bool.not_eq_true',List.isEmpty_eq_false_iff]
  constructor
  · rintro ⟨⟨label,below,rfl⟩,occupied⟩
    by_cases exit : (exits edges labels count).getD label false = true
    · rw [if_pos exit] at occupied
      exact absurd rfl occupied
    · rw [if_neg exit] at occupied ⊢
      rw [exits_iff below] at exit
      obtain ⟨node,member⟩ := List.exists_mem_of_ne_nil _ occupied
      have found := mem_labelled.mp member
      refine ⟨labelled_ascending,⟨node,?_,?_⟩,?_⟩
      · rw [← labelling.size]
        exact List.mem_range.mp (List.mem_filter.mp member).1
      · exact fun other => mem_labelled.trans (labelling.whole node other label found)
      · intro source inside target edge
        by_contra outside
        exact exit ⟨source,target,edge,mem_labelled.mp inside,fun same => outside (mem_labelled.mpr same)⟩
  · rintro ⟨ascending,⟨node,inside,whole⟩,closed⟩
    obtain ⟨label,found⟩ : ∃ label, labelOf labels node = some label := by
      refine Option.ne_none_iff_exists'.mp fun unlabelled => ?_
      exact absurd (labelling.ahead node inside unlabelled) List.not_mem_nil
    have below := labelling.below node label found
    have same : nodes = labelled labels label := by
      refine Sorted.Ascending.ext ascending labelled_ascending ?_
      exact fun other => (whole other).trans ((labelling.whole node other label found).symm.trans mem_labelled.symm)
    subst same
    refine ⟨⟨label,below,if_neg ?_⟩,List.ne_nil_of_mem (mem_labelled.mpr found)⟩
    rw [exits_iff below]
    rintro ⟨source,target,edge,from_here,elsewhere⟩
    exact elsewhere (mem_labelled.mp (closed source (mem_labelled.mpr from_here) target edge))

theorem groups_disjoint : ((groups labels marks).toList.filter (!·.isEmpty)).Pairwise List.Disjoint := by
  rw [groups_eq]
  refine List.Pairwise.filter _ (List.pairwise_map.mpr (List.nodup_range.imp ?_))
  intro one two different node inOne inTwo
  split at inOne
  · cases inOne
  · split at inTwo
    · cases inTwo
    · have same := (mem_labelled.mp inOne).symm.trans (mem_labelled.mp inTwo)
      exact different (Option.some.inj same)

theorem headD_mem (occupied : nodes ≠ []) : nodes.headD 0 ∈ nodes := by
  cases nodes with
  | nil => exact absurd rfl occupied
  | cons first rest => exact .head _

theorem headD_le (ascending : nodes.Pairwise (· < ·)) (member : node ∈ nodes) : nodes.headD 0 ≤ node := by
  cases nodes with
  | nil => cases member
  | cons first rest =>
    rcases List.mem_cons.mp member with rfl | later
    · exact Nat.le_refl _
    · exact Nat.le_of_lt ((List.pairwise_cons.mp ascending).1 node later)

theorem TerminalComponent.ne_nil (component : TerminalComponent edges nodes) : nodes ≠ [] := by
  obtain ⟨node,_,whole⟩ := component.whole
  exact List.ne_nil_of_mem ((whole node).mpr ⟨.refl,.refl⟩)

theorem arrange_perm {groups : Array (List Nat)} : (arrange groups).Perm (groups.toList.filter (!·.isEmpty)) :=
  List.mergeSort_perm _ _

theorem arrange_sorted {groups : Array (List Nat)} :
    (arrange groups).Pairwise fun one two => one.headD 0 ≤ two.headD 0 := by
  refine (List.pairwise_mergeSort ?_ ?_ _).imp fun order => of_decide_eq_true order
  · intro one two three first second
    exact decide_eq_true (Nat.le_trans (of_decide_eq_true first) (of_decide_eq_true second))
  · intro one two
    simpa using Nat.le_total _ _

-- Both searches end.
theorem searches_end (bounded : Bounded edges) : ∃ labels count, Labelling edges labels count [] ∧
    terminalComponents? edges = some (arrange (groups labels (exits edges labels count))) := by
  obtain ⟨order,left,all,ordered⟩ := leavingOrder_ends bounded
  obtain ⟨labels,count,labelled,labelling⟩ := labelAll_ends bounded (initial_labelling all ordered)
  refine ⟨labels,count,labelling,?_⟩
  unfold terminalComponents?
  rw [left,Option.bind_eq_bind,Option.bind_some,labelled]
  rfl

-- What is found: every terminal component once, ordered by smallest nodes.
theorem terminalComponents_found (bounded : Bounded edges) :
    terminalComponents? edges = some (terminalComponents edges) ∧
    (∀ nodes, nodes ∈ terminalComponents edges ↔ TerminalComponent edges nodes) ∧
    (terminalComponents edges).Pairwise List.Disjoint ∧
    (terminalComponents edges).Pairwise fun one two => ∃ least ∈ one, ∀ node ∈ two, least < node := by
  obtain ⟨labels,count,labelling,found⟩ := searches_end bounded
  have value : terminalComponents edges = arrange (groups labels (exits edges labels count)) := by
    rw [terminalComponents,found,Option.getD_some]
  have members : ∀ nodes, nodes ∈ terminalComponents edges ↔ TerminalComponent edges nodes := by
    intro nodes
    rw [value,arrange_perm.mem_iff]
    exact labelling.mem_groups
  have disjoint : (terminalComponents edges).Pairwise List.Disjoint :=
    value ▸ arrange_perm.symm.pairwise groups_disjoint fun shared => shared.symm
  have sorted := value ▸ @arrange_sorted (groups labels (exits edges labels count))
  refine ⟨value ▸ found,members,disjoint,?_⟩
  refine List.Pairwise.imp_of_mem ?_ (disjoint.and sorted)
  rintro one two inOne inTwo ⟨apart,order⟩
  have first := (members one).mp inOne
  have second := (members two).mp inTwo
  refine ⟨one.headD 0,headD_mem first.ne_nil,fun node member => ?_⟩
  have different : one.headD 0 ≠ node := fun same => apart (headD_mem first.ne_nil) (same ▸ member)
  have least := headD_le second.ascending member
  omega

theorem Reach.stays (closed : ∀ node ∈ nodes, ∀ target, Edge edges node target → target ∈ nodes) (member : i ∈ nodes)
    (path : Reach edges i j) : j ∈ nodes := by
  induction path with
  | refl => exact member
  | tail _ edge ih => exact closed _ ih _ edge

open Classical in
-- The nodes named are exactly those of terminal components.
theorem mem_flatten_terminalComponents (bounded : Bounded edges) :
    node ∈ (terminalComponents edges).flatten ↔ Terminal edges node := by
  obtain ⟨_,members,_⟩ := terminalComponents_found bounded
  simp only [List.mem_flatten,members]
  constructor
  · rintro ⟨nodes,component,member⟩
    obtain ⟨first,inside,whole⟩ := component.whole
    have joined := (whole node).mp member
    refine ⟨joined.1.lt bounded inside,fun other path => ?_⟩
    exact ((whole other).mp (path.stays component.closed member)).2.trans joined.1
  · intro terminal
    have whole : ∀ other, other ∈ (List.range edges.size).filter (fun other => Mutual edges node other) ↔ Mutual edges node other := by
      intro other
      rw [List.mem_filter,List.mem_range,decide_eq_true_eq]
      exact and_iff_right_of_imp fun joined => joined.1.lt bounded terminal.1
    refine ⟨_,⟨List.pairwise_lt_range.filter _,⟨node,terminal.1,whole⟩,?_⟩,(whole node).mpr ⟨.refl,.refl⟩⟩
    intro other member target edge
    have path : Reach edges node target := ((whole other).mp member).1.tail edge
    exact (whole target).mpr ⟨path,terminal.2 target path⟩

theorem terminalComponents_nodup (bounded : Bounded edges) : (terminalComponents edges).flatten.Nodup := by
  obtain ⟨_,members,disjoint,_⟩ := terminalComponents_found bounded
  exact List.nodup_flatten.mpr ⟨fun nodes member => ((members nodes).mp member).ascending.imp Nat.ne_of_lt,disjoint⟩

-- A graph that has nodes has a terminal component: from any node, go to one that reaches least.
theorem exists_terminal (bounded : Bounded edges) (inside : node < edges.size) :
    ∃ terminal, Terminal edges terminal ∧ Reach edges node terminal := by
  have finite : ∀ node < edges.size, {other | Reach edges node other}.Finite := fun node inside =>
    (Set.finite_lt_nat edges.size).subset fun other path => path.lt bounded inside
  induction size : {other | Reach edges node other}.ncard using Nat.strong_induction_on generalizing node with
  | _ size ih =>
    by_cases terminal : Terminal edges node
    · exact ⟨node,terminal,.refl⟩
    · obtain ⟨other,path,noReturn⟩ : ∃ other, Reach edges node other ∧ ¬Reach edges other node := by
        by_contra none_such
        refine terminal ⟨inside,fun other path => ?_⟩
        by_contra noReturn
        exact none_such ⟨other,path,noReturn⟩
      have fewer : {further | Reach edges other further}.ncard < {further | Reach edges node further}.ncard := by
        refine Set.ncard_lt_ncard ⟨fun _ further => path.trans further,fun back => noReturn ?_⟩ (finite node inside)
        exact back (show Reach edges node node from .refl)
      obtain ⟨last,terminalLast,pathLast⟩ := ih _ (size ▸ fewer) (path.lt bounded inside) rfl
      exact ⟨last,terminalLast,path.trans pathLast⟩

-- On every graph whose edges end at its nodes both searches come to an end, and the result lists each
-- strongly connected component that no edge leaves once, in the order of their smallest nodes.
theorem terminalComponents_exact (bounded : Bounded edges) :
    ∃ components, terminalComponents? edges = some components ∧ components.Nodup ∧
      (∀ nodes, nodes ∈ components ↔ TerminalComponent edges nodes) ∧
      components.Pairwise (fun one two => ∃ least ∈ one, ∀ node ∈ two, least < node) ∧
      (0 < edges.size → components ≠ []) := by
  obtain ⟨found,members,_,sorted⟩ := terminalComponents_found bounded
  refine ⟨_,found,sorted.imp ?_,members,sorted,?_⟩
  · rintro one _ ⟨least,member,below⟩ rfl
    exact Nat.lt_irrefl least (below least member)
  · intro occupied none
    obtain ⟨node,terminal,_⟩ := exists_terminal bounded occupied
    have named := (mem_flatten_terminalComponents bounded).mpr terminal
    rw [none] at named
    cases named

-- A way into a circle, and a node with an edge to itself.
def lasso : Array (List Nat) := #[[1],[2,2],[1],[3,0]]

theorem lasso_component : Bounded lasso ∧ ∃ components, terminalComponents? lasso = some components ∧ [1,2] ∈ components := by
  have bounded : Bounded lasso := bounded_iff.mpr (by decide)
  have closed : ∀ node ∈ [1,2], ∀ target, Edge lasso node target → target ∈ [1,2] := by
    simp only [edge_iff]
    decide
  have forth : Reach lasso 1 2 := .single (edge_iff.mpr (by decide))
  have back : Reach lasso 2 1 := .single (edge_iff.mpr (by decide))
  obtain ⟨components,found,_,members,_⟩ := terminalComponents_exact bounded
  refine ⟨bounded,components,found,(members _).mpr ⟨by decide,⟨1,by decide,fun other => ⟨?_,?_⟩⟩,closed⟩⟩
  · intro member
    rcases List.mem_cons.mp member with rfl | second
    · exact ⟨.refl,.refl⟩
    · rw [List.mem_singleton.mp second]
      exact ⟨forth,back⟩
  · exact fun joined => joined.1.stays closed (.head _)

example : terminalComponents? lasso = some [[1,2]] := by cbv

end ParseForest.WaitGraph
