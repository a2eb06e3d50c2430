import Mathlib
import ParseForest.Proofs.WaitGraph.Walk

namespace ParseForest.WaitGraph

variable {edges sources : Array (List Nat)} {start labels : Array (Option Nat)} {i j node other root label count : Nat}
  {waiting roots : List Nat}

-- Nodes of one component.
def Mutual (edges : Array (List Nat)) (one two : Nat) : Prop := Reach edges one two ∧ Reach edges two one

theorem Mutual.symm (joined : Mutual edges i j) : Mutual edges j i := ⟨joined.2,joined.1⟩

theorem Mutual.trans (one : Mutual edges i j) (two : Mutual edges j node) : Mutual edges i node :=
  ⟨one.1.trans two.1,two.2.trans one.2⟩

section Reversed

theorem mem_modify : i ∈ (sources.modify node (root :: ·)).getD j [] ↔
    i ∈ sources.getD j [] ∨ j < sources.size ∧ i = root ∧ j = node := by
  simp only [Array.getD_eq_getD_getElem?,Array.getElem?_modify]
  by_cases same : node = j
  · subst same
    by_cases inside : node < sources.size
    · simp [inside,or_comm]
    · simp [inside]
  · simp [same,Ne.symm same]

theorem mem_turned {targets : List Nat} :
    i ∈ (targets.foldl (fun sources target => sources.modify target (root :: ·)) sources).getD j [] ↔
      i ∈ sources.getD j [] ∨ j < sources.size ∧ i = root ∧ j ∈ targets := by
  induction targets generalizing sources with
  | nil => simp
  | cons target targets ih =>
    rw [List.foldl_cons,ih,mem_modify,Array.size_modify,List.mem_cons]
    tauto

theorem size_turned {targets : List Nat} :
    (targets.foldl (fun sources target => sources.modify target (root :: ·)) sources).size = sources.size := by
  induction targets generalizing sources with
  | nil => rfl
  | cons target targets ih => rw [List.foldl_cons,ih,Array.size_modify]

theorem mem_turned_all {rows : List (List Nat × Nat)} :
    i ∈ (rows.foldl (fun sources row => row.1.foldl (fun sources target => sources.modify target (row.2 :: ·)) sources)
        sources).getD j [] ↔
      i ∈ sources.getD j [] ∨ j < sources.size ∧ ∃ targets, (targets,i) ∈ rows ∧ j ∈ targets := by
  induction rows generalizing sources with
  | nil => simp
  | cons row rows ih =>
    obtain ⟨targets,source⟩ := row
    rw [List.foldl_cons,ih,mem_turned,size_turned]
    simp only [List.mem_cons,Prod.mk.injEq,or_and_right,exists_or,and_or_left]
    have here : (∃ others, (others = targets ∧ i = source) ∧ j ∈ others) ↔ i = source ∧ j ∈ targets := by aesop
    rw [here]
    tauto

theorem mem_reversed (bounded : Bounded edges) : i ∈ (reversed edges).getD j [] ↔ Edge edges i j := by
  unfold reversed
  rw [mem_turned_all]
  have empty : (Array.replicate edges.size ([] : List Nat)).getD j [] = [] := by
    simp [Array.getD_eq_getD_getElem?,Array.getElem?_replicate]
    split <;> rfl
  rw [empty,Array.size_replicate]
  constructor
  · rintro (none | ⟨_,targets,row,member⟩)
    · exact absurd none List.not_mem_nil
    · rw [List.mk_mem_zipIdx_iff_getElem?,Array.getElem?_toList] at row
      exact ⟨targets,row,member⟩
  · intro edge
    obtain ⟨targets,found,member⟩ := id edge
    refine .inr ⟨bounded i j edge,targets,?_,member⟩
    rw [List.mk_mem_zipIdx_iff_getElem?,Array.getElem?_toList]
    exact found

end Reversed

theorem labels_some (inside : node < labels.size) : labels[node]? = some (labelOf labels node) := by
  rw [labelOf,Array.getD_eq_getD_getElem?,Array.getElem?_eq_getElem inside]
  rfl

theorem labelOf_set (inside : node < labels.size) :
    labelOf (labels.setIfInBounds node (some label)) other = if other = node then some label else labelOf labels other := by
  simp only [labelOf,Array.getD_eq_getD_getElem?,Array.getElem?_setIfInBounds]
  by_cases same : node = other
  · subst same
    simp [inside]
  · simp [same,Ne.symm same]

theorem mark_ends {nodes : List Nat} (inside : ∀ node ∈ nodes, node < labels.size) :
    ∃ marked more, mark label labels waiting nodes = some (marked,more) ∧ marked.size = labels.size ∧
      (∀ node, labelOf marked node = if node ∈ nodes ∧ labelOf labels node = none then some label else labelOf labels node) ∧
      ∀ node, node ∈ more ↔ node ∈ waiting ∨ node ∈ nodes ∧ labelOf labels node = none := by
  induction nodes generalizing labels waiting with
  | nil => exact ⟨labels,waiting,rfl,rfl,by simp,by simp⟩
  | cons first nodes ih =>
    have here := inside first (.head _)
    have further : ∀ other ∈ nodes, other < labels.size := fun other member => inside other (.tail first member)
    unfold mark
    rw [labels_some here]
    cases old : labelOf labels first with
    | some _ =>
      obtain ⟨marked,more,done,size,set,wait⟩ := @ih labels waiting further
      refine ⟨marked,more,done,size,?_,?_⟩
      · intro node
        simp only [set,List.mem_cons]
        by_cases same : node = first
        · simp [same,old]
        · simp [same]
      · intro node
        rw [wait,List.mem_cons]
        by_cases same : node = first
        · simp [same,old]
        · simp [same]
    | none =>
      obtain ⟨marked,more,done,size,set,wait⟩ := @ih (labels.setIfInBounds first (some label)) (first :: waiting)
        (by simpa only [Array.size_setIfInBounds] using further)
      refine ⟨marked,more,done,by rw [size,Array.size_setIfInBounds],?_,?_⟩
      · intro node
        simp only [set,labelOf_set here,List.mem_cons]
        by_cases same : node = first
        · simp [same,old]
        · simp [same]
      · intro node
        rw [wait,labelOf_set here,List.mem_cons,List.mem_cons]
        by_cases same : node = first
        · simp [same,old]
        · simp [same]

-- What holds while the second search goes on from one root: only nodes that lead to the root past
-- nodes without a label get the new label, and of those visited nothing is left out.
structure Collecting (edges : Array (List Nat)) (start labels : Array (Option Nat)) (label root : Nat)
    (waiting : List Nat) : Prop where
  size : labels.size = edges.size
  kept : ∀ node, labelOf start node ≠ none → labelOf labels node = labelOf start node
  fresh : ∀ node, labelOf start node = none → labelOf labels node = none ∨
    labelOf labels node = some label ∧ ReachIn edges {x | labelOf start x = none} node root
  rooted : labelOf start root = none ∧ labelOf labels root = some label
  waits : ∀ node ∈ waiting, labelOf start node = none ∧ labelOf labels node = some label
  closed : ∀ node, labelOf start node = none → labelOf labels node = some label →
    node ∈ waiting ∨ ∀ source, Edge edges source node → labelOf labels source ≠ none

theorem Collecting.visit (collecting : Collecting edges start labels label root (node :: waiting)) {nodes more : List Nat}
    {marked : Array (Option Nat)} (leading : ∀ source, source ∈ nodes ↔ Edge edges source node) (size : marked.size = labels.size)
    (set : ∀ other, labelOf marked other = if other ∈ nodes ∧ labelOf labels other = none then some label else labelOf labels other)
    (wait : ∀ other, other ∈ more ↔ other ∈ waiting ∨ other ∈ nodes ∧ labelOf labels other = none) :
    Collecting edges start marked label root more := by
  have still : ∀ other, labelOf labels other ≠ none → labelOf marked other = labelOf labels other :=
    fun other labelled => (set other).trans (if_neg fun both => labelled both.2)
  have unstarted : ∀ other, labelOf labels other = none → labelOf start other = none := by
    intro other unlabelled
    by_contra started
    exact started ((collecting.kept other started).symm.trans unlabelled)
  obtain ⟨unlabelled,here⟩ := collecting.waits node (.head _)
  have inward : ReachIn edges {x | labelOf start x = none} node root := by
    rcases collecting.fresh node unlabelled with none | some
    · rw [here] at none
      cases none
    · exact some.2
  refine ⟨size.trans collecting.size,?_,?_,⟨collecting.rooted.1,?_⟩,?_,?_⟩
  · intro other started
    have before := collecting.kept other started
    rw [still other (before ▸ started),before]
  · intro other free
    rw [set]
    split
    · rename_i both
      exact .inr ⟨rfl,.head ⟨(leading other).mp both.1,free⟩ inward⟩
    · exact collecting.fresh other free
  · rw [still root (by rw [collecting.rooted.2]; simp),collecting.rooted.2]
  · intro other member
    rcases (wait other).mp member with before | ⟨source,new⟩
    · obtain ⟨free,labelled⟩ := collecting.waits other (.tail _ before)
      exact ⟨free,by rw [still other (by rw [labelled]; simp),labelled]⟩
    · exact ⟨unstarted other new,by rw [set,if_pos ⟨source,new⟩]⟩
  · intro other free labelled
    rw [wait]
    by_cases new : other ∈ nodes ∧ labelOf labels other = none
    · exact .inl (.inr new)
    · rw [set,if_neg new] at labelled
      rcases collecting.closed other free labelled with before | all
      · rcases List.mem_cons.mp before with rfl | later
        · refine .inr ?_
          intro source edge
          rw [set]
          split
          · simp
          · rename_i old
            exact fun unlabelled => old ⟨(leading source).mpr edge,unlabelled⟩
        · exact .inl (.inl later)
      · exact .inr fun source edge => by rw [still source (all source edge)]; exact all source edge

theorem collect_ends (collecting : Collecting edges start labels label root waiting) (bounded : Bounded edges) :
    ∃ last, collect (reversed edges) label labels waiting = some last ∧ Collecting edges start last label root [] := by
  have inside : ∀ node, ∀ source ∈ (reversed edges).getD node [], source < edges.size :=
    fun node source member => ((mem_reversed bounded).mp member).lt
  fun_induction collect (reversed edges) label labels waiting with
  | case1 labels => exact ⟨labels,rfl,collecting⟩
  | case2 labels node waiting failed =>
    obtain ⟨marked,more,done,_⟩ := @mark_ends labels label waiting _ (collecting.size ▸ inside node)
    rw [failed] at done
    cases done
  | case3 labels node waiting marked more done ih =>
    obtain ⟨_,_,again,size,set,wait⟩ := @mark_ends labels label waiting _ (collecting.size ▸ inside node)
    rw [done] at again
    obtain ⟨rfl,rfl⟩ := Prod.mk.inj (Option.some.inj again)
    exact ih (collecting.visit (fun _ => mem_reversed bounded) size set wait)

theorem Collecting.labelOf_iff (collecting : Collecting edges start labels label root []) (free : labelOf start node = none) :
    labelOf labels node = some label ↔ ReachIn edges {x | labelOf start x = none} node root := by
  constructor
  · intro labelled
    rcases collecting.fresh node free with none | some
    · rw [labelled] at none
      cases none
    · exact some.2
  · intro inward
    induction inward using Relation.ReflTransGen.head_induction_on with
    | refl => exact collecting.rooted.2
    | head step rest ih =>
      rename_i source target
      have free : labelOf start target = none := by
        rcases ReachIn.start rest with same | member
        · rw [same]
          exact collecting.rooted.1
        · exact member
      have all := (collecting.closed target free (ih free)).resolve_left List.not_mem_nil
      exact ((collecting.fresh source step.2).resolve_left (all source step.1)).1

-- What holds between the roots of the second search: those labelled so far are whole components.
structure Labelling (edges : Array (List Nat)) (labels : Array (Option Nat)) (count : Nat) (roots : List Nat) : Prop where
  size : labels.size = edges.size
  below : ∀ node label, labelOf labels node = some label → label < count
  whole : ∀ one two label, labelOf labels one = some label → (labelOf labels two = some label ↔ Mutual edges one two)
  ahead : ∀ node < edges.size, labelOf labels node = none → node ∈ roots
  inside : ∀ root ∈ roots, root < edges.size
  ordered : Ordered edges roots

-- Past nodes without a label, exactly the component of the root leads to the root: what was left
-- before the root has a way back only from there.
theorem Labelling.inward_iff (labelling : Labelling edges labels count (root :: roots)) (free : labelOf labels root = none) :
    ReachIn edges {x | labelOf labels x = none} node root ↔ Mutual edges root node := by
  constructor
  · intro inward
    have among : ReachIn edges {x | x ∈ root :: roots} node root :=
      Relation.ReflTransGen.mono (fun source _ step => ⟨step.1,labelling.ahead source step.1.lt step.2⟩) _ _ inward
    exact ⟨labelling.ordered.1 node among,inward.reach⟩
  · rintro ⟨out,back⟩
    have unlabelled : ∀ other, Mutual edges root other → labelOf labels other = none := by
      intro other joined
      cases labelled : labelOf labels other with
      | none => rfl
      | some label =>
        have also := (labelling.whole other root label labelled).mpr joined.symm
        rw [free] at also
        cases also
    induction back using Relation.ReflTransGen.head_induction_on with
    | refl => exact .refl
    | head edge rest ih =>
      exact .head ⟨edge,unlabelled _ ⟨out,.head edge rest⟩⟩ (ih (out.tail edge))

theorem Labelling.begin (labelling : Labelling edges labels count (root :: roots)) (free : labelOf labels root = none) :
    Collecting edges labels (labels.setIfInBounds root (some count)) count root [root] := by
  have inside : root < labels.size := labelling.size ▸ labelling.inside root (.head _)
  have set := fun other => @labelOf_set labels root other count inside
  refine ⟨by rw [Array.size_setIfInBounds,labelling.size],?_,?_,⟨free,by rw [set,if_pos rfl]⟩,?_,?_⟩
  · intro node labelled
    rw [set,if_neg]
    rintro rfl
    exact labelled free
  · intro node unlabelled
    rw [set]
    split
    · rename_i same
      subst same
      exact .inr ⟨rfl,.refl⟩
    · exact .inl unlabelled
  · intro node member
    rw [List.mem_singleton.mp member,set,if_pos rfl]
    exact ⟨free,rfl⟩
  · intro node unlabelled labelled
    rw [set] at labelled
    split at labelled
    · rename_i same
      exact .inl (List.mem_singleton.mpr same)
    · rw [unlabelled] at labelled
      cases labelled

theorem Labelling.extend {last : Array (Option Nat)} (labelling : Labelling edges labels count (root :: roots))
    (collecting : Collecting edges labels last count root []) : Labelling edges last (count + 1) roots := by
  have free := collecting.rooted.1
  -- A label of the last round is an old one, or the new one for the component of the root.
  have cases : ∀ node label, labelOf last node = some label ↔
      labelOf labels node = some label ∨ label = count ∧ Mutual edges root node := by
    intro node label
    cases before : labelOf labels node with
    | some old =>
      rw [collecting.kept node (by rw [before]; simp),before]
      have apart : ¬Mutual edges root node := by
        intro joined
        have also := (labelling.whole node root old before).mpr joined.symm
        rw [free] at also
        cases also
      simp [apart]
    | none =>
      have new := (collecting.labelOf_iff before).trans (labelling.inward_iff free)
      rcases collecting.fresh node before with none | some
      · rw [none] at new ⊢
        have apart : ¬Mutual edges root node := fun joined => by cases new.mpr joined
        simp [apart]
      · rw [some.1] at new ⊢
        simp only [Option.some.injEq,reduceCtorEq,false_or]
        exact ⟨fun same => ⟨same.symm,new.mp rfl⟩,fun both => both.1.symm⟩
  refine ⟨collecting.size,?_,?_,?_,fun other member => labelling.inside other (.tail _ member),labelling.ordered.2⟩
  · intro node label labelled
    rcases (cases node label).mp labelled with old | new
    · exact Nat.lt_succ_of_lt (labelling.below node label old)
    · omega
  · intro one two label labelled
    rcases (cases one label).mp labelled with old | ⟨rfl,joined⟩
    · have bound := labelling.below one label old
      rw [cases,labelling.whole one two label old]
      constructor
      · rintro (same | ⟨rfl,_⟩)
        · exact same
        · omega
      · exact .inl
    · have unused : labelOf labels two ≠ some label := fun old => Nat.lt_irrefl _ (labelling.below two label old)
      rw [cases]
      constructor
      · rintro (old | ⟨_,also⟩)
        · exact absurd old unused
        · exact joined.symm.trans also
      · intro also
        exact .inr ⟨rfl,joined.trans also⟩
  · intro node inside unlabelled
    have before : labelOf labels node = none := by
      by_contra old
      exact old ((collecting.kept node old).symm.trans unlabelled)
    rcases List.mem_cons.mp (labelling.ahead node inside before) with rfl | later
    · rw [collecting.rooted.2] at unlabelled
      cases unlabelled
    · exact later

theorem labelAll_ends (bounded : Bounded edges) (labelling : Labelling edges labels count roots) :
    ∃ last total, labelAll (reversed edges) labels count roots = some (last,total) ∧ Labelling edges last total [] := by
  induction roots generalizing labels count with
  | nil => exact ⟨labels,count,rfl,labelling⟩
  | cons root roots ih =>
    unfold labelAll
    rw [labels_some (labelling.size ▸ labelling.inside root (.head _))]
    cases before : labelOf labels root with
    | some old =>
      refine ih ⟨labelling.size,labelling.below,labelling.whole,?_,fun other member => labelling.inside other (.tail _ member),
        labelling.ordered.2⟩
      intro node inside unlabelled
      rcases List.mem_cons.mp (labelling.ahead node inside unlabelled) with rfl | later
      · rw [before] at unlabelled
        cases unlabelled
      · exact later
    | none =>
      obtain ⟨last,collected,collecting⟩ := collect_ends (labelling.begin before) bounded
      simp only [collected]
      exact ih (labelling.extend collecting)

theorem initial_labelling (all : ∀ node, node ∈ roots ↔ node < edges.size) (ordered : Ordered edges roots) :
    Labelling edges (Array.replicate edges.size none) 0 roots := by
  have none : ∀ node, labelOf (Array.replicate edges.size none) node = none := by
    intro node
    simp [labelOf,Array.getD_eq_getD_getElem?,Array.getElem?_replicate]
    split <;> rfl
  refine ⟨by simp,?_,?_,fun node inside _ => (all node).mpr inside,fun root member => (all root).mp member,ordered⟩
  · intro node label labelled
    rw [none] at labelled
    cases labelled
  · intro one two label labelled
    rw [none] at labelled
    cases labelled

end ParseForest.WaitGraph
