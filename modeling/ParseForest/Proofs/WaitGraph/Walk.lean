import Mathlib
import ParseForest.WaitGraph

namespace ParseForest.WaitGraph

variable {edges : Array (List Nat)} {entered : Array Bool} {left : List Nat} {path : List (Nat × List Nat)}
  {i j node target root : Nat} {targets : List Nat}

def Edge (edges : Array (List Nat)) (source target : Nat) : Prop :=
  ∃ targets, edges[source]? = some targets ∧ target ∈ targets

def Reach (edges : Array (List Nat)) : Nat → Nat → Prop := Relation.ReflTransGen (Edge edges)

def Bounded (edges : Array (List Nat)) : Prop := ∀ source target, Edge edges source target → target < edges.size

theorem Edge.lt (edge : Edge edges i j) : i < edges.size := by
  obtain ⟨_,found,_⟩ := edge
  exact (Array.getElem?_eq_some_iff.mp found).1

theorem edge_iff : Edge edges i j ↔ j ∈ edges.getD i [] := by
  unfold Edge
  rw [Array.getD_eq_getD_getElem?]
  cases edges[i]? <;> simp

theorem Reach.lt (bounded : Bounded edges) (inside : i < edges.size) (reach : Reach edges i j) : j < edges.size := by
  induction reach with
  | refl => exact inside
  | tail _ edge _ => exact bounded _ _ edge

-- Paths that leave only from some nodes.
def ReachIn (edges : Array (List Nat)) (allowed : Set Nat) : Nat → Nat → Prop :=
  Relation.ReflTransGen fun source target => Edge edges source target ∧ source ∈ allowed

theorem ReachIn.reach {allowed : Set Nat} (inner : ReachIn edges allowed i j) : Reach edges i j :=
  Relation.ReflTransGen.mono (fun _ _ step => step.1) _ _ inner

theorem ReachIn.start {allowed : Set Nat} (inner : ReachIn edges allowed i j) : i = j ∨ i ∈ allowed := by
  cases inner.cases_head with
  | inl same => exact .inl same
  | inr further =>
    obtain ⟨_,step,_⟩ := further
    exact .inr step.2

-- A node that was left has no way back among the nodes left before it, except from where it leads
-- to. This is what makes the order of leaving useful.
def Ordered (edges : Array (List Nat)) : List Nat → Prop
  | [] => True
  | node :: before => (∀ other, ReachIn edges {x | x ∈ node :: before} other node → Reach edges node other) ∧
      Ordered edges before

-- Since a node of the path was entered, only nodes that it reaches were left. Those left before lead
-- nowhere but to each other and to nodes further out on the path.
def Since (edges : Array (List Nat)) (left : List Nat) : List Nat → Prop
  | [] => True
  | node :: outer => (∃ new old, left = new ++ old ∧ (∀ other ∈ new, Reach edges node other) ∧
      ∀ other ∈ old, ∀ target, Edge edges other target → target ∈ old ∨ target ∈ outer) ∧ Since edges left outer

theorem Since.leave {nodes : List Nat} (since : Since edges left nodes) (reached : ∀ outer ∈ nodes, Reach edges outer node) :
    Since edges (node :: left) nodes := by
  induction nodes with
  | nil => trivial
  | cons outer rest ih =>
    obtain ⟨⟨new,old,split,inner,closed⟩,further⟩ := since
    refine ⟨⟨node :: new,old,by rw [split,List.cons_append],?_,closed⟩,ih further fun other member => reached other (.tail _ member)⟩
    intro other member
    rcases List.mem_cons.mp member with rfl | before
    · exact reached outer (.head _)
    · exact inner other before

def nodes (path : List (Nat × List Nat)) : List Nat := path.map Prod.fst

-- What holds while the first search is on its way.
structure Walking (edges : Array (List Nat)) (entered : Array Bool) (left : List Nat) (path : List (Nat × List Nat)) :
    Prop where
  size : entered.size = edges.size
  met : ∀ node, entered[node]? = some true ↔ node ∈ nodes path ∨ node ∈ left
  once : (nodes path ++ left).Nodup
  looked : ∀ frame ∈ path, (∀ target ∈ frame.2, Edge edges frame.1 target) ∧
    ∀ target, Edge edges frame.1 target → target ∈ frame.2 ∨ entered[target]? = some true
  closed : ∀ node ∈ left, ∀ target, Edge edges node target → entered[target]? = some true
  nested : (nodes path).Pairwise fun inner outer => Reach edges outer inner
  since : Since edges left (nodes path)
  ordered : Ordered edges left

theorem set_entered (fresh : entered[target]? = some false) :
    (entered.setIfInBounds target true)[node]? = some true ↔ node = target ∨ entered[node]? = some true := by
  obtain ⟨inside,_⟩ := Array.getElem?_eq_some_iff.mp fresh
  rw [Array.getElem?_setIfInBounds]
  by_cases same : target = node
  · subst same
    simp [inside]
  · simp [same,Ne.symm same]

namespace Walking

-- A way back to the node that is being left cannot come from what was left before the node was
-- entered: from there it would have to pass a node further out, which has not been left.
theorem back (walking : Walking edges entered left ((node,[]) :: path)) :
    ∀ other, ReachIn edges {x | x ∈ node :: left} other node → Reach edges node other := by
  obtain ⟨⟨new,old,split,inner,closed⟩,_⟩ := walking.since
  have once : (node :: (nodes path ++ left)).Nodup := walking.once
  rw [List.nodup_cons,List.mem_append,not_or] at once
  obtain ⟨⟨offPath,unleft⟩,distinct⟩ := once
  have outside : ∀ other, ReachIn edges {x | x ∈ node :: left} other node → other ∉ old := by
    intro other inward
    induction inward using Relation.ReflTransGen.head_induction_on with
    | refl => exact fun member => unleft (split ▸ List.mem_append_right new member)
    | head step rest ih =>
      intro member
      rcases closed _ member _ step.1 with further | out
      · exact ih further
      · rcases ReachIn.start rest with rfl | onward
        · exact offPath out
        · rcases List.mem_cons.mp onward with rfl | before
          · exact offPath out
          · exact List.disjoint_of_nodup_append distinct out before
  intro other inward
  rcases inward.start with rfl | member
  · exact .refl
  · rcases List.mem_cons.mp member with rfl | before
    · exact .refl
    · rw [split] at before
      rcases List.mem_append.mp before with recent | long
      · exact inner other recent
      · exact absurd long (outside other inward)

theorem leave (walking : Walking edges entered left ((node,[]) :: path)) : Walking edges entered (node :: left) path := by
  have nested := List.pairwise_cons.mp walking.nested
  refine ⟨walking.size,?_,?_,fun frame member => walking.looked frame (.tail _ member),?_,nested.2,
    walking.since.2.leave nested.1,walking.back,walking.ordered⟩
  · intro other
    rw [walking.met]
    change other ∈ node :: nodes path ∨ _ ↔ _
    rw [List.mem_cons,List.mem_cons]
    tauto
  · exact List.perm_middle.nodup_iff.mpr walking.once
  · intro other member target edge
    rcases List.mem_cons.mp member with rfl | before
    · exact ((walking.looked _ (.head _)).2 target edge).resolve_left List.not_mem_nil
    · exact walking.closed other before target edge

-- Passes over a target that has been entered.
theorem skip (inner : List (Nat × List Nat)) (walking : Walking edges entered left (inner ++ (node,target :: targets) :: path))
    (before : entered[target]? = some true) : Walking edges entered left (inner ++ (node,targets) :: path) := by
  have same : nodes (inner ++ (node,targets) :: path) = nodes (inner ++ (node,target :: targets) :: path) := by simp [nodes]
  refine ⟨walking.size,by rw [same]; exact walking.met,by rw [same]; exact walking.once,?_,walking.closed,
    by rw [same]; exact walking.nested,by rw [same]; exact walking.since,walking.ordered⟩
  intro frame member
  rcases List.mem_append.mp member with within | there
  · exact walking.looked frame (List.mem_append_left _ within)
  · rcases List.mem_cons.mp there with rfl | outer
    · obtain ⟨edge,looked⟩ := walking.looked _ (List.mem_append_right inner (.head _))
      refine ⟨fun other inside => edge other (.tail _ inside),?_⟩
      intro other leads
      rcases looked other leads with ahead | passed
      · rcases List.mem_cons.mp ahead with rfl | later
        · exact .inr before
        · exact .inl later
      · exact .inr passed
    · exact walking.looked frame (List.mem_append_right inner (.tail _ outer))

-- Enters a node that every node of the path leads to.
theorem enter (walking : Walking edges entered left path) (fresh : entered[target]? = some false)
    (reached : ∀ outer ∈ nodes path, Reach edges outer target) :
    Walking edges (entered.setIfInBounds target true) left ((target,edges.getD target []) :: path) := by
  have unmet : ¬(target ∈ nodes path ∨ target ∈ left) := by
    rw [← walking.met,fresh]
    simp
  have kept : ∀ {other}, entered[other]? = some true → (entered.setIfInBounds target true)[other]? = some true :=
    fun before => (set_entered fresh).mpr (.inr before)
  refine ⟨by rw [Array.size_setIfInBounds,walking.size],?_,?_,?_,?_,List.pairwise_cons.mpr ⟨reached,walking.nested⟩,
    ⟨⟨[],left,rfl,by simp,?_⟩,walking.since⟩,walking.ordered⟩
  · intro other
    rw [set_entered fresh,walking.met,← or_assoc,← List.mem_cons]
    rfl
  · change (target :: (nodes path ++ left)).Nodup
    rw [List.nodup_cons,List.mem_append]
    exact ⟨unmet,walking.once⟩
  · intro frame member
    rcases List.mem_cons.mp member with rfl | outer
    · exact ⟨fun other inside => edge_iff.mpr inside,fun other leads => .inl (edge_iff.mp leads)⟩
    · obtain ⟨edge,looked⟩ := walking.looked frame outer
      exact ⟨edge,fun other leads => (looked other leads).imp_right kept⟩
  · exact fun other member further leads => kept (walking.closed other member further leads)
  · intro other member further leads
    exact ((walking.met further).mp (walking.closed other member further leads)).symm

theorem step (walking : Walking edges entered left ((node,target :: targets) :: path))
    (fresh : entered[target]? = some false) :
    Walking edges (entered.setIfInBounds target true) left
      ((target,edges.getD target []) :: (node,targets) :: path) := by
  have leads : Reach edges node target := .single ((walking.looked _ (.head _)).1 target (.head _))
  have reached : ∀ outer ∈ nodes ((node,target :: targets) :: path), Reach edges outer target := by
    intro outer member
    rcases List.mem_cons.mp member with rfl | further
    · exact leads
    · exact ((List.pairwise_cons.mp walking.nested).1 outer further).trans leads
  exact (walking.enter fresh reached).skip [_] ((set_entered fresh).mpr (.inl rfl))

theorem entered_some (walking : Walking edges entered left path) (inside : node < edges.size) :
    entered[node]? = some true ∨ entered[node]? = some false := by
  rw [← walking.size] at inside
  rw [Array.getElem?_eq_getElem inside]
  cases entered[node] <;> simp

end Walking

-- The walk comes to an end, with every node left that was entered.
theorem walk_ends (bounded : Bounded edges) (walking : Walking edges entered left path) :
    ∃ (met : Array Bool) (order : List Nat), walk edges entered left path = some (met,order) ∧ Walking edges met order [] ∧
      ∀ node : Nat, entered[node]? = some true → met[node]? = some true := by
  fun_induction walk edges entered left path with
  | case1 entered left => exact ⟨entered,left,rfl,walking,fun _ before => before⟩
  | case2 entered left node path ih => exact ih walking.leave
  | case3 entered left node target targets path outside =>
    have inside := bounded node target ((walking.looked _ (.head _)).1 target (.head _))
    rcases walking.entered_some inside with before | fresh
    · rw [outside] at before
      cases before
    · rw [outside] at fresh
      cases fresh
  | case4 entered left node target targets path before ih => exact ih (walking.skip [] before)
  | case5 entered left node target targets path fresh ih =>
    obtain ⟨met,order,ends,done,kept⟩ := ih (walking.step fresh)
    exact ⟨met,order,ends,done,fun other earlier => kept other ((set_entered fresh).mpr (.inr earlier))⟩

theorem walkAll_ends (bounded : Bounded edges) {roots : List Nat} (inside : ∀ root ∈ roots, root < edges.size)
    (walking : Walking edges entered left []) :
    ∃ (met : Array Bool) (order : List Nat), walkAll edges entered left roots = some order ∧ Walking edges met order [] ∧
      ∀ node : Nat, entered[node]? = some true ∨ node ∈ roots → met[node]? = some true := by
  induction roots generalizing entered left with
  | nil => exact ⟨entered,left,rfl,walking,fun _ either => either.resolve_right List.not_mem_nil⟩
  | cons root roots ih =>
    have further := fun other member => inside other (.tail _ member)
    unfold walkAll
    rcases walking.entered_some (inside root (.head _)) with before | fresh
    · obtain ⟨met,order,ends,done,kept⟩ := ih further walking
      refine ⟨met,order,by simpa only [before] using ends,done,?_⟩
      rintro node (earlier | member)
      · exact kept node (.inl earlier)
      · rcases List.mem_cons.mp member with rfl | later
        · exact kept _ (.inl before)
        · exact kept node (.inr later)
    · obtain ⟨middle,order,ends,done,kept⟩ := walk_ends bounded (walking.enter fresh fun _ member => absurd member List.not_mem_nil)
      obtain ⟨met,last,endsAll,doneAll,keptAll⟩ := ih further done
      refine ⟨met,last,?_,doneAll,?_⟩
      · simp only [fresh,ends]
        exact endsAll
      · rintro node (earlier | member)
        · exact keptAll node (.inl (kept node ((set_entered fresh).mpr (.inr earlier))))
        · rcases List.mem_cons.mp member with rfl | later
          · exact keptAll _ (.inl (kept _ ((set_entered fresh).mpr (.inl rfl))))
          · exact keptAll node (.inr later)

theorem initial_walking : Walking edges (Array.replicate edges.size false) [] [] := by
  refine ⟨by simp,?_,List.nodup_nil,fun _ member => absurd member List.not_mem_nil,fun _ member => absurd member List.not_mem_nil,
    .nil,trivial,trivial⟩
  intro node
  simp [nodes,Array.getElem?_replicate]

theorem leavingOrder_ends (bounded : Bounded edges) :
    ∃ order, leavingOrder edges = some order ∧ (∀ node, node ∈ order ↔ node < edges.size) ∧ Ordered edges order := by
  have inside : ∀ root ∈ List.range edges.size, root < edges.size := fun _ member => List.mem_range.mp member
  obtain ⟨met,order,ends,walking,kept⟩ := walkAll_ends bounded inside initial_walking
  refine ⟨order,ends,?_,walking.ordered⟩
  intro node
  constructor
  · intro member
    obtain ⟨bound,_⟩ := Array.getElem?_eq_some_iff.mp ((walking.met node).mpr (.inr member))
    rwa [walking.size] at bound
  · intro bound
    exact ((walking.met node).mp (kept node (.inr (List.mem_range.mpr bound)))).resolve_left List.not_mem_nil

end ParseForest.WaitGraph
