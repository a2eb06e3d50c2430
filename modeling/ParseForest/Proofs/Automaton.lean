import Mathlib
import ParseForest.Proofs.Lists
import ParseForest.Proofs.Subset

namespace ParseForest

namespace Automaton

-- A change that names states of the automaton only.
def Change.Inside (stateCount : Nat) : Change → Prop
  | .start state => state < stateCount
  | .accept state => state < stateCount
  | .edge source _ target => source < stateCount ∧ target < stateCount

section Rows

variable {symbol other : SymbolId} {target state : StateId} {edges : List Edge}

theorem addToRow_symbols : (addToRow symbol target edges).map Edge.symbol =
    if symbol ∈ edges.map Edge.symbol then edges.map Edge.symbol else edges.map Edge.symbol ++ [symbol] := by
  induction edges with
  | nil => rfl
  | cons edge rest ih =>
    unfold addToRow
    by_cases same : edge.symbol = symbol
    · simp [same]
    · rw [if_neg same,List.map_cons,List.map_cons,ih]
      by_cases later : symbol ∈ rest.map Edge.symbol
      · rw [if_pos later,if_pos (List.mem_cons_of_mem _ later)]
      · rw [if_neg later,if_neg (by simpa [Ne.symm same] using later),List.cons_append]

theorem addToRow_mem_symbols : other ∈ (addToRow symbol target edges).map Edge.symbol ↔
    other ∈ edges.map Edge.symbol ∨ other = symbol := by
  rw [addToRow_symbols]
  split
  · rename_i known
    exact ⟨.inl,fun member => member.elim id fun same => same ▸ known⟩
  · rw [List.mem_append,List.mem_singleton]

theorem addToRow_nodup (nodup : (edges.map Edge.symbol).Nodup) : ((addToRow symbol target edges).map Edge.symbol).Nodup := by
  rw [addToRow_symbols]
  split
  · exact nodup
  · rename_i fresh
    exact List.nodup_append.mpr ⟨nodup,List.nodup_singleton _,fun one first two second same =>
      fresh (List.mem_singleton.mp second ▸ same ▸ first)⟩

-- Every entry of the row is one from before, perhaps with the target put in its place, or is new.
theorem addToRow_forall {property : Edge → Prop} (all : ∀ edge ∈ edges, property edge) (fresh : property ⟨symbol,[target]⟩)
    (changed : ∀ edge, property edge → property { edge with targets := Sorted.insert edge.targets target }) :
    ∀ edge ∈ addToRow symbol target edges, property edge := by
  induction edges with
  | nil => simpa [addToRow] using fresh
  | cons first rest ih =>
    have here := all first List.mem_cons_self
    have later : ∀ edge ∈ rest, property edge := fun edge member => all edge (List.mem_cons_of_mem _ member)
    unfold addToRow
    split
    · intro edge member
      rcases List.mem_cons.mp member with rfl | inRest
      · exact changed first here
      · exact later edge inRest
    · intro edge member
      rcases List.mem_cons.mp member with rfl | inRest
      · exact here
      · exact ih later edge inRest

theorem addToRow_moves (ascending : ∀ edge ∈ edges, Sorted.Ascending edge.targets) :
    (∃ edge ∈ addToRow symbol target edges, edge.symbol = other ∧ state ∈ edge.targets) ↔
      (∃ edge ∈ edges, edge.symbol = other ∧ state ∈ edge.targets) ∨ other = symbol ∧ state = target := by
  induction edges with
  | nil => simp [addToRow,eq_comm]
  | cons first rest ih =>
    unfold addToRow
    split
    · rename_i same
      have placed : state ∈ Sorted.insert first.targets target ↔ state = target ∨ state ∈ first.targets := by
        rw [Sorted.insert_eq_place (ascending first List.mem_cons_self),Sorted.mem_place]
      have flip : symbol = other ↔ other = symbol := eq_comm
      simp only [List.mem_cons,exists_eq_or_imp,placed,same,flip]
      rw [and_or_left,or_assoc,or_comm]
    · simp only [List.mem_cons,exists_eq_or_imp,ih fun edge member => ascending edge (List.mem_cons_of_mem _ member),or_assoc]

end Rows

-- What changes make of an automaton: the layout is kept, and nothing is added but what they say.
structure Made (automaton built : Automaton) (changes : List Change) : Prop where
  wellFormed : built.WellFormed
  stateCount : built.stateCount = automaton.stateCount
  start : ∀ state, state ∈ built.start ↔ state ∈ automaton.start ∨ .start state ∈ changes
  accept : ∀ state, state ∈ built.accept ↔ state ∈ automaton.accept ∨ .accept state ∈ changes
  moves : ∀ source symbol target, built.Moves source symbol target ↔
    automaton.Moves source symbol target ∨ .edge source symbol target ∈ changes

variable {automaton middle built : Automaton} {changes more : List Change} {change : Change}

theorem Made.nil (wellFormed : automaton.WellFormed) : Made automaton automaton [] :=
  ⟨wellFormed,rfl,by simp,by simp,by simp⟩

theorem Made.trans (one : Made automaton middle changes) (two : Made middle built more) : Made automaton built (changes ++ more) := by
  refine ⟨two.wellFormed,two.stateCount.trans one.stateCount,?_,?_,?_⟩
  · intro state
    rw [two.start,one.start,List.mem_append,or_assoc]
  · intro state
    rw [two.accept,one.accept,List.mem_append,or_assoc]
  · intro source symbol target
    rw [two.moves,one.moves,List.mem_append,or_assoc]

-- Placing a state keeps an ascending list of states in order and in range.
theorem insert_states {states : List StateId} {state bound : Nat}
    (kept : Sorted.Ascending states ∧ ∀ other ∈ states, other < bound) (inside : state < bound) :
    Sorted.Ascending (Sorted.insert states state) ∧ ∀ other ∈ Sorted.insert states state, other < bound := by
  rw [Sorted.insert_eq_place kept.1]
  refine ⟨Sorted.place_ascending kept.1,fun other member => ?_⟩
  rcases Sorted.mem_place.mp member with rfl | before
  · exact inside
  · exact kept.2 other before

theorem addStart_made (wellFormed : automaton.WellFormed) {state : StateId} (inside : state < automaton.stateCount) :
    ∃ built, automaton.addStart state = .ok built ∧ Made automaton built [.start state] := by
  refine ⟨{ automaton with start := Sorted.insert automaton.start state },?_,⟨wellFormed.rows,insert_states wellFormed.start inside,
    wellFormed.accept,wellFormed.targets,wellFormed.entries⟩,rfl,?_,?_,?_⟩
  · simp only [addStart,checkState,if_pos inside]
    rfl
  · intro other
    change other ∈ Sorted.insert automaton.start state ↔ _
    rw [Sorted.insert_eq_place wellFormed.start.1,Sorted.mem_place,List.mem_singleton,Change.start.injEq,or_comm]
  · intro other
    simp
  · intro source symbol target
    simp [Moves,row]

theorem addAccept_made (wellFormed : automaton.WellFormed) {state : StateId} (inside : state < automaton.stateCount) :
    ∃ built, automaton.addAccept state = .ok built ∧ Made automaton built [.accept state] := by
  refine ⟨{ automaton with accept := Sorted.insert automaton.accept state },?_,⟨wellFormed.rows,wellFormed.start,
    insert_states wellFormed.accept inside,wellFormed.targets,wellFormed.entries⟩,rfl,?_,?_,?_⟩
  · simp only [addAccept,checkState,if_pos inside]
    rfl
  · intro other
    simp
  · intro other
    change other ∈ Sorted.insert automaton.accept state ↔ _
    rw [Sorted.insert_eq_place wellFormed.accept.1,Sorted.mem_place,List.mem_singleton,Change.accept.injEq,or_comm]
  · intro source symbol target
    simp [Moves,row]

theorem row_modify {rows : List (List Edge)} {source state : StateId} {change : List Edge → List Edge} (inside : source < rows.length) :
    (rows.modify source change).getD state [] = if state = source then change (rows.getD source []) else rows.getD state [] := by
  simp only [List.getD,List.getElem?_modify]
  by_cases same : source = state
  · subst same
    simp [List.getElem?_eq_getElem inside]
  · simp [same,Ne.symm same]

theorem addEdge_made (wellFormed : automaton.WellFormed) {source target : StateId} {symbol : SymbolId}
    (from_inside : source < automaton.stateCount) (to_inside : target < automaton.stateCount) :
    ∃ built, automaton.addEdge source symbol target = .ok built ∧ Made automaton built [.edge source symbol target] := by
  have stored : source < automaton.rows.length := wellFormed.rows.symm ▸ from_inside
  refine ⟨{ automaton with rows := automaton.rows.modify source (addToRow symbol target) },?_,
    ⟨?_,wellFormed.start,wellFormed.accept,?_,?_⟩,rfl,?_,?_,?_⟩
  · simp only [addEdge,checkState,if_pos from_inside,if_pos to_inside,if_pos stored]
    rfl
  · simpa using wellFormed.rows
  · intro row member
    rcases mem_modify member with before | ⟨old,before,rfl⟩
    · exact wellFormed.targets row before
    · refine addToRow_forall (wellFormed.targets old before) ?_ fun edge kept => insert_states kept to_inside
      exact ⟨List.pairwise_singleton _ _,by simpa using to_inside⟩
  · intro row member
    rcases mem_modify member with before | ⟨old,before,rfl⟩
    · exact wellFormed.entries row before
    · exact addToRow_nodup (wellFormed.entries old before)
  · intro state
    simp
  · intro state
    simp
  · intro state other next
    have ascending : ∀ edge ∈ automaton.rows.getD source [], Sorted.Ascending edge.targets := by
      intro edge member
      obtain ⟨row,listed,inside⟩ := @row_mem automaton source edge member
      exact (wellFormed.targets row listed edge inside).1
    simp only [Moves,row,row_modify stored,List.mem_singleton,Change.edge.injEq]
    by_cases same : state = source
    · subst same
      simp only [if_true,true_and]
      exact addToRow_moves ascending
    · simp [same]

theorem apply_made (wellFormed : automaton.WellFormed) (inside : change.Inside automaton.stateCount) :
    ∃ built, automaton.apply change = .ok built ∧ Made automaton built [change] := by
  cases change with
  | start state => exact addStart_made wellFormed inside
  | accept state => exact addAccept_made wellFormed inside
  | edge source symbol target => exact addEdge_made wellFormed inside.1 inside.2

theorem applyAll_made (wellFormed : automaton.WellFormed) (inside : ∀ change ∈ changes, change.Inside automaton.stateCount) :
    ∃ built, automaton.applyAll changes = .ok built ∧ Made automaton built changes := by
  induction changes generalizing automaton with
  | nil => exact ⟨automaton,rfl,.nil wellFormed⟩
  | cons change rest ih =>
    obtain ⟨middle,applied,first⟩ := apply_made wellFormed (inside change List.mem_cons_self)
    obtain ⟨built,all,second⟩ := ih first.wellFormed fun other member =>
      first.stateCount ▸ inside other (List.mem_cons_of_mem _ member)
    refine ⟨built,?_,first.trans second⟩
    simp only [applyAll,applied]
    exact all

theorem empty_wellFormed (stateCount : Nat) : (empty stateCount).WellFormed := by
  refine ⟨by simp [empty],⟨.nil,by simp [empty]⟩,⟨.nil,by simp [empty]⟩,?_,?_⟩
  · intro row member
    simp [(List.mem_replicate.mp member).2]
  · intro row member
    simp [(List.mem_replicate.mp member).2]

theorem empty_moves {stateCount : Nat} {source target : StateId} {symbol : SymbolId} :
    ¬(empty stateCount).Moves source symbol target := by
  rintro ⟨edge,stored,_⟩
  obtain ⟨row,listed,inside⟩ := row_mem stored
  rw [(List.mem_replicate.mp listed).2] at inside
  cases inside

-- An automaton that is built has the states, edges and marks that it was told, and no others.
theorem build_made {stateCount : Nat} (inside : ∀ change ∈ changes, change.Inside stateCount) :
    ∃ built, build stateCount changes = .ok built ∧ built.WellFormed ∧ built.stateCount = stateCount ∧
      (∀ state, state ∈ built.start ↔ .start state ∈ changes) ∧ (∀ state, state ∈ built.accept ↔ .accept state ∈ changes) ∧
      ∀ source symbol target, built.Moves source symbol target ↔ .edge source symbol target ∈ changes := by
  obtain ⟨built,all,made⟩ := applyAll_made (empty_wellFormed stateCount) inside
  refine ⟨built,all,made.wellFormed,made.stateCount,?_,?_,?_⟩
  · intro state
    rw [made.start]
    simp [empty]
  · intro state
    rw [made.accept]
    simp [empty]
  · intro source symbol target
    rw [made.moves]
    exact or_iff_right empty_moves

end Automaton

end ParseForest
