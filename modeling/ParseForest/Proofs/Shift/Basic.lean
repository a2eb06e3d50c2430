import Mathlib
import ParseForest.Outcome
import ParseForest.Proofs.SortedSet

namespace ParseForest

-- Positions counted from a place further on in the text.
def Goal.shift (start : Nat) (goal : Goal) : Goal := ⟨start+goal.position,goal.symbol⟩

def Node.shift (start : Nat) (node : Node) : Node := ⟨node.goal.shift start,node.length⟩

def Derivation.shift (start : Nat) (derivation : Derivation) : Derivation :=
  ⟨derivation.node.shift start,derivation.children.map (Node.shift start)⟩

def Suspect.shift (start : Nat) (suspect : Suspect) : Suspect := ⟨suspect.goal.shift start,suspect.bypassed⟩

section Orders

variable {start : Nat}

theorem compare_add_left (one two : Nat) : compare (start+one) (start+two) = compare one two := by
  rcases Nat.lt_trichotomy one two with less | rfl | more
  · rw [Nat.compare_eq_lt.mpr less,Nat.compare_eq_lt.mpr (Nat.add_lt_add_left less start)]
  · rw [Nat.compare_eq_eq.mpr rfl,Nat.compare_eq_eq.mpr rfl]
  · rw [Nat.compare_eq_gt.mpr more,Nat.compare_eq_gt.mpr (Nat.add_lt_add_left more start)]

theorem Goal.compare_shift (one two : Goal) : compare (one.shift start) (two.shift start) = compare one two := by
  change (compare (start+one.position) (start+two.position)).then (compare one.symbol two.symbol) = _
  rw [compare_add_left]
  rfl

theorem Node.compare_shift (one two : Node) : compare (one.shift start) (two.shift start) = compare one two := by
  change (compare (one.goal.shift start) (two.goal.shift start)).then (compare one.length two.length) = _
  rw [Goal.compare_shift]
  rfl

theorem compare_map_shift (one two : List Node) : compare (one.map (Node.shift start)) (two.map (Node.shift start)) = compare one two := by
  induction one generalizing two with
  | nil =>
    cases two with
    | nil => rfl
    | cons second others => rfl
  | cons first rest ih =>
    cases two with
    | nil => rfl
    | cons second others => rw [List.map_cons,List.map_cons,List.compare_cons_cons,List.compare_cons_cons,Node.compare_shift,ih]

theorem Derivation.compare_shift (one two : Derivation) : compare (one.shift start) (two.shift start) = compare one two := by
  change (compare (one.node.shift start) (two.node.shift start)).then
    (compare (one.children.map (Node.shift start)) (two.children.map (Node.shift start))) = _
  rw [Node.compare_shift,compare_map_shift]
  rfl

theorem Suspect.rank_shift (one two : Suspect) : (one.shift start).rank (two.shift start) = one.rank two := by
  change (compare one.bypassed two.bypassed).then ((compare (start+two.goal.position) (start+one.goal.position)).then
    (compare one.goal.symbol two.goal.symbol)) = _
  rw [compare_add_left]
  rfl

-- What is compared alike is told apart.
theorem injective_of_compare {α : Type} [Ord α] [Std.LawfulEqOrd α] {change : α → α}
    (alike : ∀ one two, compare (change one) (change two) = compare one two) : Function.Injective change := by
  intro one two same
  apply Std.LawfulEqOrd.eq_of_compare
  rw [← alike,same]
  exact Std.ReflCmp.compare_self

theorem Goal.shift_injective : Function.Injective (Goal.shift start) := injective_of_compare Goal.compare_shift

theorem Node.shift_injective : Function.Injective (Node.shift start) := injective_of_compare Node.compare_shift

theorem Derivation.shift_injective : Function.Injective (Derivation.shift start) := injective_of_compare Derivation.compare_shift

theorem Suspect.shift_injective : Function.Injective (Suspect.shift start) := by
  intro one two same
  obtain ⟨goal,bypassed⟩ := Suspect.mk.inj same
  cases one
  cases two
  exact Suspect.mk.injEq .. ▸ ⟨Goal.shift_injective goal,bypassed⟩

end Orders

section Lists

variable {α β : Type} [DecidableEq α] [DecidableEq β] {change : α → β}

theorem dropRepeats_map (injective : Function.Injective change) (items : List α) :
    dropRepeats (items.map change) = (dropRepeats items).map change := by
  fun_induction dropRepeats items with
  | case1 => rfl
  | case2 => rfl
  | case3 first rest ih =>
    rw [← ih,List.map_cons,List.map_cons,dropRepeats,if_pos rfl]
  | case4 first second rest different ih =>
    rw [List.map_cons,List.map_cons,dropRepeats,if_neg fun same => different (injective same),List.map_cons,← ih,List.map_cons]

theorem arranged_map (injective : Function.Injective change) {one : α → α → Ordering} {two : β → β → Ordering}
    (alike : ∀ first second, two (change first) (change second) = one first second) (items : List α) :
    dropRepeats ((items.map change).mergeSort fun first second => (two first second).isLE) =
      (dropRepeats (items.mergeSort fun first second => (one first second).isLE)).map change := by
  rw [← dropRepeats_map injective,List.map_mergeSort]
  intro first _ second _
  rw [alike]

theorem contains_map (injective : Function.Injective change) (item : α) (items : List α) :
    (items.map change).contains (change item) = items.contains item := by
  rw [Bool.eq_iff_iff,List.contains_iff_mem,List.contains_iff_mem,List.mem_map_of_injective injective]

end Lists

-- A table whose keys and values were changed, and that has no other keys.
structure Carried {α β : Type} [Ord α] [Std.TransOrd α] (key : α → α) (value : β → β) (after before : Std.ExtTreeMap α β) : Prop where
  found : ∀ item : α, after[key item]? = before[item]?.map value
  covered : ∀ item ∈ after, ∃ old, key old = item

section Tables

variable {α β : Type} [Ord α] [Std.TransOrd α] [Std.LawfulEqOrd α] {key : α → α} {value : β → β} {after before : Std.ExtTreeMap α β}
  (alike : ∀ one two, compare (key one) (key two) = compare one two)

omit [Std.LawfulEqOrd α] in
theorem Carried.empty : Carried key value (∅ : Std.ExtTreeMap α β) ∅ :=
  ⟨by simp,by simp⟩

include alike

theorem Carried.insert (carried : Carried key value after before) (item : α) (stored : β) :
    Carried key value (after.insert (key item) (value stored)) (before.insert item stored) := by
  refine ⟨?_,?_⟩
  · intro other
    rw [Std.ExtTreeMap.getElem?_insert,Std.ExtTreeMap.getElem?_insert,alike,carried.found]
    split
    · rfl
    · rfl
  · intro other member
    rcases Std.ExtTreeMap.mem_insert.mp member with same | old
    · exact ⟨item,Std.LawfulEqOrd.eq_of_compare same⟩
    · exact carried.covered other old

theorem Carried.insertMany (carried : Carried key value after before) (items : List (α × β)) :
    Carried key value (after.insertMany (items.map (Prod.map key value))) (before.insertMany items) := by
  induction items generalizing after before with
  | nil => simpa using carried
  | cons first rest ih =>
    obtain ⟨item,stored⟩ := first
    rw [List.map_cons,Prod.map_apply,Std.ExtTreeMap.insertMany_cons,Std.ExtTreeMap.insertMany_cons]
    exact ih (carried.insert alike item stored)

theorem Carried.ofList (items : List (α × β)) : Carried key value (.ofList (items.map (Prod.map key value))) (.ofList items) := by
  rw [Std.ExtTreeMap.ofList_eq_insertMany_empty,Std.ExtTreeMap.ofList_eq_insertMany_empty]
  exact Carried.empty.insertMany alike items

-- The keys come in the same order.
theorem Carried.toList (carried : Carried key value after before) : after.toList = before.toList.map (Prod.map key value) := by
  have same : ∀ entry, entry ∈ after.toList ↔ entry ∈ before.toList.map (Prod.map key value) := by
    rintro ⟨item,stored⟩
    rw [Std.ExtTreeMap.mem_toList_iff_getElem?_eq_some,List.mem_map]
    constructor
    · intro found
      obtain ⟨old,rfl⟩ := carried.covered item (Std.ExtTreeMap.isSome_getElem?_iff_mem.mp (by rw [found]; rfl))
      rw [carried.found] at found
      obtain ⟨kept,there,rfl⟩ := Option.map_eq_some_iff.mp found
      exact ⟨(old,kept),Std.ExtTreeMap.mem_toList_iff_getElem?_eq_some.mpr there,rfl⟩
    · rintro ⟨⟨old,kept⟩,there,moved⟩
      obtain ⟨rfl,rfl⟩ := Prod.mk.inj moved
      rw [carried.found,Std.ExtTreeMap.mem_toList_iff_getElem?_eq_some.mp there,Option.map_some]
  refine @strict_ext _ (compareOn Prod.fst) _ _ _ Std.ExtTreeMap.ordered_keys_toList ?_ same
  refine List.pairwise_map.mpr (Std.ExtTreeMap.ordered_keys_toList.imp fun {one two} less => ?_)
  exact (alike one.1 two.1).trans less

theorem Carried.size (carried : Carried key value after before) : after.size = before.size := by
  rw [← Std.ExtTreeMap.length_toList,carried.toList alike,List.length_map,Std.ExtTreeMap.length_toList]

end Tables

end ParseForest
