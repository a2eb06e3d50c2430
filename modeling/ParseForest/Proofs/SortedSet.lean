import Mathlib
import ParseForest.Forest.Node

namespace ParseForest

section

variable {α : Type} [DecidableEq α] {cmp : α → α → Ordering} [Std.TransCmp cmp] [Std.LawfulEqCmp cmp]
  {item : α} {items others : List α}

@[simp] theorem mem_dropRepeats : item ∈ dropRepeats items ↔ item ∈ items := by
  fun_induction dropRepeats items with
  | case1 => rfl
  | case2 => rfl
  | case3 first rest ih =>
    rw [ih]
    simp
  | case4 first second rest different ih => rw [List.mem_cons,ih,List.mem_cons (l := second :: rest)]

theorem dropRepeats_strict (sorted : items.Pairwise fun one two => (cmp one two).isLE = true) :
    (dropRepeats items).Pairwise fun one two => cmp one two = .lt := by
  fun_induction dropRepeats items with
  | case1 => exact .nil
  | case2 => exact List.pairwise_singleton _ _
  | case3 first rest ih => exact ih sorted.of_cons
  | case4 first second rest different ih =>
    obtain ⟨front,tail⟩ := List.pairwise_cons.mp sorted
    have less : cmp first second = .lt := by
      have most := front second List.mem_cons_self
      cases order : cmp first second with
      | lt => rfl
      | eq => exact absurd (Std.LawfulEqCmp.eq_of_compare order) different
      | gt => simp [order] at most
    refine List.pairwise_cons.mpr ⟨?_,ih tail⟩
    intro item member
    rcases List.mem_cons.mp (mem_dropRepeats.mp member) with rfl | later
    · exact less
    · exact Std.TransCmp.lt_of_lt_of_isLE less ((List.pairwise_cons.mp tail).1 item later)

omit [DecidableEq α] [Std.LawfulEqCmp cmp] in
-- Strictly ascending lists with the same members are the same.
theorem strict_ext (one : items.Pairwise fun a b => cmp a b = .lt) (two : others.Pairwise fun a b => cmp a b = .lt)
    (same : ∀ item, item ∈ items ↔ item ∈ others) : items = others := by
  have distinct : ∀ {list : List α}, (list.Pairwise fun a b => cmp a b = .lt) → list.Nodup := by
    intro list strict
    refine strict.imp fun {first second} less => ?_
    rintro rfl
    have self : cmp first first = .eq := Std.ReflCmp.compare_self
    rw [self] at less
    cases less
  have permuted : items.Perm others := (List.perm_ext_iff_of_nodup (distinct one) (distinct two)).mpr same
  refine permuted.eq_of_pairwise ?_ one two
  intro first second _ _ less more
  have swap : cmp first second = (cmp second first).swap := Std.OrientedCmp.eq_swap
  rw [less,more] at swap
  cases swap

variable (cmp)

theorem arranged_strict :
    (dropRepeats (items.mergeSort fun one two => (cmp one two).isLE)).Pairwise fun one two => cmp one two = .lt := by
  refine dropRepeats_strict (List.pairwise_mergeSort ?_ ?_ items)
  · exact fun _ _ _ => Std.TransCmp.isLE_trans
  · intro one two
    have swap : cmp two one = (cmp one two).swap := Std.OrientedCmp.eq_swap
    rw [swap]
    cases cmp one two <;> rfl

theorem arranged_ext (same : ∀ item, item ∈ items ↔ item ∈ others) :
    dropRepeats (items.mergeSort fun one two => (cmp one two).isLE) =
      dropRepeats (others.mergeSort fun one two => (cmp one two).isLE) := by
  refine strict_ext (arranged_strict cmp) (arranged_strict cmp) ?_
  intro item
  simp only [mem_dropRepeats,List.mem_mergeSort,same]

end

variable {α : Type} [Ord α] [DecidableEq α] {item : α} {items others : List α}

@[simp] theorem mem_sortedSet : item ∈ sortedSet items ↔ item ∈ items := by
  rw [sortedSet,mem_dropRepeats,List.mem_mergeSort]

variable [Std.TransOrd α] [Std.LawfulEqOrd α]

theorem sortedSet_strict : (sortedSet items).Pairwise fun one two => compare one two = .lt := arranged_strict compare

theorem sortedSet_ext (same : ∀ item, item ∈ items ↔ item ∈ others) : sortedSet items = sortedSet others :=
  arranged_ext compare same

end ParseForest
