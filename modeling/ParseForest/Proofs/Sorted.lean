import Mathlib
import ParseForest.Sorted

namespace ParseForest.Sorted

-- Strictly ascending lists stand for finite sets: equal members make equal lists.
def Ascending (xs : List Nat) : Prop := xs.Pairwise (· < ·)

instance (xs : List Nat) : Decidable (Ascending xs) := inferInstanceAs (Decidable (xs.Pairwise (· < ·)))

theorem Ascending.ext {xs ys : List Nat} (left : Ascending xs) (right : Ascending ys)
    (same : ∀ x, x ∈ xs ↔ x ∈ ys) : xs = ys := by
  have perm : xs.Perm ys := (List.perm_ext_iff_of_nodup (left.imp Nat.ne_of_lt) (right.imp Nat.ne_of_lt)).mpr same
  exact perm.eq_of_pairwise' left right

theorem mem_place {x y : Nat} {xs : List Nat} : y ∈ place x xs ↔ y = x ∨ y ∈ xs := by
  induction xs with
  | nil => simp [place]
  | cons head rest ih =>
    unfold place
    split
    · simp
    · split
      · rename_i equal
        subst equal
        simp
      · rw [List.mem_cons,List.mem_cons,ih]
        tauto

theorem place_ascending {x : Nat} {xs : List Nat} (ascending : Ascending xs) : Ascending (place x xs) := by
  induction xs with
  | nil => exact List.pairwise_singleton _ _
  | cons head rest ih =>
    obtain ⟨least,tail⟩ := List.pairwise_cons.mp ascending
    unfold place
    split
    · rename_i smaller
      refine List.pairwise_cons.mpr ⟨?_,ascending⟩
      intro y member
      rcases List.mem_cons.mp member with rfl | inRest
      · exact smaller
      · exact Nat.lt_trans smaller (least y inRest)
    · split
      · exact ascending
      · rename_i notSmaller different
        refine List.pairwise_cons.mpr ⟨?_,ih tail⟩
        intro y member
        rcases mem_place.mp member with rfl | inRest
        · omega
        · exact least y inRest

theorem mem_union {x : Nat} {xs ys : List Nat} : x ∈ union xs ys ↔ x ∈ xs ∨ x ∈ ys := by
  unfold union
  induction ys generalizing xs with
  | nil => simp
  | cons y rest ih =>
    rw [List.foldl_cons,ih,mem_place,List.mem_cons]
    tauto

theorem union_ascending {xs ys : List Nat} (ascending : Ascending xs) : Ascending (union xs ys) := by
  unfold union
  induction ys generalizing xs with
  | nil => exact ascending
  | cons y rest ih => exact ih (place_ascending ascending)

@[simp] theorem mem_ofList {x : Nat} {xs : List Nat} : x ∈ ofList xs ↔ x ∈ xs := by
  have member : x ∈ ofList xs ↔ x ∈ [] ∨ x ∈ xs := mem_union
  simpa using member

theorem ofList_ascending (xs : List Nat) : Ascending (ofList xs) :=
  union_ascending List.Pairwise.nil

theorem Ascending.getD_lt {xs : List Nat} (ascending : Ascending xs) {i j : Nat} (less : i < j)
    (inside : j < xs.length) : xs.getD i 0 < xs.getD j 0 := by
  have before := Nat.lt_trans less inside
  have ordered := List.pairwise_iff_getElem.mp ascending i j before inside less
  simpa [List.getD,List.getElem?_eq_getElem inside,List.getElem?_eq_getElem before] using ordered

-- The window keeps the index of a present item, and halving stops at one index before the rounds
-- run out.
theorem narrow_finds {xs : List Nat} {x index : Nat} (ascending : Ascending xs)
    (present : xs[index]? = some x) (rounds base size : Nat) (enough : size ≤ rounds+1)
    (inside : base+size ≤ xs.length) (low : base ≤ index) (high : index < base+size) :
    narrow xs x rounds base size = index := by
  have value : xs.getD index 0 = x := by simp [List.getD,present]
  induction rounds generalizing base size with
  | zero =>
    unfold narrow
    omega
  | succ rounds ih =>
    unfold narrow
    split
    · rename_i wide
      dsimp only
      by_cases above : x < xs.getD (base+size/2) 0
      · rw [if_pos above]
        refine ih base (size-size/2) (by omega) (by omega) low ?_
        by_contra beyond
        rcases Nat.lt_or_eq_of_le (show base+size/2 ≤ index by omega) with less | equal
        · have ordered := ascending.getD_lt less (by omega)
          omega
        · rw [equal,value] at above
          omega
      · rw [if_neg above]
        refine ih (base+size/2) (size-size/2) (by omega) (by omega) ?_ (by omega)
        by_contra below
        have ordered := ascending.getD_lt (show index < base+size/2 by omega) (by omega)
        omega
    · omega

theorem found_iff {xs : List Nat} {x : Nat} (ascending : Ascending xs) : found xs x = true ↔ x ∈ xs := by
  constructor
  · intro hit
    exact List.mem_of_getElem? (eq_of_beq hit)
  · intro member
    obtain ⟨index,present⟩ := List.mem_iff_getElem?.mp member
    have bounded : index < xs.length := (List.getElem?_eq_some_iff.mp present).1
    have probed : probe xs x = index :=
      narrow_finds ascending present xs.length 0 xs.length (by omega) (by omega) (by omega) (by omega)
    simp [found,probed,present]

-- Halving ends at the last item that is not above `x`, or at the first item if all are above.
theorem narrow_parts {xs : List Nat} {x : Nat} (ascending : Ascending xs) (rounds base size : Nat) (enough : size ≤ rounds+1)
    (some_item : 0 < size) (inside : base+size ≤ xs.length) (low : 0 < base → xs.getD base 0 ≤ x)
    (high : ∀ index, base+size ≤ index → index < xs.length → x < xs.getD index 0) :
    narrow xs x rounds base size < xs.length ∧
      (0 < narrow xs x rounds base size → xs.getD (narrow xs x rounds base size) 0 ≤ x) ∧
      ∀ index, narrow xs x rounds base size < index → index < xs.length → x < xs.getD index 0 := by
  induction rounds generalizing base size with
  | zero =>
    unfold narrow
    exact ⟨by omega,low,fun index above => high index (by omega)⟩
  | succ rounds ih =>
    unfold narrow
    split
    · rename_i wide
      dsimp only
      by_cases above : x < xs.getD (base+size/2) 0
      · rw [if_pos above]
        refine ih base (size-size/2) (by omega) (by omega) (by omega) low ?_
        intro index behind within
        rcases Nat.lt_or_eq_of_le (show base+size/2 ≤ index by omega) with less | equal
        · exact Nat.lt_trans above (ascending.getD_lt less within)
        · rwa [← equal]
      · rw [if_neg above]
        refine ih (base+size/2) (size-size/2) (by omega) (by omega) (by omega) (fun _ => Nat.le_of_not_lt above) ?_
        exact fun index behind => high index (by omega)
    · exact ⟨by omega,low,fun index above => high index (by omega)⟩

theorem insertIdx_ascending {xs : List Nat} {x index : Nat} (ascending : Ascending xs) (within : index ≤ xs.length)
    (before : ∀ i < index, xs.getD i 0 < x) (behind : ∀ i, index ≤ i → i < xs.length → x < xs.getD i 0) :
    Ascending (xs.insertIdx index x) := by
  induction xs generalizing index with
  | nil =>
    obtain rfl : index = 0 := by simpa using within
    exact List.pairwise_singleton _ _
  | cons head rest ih =>
    obtain ⟨least,tail⟩ := List.pairwise_cons.mp ascending
    cases index with
    | zero =>
      have first : x < head := by simpa using behind 0
      refine List.pairwise_cons.mpr ⟨?_,ascending⟩
      intro y member
      rcases List.mem_cons.mp member with rfl | later
      · exact first
      · exact Nat.lt_trans first (least y later)
    | succ index =>
      have fits : index ≤ rest.length := by simpa using within
      rw [List.insertIdx_succ_cons]
      refine List.pairwise_cons.mpr ⟨?_,ih tail fits ?_ ?_⟩
      · intro y member
        rcases (List.mem_insertIdx fits).mp member with rfl | later
        · simpa using before 0
        · exact least y later
      · intro i less
        simpa using before (i+1) (by omega)
      · intro i least inside
        simpa using behind (i+1) (by omega) (by simpa using inside)

-- On an ascending list the insertion by search puts an item at its place.
theorem insert_parts {xs : List Nat} (ascending : Ascending xs) (x : Nat) :
    Ascending (insert xs x) ∧ ∀ y, y ∈ insert xs x ↔ y = x ∨ y ∈ xs := by
  cases xs with
  | nil => exact ⟨List.pairwise_singleton _ _,fun y => by simp [insert]⟩
  | cons head rest =>
    have parts : probe (head :: rest) x < (head :: rest).length ∧
        (0 < probe (head :: rest) x → (head :: rest).getD (probe (head :: rest) x) 0 ≤ x) ∧
        ∀ index, probe (head :: rest) x < index → index < (head :: rest).length → x < (head :: rest).getD index 0 :=
      narrow_parts ascending (head :: rest).length 0 (head :: rest).length (by omega) (by simp) (by omega) (by omega)
        (fun index beyond within => by omega)
    generalize head :: rest = xs at *
    generalize probed : probe xs x = index at *
    obtain ⟨inside,low,high⟩ := parts
    have present : xs[index]? = some (xs.getD index 0) := by simp [List.getD,List.getElem?_eq_getElem inside]
    have same : insert xs x = if xs.getD index 0 = x then xs
        else xs.insertIdx (if xs.getD index 0 < x then index+1 else index) x := by
      simp only [insert,probed,present]
    rw [same]
    split
    · rename_i found
      refine ⟨ascending,fun y => (or_iff_right_of_imp ?_).symm⟩
      rintro rfl
      exact found ▸ List.mem_of_getElem? present
    · rename_i different
      split
      · rename_i below
        refine ⟨insertIdx_ascending ascending inside ?_ fun i least => high i least,fun y => List.mem_insertIdx inside⟩
        intro i less
        rcases Nat.lt_or_eq_of_le (Nat.le_of_lt_succ less) with before | equal
        · exact Nat.lt_trans (ascending.getD_lt before inside) below
        · rwa [equal]
      · rename_i above
        have start : index = 0 := by
          by_contra further
          have := low (Nat.pos_of_ne_zero further)
          omega
        subst start
        refine ⟨insertIdx_ascending ascending (Nat.zero_le _) (fun i less => absurd less (Nat.not_lt_zero i)) ?_,
          fun y => List.mem_insertIdx (Nat.zero_le _)⟩
        intro i _ within
        rcases Nat.eq_zero_or_pos i with equal | positive
        · subst equal
          omega
        · exact high i positive within

theorem insert_eq_place {xs : List Nat} (ascending : Ascending xs) (x : Nat) : insert xs x = place x xs := by
  obtain ⟨sorted,members⟩ := insert_parts ascending x
  refine sorted.ext (place_ascending ascending) fun y => ?_
  rw [members,mem_place]

end ParseForest.Sorted
