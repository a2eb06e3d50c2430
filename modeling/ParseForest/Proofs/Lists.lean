import Mathlib

namespace ParseForest

-- An item is one from before or the changed one.
theorem mem_modify {α : Type} {items : List α} {index : Nat} {change : α → α} {item : α}
    (member : item ∈ items.modify index change) : item ∈ items ∨ ∃ old ∈ items, item = change old := by
  obtain ⟨place,found⟩ := List.mem_iff_getElem?.mp member
  rw [List.getElem?_modify] at found
  obtain ⟨old,at_place,rfl⟩ := Option.map_eq_some_iff.mp found
  have kept := List.mem_of_getElem? at_place
  split
  · exact .inr ⟨old,kept,rfl⟩
  · exact .inl kept

theorem concat_getElem? {α : Type} {items : List α} {item last : α} {index : Nat} :
    (items ++ [last])[index]? = some item ↔ items[index]? = some item ∨ index = items.length ∧ item = last := by
  rcases Nat.lt_trichotomy index items.length with inside | rfl | outside
  · rw [List.getElem?_append_left inside]
    simp [Nat.ne_of_lt inside]
  · rw [List.getElem?_concat_length]
    simp [eq_comm]
  · rw [List.getElem?_eq_none (by simp; omega)]
    simp [Nat.ne_of_gt outside,Nat.le_of_lt outside]

-- A list with one more item is split where the list was split before, or at its last item.
theorem concat_eq_split {α : Type} {items before after : List α} {item other : α} : items ++ [item] = before ++ other :: after ↔
    (∃ earlier, items = before ++ other :: earlier ∧ after = earlier ++ [item]) ∨ items = before ∧ item = other ∧ after = [] := by
  constructor
  · intro same
    rcases List.eq_nil_or_concat after with rfl | ⟨earlier,last,rfl⟩
    · obtain ⟨rfl,last⟩ := List.append_inj' same rfl
      cases last
      exact .inr ⟨rfl,rfl,rfl⟩
    · rw [List.concat_eq_append,← List.cons_append,← List.append_assoc] at same
      obtain ⟨rfl,ended⟩ := List.append_inj' same rfl
      cases ended
      exact .inl ⟨earlier,rfl,List.concat_eq_append⟩
  · rintro (⟨earlier,rfl,rfl⟩ | ⟨rfl,rfl,rfl⟩)
    · rw [List.append_assoc,List.cons_append]
    · rfl

theorem exists_of_forall₂ {α β : Type} {related : α → β → Prop} {items : List α} {results : List β} {result : β}
    (all : List.Forall₂ related items results) (member : result ∈ results) : ∃ item ∈ items, related item result := by
  induction all with
  | nil => cases member
  | cons first _ ih =>
    rcases List.mem_cons.mp member with rfl | later
    · exact ⟨_,List.mem_cons_self,first⟩
    · obtain ⟨item,listed,holds⟩ := ih later
      exact ⟨item,List.mem_cons_of_mem _ listed,holds⟩

-- Nothing comes before a list that holds all that there is.
theorem suffix_eq {α : Type} {items more : List α} (suffix : items <:+ more) (nodup : more.Nodup) (known : more ⊆ items) :
    items = more :=
  suffix.eq_of_length_le (nodup.subperm known).length_le

end ParseForest
