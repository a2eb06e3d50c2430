import Mathlib
import ParseForest.Automaton.Layout
import ParseForest.Proofs.Automaton
import ParseForest.Proofs.Except

namespace ParseForest

theorem Sorted.ofList_self {xs : List Nat} (ascending : Ascending xs) : ofList xs = xs :=
  (ofList_ascending xs).ext ascending fun _ => mem_ofList

theorem Sorted.ofList_congr {xs ys : List Nat} (same : ∀ x, x ∈ xs ↔ x ∈ ys) : ofList xs = ofList ys :=
  (ofList_ascending xs).ext (ofList_ascending ys) fun x => mem_ofList.trans ((same x).trans mem_ofList.symm)

namespace Automaton

section Rows

variable {edge : Edge} {edges row : List Edge} {symbol : SymbolId} {target : StateId}

-- As far as symbols go, merging an entry is adding an edge.
theorem mergeEntry_symbols (target : StateId) : (mergeEntry edge row).map Edge.symbol =
    (addToRow edge.symbol target row).map Edge.symbol := by
  induction row with
  | nil => rfl
  | cons first rest ih =>
    unfold mergeEntry addToRow
    split
    · rfl
    · rw [List.map_cons,List.map_cons,ih]

theorem mergeEntry_mem_symbols : symbol ∈ (mergeEntry edge row).map Edge.symbol ↔
    symbol ∈ row.map Edge.symbol ∨ symbol = edge.symbol := by
  rw [mergeEntry_symbols 0]
  exact addToRow_mem_symbols

theorem mergeEntry_nodup (nodup : (row.map Edge.symbol).Nodup) : ((mergeEntry edge row).map Edge.symbol).Nodup := by
  rw [mergeEntry_symbols 0]
  exact addToRow_nodup nodup

theorem mergeEntry_moves : (∃ entry ∈ mergeEntry edge row, entry.symbol = symbol ∧ target ∈ entry.targets) ↔
    (∃ entry ∈ row, entry.symbol = symbol ∧ target ∈ entry.targets) ∨ edge.symbol = symbol ∧ target ∈ edge.targets := by
  induction row with
  | nil => simp [mergeEntry]
  | cons first rest ih =>
    unfold mergeEntry
    split
    · rename_i same
      simp only [List.mem_cons,exists_eq_or_imp,List.mem_append,same]
      rw [and_or_left,or_assoc,or_assoc,or_comm (a := edge.symbol = symbol ∧ target ∈ edge.targets)]
    · simp only [List.mem_cons,exists_eq_or_imp,ih,or_assoc]

theorem mergeEntry_fresh (fresh : edge.symbol ∉ row.map Edge.symbol) : mergeEntry edge row = row ++ [edge] := by
  induction row with
  | nil => rfl
  | cons first rest ih =>
    rw [List.map_cons,List.mem_cons,not_or] at fresh
    rw [mergeEntry,if_neg (Ne.symm fresh.1),ih fresh.2,List.cons_append]

-- The entries of a row, merged one after the other into those before them.
def merge (row edges : List Edge) : List Edge := edges.foldl (fun merged edge => mergeEntry edge merged) row

theorem merge_mem_symbols : symbol ∈ (merge row edges).map Edge.symbol ↔
    symbol ∈ row.map Edge.symbol ∨ symbol ∈ edges.map Edge.symbol := by
  induction edges generalizing row with
  | nil => simp [merge]
  | cons edge rest ih =>
    change symbol ∈ (merge (mergeEntry edge row) rest).map Edge.symbol ↔ _
    rw [ih,mergeEntry_mem_symbols,List.map_cons,List.mem_cons,or_assoc]

theorem merge_nodup (nodup : (row.map Edge.symbol).Nodup) : ((merge row edges).map Edge.symbol).Nodup := by
  induction edges generalizing row with
  | nil => exact nodup
  | cons edge rest ih => exact ih (mergeEntry_nodup nodup)

theorem merge_moves : (∃ entry ∈ merge row edges, entry.symbol = symbol ∧ target ∈ entry.targets) ↔
    (∃ entry ∈ row, entry.symbol = symbol ∧ target ∈ entry.targets) ∨
      ∃ entry ∈ edges, entry.symbol = symbol ∧ target ∈ entry.targets := by
  induction edges generalizing row with
  | nil => simp [merge]
  | cons edge rest ih =>
    change (∃ entry ∈ merge (mergeEntry edge row) rest, _) ↔ _
    rw [ih,mergeEntry_moves,or_assoc]
    simp only [List.mem_cons,exists_eq_or_imp]

-- Where no two entries are on one symbol there is nothing to merge.
theorem merge_distinct (nodup : ((row ++ edges).map Edge.symbol).Nodup) : merge row edges = row ++ edges := by
  induction edges generalizing row with
  | nil => exact (List.append_nil row).symm
  | cons edge rest ih =>
    have fresh : edge.symbol ∉ row.map Edge.symbol := by
      intro known
      rw [List.map_append] at nodup
      exact List.disjoint_of_nodup_append nodup known List.mem_cons_self
    change merge (mergeEntry edge row) rest = _
    rw [List.append_cons] at nodup
    rw [mergeEntry_fresh fresh,ih nodup,← List.append_cons]

theorem canonicalRow_eq : canonicalRow edges = (merge [] edges).map fun edge => { edge with targets := Sorted.ofList edge.targets } :=
  rfl

theorem canonicalRow_symbols : (canonicalRow edges).map Edge.symbol = (merge [] edges).map Edge.symbol := by
  rw [canonicalRow_eq,List.map_map]
  rfl

theorem canonicalRow_nodup : ((canonicalRow edges).map Edge.symbol).Nodup := by
  rw [canonicalRow_symbols]
  exact merge_nodup List.nodup_nil

theorem canonicalRow_mem_symbols : symbol ∈ (canonicalRow edges).map Edge.symbol ↔ symbol ∈ edges.map Edge.symbol := by
  rw [canonicalRow_symbols,merge_mem_symbols]
  simp

theorem canonicalRow_moves : (∃ entry ∈ canonicalRow edges, entry.symbol = symbol ∧ target ∈ entry.targets) ↔
    ∃ entry ∈ edges, entry.symbol = symbol ∧ target ∈ entry.targets := by
  have merged := @merge_moves edges [] symbol target
  simp only [List.not_mem_nil,false_and,exists_false,false_or] at merged
  rw [← merged,canonicalRow_eq]
  simp only [List.mem_map,exists_exists_and_eq_and,Sorted.mem_ofList]

theorem canonicalRow_ascending : ∀ entry ∈ canonicalRow edges, Sorted.Ascending entry.targets := by
  intro entry member
  rw [canonicalRow_eq] at member
  obtain ⟨merged,_,rfl⟩ := List.mem_map.mp member
  exact Sorted.ofList_ascending _

theorem canonicalRow_self (nodup : (edges.map Edge.symbol).Nodup) (ascending : ∀ edge ∈ edges, Sorted.Ascending edge.targets) :
    canonicalRow edges = edges := by
  have distinct : merge [] edges = edges := merge_distinct nodup
  rw [canonicalRow_eq,distinct]
  refine (List.map_congr_left ?_).trans (List.map_id edges)
  intro edge member
  rw [Sorted.ofList_self (ascending edge member)]
  rfl

end Rows

section Checks

variable {stateCount : Nat}

theorem checkStates_iff {states : List StateId} : checkStates stateCount states = .ok () ↔ ∀ state ∈ states, state < stateCount := by
  induction states with
  | nil => simp [checkStates]
  | cons state rest ih =>
    rw [List.forall_mem_cons,← ih,checkStates]
    split
    · rename_i inside
      exact (and_iff_right inside).symm
    · rename_i outside
      simp [outside]

theorem checkStates_error {states : List StateId} {flaw : LayoutFlaw} : checkStates stateCount states = .error flaw ↔
    ∃ state, states.find? (stateCount ≤ ·) = some state ∧ flaw = .missingState state stateCount := by
  induction states with
  | nil => simp [checkStates]
  | cons state rest ih =>
    rw [checkStates]
    split
    · rename_i inside
      rw [ih,List.find?_cons_of_neg (by simpa using inside)]
    · rename_i outside
      rw [List.find?_cons_of_pos (by simpa using outside)]
      simp [eq_comm]

theorem checkStates_append {one two : List StateId} :
    checkStates stateCount (one ++ two) = (do checkStates stateCount one; checkStates stateCount two) := by
  induction one with
  | nil => rfl
  | cons state rest ih =>
    rw [List.cons_append,checkStates,checkStates]
    split
    · exact ih
    · rfl

-- Row by row and entry by entry the targets are checked as one list.
theorem checkRow_eq {row : List Edge} : checkRow stateCount row = checkStates stateCount (row.flatMap Edge.targets) := by
  induction row with
  | nil => rfl
  | cons edge rest ih => rw [checkRow,ih,List.flatMap_cons,checkStates_append]

theorem checkRows_eq {rows : List (List Edge)} :
    checkRows stateCount rows = checkStates stateCount (rows.flatten.flatMap Edge.targets) := by
  induction rows with
  | nil => rfl
  | cons row rest ih => rw [checkRows,ih,checkRow_eq,List.flatten_cons,List.flatMap_append,checkStates_append]

end Checks

variable {automaton canonicalized : Automaton}

-- What `canonical` checks: every state exists, and every state has a row.
structure Inside (automaton : Automaton) : Prop where
  rows : automaton.rows.length = automaton.stateCount
  start : ∀ state ∈ automaton.start, state < automaton.stateCount
  accept : ∀ state ∈ automaton.accept, state < automaton.stateCount
  targets : ∀ row ∈ automaton.rows, ∀ edge ∈ row, ∀ state ∈ edge.targets, state < automaton.stateCount

def arranged (automaton : Automaton) : Automaton where
  stateCount := automaton.stateCount
  start := Sorted.ofList automaton.start
  accept := Sorted.ofList automaton.accept
  rows := automaton.rows.map canonicalRow

-- All states that are named somewhere, in the order in which they are checked.
def named (automaton : Automaton) : List StateId :=
  automaton.start ++ automaton.accept ++ automaton.rows.flatten.flatMap Edge.targets

theorem inside_iff : automaton.Inside ↔ automaton.rows.length = automaton.stateCount ∧
    ∀ state ∈ automaton.named, state < automaton.stateCount := by
  simp only [named,List.forall_mem_append,List.forall_mem_flatMap,List.forall_mem_flatten]
  constructor
  · rintro ⟨rows,start,accept,targets⟩
    exact ⟨rows,⟨start,accept⟩,targets⟩
  · rintro ⟨rows,⟨start,accept⟩,targets⟩
    exact ⟨rows,start,accept,targets⟩

-- The three checks are one check of all that is named.
theorem canonical_eq : automaton.canonical =
    if automaton.rows.length ≠ automaton.stateCount then .error (.rowCount automaton.rows.length automaton.stateCount)
    else do
      checkStates automaton.stateCount automaton.named
      return automaton.arranged := by
  unfold canonical
  split
  · rfl
  · rw [named,checkStates_append,checkStates_append,checkRows_eq,bind_assoc,bind_assoc]
    rfl

theorem canonical_iff : automaton.canonical = .ok canonicalized ↔ automaton.Inside ∧ canonicalized = automaton.arranged := by
  rw [canonical_eq,inside_iff]
  split
  · rename_i rows
    constructor
    · intro accepted
      cases accepted
    · rintro ⟨inside,_⟩
      exact absurd inside.1 rows
  · rename_i rows
    rw [checked_ok,checkStates_iff,and_iff_right (not_not.mp rows)]
    exact and_congr_right fun _ => ⟨fun result => (Except.ok.inj result).symm,fun result => result ▸ rfl⟩

theorem row_arranged (state : StateId) : automaton.arranged.row state = canonicalRow (automaton.row state) := by
  unfold row arranged
  rw [List.getD_eq_getElem?_getD,List.getD_eq_getElem?_getD,List.getElem?_map]
  cases automaton.rows[state]? with
  | none => rfl
  | some row => rfl

theorem Inside.arranged_wellFormed (inside : automaton.Inside) : automaton.arranged.WellFormed := by
  refine ⟨(List.length_map _).trans inside.rows,⟨Sorted.ofList_ascending _,?_⟩,⟨Sorted.ofList_ascending _,?_⟩,?_,?_⟩
  · intro state member
    exact inside.start state (Sorted.mem_ofList.mp member)
  · intro state member
    exact inside.accept state (Sorted.mem_ofList.mp member)
  · intro row member edge listed
    obtain ⟨edges,stored,rfl⟩ := List.mem_map.mp member
    refine ⟨canonicalRow_ascending edge listed,?_⟩
    intro state target
    obtain ⟨entry,before,_,among⟩ := canonicalRow_moves.mp ⟨edge,listed,rfl,target⟩
    exact inside.targets edges stored entry before state among
  · intro row member
    obtain ⟨edges,_,rfl⟩ := List.mem_map.mp member
    exact canonicalRow_nodup

theorem canonical_wellFormed (accepted : automaton.canonical = .ok canonicalized) : canonicalized.WellFormed := by
  obtain ⟨inside,rfl⟩ := canonical_iff.mp accepted
  exact inside.arranged_wellFormed

-- An automaton in canonical layout stays as it is, the order of its entries included.
theorem WellFormed.canonical_self (wellFormed : automaton.WellFormed) : automaton.canonical = .ok automaton := by
  obtain ⟨rows,start,accept,targets,entries⟩ := wellFormed
  refine canonical_iff.mpr ⟨⟨rows,start.2,accept.2,fun row member edge listed => (targets row member edge listed).2⟩,?_⟩
  have same : automaton.rows.map canonicalRow = automaton.rows := by
    refine (List.map_congr_left ?_).trans (List.map_id automaton.rows)
    intro row member
    exact canonicalRow_self (entries row member) fun edge listed => (targets row member edge listed).1
  rw [arranged,Sorted.ofList_self start.1,Sorted.ofList_self accept.1,same]

end Automaton

end ParseForest
