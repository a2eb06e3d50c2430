import Mathlib
import ParseForest.Proofs.Automaton.Constructed
import ParseForest.Proofs.Layout.Exact

namespace ParseForest.Automaton

-- A change that is refused leaves the automaton as it was.
def heed (automaton : Automaton) (change : Change) : Automaton :=
  match automaton.apply change with
  | .ok next => next
  | .error _ => automaton

def ofChanges (stateCount : Nat) (changes : List Change) : Automaton := changes.foldl heed (empty stateCount)

theorem ofChanges_concat (stateCount : Nat) (changes : List Change) (change : Change) :
    ofChanges stateCount (changes ++ [change]) = (ofChanges stateCount changes).heed change := by
  unfold ofChanges
  rw [List.foldl_append]
  rfl

-- The changes that are carried out, one after the other.
def carriedOut (automaton : Automaton) : List Change → List Change
  | [] => []
  | change :: rest =>
    match automaton.apply change with
    | .ok next => change :: next.carriedOut rest
    | .error _ => automaton.carriedOut rest

namespace Change

-- The states that a change names, in the order in which they are checked.
def named : Change → List StateId
  | .start state => [state]
  | .accept state => [state]
  | .edge source _ target => [source,target]

-- The symbol of an edge that leaves a state.
def label? (state : StateId) : Change → Option SymbolId
  | .edge source symbol _ => if source = state then some symbol else none
  | _ => none

theorem inside_iff {change : Change} {stateCount : Nat} : change.Inside stateCount ↔ ∀ state ∈ change.named, state < stateCount := by
  cases change with
  | start state => simp [Inside,named]
  | accept state => simp [Inside,named]
  | edge source symbol target => simp [Inside,named]

instance (stateCount : Nat) : DecidablePred (Change.Inside stateCount) := fun _ => decidable_of_iff _ inside_iff.symm

end Change

variable {automaton next : Automaton} {change : Change} {changes carried : List Change} {stateCount : Nat}

-- A change is refused for the first state that it names and that does not exist.
theorem apply_error (rows : automaton.rows.length = automaton.stateCount) {refusal : Refusal} :
    automaton.apply change = .error refusal ↔ ∃ state, change.named.find? (automaton.stateCount ≤ ·) = some state ∧
      refusal = .missingState state automaton.stateCount := by
  cases change with
  | start state =>
    simp only [apply,addStart,bind_error,checkState,Change.named,List.find?_singleton]
    by_cases inside : state < automaton.stateCount
    · simp [inside,pure,Except.pure]
    · simp [inside,Nat.le_of_not_lt inside,eq_comm]
  | accept state =>
    simp only [apply,addAccept,bind_error,checkState,Change.named,List.find?_singleton]
    by_cases inside : state < automaton.stateCount
    · simp [inside,pure,Except.pure]
    · simp [inside,Nat.le_of_not_lt inside,eq_comm]
  | edge source symbol target =>
    simp only [apply,addEdge,bind_error,checkState,Change.named,List.find?_cons]
    by_cases first : source < automaton.stateCount
    · by_cases second : target < automaton.stateCount
      · simp [first,second,Nat.not_le_of_lt,rows,pure,Except.pure]
      · simp [first,second,Nat.not_le_of_lt,Nat.le_of_not_lt second,eq_comm]
    · simp [first,Nat.le_of_not_lt first,eq_comm]

-- A new symbol comes last in its row.
theorem apply_row (applied : automaton.apply change = .ok next) (state : StateId) :
    (next.row state).map Edge.symbol = match change.label? state with
      | none => (automaton.row state).map Edge.symbol
      | some symbol => if symbol ∈ (automaton.row state).map Edge.symbol then (automaton.row state).map Edge.symbol
        else (automaton.row state).map Edge.symbol ++ [symbol] := by
  rcases apply_rows applied with ⟨other,same⟩ | ⟨source,symbol,target,rfl,stored,same⟩
  · have unlabelled : change.label? state = none := by
      cases change with
      | start => rfl
      | accept => rfl
      | edge source symbol target => exact absurd rfl (other source symbol target)
    rw [unlabelled,row,same,row]
  · rw [row,same,row_modify stored,Change.label?]
    by_cases here : source = state
    · subst here
      rw [if_pos rfl,if_pos rfl]
      exact addToRow_symbols
    · rw [if_neg here,if_neg (Ne.symm here),row]

-- No entry without targets is made.
theorem apply_targets (wellFormed : automaton.WellFormed) (applied : automaton.apply change = .ok next)
    (full : ∀ row ∈ automaton.rows, ∀ edge ∈ row, edge.targets ≠ []) : ∀ row ∈ next.rows, ∀ edge ∈ row, edge.targets ≠ [] := by
  rcases apply_rows applied with ⟨_,same⟩ | ⟨source,symbol,target,rfl,_,same⟩
  · rwa [same]
  · rw [same]
    intro row member
    rcases mem_modify member with before | ⟨old,before,rfl⟩
    · exact full row before
    · -- The order of the targets is carried along: on other lists an insertion says nothing.
      have grown : ∀ edge ∈ addToRow symbol target old, Sorted.Ascending edge.targets ∧ edge.targets ≠ [] := by
        refine addToRow_forall (fun edge listed => ⟨(wellFormed.targets old before edge listed).1,full old before edge listed⟩) ?_ ?_
        · exact ⟨List.pairwise_singleton _ _,List.cons_ne_nil _ _⟩
        · rintro edge ⟨ascending,_⟩
          obtain ⟨placed,members⟩ := Sorted.insert_parts ascending target
          exact ⟨placed,List.ne_nil_of_mem ((members target).mpr (.inl rfl))⟩
      exact fun edge listed => (grown edge listed).2

-- An automaton tells the changes that were carried out on it, and nothing else.
structure Reflects (automaton : Automaton) (stateCount : Nat) (carried : List Change) : Prop where
  wellFormed : automaton.WellFormed
  stateCount : automaton.stateCount = stateCount
  start : ∀ state, state ∈ automaton.start ↔ .start state ∈ carried
  accept : ∀ state, state ∈ automaton.accept ↔ .accept state ∈ carried
  moves : ∀ source symbol target, automaton.Moves source symbol target ↔ .edge source symbol target ∈ carried
  entries : ∀ state, (automaton.row state).map Edge.symbol = (carried.filterMap (Change.label? state)).eraseDups
  targets : ∀ row ∈ automaton.rows, ∀ edge ∈ row, edge.targets ≠ []

theorem empty_reflects (stateCount : Nat) : (empty stateCount).Reflects stateCount [] := by
  have bare : ∀ row ∈ (empty stateCount).rows, row = [] := fun row member => (List.mem_replicate.mp member).2
  refine ⟨empty_wellFormed stateCount,rfl,by simp [empty],by simp [empty],?_,?_,?_⟩
  · intro source symbol target
    exact iff_of_false empty_moves List.not_mem_nil
  · intro state
    have none_stored : (empty stateCount).row state = [] := by
      refine List.eq_nil_iff_forall_not_mem.mpr fun edge member => ?_
      obtain ⟨row,stored,inside⟩ := row_mem member
      rw [bare row stored] at inside
      cases inside
    rw [none_stored]
    rfl
  · intro row member edge listed
    rw [bare row member] at listed
    cases listed

theorem Reflects.apply (reflects : automaton.Reflects stateCount carried) (applied : automaton.apply change = .ok next) :
    next.Reflects stateCount (carried ++ [change]) := by
  have made := made_of_applied reflects.wellFormed applied
  have targets := apply_targets reflects.wellFormed applied reflects.targets
  refine ⟨made.wellFormed,made.stateCount.trans reflects.stateCount,?_,?_,?_,?_,targets⟩
  · intro state
    rw [made.start,reflects.start,List.mem_append]
  · intro state
    rw [made.accept,reflects.accept,List.mem_append]
  · intro source symbol target
    rw [made.moves,reflects.moves,List.mem_append]
  · intro state
    rw [apply_row applied,reflects.entries,List.filterMap_append]
    cases labelled : change.label? state with
    | none => simp [labelled]
    | some symbol =>
      rw [List.filterMap_cons_some labelled,List.filterMap_nil,eraseDups_concat]
      simp only [List.mem_eraseDups]

theorem Reflects.heed_all (reflects : automaton.Reflects stateCount carried) (changes : List Change) :
    (changes.foldl heed automaton).Reflects stateCount (carried ++ automaton.carriedOut changes) := by
  induction changes generalizing automaton carried with
  | nil => simpa [carriedOut] using reflects
  | cons change rest ih =>
    rw [List.foldl_cons,carriedOut,heed]
    split
    · rename_i next applied
      rw [List.append_cons]
      exact ih (reflects.apply applied)
    · exact ih reflects

theorem carriedOut_eq (wellFormed : automaton.WellFormed) (changes : List Change) :
    automaton.carriedOut changes = changes.filter fun change => change.Inside automaton.stateCount := by
  induction changes generalizing automaton with
  | nil => rfl
  | cons change rest ih =>
    rw [carriedOut]
    split
    · rename_i next applied
      have inside := apply_inside applied
      have made := made_of_applied wellFormed applied
      rw [ih made.wellFormed,made.stateCount,List.filter_cons_of_pos (by simpa using inside)]
    · rename_i refusal refused
      have outside : ¬change.Inside automaton.stateCount := by
        intro inside
        obtain ⟨next,applied,_⟩ := apply_made wellFormed inside
        cases refused.symm.trans applied
      rw [ih wellFormed,List.filter_cons_of_neg (by simpa using outside)]

-- Whatever changes are tried, those that name a state too many are refused and change nothing, and the others make up
-- the automaton: its lists are ascending and in range, every state has one entry for each symbol in the order in which
-- they came, every entry has targets, search finds the accept states, and there is nothing to normalize.
theorem changes_reflected (stateCount : Nat) (changes : List Change) :
    (∀ change refusal, (ofChanges stateCount changes).apply change = .error refusal ↔
      ∃ state, change.named.find? (stateCount ≤ ·) = some state ∧ refusal = .missingState state stateCount) ∧
    (∀ change, (∃ state ∈ change.named, stateCount ≤ state) →
      ofChanges stateCount (changes ++ [change]) = ofChanges stateCount changes) ∧
    (empty stateCount).carriedOut changes = changes.filter (fun change => ∀ state ∈ change.named, state < stateCount) ∧
    (ofChanges stateCount changes).Reflects stateCount ((empty stateCount).carriedOut changes) ∧
    (∀ state, (ofChanges stateCount changes).isAccept state = true ↔ .accept state ∈ (empty stateCount).carriedOut changes) ∧
    (ofChanges stateCount changes).canonical = .ok (ofChanges stateCount changes) := by
  have reflects : (ofChanges stateCount changes).Reflects stateCount ((empty stateCount).carriedOut changes) :=
    (empty_reflects stateCount).heed_all changes
  have wellFormed := reflects.wellFormed
  have refused : ∀ change refusal, (ofChanges stateCount changes).apply change = .error refusal ↔
      ∃ state, change.named.find? (stateCount ≤ ·) = some state ∧ refusal = .missingState state stateCount := by
    intro change refusal
    rw [apply_error wellFormed.rows,reflects.stateCount]
  refine ⟨refused,?_,?_,reflects,?_,wellFormed.canonical_self⟩
  · rintro change ⟨state,named,outside⟩
    have missing : (change.named.find? (stateCount ≤ ·)).isSome := List.find?_isSome.mpr ⟨state,named,decide_eq_true outside⟩
    obtain ⟨first,found⟩ := Option.isSome_iff_exists.mp missing
    rw [ofChanges_concat,heed,(refused change _).mpr ⟨first,found,rfl⟩]
  · rw [carriedOut_eq (empty_wellFormed stateCount)]
    simp only [Change.inside_iff]
    rfl
  · intro state
    rw [isAccept,Sorted.found_iff wellFormed.accept.1,reflects.accept]

-- An edge that comes twice, a second target for the first entry after another entry, and two changes that are refused.
def untidy : List Change := [.edge 0 7 1,.accept 2,.edge 0 3 1,.edge 0 7 0,.edge 2 7 0,.accept 1,.edge 0 7 1]

theorem untidy_reflected : (∃ state ∈ (Change.accept 2).named, 2 ≤ state) ∧
    ofChanges 2 (untidy ++ [.accept 2]) = ofChanges 2 untidy ∧ (ofChanges 2 untidy).isAccept 1 = true ∧
    ((ofChanges 2 untidy).row 0).map Edge.symbol = [7,3] := by
  obtain ⟨_,unchanged,_,reflects,accepts,_⟩ := changes_reflected 2 untidy
  have outside : ∃ state ∈ (Change.accept 2).named, 2 ≤ state := ⟨2,by decide,Nat.le_refl 2⟩
  exact ⟨outside,unchanged _ outside,(accepts 1).mpr (by decide),(reflects.entries 0).trans (by decide)⟩

end ParseForest.Automaton
