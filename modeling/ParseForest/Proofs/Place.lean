import Mathlib
import ParseForest.Proofs.Derives
import ParseForest.Session.State

namespace ParseForest.Session

-- What names a walk whatever its number: the goal it works for and the nodes it has passed, latest
-- first. Everything else about a walk but its counters follows from its place.
@[ext]
structure Place where
  owner : Goal
  trail : List Node

namespace Place

def first (goal : Goal) : Place := ⟨goal,[]⟩

def extend (place : Place) (node : Node) : Place := ⟨place.owner,node :: place.trail⟩

def statesOn (grammar : Grammar) (owner : Goal) : List Node → List StateId
  | [] => grammar.entryStates owner.symbol
  | node :: trail => grammar.next owner.symbol (statesOn grammar owner trail) node.symbol

def positionOn (owner : Goal) : List Node → Nat
  | [] => owner.position
  | node :: trail => positionOn owner trail + node.length

def visitedOn (grammar : Grammar) (owner : Goal) : List Node → List (List StateId)
  | [] => [statesOn grammar owner []]
  | node :: trail =>
    if node.length = 0 then statesOn grammar owner (node :: trail) :: visitedOn grammar owner trail
    else [statesOn grammar owner (node :: trail)]

def states (grammar : Grammar) (place : Place) : List StateId := statesOn grammar place.owner place.trail

def position (place : Place) : Nat := positionOn place.owner place.trail

-- The state sets met since the last step that moved on in the text.
def visited (grammar : Grammar) (place : Place) : List (List StateId) :=
  visitedOn grammar place.owner place.trail

def site (grammar : Grammar) (place : Place) : List Goal :=
  (grammar.outgoing place.owner.symbol (place.states grammar)).map fun symbol => ⟨place.position,symbol⟩

def accepting (grammar : Grammar) (place : Place) : Bool :=
  grammar.accepting place.owner.symbol (place.states grammar)

def derivation (place : Place) : Derivation :=
  ⟨⟨place.owner,place.position-place.owner.position⟩,place.trail.reverse⟩

-- Whether a node leads on: some state is left, and an empty node leads to a state set that was not
-- met at this position.
def Admits (grammar : Grammar) (place : Place) (node : Node) : Prop :=
  (place.extend node).states grammar ≠ [] ∧
    (node.length = 0 → (place.extend node).states grammar ∉ place.visited grammar)

-- Reached from a place by passing further nodes, perhaps none.
def Extends (further place : Place) : Prop := further.owner = place.owner ∧ place.trail <:+ further.trail

variable {grammar : Grammar} {place further : Place} {node : Node} {goal : Goal}

@[simp] theorem first_owner : (first goal).owner = goal := rfl
@[simp] theorem first_states : (first goal).states grammar = grammar.entryStates goal.symbol := rfl
@[simp] theorem first_visited : (first goal).visited grammar = [grammar.entryStates goal.symbol] := rfl
@[simp] theorem extend_owner : (place.extend node).owner = place.owner := rfl
@[simp] theorem extend_trail : (place.extend node).trail = node :: place.trail := rfl
@[simp] theorem extend_position : (place.extend node).position = place.position + node.length := rfl
@[simp] theorem extend_states : (place.extend node).states grammar =
    grammar.next place.owner.symbol (place.states grammar) node.symbol := rfl
@[simp] theorem derivation_goal : place.derivation.node.goal = place.owner := rfl

theorem extend_visited : (place.extend node).visited grammar =
    if node.length = 0 then (place.extend node).states grammar :: place.visited grammar
    else [(place.extend node).states grammar] := rfl

theorem extend_inj {other : Place} {last : Node} :
    place.extend node = other.extend last ↔ place = other ∧ node = last := by
  rw [Place.ext_iff,Place.ext_iff]
  simp only [extend_owner,extend_trail,List.cons.injEq]
  tauto

theorem first_ne_extend : first goal ≠ place.extend node := by
  intro equal
  cases congrArg Place.trail equal

-- A place is the first of its owner or extends another: the induction follows the trail.
theorem rec_trail {motive : Place → Prop} (start : ∀ goal, motive (first goal))
    (step : ∀ place node, motive place → motive (place.extend node)) (place : Place) : motive place := by
  obtain ⟨owner,trail⟩ := place
  induction trail with
  | nil => exact start owner
  | cons node trail ih => exact step ⟨owner,trail⟩ node ih

theorem mem_site : goal ∈ place.site grammar ↔
    goal.position = place.position ∧ goal.symbol ∈ grammar.outgoing place.owner.symbol (place.states grammar) := by
  unfold site
  rw [List.mem_map]
  constructor
  · rintro ⟨symbol,member,rfl⟩
    exact ⟨rfl,member⟩
  · rintro ⟨same,member⟩
    exact ⟨goal.symbol,member,by rw [← same]⟩

theorem goals_nodup {position : Nat} {symbols : List SymbolId} (ascending : Sorted.Ascending symbols) :
    (symbols.map fun symbol => (⟨position,symbol⟩ : Goal)).Nodup := by
  refine List.Nodup.map ?_ (ascending.imp Nat.ne_of_lt)
  intro one two same
  exact congrArg Goal.symbol same

theorem site_nodup : (place.site grammar).Nodup := goals_nodup Grammar.outgoing_ascending

theorem states_ascending : Sorted.Ascending (place.states grammar) := by
  induction place using rec_trail with
  | start goal => exact Grammar.entryStates_ascending
  | step place node ih => exact Grammar.next_ascending

theorem owner_le_position : place.owner.position ≤ place.position := by
  induction place using rec_trail with
  | start goal => exact Nat.le_refl _
  | step place node ih => exact Nat.le_trans ih (Nat.le_add_right _ _)

-- The children of a derivation are the way to its place.
theorem derivation_inj {other : Place} (owner : place.owner = other.owner) (same : place.derivation = other.derivation) :
    place = other :=
  Place.ext owner (List.reverse_injective (congrArg Derivation.children same))

theorem derivation_stop : place.derivation.node.stop = place.position := by
  have := place.owner_le_position
  simp only [derivation,Node.stop]
  omega

theorem Extends.refl : Extends place place := ⟨rfl,List.suffix_refl _⟩

theorem Extends.trans {last : Place} (one : Extends further place) (two : Extends last further) : Extends last place :=
  ⟨two.1.trans one.1,one.2.trans two.2⟩

theorem extends_extend : Extends (place.extend node) place := ⟨rfl,List.suffix_cons _ _⟩

theorem extends_first : Extends place (first place.owner) := ⟨rfl,List.nil_suffix⟩

theorem extends_cases (extends_place : Extends (further.extend node) place) :
    further.extend node = place ∨ Extends further place := by
  obtain ⟨owner,suffix⟩ := extends_place
  rcases List.suffix_cons_iff.mp suffix with equal | shorter
  · exact .inl (Place.ext owner equal.symm)
  · exact .inr ⟨owner,shorter⟩

theorem first_extends (extended : Extends (first goal) place) : place = first goal :=
  Place.ext extended.1.symm (List.suffix_nil.mp extended.2)

theorem Extends.position_le (extended : Extends further place) : place.position ≤ further.position := by
  induction further using rec_trail with
  | start goal =>
    rw [first_extends extended]
  | step further node ih =>
    rcases extends_cases extended with rfl | shorter
    · exact Nat.le_refl _
    · exact Nat.le_trans (ih shorter) (Nat.le_add_right _ _)

-- The places on the way to a place, nearest first.
def beforeOn (owner : Goal) : List Node → List Place
  | [] => []
  | _ :: trail => ⟨owner,trail⟩ :: beforeOn owner trail

def before (place : Place) : List Place := beforeOn place.owner place.trail

@[simp] theorem first_before : (first goal).before = [] := rfl
@[simp] theorem extend_before : (place.extend node).before = place :: place.before := rfl

theorem extend_ne : place.extend node ≠ place := by
  intro equal
  have := congrArg (fun place => place.trail.length) equal
  simp at this

theorem Extends.antisymm (one : Extends further place) (two : Extends place further) : further = place :=
  Place.ext one.1 (two.2.eq_of_length (Nat.le_antisymm two.2.length_le one.2.length_le))

theorem mem_before {earlier : Place} : earlier ∈ place.before ↔ Extends place earlier ∧ earlier ≠ place := by
  induction place using rec_trail with
  | start goal =>
    simp only [first_before,List.not_mem_nil,false_iff,not_and,not_not]
    exact first_extends
  | step place node ih =>
    rw [extend_before,List.mem_cons,ih]
    constructor
    · rintro (rfl | ⟨extended,different⟩)
      · exact ⟨extends_extend,fun equal => extend_ne equal.symm⟩
      · refine ⟨extended.trans extends_extend,?_⟩
        rintro rfl
        exact extend_ne (extends_extend.antisymm extended)
    · rintro ⟨extended,different⟩
      rcases extends_cases extended with equal | shorter
      · exact absurd equal.symm different
      · by_cases same : earlier = place
        · exact .inl same
        · exact .inr ⟨shorter,same⟩

theorem before_nodup : place.before.Nodup := by
  induction place using rec_trail with
  | start goal => exact List.nodup_nil
  | step place node ih => exact List.nodup_cons.mpr ⟨fun member => (mem_before.mp member).2 rfl,ih⟩

theorem before_pairwise : place.before.Pairwise Extends := by
  induction place using rec_trail with
  | start goal => exact .nil
  | step place node ih => exact List.pairwise_cons.mpr ⟨fun _ member => (mem_before.mp member).1,ih⟩

-- The visited sets are those of the places on the way at the same position.
theorem mem_visited {set : List StateId} : set ∈ place.visited grammar ↔
    ∃ earlier, Extends place earlier ∧ earlier.position = place.position ∧ earlier.states grammar = set := by
  induction place using rec_trail with
  | start goal =>
    simp only [first_visited,List.mem_singleton]
    constructor
    · rintro rfl
      exact ⟨first goal,.refl,rfl,rfl⟩
    · rintro ⟨earlier,extended,_,rfl⟩
      rw [first_extends extended,first_states]
  | step place node ih =>
    rw [extend_visited]
    split
    · rename_i empty
      rw [List.mem_cons,ih]
      constructor
      · rintro (rfl | ⟨earlier,extended,position,states⟩)
        · exact ⟨place.extend node,.refl,rfl,rfl⟩
        · exact ⟨earlier,extended.trans extends_extend,by simp [position,empty],states⟩
      · rintro ⟨earlier,extended,position,rfl⟩
        rcases extends_cases extended with rfl | shorter
        · exact .inl rfl
        · exact .inr ⟨earlier,shorter,by simpa [empty] using position,rfl⟩
    · rename_i moved
      rw [List.mem_singleton]
      constructor
      · rintro rfl
        exact ⟨place.extend node,.refl,rfl,rfl⟩
      · rintro ⟨earlier,extended,position,rfl⟩
        rcases extends_cases extended with rfl | shorter
        · rfl
        · have bound := shorter.position_le
          simp only [extend_position] at position
          omega

end Place

end ParseForest.Session
