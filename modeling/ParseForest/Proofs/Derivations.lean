import Mathlib
import ParseForest.Proofs.Recognition

namespace ParseForest

-- The states that a production may be in behind its first children.
def Automaton.behind (automaton : Automaton) (children : List Node) (count : Nat) : Set StateId :=
  automaton.after ((children.take count).map Node.symbol)

-- Where the text goes on behind the first children.
def offsetBehind (start : Nat) (children : List Node) (count : Nat) : Nat :=
  start + ((children.take count).map Node.length).sum

-- Children along which a production can be walked: no step leads to nothing, the last one may be the
-- last, and no empty child leads back to a state set met at its position.
structure Guarded (automaton : Automaton) (start : Nat) (children : List Node) : Prop where
  alive : ∀ index < children.length, (automaton.behind children (index+1)).Nonempty
  accepted : ∃ state ∈ automaton.accept, state ∈ automaton.behind children children.length
  fresh : ∀ (index : Nat) (child : Node), children[index]? = some child → child.length = 0 → ∀ earlier ≤ index,
    offsetBehind start children earlier = offsetBehind start children (index+1) →
      automaton.behind children (index+1) ≠ automaton.behind children earlier

namespace Session

namespace Place

variable {problem : Problem} {place further : Place} {owner : Goal} {node : Node} {children : List Node} {index : Nat}
  {production : Production}

-- The place behind the first children.
def behind (owner : Goal) (children : List Node) (count : Nat) : Place := ⟨owner,(children.take count).reverse⟩

theorem behind_all : behind owner children children.length = ⟨owner,children.reverse⟩ := by simp [behind]

theorem behind_succ (found : children[index]? = some node) :
    behind owner children (index+1) = (behind owner children index).extend node := by
  simp [behind,extend,List.take_add_one,found]

theorem position_eq : place.position = place.owner.position + (place.trail.map Node.length).sum := by
  induction place using rec_trail with
  | start goal => rfl
  | step place node ih =>
    rw [extend_position,ih]
    simp only [extend_owner,extend_trail,List.map_cons,List.sum_cons]
    omega

theorem behind_position : (behind owner children index).position = offsetBehind owner.position children index := by
  rw [position_eq,offsetBehind]
  simp [behind]

theorem extends_behind : Extends (behind owner children index) place ↔
    ∃ earlier ≤ index, place = behind owner children earlier := by
  constructor
  · rintro ⟨same,suffix⟩
    have shorter : place.trail.reverse <+: children.take index := by simpa [behind] using List.reverse_prefix.mpr suffix
    refine ⟨min place.trail.length index,Nat.min_le_right _ _,Place.ext same.symm ?_⟩
    have taken := List.prefix_iff_eq_take.mp shorter
    rw [List.take_take,List.length_reverse] at taken
    exact List.reverse_eq_iff.mp taken
  · rintro ⟨earlier,less,rfl⟩
    refine ⟨rfl,List.reverse_suffix.mpr ?_⟩
    exact List.take_prefix_take_left less

-- A step on the way is the step over one of the children.
theorem extends_step : Extends (behind owner children children.length) (place.extend node) ↔
    ∃ index : Nat, children[index]? = some node ∧ place = behind owner children index := by
  rw [extends_behind]
  constructor
  · rintro ⟨earlier,less,same⟩
    cases earlier with
    | zero => exact absurd same.symm first_ne_extend
    | succ index =>
      obtain ⟨child,found⟩ : ∃ child, children[index]? = some child := ⟨_,List.getElem?_eq_getElem less⟩
      rw [behind_succ found] at same
      obtain ⟨rfl,rfl⟩ := extend_inj.mp same
      exact ⟨index,found,rfl⟩
  · rintro ⟨index,found,rfl⟩
    obtain ⟨inside,_⟩ := List.getElem?_eq_some_iff.mp found
    exact ⟨index+1,inside,(behind_succ found).symm⟩

section States

variable (found : problem.grammar.production? owner.symbol = some production)

include found

theorem mem_behind_states {state : StateId} : state ∈ (behind owner children index).states problem.grammar ↔
    state ∈ production.automaton.behind children index := by
  have here : problem.grammar.production? (behind owner children index).owner.symbol = some production := found
  rw [Chart.mem_states here]
  simp [behind,Automaton.behind]

theorem behind_states_eq {earlier : Nat} :
    (behind owner children index).states problem.grammar = (behind owner children earlier).states problem.grammar ↔
      production.automaton.behind children index = production.automaton.behind children earlier := by
  constructor
  · intro same
    ext state
    rw [← mem_behind_states found,same,mem_behind_states found]
  · intro same
    refine Sorted.Ascending.ext states_ascending states_ascending fun state => ?_
    rw [mem_behind_states found,same,mem_behind_states found]

theorem behind_admits (child : children[index]? = some node) :
    (behind owner children index).Admits problem.grammar node ↔
      (production.automaton.behind children (index+1)).Nonempty ∧ (node.length = 0 → ∀ earlier ≤ index,
        offsetBehind owner.position children earlier = offsetBehind owner.position children (index+1) →
          production.automaton.behind children (index+1) ≠ production.automaton.behind children earlier) := by
  unfold Admits
  rw [← behind_succ child]
  refine and_congr ?_ (imp_congr_right fun empty => ?_)
  · rw [Ne,List.eq_nil_iff_forall_not_mem,not_forall]
    simp only [not_not,mem_behind_states found]
    rfl
  · -- An empty node leaves the position as it is.
    have stays : offsetBehind owner.position children (index+1) = (behind owner children index).position := by
      rw [← behind_position,behind_succ child,extend_position,empty,Nat.add_zero]
    rw [mem_visited]
    simp only [extends_behind]
    constructor
    · intro unmet earlier less position same
      exact unmet ⟨_,⟨earlier,less,rfl⟩,by rw [behind_position,position,stays],((behind_states_eq found).mpr same).symm⟩
    · rintro fresh ⟨_,⟨earlier,less,rfl⟩,position,same⟩
      exact fresh earlier less (by rw [stays,← position,behind_position]) ((behind_states_eq found).mp same.symm)

theorem guarded_iff : Guarded production.automaton owner.position children ↔
    (∀ (earlier : Place) (node : Node), Extends (behind owner children children.length) (earlier.extend node) →
      earlier.Admits problem.grammar node) ∧
        ∃ state ∈ production.automaton.accept, state ∈ production.automaton.behind children children.length := by
  constructor
  · intro guarded
    refine ⟨?_,guarded.accepted⟩
    intro earlier node extended
    obtain ⟨index,child,rfl⟩ := extends_step.mp extended
    obtain ⟨inside,_⟩ := List.getElem?_eq_some_iff.mp child
    exact (behind_admits found child).mpr ⟨guarded.alive index inside,guarded.fresh index node child⟩
  · rintro ⟨admitted,accepted⟩
    have all : ∀ index node, children[index]? = some node → (behind owner children index).Admits problem.grammar node :=
      fun index node child => admitted _ node (extends_step.mpr ⟨index,child,rfl⟩)
    refine ⟨?_,accepted,?_⟩
    · intro index inside
      have child := List.getElem?_eq_getElem inside
      exact ((behind_admits found child).mp (all index _ child)).1
    · intro index node child
      exact ((behind_admits found child).mp (all index node child)).2

end States

end Place

namespace Complete

variable [Regex.Library]

variable {problem : Problem} {s : State} {place : Place} {node : Node} {production : Production} {children : List Node}
  (valid : problem.Valid) (plain : Chart.Plain problem) (complete : Complete problem s)

include valid complete

theorem walks_extend : place.extend node ∈ s.chart.walks ↔ place ∈ s.chart.walks ∧ s.chart.Continues problem place node :=
  ⟨(Chart.reached_linked (complete.reached valid)).step place node,
    fun both => (complete.saturated valid).begun _ (.extend both.1 both.2)⟩

-- The walks of a whole parse are the ways over known nodes that no guard has stopped, where known is
-- what has been published of the goals that walks ask for.
theorem walks_iff {known : Node → Prop}
    (agrees : ∀ place ∈ s.chart.walks, ∀ node, node.goal ∈ place.site problem.grammar →
      (node ∈ s.chart.published node.goal ↔ known node))
    (asked : place.owner ∈ s.chart.asked)
    (found : problem.grammar.production? place.owner.symbol = some production) :
    place ∈ s.chart.walks ↔ Tiles place.owner.position place.trail.reverse place.position ∧
      (∀ child ∈ place.trail, known child) ∧
        ∀ (earlier : Place) (child : Node), place.Extends (earlier.extend child) → earlier.Admits problem.grammar child := by
  have saturated := complete.saturated valid
  induction place using Place.rec_trail with
  | start goal =>
    have production : Chart.IsProduction problem goal := by
      rw [Place.first_owner] at found
      simp [Chart.IsProduction,found]
    refine ⟨fun _ => ⟨rfl,fun _ member => absurd member List.not_mem_nil,?_⟩,fun _ => saturated.begun _ (.first asked production)⟩
    intro earlier child extended
    exact absurd (Place.first_extends extended).symm Place.first_ne_extend
  | step place node ih =>
    rw [Place.extend_owner] at asked found
    have here := ih asked found
    rw [complete.walks_extend valid,Place.extend_owner,Place.extend_trail,List.reverse_cons,tiles_concat,
      Place.extend_position,Node.stop,Node.position]
    constructor
    · rintro ⟨walk,continues⟩
      obtain ⟨tiles,passed,admitted⟩ := here.mp walk
      have at_place : node.goal.position = place.position := (Place.mem_site.mp continues.wanted).1
      refine ⟨⟨at_place ▸ tiles,by rw [at_place]⟩,?_,?_⟩
      · rw [List.forall_mem_cons]
        exact ⟨(agrees place walk node continues.wanted).mp continues.published,passed⟩
      · intro earlier child extended
        rcases Place.extends_cases extended with same | shorter
        · obtain ⟨rfl,rfl⟩ := Place.extend_inj.mp same
          exact continues.admitted
        · exact admitted earlier child shorter
    · rintro ⟨⟨tiles,stop⟩,passed,admitted⟩
      rw [List.forall_mem_cons] at passed
      have at_place : node.goal.position = place.position := Nat.add_right_cancel stop
      have walk : place ∈ s.chart.walks :=
        here.mpr ⟨at_place ▸ tiles,passed.2,fun earlier child shorter => admitted earlier child (shorter.trans Place.extends_extend)⟩
      have leads := admitted place node .refl
      obtain ⟨target,next⟩ := List.exists_mem_of_ne_nil _ leads.1
      rw [Place.extend_states,Grammar.next] at next
      simp only [found] at next
      obtain ⟨source,present,move⟩ := Automaton.mem_next.mp next
      have wanted := Chart.mem_site_symbol found present at_place move
      exact ⟨walk,wanted,(agrees place walk node wanted).mpr passed.1,leads⟩

-- The walks that may end are the guarded children that tile a node.
theorem run_iff {known : Node → Prop}
    (agrees : ∀ place ∈ s.chart.walks, ∀ node, node.goal ∈ place.site problem.grammar →
      (node ∈ s.chart.published node.goal ↔ known node))
    (asked : node.goal ∈ s.chart.asked) (found : problem.grammar.production? node.symbol = some production) :
    (∃ place ∈ s.chart.walks, place.owner = node.goal ∧ place.accepting problem.grammar = true ∧
      ⟨node,children⟩ = place.derivation) ↔
      Tiles node.position children node.stop ∧ (∀ child ∈ children, known child) ∧
        Guarded production.automaton node.position children := by
  have guarded : Guarded production.automaton node.goal.position children ↔ _ := Place.guarded_iff found
  have accepting : (Place.mk node.goal children.reverse).accepting problem.grammar = true ↔
      ∃ state ∈ production.automaton.accept, state ∈ production.automaton.behind children children.length := by
    have word : production.automaton.behind children children.length = production.automaton.after (children.map Node.symbol) := by
      simp [Automaton.behind]
    refine (Chart.accepting_iff valid.wellFormed found).trans ?_
    rw [List.reverse_reverse,Automaton.accepts_iff,word]
  have walks : Place.mk node.goal children.reverse ∈ s.chart.walks ↔ _ := complete.walks_iff valid agrees asked found
  rw [Place.behind_all,← accepting] at guarded
  simp only [List.reverse_reverse,List.mem_reverse] at walks
  rw [Node.position,guarded]
  constructor
  · rintro ⟨place,walk,owner,ends,same⟩
    -- The only walk that can have recorded these children is the one behind all of them.
    obtain rfl : place = ⟨node.goal,children.reverse⟩ := by
      refine Place.ext owner ?_
      rw [show children = place.trail.reverse from congrArg Derivation.children same,List.reverse_reverse]
    obtain ⟨tiles,passed,admitted⟩ := walks.mp walk
    have stop : node.stop = _ := (congrArg (·.node.stop) same).trans Place.derivation_stop
    exact ⟨stop ▸ tiles,passed,admitted,ends⟩
  · rintro ⟨tiles,passed,admitted,ends⟩
    have position : (Place.mk node.goal children.reverse).position = node.stop := by
      rw [tiles.stop_eq,Place.position_eq]
      simp
    refine ⟨_,walks.mpr ⟨position ▸ tiles,passed,admitted⟩,rfl,ends,?_⟩
    have length : node.stop - node.goal.position = node.length := Nat.add_sub_cancel_left _ _
    simp only [Place.derivation,position,length,List.reverse_reverse]

include plain in
theorem derivations_iff (asked : node.goal ∈ s.chart.asked)
    (found : problem.grammar.production? node.symbol = some production) :
    ⟨node,children⟩ ∈ s.chart.derivations node.goal ↔ Tiles node.position children node.stop ∧
      (∀ child ∈ children, Derives problem.grammar problem.text child) ∧ Guarded production.automaton node.position children := by
  have isProduction : Chart.IsProduction problem node.goal := Chart.isProduction_of_some found
  rw [(Chart.reached_recorded (complete.reached valid)).plain node.goal isProduction plain.not_greedy]
  refine complete.run_iff valid ?_ asked found
  intro place walk child wanted
  exact complete.published_iff valid plain ((complete.saturated valid).asked place walk _ wanted)

-- A terminal has been matched on the spot, in one way.
theorem derivationsOf_terminal (published : node ∈ s.chart.published node.goal)
    (terminal : problem.grammar.production? node.symbol = none) : s.derivationsOf node = [.leaf node] := by
  have reached := complete.reached valid
  have isTerminal : ¬Chart.IsProduction problem node.goal := by
    rw [Chart.IsProduction,show problem.grammar.production? node.goal.symbol = none from terminal]
    exact Bool.false_ne_true
  have asked := (Chart.reached_owned reached).published_asked published
  have recorded := (Chart.reached_recorded reached).terminal node.goal asked isTerminal
  have only : ∀ derivation, derivation ∈ s.derivationsOf node ↔ derivation ∈ [Derivation.leaf node] := by
    intro derivation
    rw [State.mem_derivationsOf,List.mem_singleton]
    constructor
    · rintro ⟨member,rfl⟩
      obtain ⟨length,_,same⟩ := (recorded derivation).mp member
      rw [same]
      rfl
    · rintro rfl
      obtain ⟨derivation,member,same⟩ := (Chart.reached_announced reached).recorded node.goal node published
      obtain ⟨length,matched,rfl⟩ := (recorded derivation).mp member
      refine ⟨?_,rfl⟩
      rwa [← same]
  exact strict_ext sortedSet_strict (List.pairwise_singleton _ _) only

end Complete

end Session

open Session

variable {engine : Engine} {document : Text.Document} {root : SymbolId} {range : Option (Nat × Nat)} {problem : Problem}
  {s : State} {node : Node} {derivations : List Derivation}

-- The forest is exact: a node lists every guarded derivation, each once, and nothing else.
theorem forest_exact [Regex.Library] (wellFormed : engine.grammar.WellFormed)
    (plain : ∀ symbol ∈ engine.grammar.symbols, symbol.isGreedy = false)
    (accepted : engine.problem document root range = .ok problem) (complete : Complete problem s)
    (listed : (s.outcome problem).forest.derivations? node = some derivations) :
    (engine.grammar.production? node.symbol = none → derivations = [.leaf node]) ∧
    ∀ production, engine.grammar.production? node.symbol = some production →
      (derivations.Pairwise fun one two => compare one two = .lt) ∧
      ∀ derivation, derivation ∈ derivations ↔ derivation.node = node ∧
        Tiles node.position derivation.children node.stop ∧
        (∀ child ∈ derivation.children, Derives engine.grammar problem.text child) ∧
        Guarded production.automaton node.position derivation.children := by
  have valid := Engine.problem_valid wellFormed accepted
  have grammar := (Engine.problem_ok accepted).1
  have unforced : Chart.Plain problem := fun id => isGreedy_false (grammar ▸ plain) id
  have coherent := complete.coherent valid
  rw [← grammar]
  obtain ⟨published,rfl⟩ := (State.table_getElem? coherent).mp (Forest.pruned_sub listed)
  refine ⟨complete.derivationsOf_terminal valid published,fun production found => ⟨sortedSet_strict,fun derivation => ?_⟩⟩
  have asked := (Chart.reached_owned coherent.reached).published_asked published
  rw [State.mem_derivationsOf,and_comm]
  refine and_congr_right ?_
  rintro rfl
  exact complete.derivations_iff valid unforced asked found

theorem pairs_guarded : Guarded pairAutomaton 0 [.of 0 1 1,.of 1 1 1] := by
  have first : 2 ∈ pairAutomaton.after [1] := ⟨0,by decide,⟨1,[2]⟩,by decide,rfl,by decide⟩
  have second : 1 ∈ pairAutomaton.after [1,1] := ⟨2,first,⟨1,[1]⟩,by decide,rfl,by decide⟩
  refine ⟨?_,⟨1,by decide,second⟩,?_⟩
  · intro index inside
    match index with
    | 0 => exact ⟨2,first⟩
    | 1 => exact ⟨1,second⟩
  · intro index child found empty
    match index with
    | 0 => cases found; cases empty
    | 1 => cases found; cases empty

-- The root of the small grammar lists the split between the letters.
theorem pairs_split_listed : ∃ derivations,
    ((State.run (pairProblem false)).outcome (pairProblem false)).forest.derivations? (.of 0 1 2) = some derivations ∧
      ⟨.of 0 1 2,[.of 0 1 1,.of 1 1 1]⟩ ∈ derivations := by
  have complete := run_complete (pairProblem_valid false)
  have plain : Chart.Plain (pairProblem false) := fun id => isGreedy_false pairs_plain id
  have published := (complete.published_iff (pairProblem_valid false) plain (complete.root_asked (pairProblem_valid false))).mpr
    pairs_derives
  obtain ⟨derivations,listed⟩ := complete.root_listed (pairProblem_valid false) published
  refine ⟨derivations,listed,?_⟩
  have exact_list := forest_exact (pairs_wellFormed false) pairs_plain (pairProblem_ok false) complete listed
  exact ((exact_list.2 ⟨pairAutomaton,false⟩ rfl).2 _).mpr ⟨rfl,⟨rfl,rfl,rfl⟩,pairs_children,pairs_guarded⟩

end ParseForest
