import Mathlib
import ParseForest.Proofs.Chart.Records

namespace ParseForest.Session.Chart

variable {problem : Problem} {chart next : Chart} {place further : Place} {goal : Goal} {node : Node}
  {production : Production}

theorem mem_states (found : problem.grammar.production? place.owner.symbol = some production) {state : StateId} :
    state ∈ place.states problem.grammar ↔ state ∈ production.automaton.after (place.trail.reverse.map Node.symbol) := by
  induction place using Place.rec_trail generalizing state with
  | start goal =>
    simp only [Place.first_owner] at found
    change state ∈ Sorted.ofList (problem.grammar.startStates goal.symbol) ↔ state ∈ production.automaton.start
    simp [Grammar.startStates,found]
  | step place node ih =>
    simp only [Place.extend_owner] at found
    simp only [Place.extend_states,Place.extend_trail,List.reverse_cons,List.map_append,List.map_cons,List.map_nil,
      Automaton.mem_after_concat,Grammar.next,found,Automaton.mem_next,ih found]

theorem mem_site_symbol (found : problem.grammar.production? place.owner.symbol = some production)
    {source target : StateId} (present : source ∈ place.states problem.grammar) (position : node.position = place.position)
    (move : production.automaton.Moves source node.symbol target) : node.goal ∈ place.site problem.grammar := by
  refine Place.mem_site.mpr ⟨position,?_⟩
  obtain ⟨edge,inRow,symbol,_⟩ := move
  exact (Grammar.mem_outgoing found).mpr ⟨source,present,edge,inRow,symbol⟩

-- The walks of a goal cover every path over known nodes. Where the guard against empty steps cuts a
-- walk off, an earlier walk on its way has the same states at the same position and takes its part.
theorem Linked.covers (linked : chart.Linked problem)
    (found : problem.grammar.production? goal.symbol = some production) {children : List Node} {stop : Nat}
    (start : .first goal ∈ chart.walks)
    (known : ∀ place ∈ chart.walks, place.owner = goal → ∀ child ∈ children,
      child.goal ∈ place.site problem.grammar → child ∈ chart.published child.goal)
    (step : ∀ place ∈ chart.walks, place.owner = goal → ∀ node, chart.Continues problem place node →
      place.extend node ∈ chart.walks)
    (tiles : Tiles goal.position children stop)
    (alive : (production.automaton.after (children.map Node.symbol)).Nonempty) :
    ∃ place ∈ chart.walks, place.owner = goal ∧ place.position = stop ∧
      ∀ state, state ∈ place.states problem.grammar ↔ state ∈ production.automaton.after (children.map Node.symbol) := by
  induction children using List.reverseRecOn generalizing stop with
  | nil =>
    refine ⟨.first goal,start,rfl,tiles,?_⟩
    intro state
    exact mem_states found
  | append_singleton children child ih =>
    obtain ⟨before,rfl⟩ := tiles_concat.mp tiles
    simp only [List.map_append,List.map_cons,List.map_nil] at alive ⊢
    obtain ⟨target,reached⟩ := alive
    obtain ⟨source,sourceReached,move⟩ := Automaton.mem_after_concat.mp reached
    obtain ⟨place,walk,rfl,position,states⟩ := ih
      (fun place walk owner child member => known place walk owner child (List.mem_append_left _ member)) before ⟨source,sourceReached⟩
    have wanted := mem_site_symbol found ((states source).mpr sourceReached) position.symm move
    have published := known place walk rfl child (by simp) wanted
    have next_states : ∀ state, state ∈ (place.extend child).states problem.grammar ↔
        state ∈ production.automaton.after (children.map Node.symbol ++ [child.symbol]) := by
      intro state
      simp only [Place.extend_states,Grammar.next,found,Automaton.mem_next,Automaton.mem_after_concat,states]
    by_cases admitted : place.Admits problem.grammar child
    · refine ⟨place.extend child,step place walk rfl child ⟨wanted,published,admitted⟩,rfl,?_,next_states⟩
      simp [position,Node.stop,Node.position]
    · have some_state : (place.extend child).states problem.grammar ≠ [] :=
        List.ne_nil_of_mem ((next_states target).mpr reached)
      have repeated : child.length = 0 ∧ (place.extend child).states problem.grammar ∈ place.visited problem.grammar := by
        unfold Place.Admits at admitted
        tauto
      obtain ⟨earlier,extended,same,states_eq⟩ := Place.mem_visited.mp repeated.2
      refine ⟨earlier,linked.walk_of_extends walk extended,extended.1.symm,?_,?_⟩
      · rw [same,position,Node.stop,repeated.1]
        rfl
      · intro state
        rw [states_eq]
        exact next_states state

theorem Stuck.waits {other : Goal} (stuck : chart.Stuck problem goal) (waits : chart.Waits problem goal other) :
    chart.Stuck problem other := by
  refine ⟨waits.2.1,?_⟩
  intro third path
  exact (stuck.2 third (.head waits path)).tail waits

-- The nodes that a walk has passed lie end to end and are published.
def Spelled (chart : Chart) (place : Place) : Prop :=
  Tiles place.owner.position place.trail.reverse place.position ∧ ∀ node ∈ place.trail, node ∈ chart.published node.goal

theorem Spelled.extend (spelled : chart.Spelled place) (continues : chart.Continues problem place node) :
    chart.Spelled (place.extend node) := by
  obtain ⟨tiles,published⟩ := spelled
  have here := (Place.mem_site.mp continues.wanted).1
  constructor
  · rw [Place.extend_trail,List.reverse_cons]
    refine tiles_concat.mpr ⟨by rwa [Node.position,here],?_⟩
    simp [Node.stop,here]
  · intro other member
    rcases List.mem_cons.mp member with rfl | inTrail
    · exact continues.published
    · exact published other inTrail

theorem spelled_first : chart.Spelled (.first goal) := ⟨rfl,fun _ member => by cases member⟩

theorem Linked.spelled (linked : chart.Linked problem) (walk : place ∈ chart.walks) : chart.Spelled place := by
  induction place using Place.rec_trail with
  | start goal => exact spelled_first
  | step place node ih =>
    obtain ⟨before,continues⟩ := linked.step place node walk
    exact (ih before).extend continues

theorem Ready.spelled (linked : chart.Linked problem) (ready : chart.Ready problem place) : chart.Spelled place := by
  cases ready with
  | first asked isProduction => exact spelled_first
  | extend walk continues => exact (linked.spelled walk).extend continues

-- No production of the grammar is greedy.
def Plain (problem : Problem) : Prop := ∀ symbol, problem.grammar.isGreedy symbol = false

theorem Plain.not_greedy (plain : Plain problem) : ¬IsGreedy problem goal := by
  simp [IsGreedy,plain goal.symbol]

variable [Regex.Library]

theorem accepting_iff (wellFormed : problem.grammar.WellFormed)
    (found : problem.grammar.production? place.owner.symbol = some production) :
    place.accepting problem.grammar = true ↔
      production.automaton.Accepts (place.trail.reverse.map Node.symbol) := by
  simp only [Place.accepting,Grammar.accepting,found,Automaton.accepting_iff (wellFormed.automaton found),
    mem_states found,Automaton.accepts_iff]
  tauto

-- Soundness: only what the grammar derives is published. This holds of greedy grammars too.
def Sound (problem : Problem) (chart : Chart) : Prop :=
  ∀ goal, ∀ node ∈ chart.published goal, Derives problem.grammar problem.text node

theorem Sound.derivation (wellFormed : problem.grammar.WellFormed) (sound : chart.Sound problem)
    (spelled : chart.Spelled place) (isProduction : IsProduction problem place.owner)
    (accepting : place.accepting problem.grammar = true) :
    Derives problem.grammar problem.text place.derivation.node := by
  obtain ⟨production,found⟩ := Option.isSome_iff_exists.mp isProduction
  have tiles : Tiles place.derivation.node.position place.trail.reverse place.derivation.node.stop := by
    rw [Place.derivation_stop]
    exact spelled.1
  refine .production found tiles ((accepting_iff wellFormed found).mp accepting) ?_
  intro child member
  exact sound child.goal child (spelled.2 child (List.mem_reverse.mp member))

theorem Sound.recorded (wellFormed : problem.grammar.WellFormed) (reached : Reached problem chart)
    (sound : chart.Sound problem) {derivation : Derivation} (member : derivation ∈ chart.derivations goal) :
    Derives problem.grammar problem.text derivation.node := by
  have owned := reached_owned reached
  have recorded := reached_recorded reached
  by_cases isProduction : IsProduction problem goal
  · obtain ⟨place,walk,rfl,accepting,rfl⟩ := recorded.walk owned isProduction member
    exact sound.derivation wellFormed ((reached_linked reached).spelled walk) isProduction accepting
  · obtain ⟨length,matched,rfl⟩ := (recorded.terminal goal (owned.recorded_asked member) isProduction derivation).mp member
    exact .terminal matched

theorem reached_sound (wellFormed : problem.grammar.WellFormed) (reached : Reached problem chart) :
    chart.Sound problem := by
  induction reached with
  | empty => exact fun _ _ member => member.elim
  | event before event ih =>
    intro goal node member
    cases event with
    | ask other fresh wanted =>
      rcases member with old | ⟨rfl,length,matched,rfl⟩
      · exact ih goal node old
      · exact .terminal matched
    | begin place fresh ready =>
      rcases member with old | ⟨rfl,_,accepting,_,rfl⟩
      · exact ih goal node old
      · exact ih.derivation wellFormed (ready.spelled (reached_linked before)) (ready.owner (reached_owned before)).2 accepting
    | finish place live exhausted => exact ih goal node member
    | settle other unsettled ended =>
      rcases member with old | ⟨rfl,_,⟨derivation,kept,rfl⟩,_⟩
      · exact ih goal node old
      · exact ih.recorded wellFormed before kept
  | round before _ ih =>
    intro goal node member
    rcases member with old | ⟨_,_,⟨derivation,kept,rfl⟩,_⟩
    · exact ih goal node old
    · exact ih.recorded wellFormed before kept

def Exact (problem : Problem) (chart : Chart) (goal : Goal) : Prop :=
  ∀ node, node.goal = goal → Derives problem.grammar problem.text node → node ∈ chart.published goal

theorem terminal_exact (reached : Reached problem chart) (asked : goal ∈ chart.asked)
    (terminal : ¬IsProduction problem goal) : chart.Exact problem goal := by
  rintro node rfl derives
  have settled := (reached_decided reached).terminal node.goal asked terminal
  cases derives with
  | terminal matched =>
    have kept := ((reached_recorded reached).terminal node.goal asked terminal _).mpr ⟨node.length,matched,rfl⟩
    exact (reached_announced reached).plain node.goal (fun greedy => terminal greedy.production) (by simp [settled]) _ kept
  | production found _ _ _ => exact absurd (isProduction_of_some found) terminal

-- If all that the walks of a goal ask for is known and has been passed on to them, one of them comes
-- to the end of every way through the automaton.
theorem accepted_walk (wellFormed : problem.grammar.WellFormed) (linked : chart.Linked problem)
    (start : .first goal ∈ chart.walks)
    (step : ∀ place ∈ chart.walks, place.owner = goal → ∀ node, chart.Continues problem place node →
      place.extend node ∈ chart.walks)
    (found : problem.grammar.production? goal.symbol = some production) {children : List Node}
    (known : ∀ place ∈ chart.walks, place.owner = goal → ∀ child ∈ children,
      child.goal ∈ place.site problem.grammar → child ∈ chart.published child.goal)
    (own : node.goal = goal) (tiles : Tiles goal.position children node.stop)
    (accepted : production.automaton.Accepts (children.map Node.symbol)) :
    ∃ place ∈ chart.walks, place.owner = goal ∧ place.accepting problem.grammar = true ∧ place.derivation.node = node := by
  obtain ⟨target,accept,reachedTarget⟩ := Automaton.accepts_iff.mp accepted
  obtain ⟨place,walk,owner,position,states⟩ := linked.covers found start known step tiles ⟨target,reachedTarget⟩
  have accepting : place.accepting problem.grammar = true := by
    simp only [Place.accepting,Grammar.accepting,owner,found]
    exact (Automaton.accepting_iff (wellFormed.automaton found)).mpr ⟨target,(states target).mpr reachedTarget,accept⟩
  refine ⟨place,walk,owner,accepting,Node.ext (owner.trans own.symm) ?_⟩
  have stop := place.derivation_stop
  rw [position] at stop
  simp only [Node.stop,Place.derivation_goal,owner,own] at stop
  omega

-- A plain goal has published where its walks have come to an end, unless it was forced before.
theorem accepted_published (reached : Reached problem chart) (plain : ¬IsGreedy problem place.owner)
    (unforced : chart.status place.owner ≠ .forced) (walk : place ∈ chart.walks)
    (accepting : place.accepting problem.grammar = true) : place.derivation.node ∈ chart.published place.owner := by
  have isProduction := ((reached_owned reached).walk place walk).2
  have kept := ((reached_recorded reached).plain _ isProduction plain _).mpr ⟨place,walk,rfl,accepting,rfl⟩
  exact (reached_announced reached).plain _ plain unforced _ kept

theorem derives_published (wellFormed : problem.grammar.WellFormed) (plain : ¬IsGreedy problem goal)
    (reached : Reached problem chart) (unforced : chart.status goal ≠ .forced) (start : .first goal ∈ chart.walks)
    (step : ∀ place ∈ chart.walks, place.owner = goal → ∀ node, chart.Continues problem place node →
      place.extend node ∈ chart.walks)
    (found : problem.grammar.production? goal.symbol = some production) {children : List Node}
    (known : ∀ place ∈ chart.walks, place.owner = goal → ∀ child ∈ children,
      child.goal ∈ place.site problem.grammar → child ∈ chart.published child.goal)
    (own : node.goal = goal) (tiles : Tiles goal.position children node.stop)
    (accepted : production.automaton.Accepts (children.map Node.symbol)) : node ∈ chart.published goal := by
  obtain ⟨place,walk,rfl,accepting,rfl⟩ := accepted_walk wellFormed (reached_linked reached) start step found known own tiles accepted
  exact accepted_published reached plain unforced walk accepting

-- The stuck goals ask for nothing but closed goals and each other, so together they know all that
-- they can ever know.
theorem stuck_exact (wellFormed : problem.grammar.WellFormed) (plain : Plain problem)
    (reached : Reached problem chart) (saturated : chart.Saturated problem)
    (exact_closed : ∀ goal, chart.Closed goal → chart.Exact problem goal) (stuck : chart.Stuck problem goal) :
    chart.Exact problem goal := by
  rintro node own derives
  induction derives generalizing goal with
  | terminal matched =>
    subst own
    exact terminal_exact reached stuck.1.1 (not_production_of_match matched) _ rfl (.terminal matched)
  | @production node production children found tiles accepted parts ih =>
    subst own
    have isProduction : IsProduction problem node.goal := isProduction_of_some found
    refine derives_published wellFormed plain.not_greedy reached (by simp [stuck.1.2]) (saturated.begun _ (.first stuck.1.1 isProduction))
      (fun place walk _ child continues => saturated.begun _ (.extend walk continues)) found ?_ rfl tiles accepted
    intro place walk owner child member wanted
    have asked := saturated.asked place walk child.goal wanted
    by_cases closed : chart.Closed child.goal
    · exact exact_closed child.goal closed child rfl (parts child member)
    · exact ih child member (stuck.waits ⟨stuck.1,⟨asked,not_not.mp closed⟩,place,walk,owner,wanted⟩) rfl

theorem settle_exact (wellFormed : problem.grammar.WellFormed) (plain : Plain problem)
    (reached : Reached problem chart) (exact_closed : ∀ goal, chart.Closed goal → chart.Exact problem goal)
    (unsettled : chart.status goal = .unsettled) (ended : .first goal ∈ chart.ended) : chart.Exact problem goal := by
  have owned := reached_owned reached
  have linked := reached_linked reached
  have start := owned.ended ended
  have over_all : ∀ place ∈ chart.walks, place.owner = goal → chart.Exhausted problem place := by
    rintro place walk rfl
    exact linked.exhausted place (linked.ended_of_extends ended walk Place.extends_first)
  rintro node own derives
  cases derives with
  | terminal matched =>
    subst own
    exact absurd (owned.walk _ start).2 (not_production_of_match matched)
  | production found tiles accepted parts =>
    subst own
    refine derives_published wellFormed plain.not_greedy reached (by simp [unsettled]) start
      (fun place walk owner child continues => owned.ended ((over_all place walk owner).ended child continues))
      found ?_ rfl tiles accepted
    intro place walk owner child member wanted
    exact exact_closed child.goal ((over_all place walk owner).closed _ wanted) child rfl (parts child member)

-- Completeness: a closed goal has published all that the grammar derives for it, whether it was
-- settled or forced.
theorem closed_exact (wellFormed : problem.grammar.WellFormed) (plain : Plain problem)
    (reached : Reached problem chart) (closed : chart.Closed goal) : chart.Exact problem goal := by
  induction reached generalizing goal with
  | empty => exact absurd rfl closed
  | @event chart next before event ih =>
    have owned := reached_owned before
    have later := event_later owned event
    have old : chart.Closed goal → next.Exact problem goal :=
      fun closed node own derives => later.published goal (ih closed node own derives)
    cases event with
    | ask other fresh wanted =>
      by_cases terminal : IsProduction problem goal
      · by_cases same : goal = other
        · subst same
          unfold Closed at closed
          rw [ask_status_production terminal] at closed
          exact old closed
        · unfold Closed at closed
          rw [ask_status_ne same] at closed
          exact old closed
      · have reachedNext := before.event (.ask other fresh wanted)
        exact terminal_exact reachedNext ((reached_owned reachedNext).closed_asked closed) terminal
    | begin place fresh ready => exact old closed
    | finish place live exhausted => exact old closed
    | settle other unsettled ended =>
      by_cases same : goal = other
      · subst same
        intro node own derives
        exact .inl (settle_exact wellFormed plain before (fun _ => ih) unsettled ended node own derives)
      · unfold Closed at closed
        rw [settle_status_ne same] at closed
        exact old closed
  | @round chart before saturated ih =>
    intro node own derives
    rcases force_status problem chart goal with ⟨stuck,_⟩ | ⟨_,same⟩
    · exact .inl (stuck_exact wellFormed plain before saturated (fun _ => ih) stuck node own derives)
    · unfold Closed at closed
      rw [same] at closed
      exact .inl (ih closed node own derives)

end ParseForest.Session.Chart
