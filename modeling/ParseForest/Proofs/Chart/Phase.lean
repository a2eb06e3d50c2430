import Mathlib
import ParseForest.Proofs.Chart.Records

namespace ParseForest.Session.Chart

variable {problem : Problem} {chart next target : Chart} {place further : Place} {goal : Goal} {node : Node}

-- Everything that one chart has found is in the other, and what it calls finished is the same there:
-- behind an ended walk nothing is missing, and a closed goal has published all. Closing is not
-- monotone by itself, so the relation has to say both.
structure Below (chart target : Chart) : Prop where
  asked : chart.asked ⊆ target.asked
  walks : chart.walks ⊆ target.walks
  published : ∀ goal, chart.published goal ⊆ target.published goal
  ended : ∀ place ∈ chart.ended, place ∈ target.ended ∧
    ∀ further ∈ target.walks, further.Extends place → further ∈ chart.walks
  closed : ∀ goal, chart.Closed goal → target.status goal = chart.status goal ∧
    target.published goal ⊆ chart.published goal
  forced : ∀ goal, target.status goal = .forced → chart.status goal = .forced

theorem below_refl : Below chart chart :=
  ⟨subset_rfl,subset_rfl,fun _ => subset_rfl,fun _ member => ⟨member,fun _ walk _ => walk⟩,
    fun _ _ => ⟨rfl,subset_rfl⟩,fun _ status => status⟩

variable [Regex.Library]

theorem event_forced (event : Event problem chart next)
    (forced : next.status goal = .forced) : chart.status goal = .forced := by
  cases event with
  | ask other fresh wanted =>
    by_cases same : goal = other
    · subst same
      by_cases production : IsProduction problem goal
      · rwa [ask_status_production production] at forced
      · rw [ask_status_terminal production,Function.update_self] at forced
        cases forced
    · rwa [ask_status_ne same] at forced
  | begin place fresh ready => exact forced
  | finish place live exhausted => exact forced
  | settle other unsettled ended =>
    by_cases same : goal = other
    · subst same
      simp [settle] at forced
    · rwa [settle_status_ne same] at forced

-- One more event in the larger chart keeps the smaller one below it.
theorem below_later (reached : Reached problem target) (below : Below chart target)
    (event : Event problem target next) : Below chart next := by
  have owned := reached_owned reached
  have linked := reached_linked reached
  have later := event_later owned event
  refine ⟨below.asked.trans later.asked,below.walks.trans later.walks,
    fun goal => (below.published goal).trans (later.published goal),?_,?_,?_⟩
  · intro place member
    obtain ⟨ended,all⟩ := below.ended place member
    refine ⟨later.ended ended,?_⟩
    cases event with
    | ask goal fresh wanted => exact all
    | begin new fresh ready =>
      intro further walk extended
      rcases Set.mem_insert_iff.mp walk with rfl | before
      · exact absurd extended (linked.ready_not_ended owned fresh ready ended)
      · exact all further before extended
    | finish other live exhausted => exact all
    | settle goal unsettled ended => exact all
  · intro goal closed
    obtain ⟨status,bound⟩ := below.closed goal closed
    have kept := later.closed goal (by unfold Closed; rw [status]; exact closed)
    exact ⟨kept.1.trans status,kept.2 ▸ bound⟩
  · intro goal status
    exact below.forced goal (event_forced event status)

theorem below_phase (reached : Reached problem chart) (phase : Phase problem chart target) : Below chart target := by
  induction phase with
  | refl => exact below_refl
  | tail phase event ih => exact below_later (reached.phase phase) ih event

section Saturation

variable (reached : Reached problem chart) (final : Reached problem target) (saturated : target.Saturated problem)
  (below : Below chart target)

include final saturated below

theorem below_ask (fresh : goal ∉ chart.asked)
    (wanted : goal = problem.root.goal ∨ ∃ place ∈ chart.walks, goal ∈ place.site problem.grammar)
    (owned : chart.Owned problem) : Below (chart.ask problem goal) target := by
  have recorded := reached_recorded final
  have asked : goal ∈ target.asked := by
    rcases wanted with rfl | ⟨place,walk,member⟩
    · exact saturated.root
    · exact saturated.asked place (below.walks walk) goal member
  have matches_iff : ¬IsProduction problem goal → target.status goal = .settled ∧ ∀ node, node ∈ target.published goal ↔
      ∃ length, problem.grammar.terminalMatch? goal.symbol problem.text goal.position = some length ∧ node = ⟨goal,length⟩ := by
    intro terminal
    have settled := (reached_decided final).terminal goal asked terminal
    have plain : ¬IsGreedy problem goal := fun greedy => terminal greedy.production
    refine ⟨settled,fun node => ⟨?_,?_⟩⟩
    · intro member
      obtain ⟨derivation,kept,rfl⟩ := (reached_announced final).recorded goal node member
      obtain ⟨length,matched,rfl⟩ := (recorded.terminal goal asked terminal derivation).mp kept
      exact ⟨length,matched,rfl⟩
    · rintro ⟨length,matched,rfl⟩
      have kept := (recorded.terminal goal asked terminal _).mpr ⟨length,matched,rfl⟩
      exact (reached_announced final).plain goal plain (by simp [settled]) _ kept
  refine ⟨Set.insert_subset asked below.asked,below.walks,?_,below.ended,?_,?_⟩
  · intro other node member
    rcases member with old | ⟨rfl,length,matched,rfl⟩
    · exact below.published other old
    · exact ((matches_iff (not_production_of_match matched)).2 _).mpr ⟨length,matched,rfl⟩
  · intro other closed
    by_cases same : other = goal
    · subst same
      have terminal : ¬IsProduction problem other := by
        intro production
        unfold Closed at closed
        rw [ask_status_production production] at closed
        exact closed (owned.unasked other fresh).1
      obtain ⟨settled,nodes⟩ := matches_iff terminal
      refine ⟨by rw [settled,ask_status_terminal terminal,Function.update_self],?_⟩
      intro node member
      exact .inr ⟨rfl,(nodes node).mp member⟩
    · unfold Closed at closed
      rw [ask_status_ne same] at closed ⊢
      obtain ⟨status,bound⟩ := below.closed other closed
      exact ⟨status,bound.trans Set.subset_union_left⟩
  · intro other status
    have before := below.forced other status
    have different : other ≠ goal := by
      rintro rfl
      rw [(owned.unasked other fresh).1] at before
      cases before
    rwa [ask_status_ne different]

theorem below_begin (ready : chart.Ready problem place) (owned : chart.Owned problem) :
    Below (chart.begin problem place) target := by
  have walk : place ∈ target.walks := by
    refine saturated.begun place ?_
    cases ready with
    | first asked production => exact .first (below.asked asked) production
    | extend walk continues =>
      exact .extend (below.walks walk) ⟨continues.wanted,below.published _ continues.published,continues.admitted⟩
  refine ⟨below.asked,Set.insert_subset walk below.walks,?_,?_,?_,below.forced⟩
  · intro other node member
    rcases member with old | ⟨rfl,plain,accepting,open_here,rfl⟩
    · exact below.published other old
    · have production := (ready.owner owned).2
      have kept := ((reached_recorded final).plain place.owner production plain _).mpr ⟨place,walk,rfl,accepting,rfl⟩
      refine (reached_announced final).plain place.owner plain ?_ _ kept
      intro forced
      rw [below.forced place.owner forced] at open_here
      cases open_here
  · intro other ended
    obtain ⟨there,all⟩ := below.ended other ended
    exact ⟨there,fun further member extended => Set.mem_insert_of_mem _ (all further member extended)⟩
  · intro other closed
    obtain ⟨status,bound⟩ := below.closed other closed
    exact ⟨status,bound.trans Set.subset_union_left⟩

theorem below_finish (exhausted : chart.Exhausted problem place) : Below (chart.finish problem place) target := by
  have linked := reached_linked final
  -- What the larger chart publishes for the goals of this walk is known here, for they are closed.
  have back : ∀ node, target.Continues problem place node → chart.Continues problem place node := by
    intro node continues
    have bound := (below.closed _ (exhausted.closed _ continues.wanted)).2
    exact ⟨continues.wanted,bound continues.published,continues.admitted⟩
  refine ⟨below.asked,below.walks,below.published,?_,below.closed,below.forced⟩
  intro other member
  rcases Set.mem_insert_iff.mp member with rfl | before
  · constructor
    · refine saturated.finished other ⟨below.walks exhausted.walk,?_,?_⟩
      · intro goal wanted
        have closed := exhausted.closed goal wanted
        unfold Closed
        rw [(below.closed goal closed).1]
        exact closed
      · intro node continues
        exact (below.ended _ (exhausted.ended node (back node continues))).1
    · intro further walk extended
      rcases linked.extends_cases walk extended with rfl | ⟨node,continues,behind⟩
      · exact exhausted.walk
      · exact (below.ended _ (exhausted.ended node (back node continues))).2 further walk behind
  · exact below.ended other before

theorem below_settle (unsettled : chart.status goal = .unsettled) (ended : .first goal ∈ chart.ended)
    (reached : Reached problem chart) : Below (chart.settle problem goal) target := by
  have owned := reached_owned reached
  have linked := reached_linked reached
  have recordedHere := reached_recorded reached
  have recordedThere := reached_recorded final
  have announcedThere := reached_announced final
  obtain ⟨endedThere,all⟩ := below.ended _ ended
  have production : IsProduction problem goal := (owned.walk _ (owned.ended ended)).2
  have settled : target.status goal = .settled := by
    have closed := saturated.settled goal endedThere
    cases status : target.status goal with
    | unsettled => exact absurd status closed
    | settled => rfl
    | forced => simp [below.forced goal status] at unsettled
  have walks_back : ∀ place ∈ target.walks, place.owner = goal → place ∈ chart.walks := by
    rintro place walk rfl
    exact all place walk Place.extends_first
  -- The walks of the goal are the same in both charts, and all of them have ended.
  have maximal : ∀ place, place.owner = goal → (target.Maximal problem place ↔ chart.Maximal problem place) := by
    rintro place owner
    constructor
    · intro most further walk
      exact most further (below.walks walk)
    · intro most further walk extended
      exact most further (walks_back further walk (extended.1.trans owner)) extended
  have derivations : target.derivations goal = chart.derivations goal := by
    ext derivation
    by_cases greedy : IsGreedy problem goal
    · rw [recordedThere.greedy goal greedy,recordedHere.greedy goal greedy]
      constructor
      · rintro ⟨place,over_there,owner,accepting,most,equal⟩
        have walk := walks_back place ((reached_owned final).ended over_there) owner
        refine ⟨place,linked.ended_of_extends ended walk (owner ▸ Place.extends_first),owner,accepting,?_,equal⟩
        exact (maximal place owner).mp most
      · rintro ⟨place,over_here,owner,accepting,most,equal⟩
        exact ⟨place,(below.ended place over_here).1,owner,accepting,(maximal place owner).mpr most,equal⟩
    · rw [recordedThere.plain goal production greedy,recordedHere.plain goal production greedy]
      constructor
      · rintro ⟨place,walk,owner,rest⟩
        exact ⟨place,walks_back place walk owner,owner,rest⟩
      · rintro ⟨place,walk,rest⟩
        exact ⟨place,below.walks walk,rest⟩
  have longest : ∀ node, target.Longest goal node ↔ chart.Longest goal node := by
    intro node
    simp only [Longest,derivations]
  refine ⟨below.asked,below.walks,?_,below.ended,?_,?_⟩
  · intro other node member
    rcases member with old | ⟨rfl,greedy,most⟩
    · exact below.published other old
    · exact (announcedThere.greedy_settled other greedy settled node).mpr ((longest node).mpr most)
  · intro other closed
    by_cases same : other = goal
    · subst same
      refine ⟨by simp [settled,settle],?_⟩
      intro node member
      by_cases greedy : IsGreedy problem other
      · exact .inr ⟨rfl,greedy,(longest node).mp ((announcedThere.greedy_settled other greedy settled node).mp member)⟩
      · obtain ⟨derivation,kept,rfl⟩ := announcedThere.recorded other node member
        rw [derivations] at kept
        exact .inl ((reached_announced reached).plain other greedy (by simp [unsettled]) derivation kept)
    · unfold Closed at closed
      rw [settle_status_ne same] at closed ⊢
      obtain ⟨status,bound⟩ := below.closed other closed
      exact ⟨status,bound.trans Set.subset_union_left⟩
  · intro other status
    have before := below.forced other status
    have different : other ≠ goal := by
      rintro rfl
      rw [unsettled] at before
      cases before
    rwa [settle_status_ne different]

theorem below_event (reached : Reached problem chart) (event : Event problem chart next) : Below next target := by
  have owned := reached_owned reached
  cases event with
  | ask goal fresh wanted => exact below_ask final saturated below fresh wanted owned
  | begin place fresh ready => exact below_begin final saturated below ready owned
  | finish place live exhausted => exact below_finish final saturated below exhausted
  | settle goal unsettled ended => exact below_settle final saturated below unsettled ended reached

end Saturation

theorem phase_below {start : Chart} (reached : Reached problem start) (one : Phase problem start chart)
    (two : Phase problem start target) (saturated : target.Saturated problem) : Below chart target := by
  induction one with
  | refl => exact below_phase reached two
  | tail phase event ih => exact below_event (reached.phase two) saturated ih (reached.phase phase) event

theorem phase_counters (phase : Phase problem chart next) :
    next.rounds = chart.rounds ∧ next.forced = chart.forced := by
  induction phase with
  | refl => exact ⟨rfl,rfl⟩
  | tail _ event ih =>
    cases event with
    | ask goal fresh wanted => exact ih
    | begin place fresh ready => exact ih
    | finish place live exhausted => exact ih
    | settle goal unsettled ended => exact ih

theorem derivations_eq (reached : Reached problem chart) (final : Reached problem target)
    (asked : chart.asked = target.asked) (walks : chart.walks = target.walks) (ended : chart.ended = target.ended) :
    chart.derivations = target.derivations := by
  have here := reached_recorded reached
  have there := reached_recorded final
  funext goal
  ext derivation
  by_cases wanted : goal ∈ chart.asked
  · by_cases production : IsProduction problem goal
    · by_cases greedy : IsGreedy problem goal
      · rw [here.greedy goal greedy,there.greedy goal greedy,ended]
        simp only [Maximal,walks]
      · rw [here.plain goal production greedy,there.plain goal production greedy,walks]
    · rw [here.terminal goal wanted production,there.terminal goal (asked ▸ wanted) production]
  · rw [((reached_owned reached).unasked goal wanted).2.1,
      ((reached_owned final).unasked goal (asked ▸ wanted)).2.1]

-- However the events of a phase are ordered, it ends in the same chart.
theorem phase_unique {start : Chart} (reached : Reached problem start)
    (one : Phase problem start chart) (two : Phase problem start target)
    (saturatedOne : chart.Saturated problem) (saturatedTwo : target.Saturated problem) : chart = target := by
  have up := phase_below reached one two saturatedTwo
  have down := phase_below reached two one saturatedOne
  have asked : chart.asked = target.asked := up.asked.antisymm down.asked
  have walks : chart.walks = target.walks := up.walks.antisymm down.walks
  have ended : chart.ended = target.ended :=
    Set.Subset.antisymm (fun place member => (up.ended place member).1) (fun place member => (down.ended place member).1)
  have status : chart.status = target.status := by
    funext goal
    by_cases closed : chart.Closed goal
    · exact (up.closed goal closed).1.symm
    · by_cases closedThere : target.Closed goal
      · exact (down.closed goal closedThere).1
      · exact (not_not.mp closed).trans (not_not.mp closedThere).symm
  have published : chart.published = target.published :=
    funext fun goal => (up.published goal).antisymm (down.published goal)
  have countersOne := phase_counters one
  have countersTwo := phase_counters two
  exact Chart.ext asked status (derivations_eq (reached.phase one) (reached.phase two) asked walks ended) published
    walks ended (countersOne.1.trans countersTwo.1.symm) (countersOne.2.trans countersTwo.2.symm)

-- Phases with a round of forcing between each and the next.
inductive Rounds (problem : Problem) : Chart → Chart → Prop where
  | phase {start last : Chart} (phase : Phase problem start last) : Rounds problem start last
  | round {start middle last : Chart} (phase : Phase problem start middle) (saturated : middle.Saturated problem)
      (waiting : ∃ goal, middle.Open goal) (rest : Rounds problem (middle.force problem) last) :
      Rounds problem start last

theorem Rounds.event {start : Chart} (rounds : Rounds problem start chart) (event : Event problem chart next) :
    Rounds problem start next := by
  induction rounds with
  | phase phase => exact .phase (phase.tail event)
  | round phase saturated waiting _ ih => exact .round phase saturated waiting (ih event)

theorem Rounds.extend {start : Chart} (rounds : Rounds problem start chart) (phase : Phase problem chart next) :
    Rounds problem start next := by
  induction phase with
  | refl => exact rounds
  | tail _ event ih => exact ih.event event

theorem Rounds.force {start : Chart} (rounds : Rounds problem start chart) (saturated : chart.Saturated problem)
    (waiting : ∃ goal, chart.Open goal) : Rounds problem start (chart.force problem) := by
  induction rounds with
  | phase phase => exact .round phase saturated waiting (.phase .refl)
  | round phase before first _ ih => exact .round phase before first (ih saturated waiting)

-- All parses that come to an end come to the same end.
theorem rounds_unique {start : Chart} (reached : Reached problem start)
    (one : Rounds problem start chart) (two : Rounds problem start target)
    (saturatedOne : chart.Saturated problem) (saturatedTwo : target.Saturated problem)
    (closedOne : ∀ goal, ¬chart.Open goal) (closedTwo : ∀ goal, ¬target.Open goal) : chart = target := by
  induction one with
  | phase one =>
    cases two with
    | phase two => exact phase_unique reached one two saturatedOne saturatedTwo
    | round two saturated waiting rest =>
      obtain ⟨goal,stillOpen⟩ := waiting
      rw [← phase_unique reached one two saturatedOne saturated] at stillOpen
      exact absurd stillOpen (closedOne goal)
  | round one saturated waiting rest ih =>
    cases two with
    | phase two =>
      obtain ⟨goal,stillOpen⟩ := waiting
      rw [phase_unique reached one two saturated saturatedTwo] at stillOpen
      exact absurd stillOpen (closedTwo goal)
    | round two saturatedThere _ restThere =>
      obtain rfl := phase_unique reached one two saturated saturatedThere
      exact ih ((reached.phase one).round saturated) restThere saturatedOne closedOne

end ParseForest.Session.Chart
