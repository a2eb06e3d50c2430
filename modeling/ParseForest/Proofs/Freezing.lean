import Mathlib
import ParseForest.Proofs.Deliveries
import ParseForest.Proofs.LeftRecursion
import ParseForest.Proofs.Lists
import ParseForest.Proofs.Recognition
import ParseForest.Proofs.Session.Growth

namespace ParseForest

namespace Session

namespace Chart

variable {problem : Problem} {chart next : Chart} {place : Place} {goal other : Goal}

theorem force_published (plain : Plain problem) : (chart.force problem).published goal = chart.published goal := by
  ext node
  simp [plain.not_greedy]

-- What a walk of a stuck goal asks for is closed after the round, so that no more comes of it.
theorem Stuck.published_eq (plain : Plain problem) (saturated : chart.Saturated problem) (stuck : chart.Stuck problem place.owner)
    (later : Later (chart.force problem) next) (walk : place ∈ chart.walks) (wanted : other ∈ place.site problem.grammar) :
    next.published other = chart.published other := by
  have closed : (chart.force problem).Closed other := by
    by_cases before : chart.Closed other
    · exact round_later.closed_mono before
    · have isOpen : chart.Open other := ⟨saturated.asked place walk other wanted,not_not.mp before⟩
      have forced := (stuck.waits ⟨stuck.1,isOpen,place,walk,rfl,wanted⟩).force_status
      simp [Closed,forced]
  rw [(later.closed other closed).2,force_published plain]

-- The induction is on the nodes that the walk has passed: each was published before the round.
theorem Stuck.walk_before [Regex.Library] (plain : Plain problem) (reached : Reached problem chart) (saturated : chart.Saturated problem)
    (stuck : chart.Stuck problem place.owner) (later : Later (chart.force problem) next) (linked : next.Linked problem)
    (walk : place ∈ next.walks) : place ∈ chart.walks := by
  induction place using Place.rec_trail with
  | start goal => exact saturated.begun _ (.first stuck.1.1 (stuck.1.production reached))
  | step place node ih =>
    obtain ⟨begun,continues⟩ := linked.step place node walk
    have own : chart.Stuck problem place.owner := stuck
    have known := ih own begun
    have published := own.published_eq plain saturated later known continues.wanted
    exact saturated.begun _ (.extend known ⟨continues.wanted,published ▸ continues.published,continues.admitted⟩)

theorem Stuck.derivations_eq [Regex.Library] (plain : Plain problem) (reached : Reached problem chart) (saturated : chart.Saturated problem)
    (stuck : chart.Stuck problem goal) (later : Later (chart.force problem) next) (after : Reached problem next) :
    next.derivations goal = chart.derivations goal := by
  have production := stuck.1.production reached
  ext derivation
  rw [(reached_recorded after).plain goal production plain.not_greedy,
    (reached_recorded reached).plain goal production plain.not_greedy]
  constructor
  · rintro ⟨place,walk,rfl,ends⟩
    exact ⟨place,stuck.walk_before plain reached saturated later (reached_linked after) walk,rfl,ends⟩
  · rintro ⟨place,walk,own⟩
    exact ⟨place,later.walks walk,own⟩

end Chart

variable {problem : Problem} {s next : State} {goal : Goal} {id : WalkId} {walk : Walk} {node : Node}

theorem steps_place [Regex.Library] {place : Place} (valid : problem.Valid) (coherent : State.Coherent problem s) (steps : Steps problem s next)
    (found : s.places[id]? = some place) : next.places[id]? = some place := by
  obtain ⟨begun,places⟩ := steps_places valid steps coherent
  rw [places,List.getElem?_append_left (List.getElem?_eq_some_iff.mp found).1,found]

-- Nodes are not sent twice, so a walk gets no more where no more is published for it.
theorem Traced.undelivered [Regex.Library] {history : List Task} {old : Walk} (valid : problem.Valid) (traced : Traced problem history s)
    (idle : s.tasks = []) (steps : Steps problem s next) (found : s.walks[id]? = some old) (later : next.walks[id]? = some walk)
    (same : node.goal ∈ walk.site problem.grammar →
      (node ∈ (next.entryAt node.goal).published ↔ node ∈ (s.entryAt node.goal).published)) :
    .deliver id node ∉ next.tasks := by
  obtain ⟨more,extended⟩ := traced.extend steps
  have coherent := traced.coherent valid
  have place : old.place = walk.place :=
    Option.some.inj ((steps_place valid coherent steps (State.place_of_walk found)).symm.trans (State.place_of_walk later))
  have site : walk.site problem.grammar = old.site problem.grammar := by
    rw [← (extended.coherent valid).walk_site (State.walk_mem later),← place,
      coherent.walk_site (State.walk_mem found)]
  have first := traced.delivered valid found node
  have second := extended.delivered valid later node
  rw [idle,List.append_nil] at first
  rw [if_congr (and_congr_right same) rfl rfl,site,← first,List.count_append,List.count_append] at second
  exact List.count_eq_zero.mp (by omega)

namespace State

section Round

variable [Regex.Library]

variable (valid : problem.Valid) (plain : Chart.Plain problem) (coherent : Coherent problem s) (idle : s.tasks = [])
  (waiting : 0 < s.active) (stuck : s.chart.Stuck problem goal) (later : Steps problem (s.force problem) next)

include idle waiting later

theorem round_steps : Steps problem s next := (Steps.tail (.refl s) (.round idle waiting)).trans later

include valid coherent

theorem Coherent.force_later : Chart.Later (s.chart.force problem) next.chart := by
  obtain ⟨forced,chart,_⟩ := coherent.force idle waiting
  rw [← chart]
  exact steps_later valid later forced

include plain stuck

-- The walks of a goal that is forced are those that it had.
theorem Coherent.forced_walk (found : next.walks[id]? = some walk) (owner : walk.owner = goal) :
    ∃ old, s.walks[id]? = some old ∧ old.place = walk.place := by
  subst owner
  have steps := round_steps idle waiting later
  have after := steps_coherent valid steps coherent
  have at_id := place_of_walk found
  have own : s.chart.Stuck problem walk.place.owner := stuck
  have before := own.walk_before plain coherent.reached (coherent.saturated idle) (coherent.force_later valid idle waiting later)
    (Chart.reached_linked after.reached) (chart_walks.mpr (List.mem_of_getElem? at_id))
  obtain ⟨index,at_index⟩ := List.mem_iff_getElem?.mp (chart_walks.mp before)
  have nodup : next.places.Nodup := places_eq ▸ after.good.family.places
  obtain rfl := index_unique nodup (steps_place valid coherent steps at_index) at_id
  exact walk_of_place at_index

theorem Coherent.forced_site (found : next.walks[id]? = some walk) (owner : walk.owner = goal) {other : Goal}
    (wanted : other ∈ walk.site problem.grammar) : next.chart.published other = s.chart.published other := by
  obtain ⟨old,at_id,place⟩ := coherent.forced_walk valid plain idle waiting stuck later found owner
  subst owner
  have own : s.chart.Stuck problem walk.place.owner := stuck
  have begun : walk.place ∈ s.chart.walks := chart_walks.mpr (place ▸ List.mem_of_getElem? (place_of_walk at_id))
  have after := steps_coherent valid (round_steps idle waiting later) coherent
  rw [← after.walk_site (State.walk_mem found)] at wanted
  exact own.published_eq plain (coherent.saturated idle) (coherent.force_later valid idle waiting later) begun wanted

theorem Coherent.forced_entry : next.entryAt goal = { s.entryAt goal with status := .forced,waiting := [] } := by
  have steps := round_steps idle waiting later
  have after := steps_coherent valid steps coherent
  have books := after.good.books
  have since := coherent.force_later valid idle waiting later
  have leads := (steps_precedes steps).entries goal
  have status : (next.entryAt goal).status = .forced := since.status_eq stuck.force_status (by decide)
  have dismissed : (next.entryAt goal).waiting = [] := books.closed goal (by simp [status])
  have derivations : next.chart.derivations goal = s.chart.derivations goal :=
    stuck.derivations_eq plain coherent.reached (coherent.saturated idle) since after.reached
  have published : next.chart.published goal = s.chart.published goal := by
    rw [(since.closed goal (by simp [Chart.Closed,stuck.force_status])).2,Chart.force_published plain]
  have recorded : (s.entryAt goal).derivations = (next.entryAt goal).derivations :=
    suffix_eq leads.recorded (books.recorded goal) derivations.le
  have shown : (s.entryAt goal).published = (next.entryAt goal).published :=
    suffix_eq leads.published (books.published goal) published.le
  change next.entryAt goal = ⟨.forced,(s.entryAt goal).derivations,(s.entryAt goal).published,[]⟩
  rw [recorded,shown,← status,← dismissed]

end Round

end State

end Session

open Session

variable {engine : Engine} {document : Text.Document} {root : SymbolId} {range : Option (Nat × Nat)} {problem : Problem}
  {s next : State} {goal : Goal}

-- Without greedy productions a round closes goals that have found all that they ever will. From then on such a goal
-- begins no walk, its walks get no node, and its entry, to which every report would be added, stays as it was.
theorem forced_frozen [Regex.Library] (wellFormed : engine.grammar.WellFormed)
    (plain : ∀ symbol ∈ engine.grammar.symbols, symbol.isGreedy = false)
    (accepted : engine.problem document root range = .ok problem) (steps : Steps problem (State.initial problem) s)
    (idle : s.tasks = []) (waiting : 0 < s.active) {before after : Entry} (old : s.entries[goal]? = some before)
    (new : (s.force problem).entries[goal]? = some after) (unforced : before.status ≠ .forced) (forced : after.status = .forced)
    (later : Steps problem (s.force problem) next) :
    next.entries[goal]? = some { before with status := .forced,waiting := [] } ∧
    ∀ (id : WalkId) (walk : Walk), next.walks[id]? = some walk → walk.owner = goal →
      id < s.walks.size ∧ ∀ node, .deliver id node ∉ next.tasks := by
  have valid := Engine.problem_valid wellFormed accepted
  have flat : Chart.Plain problem := fun id => isGreedy_false ((Engine.problem_ok accepted).1 ▸ plain) id
  have coherent := steps_coherent valid steps State.initial_coherent
  obtain ⟨asked,rfl⟩ := State.entered old
  obtain ⟨_,rfl⟩ := State.entered new
  rw [← State.chart_status] at unforced forced
  have stuck := coherent.newly_forced idle waiting forced unforced
  have since := State.round_steps idle waiting later
  constructor
  · rw [State.entries_some ((steps_precedes since).asked goal asked),coherent.forced_entry valid flat idle waiting stuck later]
  · intro id walk found owner
    obtain ⟨first,at_id,_⟩ := coherent.forced_walk valid flat idle waiting stuck later found owner
    obtain ⟨history,traced⟩ := steps_traced steps
    have inside : id < s.walks.size := (Array.getElem?_eq_some_iff.mp at_id).1
    refine ⟨inside,?_⟩
    intro node
    have same : node.goal ∈ walk.site problem.grammar →
        (node ∈ (next.entryAt node.goal).published ↔ node ∈ (s.entryAt node.goal).published) := by
      intro wanted
      exact Set.ext_iff.mp (coherent.forced_site valid flat idle waiting stuck later found owner wanted) node
    exact traced.undelivered valid idle since at_id found same

-- Plain pairs: the root is forced in some round, and at the end of the run it still has what it had then.
theorem pairs_frozen : ∃ s before, Steps (pairProblem false) (State.initial (pairProblem false)) s ∧
    Steps (pairProblem false) (s.force (pairProblem false)) (State.run (pairProblem false)) ∧
    s.entries[(⟨0,1⟩ : Goal)]? = some before ∧ before.status = .unsettled ∧
    (State.run (pairProblem false)).entries[(⟨0,1⟩ : Goal)]? = some { before with status := .forced,waiting := [] } := by
  have valid := pairProblem_valid false
  have complete := run_complete valid
  have asked : ⟨0,1⟩ ∈ (State.run (pairProblem false)).chart.asked := complete.root_asked valid
  have itself : ⟨0,1⟩ ∈ (Place.first ⟨0,1⟩).site (pairs false) := by decide
  have production : Chart.IsProduction (pairProblem false) ⟨0,1⟩ := rfl
  have forced := Chart.mutual_forced (complete.reached valid) production production itself itself (complete.closed valid asked)
  obtain ⟨s,steps,idle,waiting,unforced,newly,later⟩ := steps_round valid State.initial_coherent complete.steps
    (by simp [State.initial_chart,Chart.empty]) forced
  have coherent := steps_coherent valid steps State.initial_coherent
  have stuck := coherent.newly_forced idle waiting newly unforced
  have kept : ⟨0,1⟩ ∈ (s.force (pairProblem false)).chart.asked := by
    rw [(coherent.force idle waiting).2.1]
    exact stuck.1.1
  rw [State.chart_status] at unforced newly
  have frozen := forced_frozen (pairs_wellFormed false) pairs_plain (pairProblem_ok false) steps idle waiting
    (State.entries_some stuck.1.1) (State.entries_some kept) unforced newly later
  exact ⟨s,s.entryAt ⟨0,1⟩,steps,later,State.entries_some stuck.1.1,stuck.1.2,frozen.1⟩

end ParseForest
