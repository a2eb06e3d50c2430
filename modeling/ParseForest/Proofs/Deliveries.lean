import Mathlib
import ParseForest.Proofs.Recognition
import ParseForest.Proofs.Session.Received

namespace ParseForest

open Session

namespace Session

section Counts

variable {id : WalkId} {entry : Entry} {node : Node}

theorem deliver_count : (greetings entry id).count (.deliver id node) = entry.published.count node := by
  have injective : Function.Injective (Task.deliver id ·) := fun _ _ same => (Task.deliver.inj same).2
  have unannounced : (if entry.status = .unsettled then [] else [Task.exhausted id]).count (.deliver id node) = 0 := by
    split
    · rfl
    · rfl
  rw [greetings,List.count_append,List.count_reverse,List.count_map_of_injective _ _ injective,unannounced,Nat.zero_add]

theorem exhausted_count : (greetings entry id).count (.exhausted id) = if entry.status ≠ .unsettled then 1 else 0 := by
  have undelivered : (entry.published.map (Task.deliver id ·)).reverse.count (.exhausted id) = 0 :=
    List.count_eq_zero.mpr (by simp)
  rw [greetings,List.count_append,undelivered]
  by_cases unsettled : entry.status = .unsettled
  · simp [unsettled]
  · simp [unsettled]

end Counts

section Receipt

variable {problem : Problem} {history : List Task} {s : State} {id : WalkId} {walk : Walk} {node : Node}

-- What has been made for a walk, carried out or not, is what the goals of its site have for it.
theorem Traced.mail [Regex.Library] (traced : Traced problem history s) (found : s.walks[id]? = some walk) :
    (mailOf id (history ++ s.tasks)).Perm ((walk.site problem.grammar).flatMap fun goal => greetings (s.entryAt goal) id) := by
  obtain ⟨sites,told⟩ := traced.served
  have site : sites.getD id [] = walk.site problem.grammar := by
    rw [← told.walks,List.getD,List.getElem?_map,Array.getElem?_toList,found]
    rfl
  have letters := told.letters id
  rwa [site] at letters

theorem Traced.coherent [Regex.Library] (valid : problem.Valid) (traced : Traced problem history s) : State.Coherent problem s :=
  steps_coherent valid traced.steps State.initial_coherent

theorem mailOf_count {tasks : List Task} {task : Task} (addressed : task.walk? = some id) :
    (mailOf id tasks).count task = tasks.count task :=
  List.count_filter (by simpa using addressed)

-- A node comes to a walk once, if its goal belongs to the walk's site and has published it.
theorem Traced.delivered [Regex.Library] (valid : problem.Valid) (traced : Traced problem history s) (found : s.walks[id]? = some walk)
    (node : Node) : (history ++ s.tasks).count (.deliver id node) =
      if node.goal ∈ walk.site problem.grammar ∧ node ∈ (s.entryAt node.goal).published then 1 else 0 := by
  have books := (traced.coherent valid).good.books
  have own : ∀ goal, (s.entryAt goal).published.count node =
      if goal = node.goal then (s.entryAt node.goal).published.count node else 0 := by
    intro goal
    split
    · rename_i same
      rw [same]
    · rename_i different
      exact List.count_eq_zero.mpr fun member => different (books.own goal node member).symm
  have sent : ((walk.site problem.grammar).flatMap fun goal => greetings (s.entryAt goal) id).count (.deliver id node) =
      ((walk.site problem.grammar).map fun goal => if goal = node.goal then (s.entryAt node.goal).published.count node else 0).sum := by
    rw [List.count_flatMap]
    refine congrArg List.sum (List.map_congr_left fun goal _ => ?_)
    exact deliver_count.trans (own goal)
  rw [← mailOf_count rfl,(traced.mail found).count_eq,sent,List.sum_map_ite,filter_eq_of_nodup Walk.site_nodup,
    (books.published node.goal).count]
  by_cases asked : node.goal ∈ walk.site problem.grammar
  · simp [asked]
  · simp [asked]

-- One notice comes to a walk for every closed goal of its site.
theorem Traced.noticed [Regex.Library] (traced : Traced problem history s) (found : s.walks[id]? = some walk) :
    (history ++ s.tasks).count (.exhausted id) =
      (walk.site problem.grammar).countP fun goal => (s.entryAt goal).status ≠ .unsettled := by
  rw [← mailOf_count rfl,(traced.mail found).count_eq,List.count_flatMap,countP_eq_sum]
  refine congrArg List.sum (List.map_congr_left fun goal _ => ?_)
  exact exhausted_count

end Receipt

section Sites

variable {problem : Problem} {s : State} {id : WalkId} {walk : Walk} {goal : Goal}

theorem State.walk_mem (found : s.walks[id]? = some walk) : walk ∈ s.walks.toList :=
  Array.mem_toList_iff.mpr (Array.mem_of_getElem? found)

theorem State.walk_begun (member : walk ∈ s.walks.toList) : walk.place ∈ s.chart.walks :=
  chart_walks.mpr (List.mem_map_of_mem member)

variable [Regex.Library]

theorem State.Coherent.walk_layout (coherent : Coherent problem s) (member : walk ∈ s.walks.toList) :
    walk.position = walk.place.position ∧ walk.states = walk.place.states problem.grammar := by
  obtain ⟨id,found⟩ := List.mem_iff_getElem?.mp member
  have frame : s.frames[id]? = some walk.frame := by rw [frames,List.getElem?_map,found]; rfl
  obtain ⟨position,states,_⟩ := coherent.good.family.layout id _ frame
  exact ⟨position,states⟩

theorem State.Coherent.walk_site (coherent : Coherent problem s) (member : walk ∈ s.walks.toList) :
    walk.place.site problem.grammar = walk.site problem.grammar := by
  obtain ⟨position,states⟩ := coherent.walk_layout member
  rw [Place.site,Walk.site,position,states]
  rfl

-- A walk stands in the states that its trail leads to, and asks at its position for each symbol that is stored there.
theorem State.Coherent.site_exact (coherent : Coherent problem s) (member : walk ∈ s.walks.toList) :
    ∃ production, problem.grammar.production? walk.owner.symbol = some production ∧
      (∀ state, state ∈ walk.states ↔ state ∈ production.automaton.after (walk.trail.reverse.map Node.symbol)) ∧
      (walk.site problem.grammar).Nodup ∧
      ∀ goal, goal ∈ walk.site problem.grammar ↔ goal.position = walk.position ∧
        ∃ state ∈ walk.states, ∃ edge ∈ production.automaton.row state, edge.symbol = goal.symbol := by
  have owner := (Chart.reached_owned coherent.reached).walk _ (State.walk_begun member)
  obtain ⟨production,found⟩ := Option.isSome_iff_exists.mp owner.2
  change problem.grammar.production? walk.owner.symbol = some production at found
  refine ⟨production,found,fun state => ?_,Walk.site_nodup,fun goal => ?_⟩
  · rw [(coherent.walk_layout member).2]
    exact Chart.mem_states found
  · rw [Walk.mem_site,Grammar.mem_outgoing found]

-- At the end every goal that a walk asks for is known and closed.
theorem Complete.site_closed (valid : problem.Valid) (complete : Complete problem s) (member : walk ∈ s.walks.toList)
    (wanted : goal ∈ walk.site problem.grammar) : goal ∈ s.chart.asked ∧ (s.entryAt goal).status ≠ .unsettled := by
  rw [← (complete.coherent valid).walk_site member] at wanted
  have asked := (complete.saturated valid).asked _ (State.walk_begun member) goal wanted
  exact ⟨asked,complete.closed valid asked⟩

theorem Complete.root_walk (valid : problem.Valid) (complete : Complete problem s)
    (production : Chart.IsProduction problem problem.root.goal) :
    ∃ (id : WalkId) (walk : Walk), s.walks[id]? = some walk ∧ walk.place = .first problem.root.goal := by
  have saturated := complete.saturated valid
  have begun := saturated.begun _ (.first saturated.root production)
  obtain ⟨id,found⟩ := List.mem_iff_getElem?.mp (State.chart_walks.mp begun)
  exact ⟨id,State.walk_of_place found⟩

end Sites

section Counters

variable {problem : Problem} {s : State} {goals : List Goal} {places : List Place}

theorem wanting_cons {place : Place} {goal : Goal} : wanting problem (place :: places) goal =
    wanting problem places goal + if goal ∈ place.site problem.grammar then 1 else 0 := by
  rw [wanting,wanting,List.countP_cons]
  simp

-- What the goals send to the walks that want them is what the walks get from the goals of their sites.
theorem messages_by_walk (nodup : goals.Nodup) (weight : Goal → Nat)
    (inside : ∀ place ∈ places, ∀ goal ∈ place.site problem.grammar, goal ∈ goals) :
    (goals.map fun goal => wanting problem places goal * weight goal).sum =
      (places.map fun place => ((place.site problem.grammar).map weight).sum).sum := by
  induction places with
  | nil => simp [wanting]
  | cons place rest ih =>
    have earlier := ih fun other member => inside other (List.mem_cons_of_mem _ member)
    have picked : (goals.filter fun goal => goal ∈ place.site problem.grammar).Perm (place.site problem.grammar) := by
      refine (List.perm_ext_iff_of_nodup (nodup.filter _) Place.site_nodup).mpr fun goal => ?_
      simp only [List.mem_filter,decide_eq_true_eq,and_iff_right_iff_imp]
      exact inside place List.mem_cons_self goal
    have here : (goals.map fun goal => (if goal ∈ place.site problem.grammar then 1 else 0) * weight goal).sum =
        ((place.site problem.grammar).map weight).sum := by
      rw [← (picked.map weight).sum_eq]
      simp only [ite_mul,one_mul,zero_mul,List.sum_map_ite]
      simp
    simp only [wanting_cons,Nat.add_mul,List.sum_map_add,List.map_cons,List.sum_cons]
    rw [earlier,here,Nat.add_comm]

variable [Regex.Library]

-- The tasks of a whole run: the first one, one for every production, and one for each message to a walk.
theorem Complete.finished_eq (valid : problem.Valid) (complete : Complete problem s) :
    s.finished = 1 + s.goals.countP (fun goal => (problem.grammar.production? goal.symbol).isSome) +
      (s.walks.toList.map fun walk =>
        ((walk.site problem.grammar).map fun goal => 1 + (s.entryAt goal).published.length).sum).sum := by
  have coherent := complete.coherent valid
  have books := coherent.good.books
  have known : ∀ place ∈ s.places, ∀ goal ∈ place.site problem.grammar, goal ∈ s.goals := by
    intro place member goal wanted
    exact (books.listed goal).mpr ((complete.saturated valid).asked place (State.chart_walks.mpr member) goal wanted)
  have messages : ∀ goal ∈ s.goals, (s.entryAt goal).messages = 1 + (s.entryAt goal).published.length := by
    intro goal member
    have closed : (s.entryAt goal).status ≠ .unsettled := complete.closed valid ((books.listed goal).mp member)
    rw [Entry.messages,if_neg closed,Nat.add_comm]
  have made := coherent.good.tally.made
  simp only [coherent.held,complete.idle,List.length_nil,Nat.add_zero,joining,asks_owe,Nat.sub_zero] at made
  have weighed : (s.goals.map fun goal => wanting problem s.places goal * (s.entryAt goal).messages) =
      s.goals.map fun goal => wanting problem s.places goal * (1 + (s.entryAt goal).published.length) :=
    List.map_congr_left fun goal member => by rw [messages goal member]
  rw [made,weighed,messages_by_walk books.nodup _ known,State.places,List.map_map]
  congr 2
  refine List.map_congr_left fun walk member => ?_
  rw [Function.comp_apply,coherent.walk_site member]

theorem Complete.requests_eq (valid : problem.Valid) (complete : Complete problem s) :
    s.hits + s.goals.length = 1 + (s.walks.toList.map fun walk => (walk.site problem.grammar).length).sum := by
  have coherent := complete.coherent valid
  have requests := coherent.requests
  rw [complete.idle,questionsOf,State.places,List.map_map] at requests
  rw [← Nat.add_zero (s.hits + _)]
  refine requests.trans (congrArg (1 + List.sum ·) (List.map_congr_left fun walk member => ?_))
  rw [Function.comp_apply,coherent.walk_site member]

end Counters

end Session

variable {engine : Engine} {document : Text.Document} {root : SymbolId} {range : Option (Nat × Nat)} {problem : Problem}
  {history : List Task} {s : State}

-- In whatever order the tasks are taken, a walk asks once for each symbol that an entry at one of its states is on. It
-- gets every node of every goal that it asks for once, and one notice for each goal when it is closed. No two walks of
-- a goal have passed the same nodes, and no derivation is recorded twice. At the end all has been carried out, and the
-- counters tell how much it was.
theorem deliveries_exact [Regex.Library] (wellFormed : engine.grammar.WellFormed)
    (accepted : engine.problem document root range = .ok problem) (traced : Traced problem history s) :
    (∀ (id : WalkId) (walk : Walk), s.walks[id]? = some walk →
      ∃ production, engine.grammar.production? walk.owner.symbol = some production ∧
        (∀ state, state ∈ walk.states ↔ state ∈ production.automaton.after (walk.trail.reverse.map Node.symbol)) ∧
        (walk.site engine.grammar).Nodup ∧
        ∀ goal, goal ∈ walk.site engine.grammar ↔ goal.position = walk.position ∧
          ∃ state ∈ walk.states, ∃ edge ∈ production.automaton.row state, edge.symbol = goal.symbol) ∧
    (∀ (id : WalkId) (walk : Walk), s.walks[id]? = some walk →
      (∀ node, (history ++ s.tasks).count (.deliver id node) =
        if node.goal ∈ walk.site engine.grammar ∧ node ∈ (s.entryAt node.goal).published then 1 else 0) ∧
      (history ++ s.tasks).count (.exhausted id) =
        (walk.site engine.grammar).countP fun goal => (s.entryAt goal).status ≠ .unsettled) ∧
    (∀ (i j : WalkId) (one two : Walk), s.walks[i]? = some one → s.walks[j]? = some two →
      one.owner = two.owner → one.trail = two.trail → i = j) ∧
    (∀ goal, (s.entryAt goal).derivations.Nodup) ∧
    ((∀ next, ¬Step problem s next) →
      (∀ (id : WalkId) (walk : Walk), s.walks[id]? = some walk →
        (∀ node, history.count (.deliver id node) =
          if node.goal ∈ walk.site engine.grammar ∧ node ∈ (s.entryAt node.goal).published then 1 else 0) ∧
        history.count (.exhausted id) = (walk.site engine.grammar).length) ∧
      ∃ outcome, engine.parse document root range = .ok outcome ∧
        outcome.statistics.tasks = 1 + s.goals.countP (fun goal => (engine.grammar.production? goal.symbol).isSome) +
          (s.walks.toList.map fun walk =>
            ((walk.site engine.grammar).map fun goal => 1 + (outcome.lengthsOf goal).length).sum).sum ∧
        outcome.statistics.hits + outcome.statistics.goals =
          1 + (s.walks.toList.map fun walk => (walk.site engine.grammar).length).sum) := by
  have valid := Engine.problem_valid wellFormed accepted
  have grammar := (Engine.problem_ok accepted).1
  have coherent := traced.coherent valid
  have books := coherent.good.books
  rw [← grammar]
  refine ⟨fun id walk found => coherent.site_exact (State.walk_mem found),
    fun id walk found => ⟨traced.delivered valid found,traced.noticed found⟩,?_,books.recorded,?_⟩
  · intro i j one two atOne atTwo owner trail
    have same : one.place = two.place := Place.ext owner trail
    have places := coherent.good.family.places
    rw [← State.places_eq] at places
    exact index_unique places (State.place_of_walk atOne) (same ▸ State.place_of_walk atTwo)
  · intro last
    have complete : Complete problem s := ⟨traced.steps,last⟩
    refine ⟨?_,s.outcome problem,?_,?_,complete.requests_eq valid⟩
    · intro id walk found
      have delivered := traced.delivered valid found
      have noticed := traced.noticed found
      rw [complete.idle,List.append_nil] at delivered noticed
      refine ⟨delivered,noticed.trans (List.countP_eq_length.mpr fun goal wanted => ?_)⟩
      exact decide_eq_true (complete.site_closed valid (State.walk_mem found) wanted).2
    · rw [Engine.parse_eq accepted,(run_complete valid).outcome_unique valid complete]
    · have lengths : ∀ goal, ((s.outcome problem).lengthsOf goal).length = (s.entryAt goal).published.length := by
        intro goal
        rw [State.outcome_lengthsOf books,State.lengthsOf_eq,List.length_mergeSort,List.length_map]
      simp only [lengths]
      exact complete.finished_eq valid

-- The run that the engine makes has a history, and in it every walk is told of the end of each of its goals. The first
-- walk of the root asks for a letter and for a pair, and is told of the one letter once.
theorem pairs_delivered : ∃ history, Traced (pairProblem true) history (State.run (pairProblem true)) ∧
    (∀ (id : WalkId) (walk : Walk), (State.run (pairProblem true)).walks[id]? = some walk →
      history.count (.exhausted id) = (walk.site (pairs true)).length) ∧
    ∃ (id : WalkId) (walk : Walk), (State.run (pairProblem true)).walks[id]? = some walk ∧ walk.trail = [] ∧
      (walk.site (pairs true)).Perm [⟨0,0⟩,⟨0,1⟩] ∧ history.count (.deliver id (.of 0 0 1)) = 1 ∧
      history.count (.exhausted id) = 2 := by
  have valid := pairProblem_valid true
  have complete := run_complete valid
  obtain ⟨history,traced⟩ := steps_traced complete.steps
  obtain ⟨sites,_,_,_,ended⟩ := deliveries_exact (pairs_wellFormed true) (pairProblem_ok true) traced
  obtain ⟨mail,_⟩ := ended complete.last
  refine ⟨history,traced,fun id walk found => (mail id walk found).2,?_⟩
  obtain ⟨id,walk,at_id,place⟩ := complete.root_walk valid rfl
  have member := State.walk_mem at_id
  obtain ⟨owner,trail⟩ : walk.owner = ⟨0,1⟩ ∧ walk.trail = [] := ⟨congrArg Place.owner place,congrArg Place.trail place⟩
  obtain ⟨production,body,states,nodup,asks⟩ := sites id walk at_id
  rw [owner] at body
  cases body
  have position : walk.position = 0 := by
    rw [((traced.coherent valid).walk_layout member).1,place]
    rfl
  have start : ∀ state, state ∈ walk.states ↔ state = 0 := by
    intro state
    rw [states,trail]
    simp [pairAutomaton]
  have goals : (walk.site (pairs true)).Perm [⟨0,0⟩,⟨0,1⟩] := by
    refine (List.perm_ext_iff_of_nodup nodup (by decide)).mpr fun goal => ?_
    rw [asks,position]
    simp [start,pairAutomaton,Automaton.row,Goal.ext_iff,← and_or_left,eq_comm]
  have wanted : (⟨0,0⟩ : Goal) ∈ walk.site (pairs true) := goals.mem_iff.mpr List.mem_cons_self
  have published : Node.of 0 0 1 ∈ ((State.run (pairProblem true)).entryAt ⟨0,0⟩).published :=
    complete.matched_published valid (complete.site_closed valid member wanted).1 rfl
  refine ⟨id,walk,at_id,trail,goals,((mail id walk at_id).1 _).trans (if_pos ⟨wanted,published⟩),?_⟩
  rw [(mail id walk at_id).2]
  exact goals.length_eq

end ParseForest
