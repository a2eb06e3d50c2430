import Mathlib
import ParseForest.Proofs.Chart.Starved
import ParseForest.Proofs.Fixpoint
import ParseForest.Proofs.Terminal

namespace ParseForest

namespace Grammar

-- A symbol that can match nothing: an empty literal, or a production that accepts a word of such
-- symbols.
inductive Nullable (grammar : Grammar) : SymbolId → Prop where
  | literal {id : SymbolId} {symbol : GrammarSymbol} (found : grammar.symbol? id = some symbol)
      (kind : symbol.kind = .terminal (.literal "")) : Nullable grammar id
  | production {id : SymbolId} {production : Production} {word : List SymbolId}
      (found : grammar.production? id = some production) (accepted : production.automaton.Accepts word)
      (parts : ∀ part ∈ word, Nullable grammar part) : Nullable grammar id

-- One symbol leads to another when the other has an entry, be it without targets, at a state that the
-- production of the first reaches over symbols that can match nothing.
def LeadsTo (grammar : Grammar) (id next : SymbolId) : Prop :=
  ∃ production, grammar.production? id = some production ∧ ∃ source ∈ production.automaton.start, ∃ word state,
    production.automaton.Path source word state ∧ (∀ part ∈ word, grammar.Nullable part) ∧
      ∃ edge ∈ production.automaton.row state, edge.symbol = next

-- A symbol that leads back to itself.
def LeftRecursive (grammar : Grammar) (id : SymbolId) : Prop := Relation.TransGen grammar.LeadsTo id id

end Grammar

theorem Tiles.length_zero {position : Nat} {nodes : List Node} (tiles : Tiles position nodes position) :
    ∀ node ∈ nodes, node.length = 0 := by
  have total : (nodes.map Node.length).sum = 0 := by
    have stop := tiles.stop_eq
    omega
  intro node member
  exact List.sum_eq_zero_iff.mp total _ (List.mem_map_of_mem member)

-- Whatever derives a node without text can match nothing, and so can all of its children.
theorem Derives.nullable [Regex.Library] {grammar : Grammar} {text : List Char} {node : Node} (derives : Derives grammar text node)
    (empty : node.length = 0) : grammar.Nullable node.symbol := by
  induction derives with
  | @terminal node matched =>
    rw [empty] at matched
    obtain ⟨terminal,found,hit⟩ := Option.bind_eq_some_iff.mp matched
    obtain ⟨symbol,at_id,kind⟩ := Option.bind_eq_some_iff.mp found
    refine .literal at_id ?_
    unfold GrammarSymbol.terminal? at kind
    split at kind
    · rename_i same
      rw [same,Option.some.inj kind,Terminal.matches_zero hit]
    · cases kind
  | @production node production children found tiles accepted parts ih =>
    refine .production found accepted ?_
    have still : node.stop = node.position := by simp [Node.stop,Node.position,empty]
    rw [still] at tiles
    intro part member
    obtain ⟨child,inside,rfl⟩ := List.mem_map.mp member
    exact ih child inside (tiles.length_zero child inside)

namespace Session

theorem Place.still_trail {place : Place} (still : place.position = place.owner.position) :
    ∀ node ∈ place.trail, node.length = 0 := by
  induction place using rec_trail with
  | start goal =>
    intro node member
    cases member
  | step place node ih =>
    have further := place.owner_le_position
    simp only [extend_position,extend_owner] at still
    intro other member
    rcases List.mem_cons.mp member with rfl | before
    · omega
    · exact ih (by omega) other before

namespace Chart

variable {problem : Problem} {chart next : Chart} {goal one two : Goal}

theorem phase_forced [Regex.Library] (phase : Phase problem chart next) (forced : next.status goal = .forced) : chart.status goal = .forced := by
  induction phase with
  | refl => exact forced
  | tail _ event ih => exact ih (event_forced event forced)

-- A walk that waits where its owner stands has passed empty nodes only.
theorem Waits.leadsTo [Regex.Library] (wellFormed : problem.grammar.WellFormed) (reached : Reached problem chart)
    (waits : chart.Waits problem one two) (same : two.position = one.position) :
    problem.grammar.LeadsTo one.symbol two.symbol := by
  obtain ⟨_,_,place,walk,rfl,wanted⟩ := waits
  obtain ⟨here,outgoing⟩ := Place.mem_site.mp wanted
  obtain ⟨production,found⟩ := Option.isSome_iff_exists.mp ((reached_owned reached).walk place walk).2
  simp only [Grammar.outgoing,found] at outgoing
  obtain ⟨state,present,edge,stored,symbol⟩ := Automaton.mem_outgoing.mp outgoing
  obtain ⟨source,start,path⟩ := Automaton.mem_after_iff.mp ((mem_states found).mp present)
  refine ⟨production,found,source,start,_,state,path,?_,edge,stored,symbol⟩
  intro part member
  obtain ⟨node,passed,rfl⟩ := List.mem_map.mp member
  have inside : node ∈ place.trail := List.mem_reverse.mp passed
  have published := ((reached_linked reached).spelled walk).2 node inside
  have empty := Place.still_trail (here.symm.trans same) node inside
  exact (reached_sound wellFormed reached node.goal node published).nullable empty

-- Waiting between goals at one position.
def WaitsAt (problem : Problem) (chart : Chart) (position : Nat) (one two : Goal) : Prop :=
  chart.Waits problem one two ∧ one.position = position ∧ two.position = position

-- Whatever a stuck goal waits for stands at its own position.
theorem Stuck.path_here (stuck : chart.Stuck problem goal) (path : Relation.ReflTransGen (chart.Waits problem) goal one) :
    Relation.ReflTransGen (chart.WaitsAt problem goal.position) goal one := by
  induction path with
  | refl => exact .refl
  | tail before waits ih =>
    exact ih.tail ⟨waits,stuck.position_eq before,stuck.position_eq (before.tail waits)⟩

-- A stuck goal waits for something, and that waits for it in turn: the circle has at least one step.
theorem Stuck.circle [Regex.Library] (valid : problem.Valid) (reached : Reached problem chart) (saturated : chart.Saturated problem)
    (stuck : chart.Stuck problem goal) : Relation.TransGen (chart.WaitsAt problem goal.position) goal goal := by
  obtain ⟨other,waits⟩ := stuck.1.waits valid reached saturated
  have there : other.position = goal.position := stuck.position_eq (.single waits)
  have back := (stuck.waits waits).path_here (stuck.2 other (.single waits))
  rw [there] at back
  exact .head' ⟨waits,rfl,there⟩ back

theorem Stuck.leftRecursive [Regex.Library] (valid : problem.Valid) (reached : Reached problem chart) (saturated : chart.Saturated problem)
    (stuck : chart.Stuck problem goal) : problem.grammar.LeftRecursive goal.symbol := by
  refine (stuck.circle valid reached saturated).lift Goal.symbol ?_
  rintro one two ⟨waits,here,there⟩
  exact waits.leadsTo valid.wellFormed reached (there.trans here.symm)

end Chart

namespace State

variable {problem : Problem} {s next : State} {goal : Goal}

-- Waiting between open goals at one position, as the state has it.
def WaitsAt (s : State) (position : Nat) (one two : Goal) : Prop :=
  one ∈ s.openGoals ∧ two ∈ s.openGoals ∧ one ∈ s.waitingOwners two ∧ one.position = position ∧ two.position = position

variable [Regex.Library]

theorem Coherent.open_waits (valid : problem.Valid) (coherent : Coherent problem s) (idle : s.tasks = [])
    (member : goal ∈ s.openGoals) : ∃ other ∈ s.openGoals, goal ∈ s.waitingOwners other := by
  have isOpen := (mem_openGoals coherent.good).mp member
  obtain ⟨other,waits⟩ := isOpen.waits valid coherent.reached (coherent.saturated idle)
  exact ⟨other,(mem_openGoals coherent.good).mpr waits.2.1,(coherent.waits_iff idle isOpen waits.2.1).mpr waits⟩

theorem Coherent.circle (valid : problem.Valid) (coherent : Coherent problem s) (idle : s.tasks = [])
    (stuck : s.chart.Stuck problem goal) : Relation.TransGen (s.WaitsAt goal.position) goal goal := by
  refine (stuck.circle valid coherent.reached (coherent.saturated idle)).lift id ?_
  rintro one two ⟨waits,here,there⟩
  have openOne := waits.1
  have openTwo := waits.2.1
  exact ⟨(mem_openGoals coherent.good).mpr openOne,(mem_openGoals coherent.good).mpr openTwo,
    (coherent.waits_iff idle openOne openTwo).mpr waits,here,there⟩

-- What a round forces was stuck before it.
theorem Coherent.newly_forced (coherent : Coherent problem s) (idle : s.tasks = []) (waiting : 0 < s.active)
    (forced : (s.force problem).chart.status goal = .forced) (unforced : s.chart.status goal ≠ .forced) :
    s.chart.Stuck problem goal := by
  rw [(coherent.force idle waiting).2.1] at forced
  rcases Chart.force_status problem s.chart goal with ⟨stuck,_⟩ | ⟨_,same⟩
  · exact stuck
  · rw [same] at forced
    exact absurd forced unforced

end State

variable [Regex.Library]

-- Without left recursion no step is a round of forcing.
theorem Step.unforced {problem : Problem} {s next : State} (valid : problem.Valid) (coherent : State.Coherent problem s)
    (plain : ∀ id, ¬problem.grammar.LeftRecursive id) (step : Step problem s next) (none_yet : s.rounds = 0 ∧ s.forced = 0) :
    next.rounds = 0 ∧ next.forced = 0 := by
  cases step with
  | task before after task queued =>
    obtain ⟨new,begun,performed⟩ := coherent.perform valid queued
    obtain ⟨rounds,forced⟩ := Chart.phase_counters performed.phase
    exact ⟨rounds.trans none_yet.1,forced.trans none_yet.2⟩
  | round idle waiting =>
    obtain ⟨_,stuck,some_stuck⟩ := coherent.deadlocked_spec idle
    obtain ⟨goal,member⟩ := List.exists_mem_of_ne_nil _ (some_stuck waiting)
    exact absurd (((stuck goal).mp member).leftRecursive valid coherent.reached (coherent.saturated idle)) (plain goal.symbol)

theorem steps_unforced {problem : Problem} {s next : State} (valid : problem.Valid) (coherent : State.Coherent problem s)
    (plain : ∀ id, ¬problem.grammar.LeftRecursive id) (steps : Steps problem s next) (none_yet : s.rounds = 0 ∧ s.forced = 0) :
    next.rounds = 0 ∧ next.forced = 0 := by
  induction steps with
  | refl => exact none_yet
  | tail steps step ih => exact step.unforced valid (steps_coherent valid steps coherent) plain ih

-- A forced goal was forced in some round.
theorem steps_round {problem : Problem} {s next : State} {goal : Goal} (valid : problem.Valid) (coherent : State.Coherent problem s)
    (steps : Steps problem s next) (unforced : s.chart.status goal ≠ .forced) (forced : next.chart.status goal = .forced) :
    ∃ before, Steps problem s before ∧ before.tasks = [] ∧ 0 < before.active ∧ before.chart.status goal ≠ .forced ∧
      (before.force problem).chart.status goal = .forced ∧ Steps problem (before.force problem) next := by
  induction steps with
  | refl => exact absurd forced unforced
  | @tail middle last steps step ih =>
    by_cases already : middle.chart.status goal = .forced
    · obtain ⟨before,earlier,idle,waiting,not_yet,newly,later⟩ := ih already
      exact ⟨before,earlier,idle,waiting,not_yet,newly,later.tail step⟩
    · cases step with
      | task before after task queued =>
        obtain ⟨new,begun,performed⟩ := (steps_coherent valid steps coherent).perform valid queued
        exact absurd (Chart.phase_forced performed.phase forced) already
      | round idle waiting => exact ⟨middle,steps,idle,waiting,already,forced,.refl _⟩

theorem steps_forced {problem : Problem} {s next : State} {goal : Goal} (valid : problem.Valid) (coherent : State.Coherent problem s)
    (steps : Steps problem s next) (unforced : s.chart.status goal ≠ .forced) (forced : next.chart.status goal = .forced) :
    ∃ before, Steps problem s before ∧ before.tasks = [] ∧ 0 < before.active ∧ before.chart.status goal ≠ .forced ∧
      (before.force problem).chart.status goal = .forced := by
  obtain ⟨before,earlier,idle,waiting,not_yet,newly,_⟩ := steps_round valid coherent steps unforced forced
  exact ⟨before,earlier,idle,waiting,not_yet,newly⟩

end Session

open Session

variable {engine : Engine} {document : Text.Document} {root : SymbolId} {range : Option (Nat × Nat)} {problem : Problem}

-- Forcing is for left recursion only. When nothing is left to do, every open goal waits for an open
-- goal; what a round forces waits for itself in a circle at its own position, and its symbol leads
-- back to itself. Where no symbol does, there is no round.
theorem forced_left_recursive [Regex.Library] (wellFormed : engine.grammar.WellFormed)
    (accepted : engine.problem document root range = .ok problem) :
    (∀ s, Steps problem (State.initial problem) s → s.tasks = [] → 0 < s.active →
      (∀ goal ∈ s.openGoals, ∃ other ∈ s.openGoals, goal ∈ s.waitingOwners other) ∧
      ∀ (goal : Goal) (before after : Entry), s.entries[goal]? = some before →
        (s.force problem).entries[goal]? = some after → before.status ≠ .forced → after.status = .forced →
          Relation.TransGen (s.WaitsAt goal.position) goal goal ∧ engine.grammar.LeftRecursive goal.symbol) ∧
    ((∀ id, ¬engine.grammar.LeftRecursive id) →
      (∀ s, Steps problem (State.initial problem) s → s.rounds = 0 ∧ s.forced = 0) ∧
      ∃ outcome, engine.parse document root range = .ok outcome ∧ outcome.statistics.rounds = 0 ∧
        outcome.statistics.forced = 0) := by
  have valid := Engine.problem_valid wellFormed accepted
  have grammar := (Engine.problem_ok accepted).1
  rw [← grammar]
  constructor
  · intro s steps idle waiting
    have coherent := steps_coherent valid steps State.initial_coherent
    refine ⟨fun goal member => coherent.open_waits valid idle member,?_⟩
    intro goal before after old new unforced forced
    obtain ⟨_,rfl⟩ := State.entered old
    obtain ⟨_,rfl⟩ := State.entered new
    have stuck := coherent.newly_forced idle waiting forced unforced
    exact ⟨coherent.circle valid idle stuck,stuck.leftRecursive valid coherent.reached (coherent.saturated idle)⟩
  · intro plain
    have unforced : ∀ s, Steps problem (State.initial problem) s → s.rounds = 0 ∧ s.forced = 0 :=
      fun s steps => steps_unforced valid State.initial_coherent plain steps ⟨rfl,rfl⟩
    exact ⟨unforced,_,Engine.parse_eq accepted,unforced _ (run_complete valid).steps⟩

theorem words_leadsTo {id next : SymbolId} (leads : words.grammar.LeadsTo id next) : id = 1 ∧ next = 0 := by
  obtain ⟨production,found,_,_,_,state,_,_,edge,stored,rfl⟩ := leads
  have body : id = 1 ∧ production.automaton = wordAutomaton := by
    match id with
    | 0 => cases found
    | 1 =>
      cases found
      exact ⟨rfl,rfl⟩
    | _ + 2 => cases found
  rw [body.2] at stored
  obtain ⟨row,listed,inside⟩ := Automaton.row_mem stored
  have letter : edge.symbol ∈ wordAutomaton.symbols := List.mem_map_of_mem (List.mem_flatten_of_mem listed inside)
  exact ⟨body.1,by simpa [wordAutomaton,Automaton.symbols] using letter⟩

theorem words_plain (id : SymbolId) : ¬words.grammar.LeftRecursive id := by
  intro circle
  obtain ⟨_,first,_⟩ := Relation.TransGen.head'_iff.mp circle
  obtain ⟨_,_,last⟩ := Relation.TransGen.tail'_iff.mp circle
  have start : id = 1 := (words_leadsTo first).1
  have stop : id = 0 := (words_leadsTo last).2
  rw [stop] at start
  cases start

-- A pair begins with a pair, so its goal is forced, and only because it leads back to itself. Words
-- are parsed without a round.
theorem pairs_lead_back : (pairs false).LeftRecursive 1 ∧ (State.run wordProblem).rounds = 0 ∧ (State.run wordProblem).forced = 0 := by
  have valid := pairProblem_valid false
  have complete := run_complete valid
  have asked : ⟨0,1⟩ ∈ (State.run (pairProblem false)).chart.asked := complete.root_asked valid
  have itself : ⟨0,1⟩ ∈ (Place.first ⟨0,1⟩).site (pairs false) := by decide
  have production : Chart.IsProduction (pairProblem false) ⟨0,1⟩ := rfl
  have forced := Chart.mutual_forced (complete.reached valid) production production itself itself (complete.closed valid asked)
  obtain ⟨before,steps,idle,waiting,unforced,newly⟩ := steps_forced valid State.initial_coherent complete.steps
    (by simp [State.initial_chart,Chart.empty]) forced
  have coherent := steps_coherent valid steps State.initial_coherent
  have stuck := coherent.newly_forced idle waiting newly unforced
  have left := (forced_left_recursive (pairs_wellFormed false) (pairProblem_ok false)).1 before steps idle waiting
  have right := (forced_left_recursive words_wellFormed wordProblem_ok).2 words_plain
  refine ⟨?_,right.1 _ (run_complete wordProblem_valid).steps⟩
  have kept : ⟨0,1⟩ ∈ (before.force (pairProblem false)).chart.asked := by
    rw [(coherent.force idle waiting).2.1]
    exact stuck.1.1
  exact (left.2 ⟨0,1⟩ _ _ (State.entries_some stuck.1.1) (State.entries_some kept) unforced newly).2

end ParseForest
