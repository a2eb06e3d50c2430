import Mathlib
import ParseForest.Proofs.Chart.Starved
import ParseForest.Proofs.Fixpoint

namespace ParseForest

-- A finite tree of derivations in which no goal stands below itself: `above` holds the goals on the way
-- from the root. Every node below the root is kept.
inductive Acyclic [Regex.Library] (grammar : Grammar) (text : List Char) (kept : Node → Prop) : List Goal → Node → Prop where
  | terminal {above : List Goal} {node : Node}
      (matched : grammar.terminalMatch? node.symbol text node.position = some node.length) :
      Acyclic grammar text kept above node
  | production {above : List Goal} {node : Node} {production : Production} {children : List Node}
      (found : grammar.production? node.symbol = some production)
      (tiles : Tiles node.position children node.stop)
      (accepted : production.automaton.Accepts (children.map Node.symbol))
      (fresh : ∀ child ∈ children, child.goal ∉ node.goal :: above)
      (keeps : ∀ child ∈ children, kept child)
      (parts : ∀ child ∈ children, Acyclic grammar text kept (node.goal :: above) child) :
      Acyclic grammar text kept above node

open Session

variable {engine : Engine} {document : Text.Document} {root : SymbolId} {range : Option (Nat × Nat)} {problem : Problem}
  {s : State} {chart : Chart} {goal : Goal} {node : Node} {production : Production}

-- A tree of one production over one terminal.
theorem Acyclic.single [Regex.Library] {grammar : Grammar} {text : List Char} {kept : Node → Prop} {above : List Goal}
    (child : Node) (found : grammar.production? node.symbol = some production) (accepted : production.automaton.Accepts [child.symbol])
    (start : child.position = node.position) (stop : child.stop = node.stop) (fresh : child.goal ∉ node.goal :: above)
    (keeps : kept child) (matched : grammar.terminalMatch? child.symbol text child.position = some child.length) :
    Acyclic grammar text kept above node := by
  have tiles : Tiles node.position [child] node.stop := ⟨start,stop⟩
  refine .production found tiles accepted ?_ ?_ ?_
  · simpa using fresh
  · simpa using keeps
  · simpa using .terminal matched

namespace Session.Chart

-- When a circle of goals is closed, its trees are there: what they need of closed goals has been
-- published, and what they need of the circle is published at once, as long as it is not greedy. The
-- induction is on the tree; the goal that it started from stands above every part.
theorem stuck_walk [Regex.Library] (wellFormed : problem.grammar.WellFormed) (reached : Reached problem chart)
    (saturated : chart.Saturated problem) (stuck : chart.Stuck problem goal) {kept : Node → Prop}
    (known : ∀ part, kept part → chart.Closed part.goal → part ∈ chart.published part.goal)
    (plain : ∀ part, kept part → part.goal ≠ goal → Relation.ReflTransGen (chart.Waits problem) goal part.goal →
      ¬IsGreedy problem part.goal)
    {above : List Goal} (tree : Acyclic problem.grammar problem.text kept above node)
    (below : goal ∈ node.goal :: above) (path : Relation.ReflTransGen (chart.Waits problem) goal node.goal) :
    ∃ place ∈ chart.walks, place.owner = node.goal ∧ place.accepting problem.grammar = true ∧ place.derivation.node = node := by
  induction tree with
  | @terminal above node matched =>
    have isProduction := (stuck.reaches path).1.production reached
    exact absurd isProduction (not_production_of_match matched)
  | @production above node production children found tiles accepted fresh keeps parts ih =>
    have here := stuck.reaches path
    refine accepted_walk wellFormed (reached_linked reached) (saturated.begun _ (.first here.1.1 (here.1.production reached)))
      (fun place walk _ child continues => saturated.begun _ (.extend walk continues)) found ?_ rfl tiles accepted
    intro place walk owner child member wanted
    by_cases closed : chart.Closed child.goal
    · exact known child (keeps child member) closed
    · have isOpen : chart.Open child.goal := ⟨saturated.asked place walk _ wanted,not_not.mp closed⟩
      have further := path.tail ⟨here.1,isOpen,place,walk,owner,wanted⟩
      have different : child.goal ≠ goal := fun same => fresh child member (same ▸ below)
      have flat := plain child (keeps child member) different further
      obtain ⟨walked,begun,own,accepting,same⟩ := ih child member (List.mem_cons_of_mem _ below) further
      rw [← own] at flat isOpen ⊢
      exact same ▸ accepted_published reached flat (by simp [isOpen.2]) begun accepting

theorem settled_covers [Regex.Library] (valid : problem.Valid) (reached : Reached problem chart) (saturated : chart.Saturated problem)
    (settled : chart.status node.goal = .settled) (isProduction : IsProduction problem node.goal) {kept : Node → Prop}
    (known : ∀ part, kept part → part ∈ chart.published part.goal) {above : List Goal}
    (tree : Acyclic problem.grammar problem.text kept above node) :
    (¬IsGreedy problem node.goal → node ∈ chart.published node.goal) ∧
    (IsGreedy problem node.goal → ∃ other ∈ chart.published node.goal, node.length ≤ other.length) := by
  have linked := reached_linked reached
  have closed : chart.Closed node.goal := by simp [Closed,settled]
  have asked := (reached_owned reached).closed_asked closed
  have unforced : chart.status node.goal ≠ .forced := by simp [settled]
  cases tree with
  | terminal matched => exact absurd isProduction (not_production_of_match matched)
  | production found tiles accepted fresh keeps parts =>
    have start := saturated.begun _ (.first asked isProduction)
    obtain ⟨place,walk,_,accepting,rfl⟩ := accepted_walk valid.wellFormed linked start
      (fun place walk _ child continues => saturated.begun _ (.extend walk continues)) found
      (fun _ _ _ child member _ => known child (keeps child member)) rfl tiles accepted
    constructor
    · intro plain
      exact accepted_published reached plain unforced walk accepting
    · intro greedy
      have ended := (reached_decided reached).walk_ended linked settled isProduction walk
      obtain ⟨other,longest,bound⟩ := ended_longest valid reached greedy ended accepting
      exact ⟨other,((reached_announced reached).greedy_settled _ greedy settled other).mpr longest,bound⟩

-- A part of a tree that its goal gave away only when it was forced, together with the goal at the root:
-- greedy goals keep what they find until they are closed.
def Withheld (problem : Problem) (chart : Chart) (goal : Goal) (part : Node) : Prop :=
  part.position = goal.position ∧ part.goal ≠ goal ∧ IsGreedy problem part.goal ∧ chart.status part.goal = .forced

theorem forced_covers [Regex.Library] (valid : problem.Valid) (reached : Reached problem chart) (forced : chart.status node.goal = .forced)
    {kept : Node → Prop} (known : ∀ part, kept part → part ∈ chart.published part.goal)
    (given : ∀ part, kept part → ¬chart.Withheld problem node.goal part)
    (tree : Acyclic problem.grammar problem.text kept [] node) :
    (¬IsGreedy problem node.goal → node ∈ chart.published node.goal) ∧
    (IsGreedy problem node.goal → 0 < node.length → ∃ other ∈ chart.published node.goal, node.length ≤ other.length) := by
  obtain ⟨before,earlier,saturated,stuck,later⟩ := reached_forced reached forced
  have unforced : before.status node.goal ≠ .forced := by simp [stuck.1.2]
  have since : Later before chart := round_later.trans later
  have known_before : ∀ part, kept part → before.Closed part.goal → part ∈ before.published part.goal := by
    intro part part_kept closed
    rw [← (since.closed part.goal closed).2]
    exact known part part_kept
  have plain_before : ∀ part, kept part → part.goal ≠ node.goal →
      Relation.ReflTransGen (before.Waits problem) node.goal part.goal → ¬IsGreedy problem part.goal := by
    intro part part_kept different path greedy
    have still : chart.status part.goal = .forced := later.status_eq (stuck.reaches path).force_status (by decide)
    exact given part part_kept ⟨stuck.position_eq path,different,greedy,still⟩
  obtain ⟨place,walk,_,accepting,rfl⟩ := stuck_walk valid.wellFormed earlier saturated stuck known_before plain_before tree
    (List.mem_cons_self ..) .refl
  constructor
  · intro plain
    exact since.published _ (accepted_published earlier plain unforced walk accepting)
  · intro greedy long
    -- A walk that has moved on has ended by now, so the round has published for it.
    have moved : place.owner.position < place.position := Nat.sub_pos_iff_lt.mp long
    have ended := Stuck.ended valid earlier saturated stuck walk moved
    obtain ⟨other,longest,bound⟩ := ended_longest valid earlier greedy ended accepting
    exact ⟨other,later.published _ (mem_force_published.mpr (.inr ⟨stuck,greedy,longest⟩)),bound⟩

end Session.Chart

-- Forcing loses no node that has an acyclic tree over what was published in the end, with two
-- exceptions that both come of greedy goals: an empty node of a greedy goal that was forced, and a tree
-- with a part that a greedy goal gave away only when it was forced at the same position.
theorem acyclic_published [Regex.Library] (wellFormed : engine.grammar.WellFormed)
    (accepted : engine.problem document root range = .ok problem) (complete : Complete problem s)
    (found : engine.grammar.production? node.symbol = some production) {entry : Entry}
    (entered : s.entries[node.goal]? = some entry)
    (tree : Acyclic engine.grammar problem.text (fun part => part.length ∈ (s.outcome problem).lengthsOf part.goal ∧
      (entry.status = .forced → ¬s.chart.Withheld problem node.goal part)) [] node) :
    (production.greedy = false → node.length ∈ (s.outcome problem).lengthsOf node.goal) ∧
    (production.greedy = true → entry.status ≠ .forced ∨ 0 < node.length →
      ∃ length ∈ (s.outcome problem).lengthsOf node.goal, node.length ≤ length) := by
  have valid := Engine.problem_valid wellFormed accepted
  have reached := complete.reached valid
  rw [← (Engine.problem_ok accepted).1] at found tree
  obtain ⟨_,rfl⟩ := State.entered entered
  have isProduction : Chart.IsProduction problem node.goal := Chart.isProduction_of_some found
  have flag : problem.grammar.isGreedy node.goal.symbol = production.greedy := isGreedy_eq found
  have known : ∀ part : Node, part.length ∈ (s.outcome problem).lengthsOf part.goal ↔ part ∈ s.chart.published part.goal :=
    fun _ => complete.mem_lengthsOf valid
  have plain : production.greedy = false → ¬Chart.IsGreedy problem node.goal := by
    intro flat
    simp [Chart.IsGreedy,flag,flat]
  have longer : (∃ other ∈ s.chart.published node.goal, node.length ≤ other.length) →
      ∃ length ∈ (s.outcome problem).lengthsOf node.goal, node.length ≤ length := by
    rintro ⟨other,published,bound⟩
    have own := (Chart.reached_announced reached).goal_eq (Chart.reached_recorded reached) (Chart.reached_owned reached) published
    rw [← own] at published ⊢
    exact ⟨other.length,(known other).mpr published,bound⟩
  by_cases forced : s.chart.status node.goal = .forced
  · obtain ⟨kept,reaches⟩ := Chart.forced_covers valid reached forced (fun part part_kept => (known part).mp part_kept.1)
      (fun part part_kept => part_kept.2 forced) tree
    refine ⟨fun flat => (known node).mpr (kept (plain flat)),fun eager allowed => longer (reaches (flag.trans eager) ?_)⟩
    exact allowed.resolve_left (not_not.mpr forced)
  · obtain ⟨_,settled,_⟩ := complete.settled valid entered forced
    obtain ⟨kept,reaches⟩ := Chart.settled_covers valid reached (complete.saturated valid) settled isProduction
      (fun part part_kept => (known part).mp part_kept.1) tree
    exact ⟨fun flat => (known node).mpr (kept (plain flat)),fun eager _ => longer (reaches (flag.trans eager))⟩

theorem pairs_tree {greedy : Bool} (complete : Complete (pairProblem greedy) s) {condition : Prop} :
    Acyclic (pairs greedy) ['a','a'] (fun part => part.length ∈ (s.outcome (pairProblem greedy)).lengthsOf part.goal ∧
      (condition → ¬s.chart.Withheld (pairProblem greedy) ⟨0,1⟩ part)) [] (.of 0 1 1) := by
  have valid := pairProblem_valid greedy
  have saturated := complete.saturated valid
  have start : .first ⟨0,1⟩ ∈ s.chart.walks := saturated.begun _ (.first saturated.root rfl)
  have asked : ⟨0,0⟩ ∈ s.chart.asked := saturated.asked _ start _ (by cases greedy <;> decide)
  have letter := (complete.mem_lengthsOf valid).mpr (complete.matched_published valid asked rfl)
  refine .single (.of 0 0 1) rfl pairAutomaton_accepts.1 rfl rfl (by decide) ⟨letter,?_⟩ rfl
  rintro _ ⟨_,_,greedy_letter,_⟩
  cases greedy_letter

-- A single letter is kept by plain pairs, and greedy ones have something at least as long.
theorem pairs_kept : 1 ∈ ((State.run (pairProblem false)).outcome (pairProblem false)).lengthsOf ⟨0,1⟩ ∧
    ∃ length ∈ ((State.run (pairProblem true)).outcome (pairProblem true)).lengthsOf ⟨0,1⟩, 1 ≤ length := by
  have plain := run_complete (pairProblem_valid false)
  have plainEntry : (State.run (pairProblem false)).entries[(Node.of 0 1 1).goal]? = some _ :=
    State.entries_some (plain.root_asked (pairProblem_valid false))
  have greedy := run_complete (pairProblem_valid true)
  have greedyEntry : (State.run (pairProblem true)).entries[(Node.of 0 1 1).goal]? = some _ :=
    State.entries_some (greedy.root_asked (pairProblem_valid true))
  constructor
  · exact (acyclic_published (pairs_wellFormed false) (pairProblem_ok false) plain rfl plainEntry (pairs_tree plain)).1 rfl
  · exact (acyclic_published (pairs_wellFormed true) (pairProblem_ok true) greedy rfl greedyEntry (pairs_tree greedy)).2 rfl
      (.inr Nat.one_pos)

-- A node that has an acyclic tree over what was published in the end, although its goal publishes nothing.
structure Lost [Regex.Library] (problem : Problem) (node : Node) : Prop where
  production : Chart.IsProduction problem node.goal
  asked : ((State.run problem).outcome problem).wasAsked node.goal = true
  tree : Acyclic problem.grammar problem.text
    (fun part => part.length ∈ ((State.run problem).outcome problem).lengthsOf part.goal) [] node
  nothing : ((State.run problem).outcome problem).lengthsOf node.goal = []

-- A greedy list that begins with itself and may be empty.
def listAutomaton : Automaton := ⟨3,[0],[0,2],[[⟨1,[1]⟩],[⟨0,[2]⟩],[]]⟩

def lists : Engine := ⟨lettered "list" ⟨listAutomaton,true⟩,{}⟩

def listProblem : Problem := ⟨lists.grammar,[],.of 0 1 0⟩

theorem lists_wellFormed : lists.grammar.WellFormed := by
  have canonical : listAutomaton.WellFormed := by decide
  have known : ∀ id ∈ listAutomaton.symbols, id < 2 := by decide
  exact lettered_wellFormed canonical known

theorem listProblem_ok : lists.problem ⟨[]⟩ 1 none = .ok listProblem := rfl

theorem lists_starved : Chart.Starved listProblem ⟨0,1⟩ := by
  refine ⟨rfl,by decide,?_,?_⟩
  · intro other wanted
    obtain rfl : other = ⟨0,1⟩ := List.mem_singleton.mp wanted
    rfl
  · intro other wanted
    obtain rfl : other = ⟨0,1⟩ := List.mem_singleton.mp wanted
    exact wanted

theorem list_lost : Lost listProblem (.of 0 1 0) := by
  have valid := Engine.problem_valid lists_wellFormed listProblem_ok
  have complete := run_complete valid
  have tiles : Tiles 0 [] 0 := rfl
  have accepts : listAutomaton.Accepts [] := ⟨0,by decide,0,by decide,.nil 0⟩
  refine ⟨rfl,complete.wasAsked_root valid,.production rfl tiles accepts ?_ ?_ ?_,complete.lengthsOf_eq valid .nil fun length => ?_⟩
  · exact fun _ member => absurd member List.not_mem_nil
  · exact fun _ member => absurd member List.not_mem_nil
  · exact fun _ member => absurd member List.not_mem_nil
  · refine iff_of_false (fun published => ?_) List.not_mem_nil
    exact (lists_starved.published (complete.reached valid) published).1 rfl

-- A plain production that begins with a greedy one, which is a letter or that production again.
def tailAutomaton : Automaton := ⟨3,[0],[2],[[⟨3,[1]⟩],[⟨1,[2]⟩],[]]⟩

def headAutomaton : Automaton := ⟨3,[0],[1,2],[[⟨0,[1]⟩,⟨2,[2]⟩],[],[]]⟩

def circles : Engine := ⟨⟨[⟨"a",.terminal (.literal "a")⟩,⟨"b",.terminal (.literal "b")⟩,
  ⟨"tail",.production ⟨tailAutomaton,false⟩⟩,⟨"head",.production ⟨headAutomaton,true⟩⟩]⟩,{}⟩

def circleProblem : Problem := ⟨circles.grammar,['a','b'],.of 0 2 2⟩

theorem circles_wellFormed : circles.grammar.WellFormed := by
  have symbols : ∀ symbol ∈ circles.grammar.symbols, ∀ production, symbol.kind = .production production →
      production.automaton = tailAutomaton ∨ production.automaton = headAutomaton := by
    intro symbol member production kind
    obtain rfl | rfl | rfl | rfl : symbol = _ ∨ symbol = _ ∨ symbol = _ ∨ symbol = _ := by simpa [circles] using member
    · cases kind
    · cases kind
    · cases kind
      exact .inl rfl
    · cases kind
      exact .inr rfl
  refine ⟨by simp [circles],?_,?_⟩
  · intro symbol member production kind
    rcases symbols symbol member production kind with same | same
    · exact same ▸ (by decide : ∀ id ∈ tailAutomaton.symbols, id < 4)
    · exact same ▸ (by decide : ∀ id ∈ headAutomaton.symbols, id < 4)
  · intro symbol member production kind
    rcases symbols symbol member production kind with same | same
    · exact same ▸ (by decide : tailAutomaton.WellFormed)
    · exact same ▸ (by decide : headAutomaton.WellFormed)

theorem circleProblem_ok : circles.problem ⟨['a','b']⟩ 2 none = .ok circleProblem := rfl

theorem circles_starved : Chart.Starved circleProblem ⟨0,2⟩ := by
  refine ⟨rfl,by decide,?_,?_⟩
  · intro other wanted
    obtain rfl : other = ⟨0,3⟩ := List.mem_singleton.mp wanted
    rfl
  · intro other wanted
    obtain rfl : other = ⟨0,3⟩ := List.mem_singleton.mp wanted
    decide

theorem circles_nothing (reached : Chart.Reached circleProblem chart) : node ∉ chart.published ⟨0,2⟩ := by
  intro published
  exact absurd (circles_starved.published reached published).2.1 (by decide)

theorem headAutomaton_accepts : headAutomaton.Accepts [0] :=
  ⟨0,by decide,1,by decide,.cons ⟨⟨0,[1]⟩,by decide,rfl,by decide⟩ (.nil 1)⟩

-- The greedy goal can pass nothing but the letter: the plain one has nothing for it.
theorem circles_head (reached : Chart.Reached circleProblem chart) (published : node ∈ chart.published ⟨0,3⟩) :
    node = .of 0 3 1 := by
  have linked := Chart.reached_linked reached
  obtain ⟨derivation,kept,rfl⟩ := (Chart.reached_announced reached).recorded _ node published
  have isProduction : Chart.IsProduction circleProblem ⟨0,3⟩ := rfl
  obtain ⟨place,walk,owner,accepting,rfl⟩ := (Chart.reached_recorded reached).walk (Chart.reached_owned reached) isProduction kept
  rcases linked.extends_cases walk (owner ▸ Place.extends_first) with rfl | ⟨child,continues,behind⟩
  · exact absurd accepting (by decide)
  · obtain ⟨part,length⟩ := child
    have wanted : part ∈ [⟨0,0⟩,⟨0,2⟩] := continues.wanted
    have shown := continues.published
    obtain rfl | rfl : part = ⟨0,0⟩ ∨ part = ⟨0,2⟩ := by simpa using wanted
    · obtain rfl : length = 1 := by
        cases Chart.reached_sound circles_wellFormed reached _ _ shown with
        | terminal matched => exact (Option.some.inj matched).symm
        | production found => cases found
      rcases linked.extends_cases walk behind with rfl | ⟨more,further,_⟩
      · rfl
      · have last : (Place.extend (.first ⟨0,3⟩) ⟨⟨0,0⟩,1⟩).site circleProblem.grammar = [] := rfl
        exact absurd (last ▸ further.wanted) List.not_mem_nil
    · exact absurd shown (circles_nothing reached)

theorem circles_parts (complete : Complete circleProblem s) :
    .of 0 0 1 ∈ s.chart.published ⟨0,0⟩ ∧ .of 0 3 1 ∈ s.chart.published ⟨0,3⟩ ∧ .of 1 1 1 ∈ s.chart.published ⟨1,1⟩ := by
  have valid := Engine.problem_valid circles_wellFormed circleProblem_ok
  have reached := complete.reached valid
  have saturated := complete.saturated valid
  have start : .first ⟨0,2⟩ ∈ s.chart.walks := saturated.begun _ (.first saturated.root rfl)
  have asked : ⟨0,3⟩ ∈ s.chart.asked := saturated.asked _ start _ (by decide)
  have isProduction : Chart.IsProduction circleProblem ⟨0,3⟩ := rfl
  have inner : .first ⟨0,3⟩ ∈ s.chart.walks := saturated.begun _ (.first asked isProduction)
  have letter : .of 0 0 1 ∈ s.chart.published ⟨0,0⟩ :=
    complete.matched_published valid (saturated.asked _ inner _ (by decide)) rfl
  have forced : s.chart.status ⟨0,3⟩ = .forced :=
    Chart.mutual_forced reached circles_starved.isProduction isProduction (by decide) (by decide)
      (complete.closed valid saturated.root)
  have head : .of 0 3 1 ∈ s.chart.published ⟨0,3⟩ := by
    have tree : Acyclic circles.grammar ['a','b'] (· = .of 0 0 1) [] (.of 0 3 1) :=
      .single (.of 0 0 1) rfl headAutomaton_accepts rfl rfl (by decide) rfl rfl
    have given : ∀ part, part = .of 0 0 1 → ¬s.chart.Withheld circleProblem ⟨0,3⟩ part := by
      rintro _ rfl ⟨_,_,greedy,_⟩
      cases greedy
    obtain ⟨other,published,_⟩ := (Chart.forced_covers valid reached forced (by rintro _ rfl; exact letter) given tree).2 rfl Nat.one_pos
    exact circles_head reached published ▸ published
  have between : Place.extend (.first ⟨0,2⟩) (.of 0 3 1) ∈ s.chart.walks :=
    saturated.begun _ (.extend start ⟨by decide,head,by decide,by decide⟩)
  exact ⟨letter,head,complete.matched_published valid (saturated.asked _ between _ (by decide)) rfl⟩

theorem circle_lost : Lost circleProblem (.of 0 2 2) := by
  have valid := Engine.problem_valid circles_wellFormed circleProblem_ok
  have complete := run_complete valid
  obtain ⟨letter,head,last⟩ := circles_parts complete
  have tiles : Tiles 0 [.of 0 3 1,.of 1 1 1] 2 := ⟨rfl,rfl,rfl⟩
  have first : tailAutomaton.Moves 0 3 1 := ⟨⟨3,[1]⟩,by decide,rfl,by decide⟩
  have second : tailAutomaton.Moves 1 1 2 := ⟨⟨1,[2]⟩,by decide,rfl,by decide⟩
  have accepts : tailAutomaton.Accepts [3,1] := ⟨0,by decide,2,by decide,.cons first (.cons second (.nil 2))⟩
  have published : ∀ part, part ∈ (State.run circleProblem).chart.published part.goal →
      part.length ∈ ((State.run circleProblem).outcome circleProblem).lengthsOf part.goal :=
    fun _ => (complete.mem_lengthsOf valid).mpr
  refine ⟨rfl,complete.wasAsked_root valid,.production rfl tiles accepts (by decide) ?_ ?_,
    complete.lengthsOf_eq valid .nil fun length => ?_⟩
  · simp only [List.forall_mem_cons,List.not_mem_nil,false_imp_iff,implies_true,and_true]
    exact ⟨published _ head,published _ last⟩
  · simp only [List.forall_mem_cons,List.not_mem_nil,false_imp_iff,implies_true,and_true]
    exact ⟨.single (.of 0 0 1) rfl headAutomaton_accepts rfl rfl (by decide) (published _ letter) rfl,.terminal rfl⟩
  · exact iff_of_false (circles_nothing (complete.reached valid)) List.not_mem_nil

-- Neither exception can be left out: the empty list has a tree of one node, and the whole text has a
-- tree of published nodes for the plain goal, which was forced with the greedy goal that it needs.
theorem acyclic_lost : (lists.problem ⟨[]⟩ 1 none = .ok listProblem ∧ Lost listProblem (.of 0 1 0)) ∧
    circles.problem ⟨['a','b']⟩ 2 none = .ok circleProblem ∧ Lost circleProblem (.of 0 2 2) :=
  ⟨⟨listProblem_ok,list_lost⟩,circleProblem_ok,circle_lost⟩

end ParseForest
