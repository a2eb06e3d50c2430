import Mathlib
import ParseForest.Proofs.Chart.Greedy
import ParseForest.Proofs.Chart.Waiting
import ParseForest.Proofs.Derivations

namespace ParseForest

-- Children along which a production can be walked from one end of a node to the other, over what has
-- been published in the end.
structure Outcome.Spans (outcome : Outcome) (automaton : Automaton) (node : Node) (children : List Node) : Prop where
  tiles : Tiles node.position children node.stop
  published : ∀ child ∈ children, child.length ∈ outcome.lengthsOf child.goal
  guarded : Guarded automaton node.position children

open Session

variable {engine : Engine} {document : Text.Document} {root : SymbolId} {range : Option (Nat × Nat)} {problem : Problem}
  {s : State} {chart : Chart} {goal : Goal} {node : Node} {place : Place} {production : Production} {children : List Node} {length : Nat}

namespace Session.Complete

variable [Regex.Library]

variable (valid : problem.Valid) (complete : Complete problem s)

include valid complete

-- A goal that was not forced has come to its end by itself.
theorem settled {entry : Entry} (entered : s.entries[goal]? = some entry) (unforced : entry.status ≠ .forced) :
    goal ∈ s.chart.asked ∧ s.chart.status goal = .settled ∧ s.entryAt goal = entry := by
  obtain ⟨asked,same⟩ := State.entered entered
  have closed : s.chart.status goal ≠ .unsettled := complete.closed valid asked
  have free : s.chart.status goal ≠ .forced := by rwa [← same] at unforced
  refine ⟨asked,?_,same⟩
  cases status : s.chart.status goal with
  | unsettled => exact absurd status closed
  | settled => rfl
  | forced => exact absurd status free

section Runs

variable (asked : goal ∈ s.chart.asked) (found : problem.grammar.production? goal.symbol = some production)

include asked found

theorem spans_iff : (s.outcome problem).Spans production.automaton ⟨goal,length⟩ children ↔
    ∃ place ∈ s.chart.walks, place.owner = goal ∧ place.accepting problem.grammar = true ∧
      ⟨⟨goal,length⟩,children⟩ = place.derivation := by
  have runs : _ ↔ Tiles (Node.mk goal length).position children (Node.mk goal length).stop ∧ _ :=
    complete.run_iff valid (fun _ _ _ _ => (complete.mem_lengthsOf valid).symm) asked found
  rw [runs]
  constructor
  · rintro ⟨tiles,published,guarded⟩
    exact ⟨tiles,published,guarded⟩
  · rintro ⟨tiles,published,guarded⟩
    exact ⟨tiles,published,guarded⟩

-- No further walk may end behind a walk just where its children have no accepted continuation.
theorem maximal_iff (own : place.owner = goal) : s.chart.Maximal problem place ↔
    ∀ more ≠ [], ∀ length, ¬(s.outcome problem).Spans production.automaton ⟨goal,length⟩ (place.trail.reverse ++ more) := by
  constructor
  · intro maximal more some_more length spans
    obtain ⟨further,walk,owner,accepting,same⟩ := (complete.spans_iff valid asked found).mp spans
    have trail : further.trail.reverse = place.trail.reverse ++ more := (congrArg Derivation.children same).symm
    have longer : further.trail = more.reverse ++ place.trail := by
      rw [← List.reverse_reverse further.trail,trail,List.reverse_append,List.reverse_reverse]
    have equal := maximal further walk ⟨owner.trans own.symm,longer ▸ List.suffix_append _ _⟩ accepting
    rw [equal] at trail
    exact some_more (List.self_eq_append_right.mp trail)
  · intro none_further further walk extended accepting
    obtain ⟨more,trail⟩ := extended.2
    have owner : further.owner = goal := extended.1.trans own
    by_contra different
    have some_more : more.reverse ≠ [] := by
      intro empty
      rw [List.reverse_eq_nil_iff.mp empty,List.nil_append] at trail
      exact different (Place.ext extended.1 trail.symm)
    refine none_further more.reverse some_more (further.position - goal.position) ?_
    refine (complete.spans_iff valid asked found).mpr ⟨further,walk,owner,accepting,?_⟩
    rw [Place.derivation,owner,← trail,List.reverse_append]

variable (closed : s.chart.status goal = .settled)

include closed

omit asked in
theorem walk_ended (walk : place ∈ s.chart.walks) (own : place.owner = goal) : place ∈ s.chart.ended := by
  have reached := complete.reached valid
  subst own
  exact (Chart.reached_decided reached).walk_ended (Chart.reached_linked reached) closed
    (Chart.isProduction_of_some found) walk

theorem settled_plain (plain : ¬Chart.IsGreedy problem goal) :
    (∀ children, ⟨⟨goal,length⟩,children⟩ ∈ s.chart.derivations goal ↔
      (s.outcome problem).Spans production.automaton ⟨goal,length⟩ children) ∧
    (⟨goal,length⟩ ∈ s.chart.published goal ↔
      ∃ children, (s.outcome problem).Spans production.automaton ⟨goal,length⟩ children) := by
  have reached := complete.reached valid
  have announced := Chart.reached_announced reached
  have recorded : ∀ children, ⟨⟨goal,length⟩,children⟩ ∈ s.chart.derivations goal ↔
      (s.outcome problem).Spans production.automaton ⟨goal,length⟩ children := by
    intro children
    rw [complete.spans_iff valid asked found]
    exact (Chart.reached_recorded reached).plain goal (Chart.isProduction_of_some found) plain _
  refine ⟨recorded,?_⟩
  constructor
  · intro published
    obtain ⟨⟨node,children⟩,member,rfl⟩ := announced.recorded goal _ published
    exact ⟨children,(recorded children).mp member⟩
  · rintro ⟨children,spans⟩
    exact announced.plain goal plain (by simp [closed]) _ ((recorded children).mpr spans)

theorem settled_derivations (greedy : Chart.IsGreedy problem goal) : ⟨⟨goal,length⟩,children⟩ ∈ s.chart.derivations goal ↔
    (s.outcome problem).Spans production.automaton ⟨goal,length⟩ children ∧
      ∀ more ≠ [], ∀ longer, ¬(s.outcome problem).Spans production.automaton ⟨goal,longer⟩ (children ++ more) := by
  rw [(Chart.reached_recorded (complete.reached valid)).greedy goal greedy]
  constructor
  · rintro ⟨place,ended,own,accepting,maximal,same⟩
    have walk := (Chart.reached_owned (complete.reached valid)).ended ended
    have children_eq : children = place.trail.reverse := congrArg Derivation.children same
    refine ⟨(complete.spans_iff valid asked found).mpr ⟨place,walk,own,accepting,same⟩,?_⟩
    rw [children_eq]
    exact (complete.maximal_iff valid asked found own).mp maximal
  · rintro ⟨spans,most⟩
    obtain ⟨place,walk,own,accepting,same⟩ := (complete.spans_iff valid asked found).mp spans
    have children_eq : children = place.trail.reverse := congrArg Derivation.children same
    refine ⟨place,complete.walk_ended valid found closed walk own,own,accepting,?_,same⟩
    refine (complete.maximal_iff valid asked found own).mpr ?_
    rwa [← children_eq]

-- Where there is a run at all, the longest recorded is the longest there is: a run that cannot go on
-- stands behind each.
theorem settled_longest (greedy : Chart.IsGreedy problem goal)
    (spans : (s.outcome problem).Spans production.automaton ⟨goal,length⟩ children) :
    ∃ longest, s.chart.Longest goal ⟨goal,longest⟩ ∧
      IsGreatest {length | ∃ children, (s.outcome problem).Spans production.automaton ⟨goal,length⟩ children} longest := by
  have reached := complete.reached valid
  have reaches : ∀ length, (∃ children, (s.outcome problem).Spans production.automaton ⟨goal,length⟩ children) →
      ∃ node, s.chart.Longest goal node ∧ length ≤ node.length := by
    rintro length ⟨children,spans⟩
    obtain ⟨place,walk,own,accepting,same⟩ := (complete.spans_iff valid asked found).mp spans
    have ended := complete.walk_ended valid found closed walk own
    have far := Chart.ended_longest valid reached (own ▸ greedy) ended accepting
    rwa [own,← same] at far
  obtain ⟨node,longest,_⟩ := reaches length ⟨children,spans⟩
  obtain ⟨⟨node,children⟩,member,rfl⟩ := longest.1
  have own : node.goal = goal := (Chart.reached_recorded reached).goal_eq (Chart.reached_owned reached) member
  obtain ⟨_,longest_length⟩ := node
  obtain rfl := own
  refine ⟨longest_length,longest,⟨children,?_⟩,?_⟩
  · exact ((complete.settled_derivations valid asked found closed greedy).mp member).1
  · intro other runs
    obtain ⟨best,most,bound⟩ := reaches other runs
    exact bound.trans (most.length_eq longest).le

end Runs

end Session.Complete

-- A goal that came to its end by itself satisfies its equation: a plain one publishes every run over
-- what was published in the end, and a greedy one the longest of them, with its runs that cannot go on.
theorem settled_fixpoint [Regex.Library] (wellFormed : engine.grammar.WellFormed)
    (accepted : engine.problem document root range = .ok problem) (complete : Complete problem s)
    (found : engine.grammar.production? goal.symbol = some production) {entry : Entry}
    (entered : s.entries[goal]? = some entry) (unforced : entry.status ≠ .forced) :
    (production.greedy = false → ∀ length,
      (length ∈ (s.outcome problem).lengthsOf goal ↔
        ∃ children, (s.outcome problem).Spans production.automaton ⟨goal,length⟩ children) ∧
      ∀ children, ⟨⟨goal,length⟩,children⟩ ∈ entry.derivations ↔
        (s.outcome problem).Spans production.automaton ⟨goal,length⟩ children) ∧
    (production.greedy = true →
      ((∀ length children, ¬(s.outcome problem).Spans production.automaton ⟨goal,length⟩ children) →
        (s.outcome problem).lengthsOf goal = []) ∧
      ∀ length children, (s.outcome problem).Spans production.automaton ⟨goal,length⟩ children →
        ∃ longest, (s.outcome problem).lengthsOf goal = [longest] ∧
          IsGreatest {length | ∃ children, (s.outcome problem).Spans production.automaton ⟨goal,length⟩ children} longest ∧
          ∀ children, ⟨⟨goal,longest⟩,children⟩ ∈ entry.derivations ↔
            (s.outcome problem).Spans production.automaton ⟨goal,longest⟩ children ∧
              ∀ more ≠ [], ∀ longer, ¬(s.outcome problem).Spans production.automaton ⟨goal,longer⟩ (children ++ more)) := by
  have valid := Engine.problem_valid wellFormed accepted
  rw [← (Engine.problem_ok accepted).1] at found
  have reached := complete.reached valid
  have announced := Chart.reached_announced reached
  obtain ⟨asked,closed,rfl⟩ := complete.settled valid entered unforced
  have flag := isGreedy_eq found
  constructor
  · intro flat length
    have plain : ¬Chart.IsGreedy problem goal := by simp [Chart.IsGreedy,flag,flat]
    obtain ⟨recorded,published⟩ := complete.settled_plain valid asked found closed plain
    exact ⟨(complete.mem_lengthsOf valid).trans published,recorded⟩
  · intro eager
    have greedy : Chart.IsGreedy problem goal := flag.trans eager
    have published := announced.greedy_settled goal greedy closed
    constructor
    · intro none_at_all
      refine complete.lengthsOf_eq valid .nil fun length => ?_
      rw [published,List.mem_nil_iff,iff_false]
      rintro ⟨⟨⟨node,children⟩,member,rfl⟩,_⟩
      exact none_at_all _ _ ((complete.settled_derivations valid asked found closed greedy).mp member).1
    · intro length children spans
      obtain ⟨longest,most,greatest⟩ := complete.settled_longest valid asked found closed greedy spans
      refine ⟨longest,complete.lengthsOf_eq valid (List.pairwise_singleton _ _) fun other => ?_,greatest,?_⟩
      · rw [published,List.mem_singleton]
        constructor
        · exact fun also => also.length_eq most
        · rintro rfl
          exact most
      · exact fun _ => complete.settled_derivations valid asked found closed greedy

-- A grammar of greedy words. It asks for letters only, so nothing in it is ever forced.
def wordAutomaton : Automaton := ⟨2,[0],[1],[[⟨0,[1]⟩],[⟨0,[1]⟩]]⟩

def words : Engine := ⟨lettered "word" ⟨wordAutomaton,true⟩,{}⟩

def wordProblem : Problem := ⟨words.grammar,['a','a'],.of 0 1 2⟩

theorem words_wellFormed : words.grammar.WellFormed := by
  have canonical : wordAutomaton.WellFormed := by decide
  have known : ∀ id ∈ wordAutomaton.symbols, id < 2 := by decide
  exact lettered_wellFormed canonical known

theorem wordProblem_ok : words.problem twoLetters 1 none = .ok wordProblem := rfl

theorem wordProblem_valid : wordProblem.Valid := Engine.problem_valid words_wellFormed wordProblem_ok

theorem words_unforced (reached : Chart.Reached wordProblem chart) : chart.status ⟨0,1⟩ ≠ .forced := by
  intro forced
  obtain ⟨place,_,owner,other,wanted,production⟩ := Chart.forced_asks wordProblem_valid reached forced
  have symbol := (Place.mem_site.mp wanted).2
  rw [owner] at symbol
  have letter : other.symbol ∈ wordAutomaton.symbols := Automaton.outgoing_mem_symbols symbol
  obtain ⟨position,id⟩ := other
  obtain rfl : id = 0 := by simpa [wordAutomaton,Automaton.symbols] using letter
  cases production

theorem words_walked (complete : Complete wordProblem s) : ⟨⟨0,1⟩,[.of 1 0 1,.of 0 0 1]⟩ ∈ s.chart.walks := by
  have saturated := complete.saturated wordProblem_valid
  have start : .first ⟨0,1⟩ ∈ s.chart.walks := saturated.begun _ (.first saturated.root rfl)
  have first : .of 0 0 1 ∈ s.chart.published ⟨0,0⟩ :=
    complete.matched_published wordProblem_valid (saturated.asked _ start _ (by decide)) rfl
  have between : Place.extend (.first ⟨0,1⟩) (.of 0 0 1) ∈ s.chart.walks :=
    saturated.begun _ (.extend start ⟨by decide,first,by decide,by decide⟩)
  have second : .of 1 0 1 ∈ s.chart.published ⟨1,0⟩ :=
    complete.matched_published wordProblem_valid (saturated.asked _ between _ (by decide)) rfl
  exact saturated.begun _ (.extend between ⟨by decide,second,by decide,by decide⟩)

-- A greedy word takes both letters, and nothing shorter is published.
theorem words_longest : ((State.run wordProblem).outcome wordProblem).lengthsOf ⟨0,1⟩ = [2] := by
  have complete := run_complete wordProblem_valid
  have reached := complete.reached wordProblem_valid
  have asked : ⟨0,1⟩ ∈ (State.run wordProblem).chart.asked := complete.root_asked wordProblem_valid
  have spans : ((State.run wordProblem).outcome wordProblem).Spans wordAutomaton ⟨⟨0,1⟩,2⟩ [.of 0 0 1,.of 1 0 1] :=
    (complete.spans_iff wordProblem_valid asked rfl).mpr ⟨_,words_walked complete,rfl,by decide,rfl⟩
  obtain ⟨longest,only,greatest,_⟩ := ((settled_fixpoint words_wellFormed wordProblem_ok complete rfl
    (State.entries_some asked) (words_unforced reached)).2 rfl).2 2 _ spans
  have published := (complete.mem_lengthsOf wordProblem_valid).mp (only ▸ List.mem_singleton_self longest)
  have most : 0 + longest ≤ 2 := (Chart.reached_within wordProblem_valid reached).published _ _ published
  have least : 2 ≤ longest := greatest.2 ⟨_,spans⟩
  obtain rfl : longest = 2 := by omega
  exact only

end ParseForest
