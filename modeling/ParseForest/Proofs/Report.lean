import Mathlib
import ParseForest.Proofs.Document
import ParseForest.Proofs.Report.Deepest
import ParseForest.Proofs.Safety
import ParseForest.Proofs.Soundness
import ParseForest.Proofs.Suspects

namespace ParseForest

section Frontier

variable {suspects : List Suspect} {position : Nat}

-- The positions of the suspects that are not bypassed.
def blamedAt (suspects : List Suspect) : Set Nat := {position | ∃ goal : Goal, ⟨goal,false⟩ ∈ suspects ∧ goal.position = position}

theorem mem_blamedAt : position ∈ (suspects.filter (!·.bypassed)).map (·.goal.position) ↔ position ∈ blamedAt suspects := by
  rw [List.mem_map]
  constructor
  · rintro ⟨⟨goal,bypassed⟩,member,rfl⟩
    obtain ⟨listed,flag⟩ := List.mem_filter.mp member
    obtain rfl : bypassed = false := by simpa using flag
    exact ⟨goal,listed,rfl⟩
  · rintro ⟨goal,listed,rfl⟩
    exact ⟨⟨goal,false⟩,List.mem_filter.mpr ⟨listed,rfl⟩,rfl⟩

theorem frontier_none (none_left : frontier? suspects = none) (goal : Goal) : ⟨goal,false⟩ ∉ suspects := by
  intro listed
  have member : goal.position ∈ (suspects.filter (!·.bypassed)).map (·.goal.position) := mem_blamedAt.mpr ⟨goal,listed,rfl⟩
  rw [List.max?_eq_none_iff.mp none_left] at member
  cases member

theorem frontier_some (found : frontier? suspects = some position) : IsGreatest (blamedAt suspects) position := by
  obtain ⟨member,greatest⟩ := List.max?_eq_some_iff.mp found
  exact ⟨mem_blamedAt.mp member,fun other listed => greatest other (mem_blamedAt.mpr listed)⟩

-- The symbols of the suspects at a position that are not bypassed.
def symbolsAt (suspects : List Suspect) (position : Nat) : List SymbolId :=
  (suspects.filter fun suspect => !suspect.bypassed && suspect.goal.position == position).map (·.goal.symbol)

theorem mem_symbolsAt {id : SymbolId} : id ∈ symbolsAt suspects position ↔ ⟨⟨position,id⟩,false⟩ ∈ suspects := by
  rw [symbolsAt,List.mem_map]
  constructor
  · rintro ⟨⟨⟨place,symbol⟩,bypassed⟩,member,rfl⟩
    obtain ⟨listed,flags⟩ := List.mem_filter.mp member
    obtain ⟨rfl,rfl⟩ : bypassed = false ∧ place = position := by simpa using flags
    exact listed
  · intro listed
    exact ⟨_,List.mem_filter.mpr ⟨listed,by simp⟩,rfl⟩

-- At one position suspects of one kind are in the order of their symbols.
theorem symbolsAt_ascending (ordered : suspects.Pairwise Suspect.Before) : Sorted.Ascending (symbolsAt suspects position) := by
  refine List.pairwise_map.mpr ((ordered.filter _).imp_of_mem ?_)
  intro one two first second before
  obtain ⟨flagOne,placeOne⟩ : one.bypassed = false ∧ one.goal.position = position := by simpa using (List.mem_filter.mp first).2
  obtain ⟨flagTwo,placeTwo⟩ : two.bypassed = false ∧ two.goal.position = position := by simpa using (List.mem_filter.mp second).2
  rcases before with ⟨_,flag⟩ | ⟨_,further | ⟨_,less⟩⟩
  · rw [flagTwo] at flag
    cases flag
  · omega
  · exact less

end Frontier

namespace Report

variable {report : Report} {document : Text.Document} {offset : Nat}

theorem deepest_leaf (message : String) (span : Text.Span) : (leaf message span).deepest = span := by
  simp [leaf,deepest,deepestOf]

-- A rendered report shows an offset: it names its line and column, and under the text of that line the caret stands
-- at the column. A document that can be held leaves room for the blanks before the caret.
def PointsAt (report : Report) (document : Text.Document) (offset : Nat) : Prop :=
  ∃ here text, Text.Locates document offset here text ∧
    (document.length < Limits.bytes → report.render? document = some (report.render document)) ∧ report.render document =
    "Error at line " ++ toString here.line ++ ", column " ++ toString here.column ++ ":\n" ++ String.ofList text ++ "\n" ++
      String.ofList (List.replicate (here.column - 1) ' ') ++ "^\n" ++ report.tree

theorem pointsAt (inside : offset ≤ document.length) (start : report.deepest.start = document.position offset) :
    report.PointsAt document offset := by
  have located := Text.locates document offset
  have same : (document.position offset).offset = offset := located.clamped.trans (Nat.min_eq_left inside)
  refine ⟨_,_,located,?_,?_⟩
  · intro small
    obtain ⟨earlier,passed,parts,_,_,column⟩ := located.measured
    have most : passed.length ≤ document.length := by
      have counted := congrArg List.length parts
      rw [List.length_take,List.length_append] at counted
      unfold Text.Document.length
      omega
    rw [render?,start,column,if_pos (by omega)]
  · rw [render,start,same,Text.Position.describe,String.ofList_toList]
    simp only [← String.append_assoc]
    rfl

-- Below a span that starts no later, the spans of the children decide, and at the same place it makes no difference.
theorem deepest_start {message : String} {start stop frontier : Nat} {children : List Report} (some_child : children ≠ [])
    (each : ∀ child ∈ children, child.deepest = .of document frontier frontier) (behind : start ≤ frontier)
    (inside : frontier ≤ document.length) :
    (node message (.of document start stop) none children).deepest.start = document.position frontier := by
  have offsets : ∀ offset ≤ document.length, (document.position offset).offset = offset :=
    fun offset most => (Text.locates document offset).clamped.trans (Nat.min_eq_left most)
  rcases deepest_cases (node message (.of document start stop) none children) with ⟨own,most⟩ | ⟨before,child,after,decides,_,taken⟩
  · obtain ⟨child,listed⟩ := List.exists_mem_of_ne_nil _ some_child
    have reached := most child listed
    rw [each child listed] at reached
    simp only [span,Text.Span.of,offsets frontier inside,offsets start (behind.trans inside)] at reached
    obtain rfl : start = frontier := Nat.le_antisymm behind reached
    rw [own]
    rfl
  · rw [taken,each child decides.listed]
    rfl

end Report

section Failure

variable {grammar : Grammar} {document : Text.Document} {root : Node} {suspects : List Suspect} {frontier : Nat}

theorem failureReport_none (found : frontier? suspects = none) :
    (failureReport grammar document root suspects).children = [] ∧
      (failureReport grammar document root suspects).deepest.start = document.position root.position := by
  rw [failureReport,found]
  exact ⟨rfl,by simp [Report.deepest,Report.deepestOf,Text.Span.of]⟩

theorem failureReport_children (found : frontier? suspects = some frontier) :
    (failureReport grammar document root suspects).children = (symbolsAt suspects frontier).map
      fun id => .expected (grammar.name id) (.of document frontier frontier) := by
  rw [failureReport,found,symbolsAt,List.map_map]
  rfl

theorem failureReport_some (found : frontier? suspects = some frontier) (behind : root.position ≤ frontier)
    (inside : frontier ≤ document.length) :
    (failureReport grammar document root suspects).children ≠ [] ∧
      (failureReport grammar document root suspects).deepest.start = document.position frontier := by
  have children := @failureReport_children grammar document root _ _ found
  have some_child : (failureReport grammar document root suspects).children ≠ [] := by
    obtain ⟨goal,listed,rfl⟩ := (frontier_some found).1
    rw [children,Ne,List.map_eq_nil_iff]
    exact List.ne_nil_of_mem (mem_symbolsAt.mpr listed)
  have each : ∀ child ∈ (failureReport grammar document root suspects).children, child.deepest = .of document frontier frontier := by
    intro child member
    rw [children] at member
    obtain ⟨id,_,rfl⟩ := List.mem_map.mp member
    exact Report.deepest_leaf _ _
  exact ⟨some_child,Report.deepest_start some_child each behind inside⟩

end Failure

namespace Session

variable {problem : Problem} {s : State}

-- A goal to blame for a failure: it was asked for in vain, and it is the root, or some walk found nothing of what it
-- asked for together with it.
structure Blamed (problem : Problem) (s : State) (goal : Goal) : Prop where
  asked : (s.outcome problem).wasAsked goal = true
  missed : (s.outcome problem).lengthsOf goal = []
  charged : goal = problem.root.goal ∨ ∃ walk ∈ s.walks, goal ∈ walk.site problem.grammar ∧
    ∀ other ∈ walk.site problem.grammar, (s.outcome problem).lengthsOf other = []

namespace Complete

variable [Regex.Library]

variable (valid : problem.Valid) (complete : Complete problem s)

include valid complete

theorem blamed_iff {goal : Goal} : ⟨goal,false⟩ ∈ (s.outcome problem).suspects ↔ Blamed problem s goal := by
  have ranking := complete.suspects_ranking valid
  constructor
  · intro listed
    obtain ⟨asked,missed⟩ := (ranking.listed goal).mp (List.mem_map_of_mem listed)
    exact ⟨asked,missed,(ranking.flagged _ listed).mp rfl⟩
  · rintro ⟨asked,missed,charged⟩
    obtain ⟨⟨_,bypassed⟩,listed,rfl⟩ := List.mem_map.mp ((ranking.listed goal).mpr ⟨asked,missed⟩)
    obtain rfl : bypassed = false := (ranking.flagged _ listed).mpr charged
    exact listed

theorem blamed_of_walk {place : Place} {goal : Goal} (walked : place ∈ s.chart.walks) (wanted : goal ∈ place.site problem.grammar)
    (missed : ∀ other ∈ place.site problem.grammar, (s.outcome problem).lengthsOf other = []) : Blamed problem s goal := by
  have coherent := complete.coherent valid
  have asked := (complete.saturated valid).asked place walked goal wanted
  refine ⟨(State.outcome_wasAsked coherent.good.books).mpr asked,missed goal wanted,.inr ?_⟩
  obtain ⟨walk,begun,rfl⟩ := walked
  rw [coherent.walk_site (Array.mem_toList_iff.mpr begun)] at wanted missed
  exact ⟨walk,begun,wanted,missed⟩

theorem blamed_inside {goal : Goal} (blamed : Blamed problem s goal) :
    problem.root.position ≤ goal.position ∧ goal.position ≤ problem.root.stop := by
  have coherent := complete.coherent valid
  have asked := (State.outcome_wasAsked coherent.good.books).mp blamed.asked
  exact (coherent.goal_inside valid ((coherent.good.books.listed goal).mpr asked)).2

-- There is no report when the root has a derivation.
theorem report_none {grammar : Grammar} {document : Text.Document} : (s.outcome problem).report? grammar document = none ↔
    ∃ derivations, (s.outcome problem).forest.derivations? problem.root = some derivations ∧ derivations ≠ [] := by
  have empty := complete.forest_isEmpty valid
  unfold Outcome.report?
  constructor
  · intro unreported
    split at unreported
    · cases unreported
    · rename_i some_node
      have published := empty.mp (Bool.eq_false_iff.mpr some_node)
      obtain ⟨derivations,listed⟩ := complete.root_listed valid published
      obtain ⟨derivation,recorded,same⟩ := (Chart.reached_announced (complete.reached valid)).recorded _ _ published
      exact ⟨derivations,listed,List.ne_nil_of_mem ((complete.mem_listed valid listed).mpr ⟨recorded,same⟩)⟩
  · rintro ⟨derivations,listed,_⟩
    rw [empty.mpr (complete.listed_iff valid listed).1]
    rfl

variable {grammar : Grammar} {document : Text.Document} (held : problem.root.stop ≤ document.length)

include held

-- Without a goal to blame there is nothing to expect, and the report points at the beginning of the range.
theorem report_blameless (found : frontier? (s.outcome problem).suspects = none) :
    let report := failureReport grammar document problem.root (s.outcome problem).suspects
    (∀ goal, ¬Blamed problem s goal) ∧ report.children = [] ∧ report.PointsAt document problem.root.position := by
  intro report
  obtain ⟨children,deepest⟩ := @failureReport_none grammar document problem.root _ found
  refine ⟨fun goal blamed => ?_,children,Report.pointsAt ((Nat.le_add_right _ _).trans held) deepest⟩
  exact frontier_none found goal ((complete.blamed_iff valid).mpr blamed)

theorem report_expects {frontier : Nat} (found : frontier? (s.outcome problem).suspects = some frontier) :
    let report := failureReport grammar document problem.root (s.outcome problem).suspects
    IsGreatest {position | ∃ goal, Blamed problem s goal ∧ goal.position = position} frontier ∧
      (problem.root.position ≤ frontier ∧ frontier ≤ problem.root.stop) ∧ report.children ≠ [] ∧ report.PointsAt document frontier := by
  intro report
  have greatest := frontier_some found
  simp only [blamedAt,complete.blamed_iff valid] at greatest
  obtain ⟨goal,blamed,rfl⟩ := greatest.1
  have within := complete.blamed_inside valid blamed
  obtain ⟨some_child,deepest⟩ := @failureReport_some grammar _ _ _ _ found within.1 (within.2.trans held)
  exact ⟨greatest,within,some_child,Report.pointsAt (within.2.trans held) deepest⟩

end Complete

end Session

open Session

theorem Outcome.report_some {outcome : Outcome} {grammar : Grammar} {document : Text.Document} {report : Report}
    (reported : outcome.report? grammar document = some report) :
    report = failureReport grammar document outcome.forest.root outcome.suspects := by
  unfold Outcome.report? at reported
  split at reported
  · exact (Option.some.inj reported).symm
  · cases reported

variable {engine : Engine} {document : Text.Document} {root : SymbolId} {range : Option (Nat × Nat)} {problem : Problem}
  {s : State} {start length : Nat}

-- A parse is reported as failed when its root has no derivation, and the report points at the furthest position at which
-- a goal is to blame. There it expects the symbols of all such goals, in ascending order. Without one it points at the
-- beginning of the range. Whenever nothing at all was found for the root, something is expected.
theorem report_at_frontier [Regex.Library] (wellFormed : engine.grammar.WellFormed)
    (accepted : engine.problem document root range = .ok problem)
    (bounds : range.getD (0,document.length) = (start,length)) (complete : Complete problem s) :
    engine.parse document root range = .ok (s.outcome problem) ∧
    (∀ goal, ⟨goal,false⟩ ∈ (s.outcome problem).suspects ↔ Blamed problem s goal) ∧
    ((s.outcome problem).report? engine.grammar document = none ↔
      ∃ derivations, (s.outcome problem).forest.derivations? problem.root = some derivations ∧ derivations ≠ []) ∧
    ∀ report, (s.outcome problem).report? engine.grammar document = some report →
      ((s.outcome problem).lengthsOf problem.root.goal = [] → report.children ≠ []) ∧
      (((∀ goal, ¬Blamed problem s goal) ∧ report.children = [] ∧ report.PointsAt document start) ∨
        ∃ frontier symbols, IsGreatest {position | ∃ goal, Blamed problem s goal ∧ goal.position = position} frontier ∧
          (start ≤ frontier ∧ frontier ≤ start + length) ∧
          Sorted.Ascending symbols ∧ (∀ id, id ∈ symbols ↔ Blamed problem s ⟨frontier,id⟩) ∧
          report.children = symbols.map (fun id => .expected (engine.grammar.name id) (.of document frontier frontier)) ∧
          report.PointsAt document frontier) := by
  have valid := Engine.problem_valid wellFormed accepted
  obtain ⟨_,_,first,extent,same,held,_,node⟩ := Engine.problem_ok accepted
  cases bounds.symm.trans same
  have position : problem.root.position = start := by rw [node]; rfl
  have stop : problem.root.stop = start + length := by rw [node]; rfl
  rw [← stop] at held ⊢
  rw [← position]
  refine ⟨?_,fun _ => complete.blamed_iff valid,complete.report_none valid,?_⟩
  · rw [Engine.parse_eq accepted,(run_complete valid).outcome_unique valid complete]
  · intro report reported
    cases Outcome.report_some reported
    cases found : frontier? (s.outcome problem).suspects with
    | none =>
      obtain ⟨blameless,nothing,points⟩ := @Complete.report_blameless _ _ _ valid complete engine.grammar _ held found
      refine ⟨fun missed => ?_,.inl ⟨blameless,nothing,points⟩⟩
      exact absurd ⟨complete.wasAsked_root valid,missed,.inl rfl⟩ (blameless problem.root.goal)
    | some frontier =>
      obtain ⟨greatest,within,something,points⟩ := @Complete.report_expects _ _ _ valid complete engine.grammar _ held _ found
      refine ⟨fun _ => something,.inr ⟨frontier,symbolsAt (s.outcome problem).suspects frontier,greatest,within,?_,?_,?_,points⟩⟩
      · exact symbolsAt_ascending (complete.suspects_ranking valid).ordered
      · exact fun id => mem_symbolsAt.trans (complete.blamed_iff valid)
      · exact failureReport_children found

-- A couple of letters, and a line that has only one. Behind that one a second is expected.
def coupleAutomaton : Automaton := ⟨3,[0],[2],[[⟨0,[1]⟩],[⟨0,[2]⟩],[]]⟩

def couples : Engine := ⟨lettered "couple" ⟨coupleAutomaton,false⟩,{}⟩

def twoLines : Text.Document := ⟨['a','\n','a']⟩

def coupleProblem : Problem := ⟨couples.grammar,['a','\n','a'],.of 2 1 1⟩

theorem couples_wellFormed : couples.grammar.WellFormed := by
  have canonical : coupleAutomaton.WellFormed := by decide
  have known : ∀ id ∈ coupleAutomaton.symbols, id < 2 := by decide
  exact lettered_wellFormed canonical known

theorem coupleProblem_ok : couples.problem twoLines 1 (some (2,1)) = .ok coupleProblem := rfl

theorem coupleProblem_valid : coupleProblem.Valid := Engine.problem_valid couples_wellFormed coupleProblem_ok

theorem coupleAutomaton_path {source target : StateId} {word : List SymbolId} (path : coupleAutomaton.Path source word target) :
    word = List.replicate word.length 0 ∧ target = source + word.length := by
  induction path with
  | nil state => exact ⟨rfl,rfl⟩
  | @cons source middle target symbol rest move _ ih =>
    obtain ⟨edge,listed,rfl,reached⟩ := move
    obtain ⟨letters,counted⟩ := ih
    have step : edge.symbol = 0 ∧ middle = source + 1 := by
      match source with
      | 0 | 1 =>
        obtain rfl := List.mem_singleton.mp listed
        exact ⟨rfl,List.mem_singleton.mp reached⟩
      | 2 => cases listed
      | _ + 3 => cases listed
    rw [List.length_cons,List.replicate_succ,← letters,step.1]
    exact ⟨rfl,by rw [counted,step.2,Nat.add_assoc,Nat.add_comm 1]⟩

theorem couples_letter {node : Node} {text : List Char} (derives : Derives couples.grammar text node) (letter : node.symbol = 0) :
    couples.grammar.terminalMatch? 0 text node.position = some node.length := by
  cases derives with
  | terminal matched => rwa [letter] at matched
  | production found =>
    rw [letter] at found
    cases found

-- Its second letter would have to stand behind the end.
theorem couples_underived : ¬Derives couples.grammar coupleProblem.text coupleProblem.root := by
  intro derives
  cases derives with
  | terminal matched => cases matched
  | @production _ _ children found tiles accepted parts =>
    cases found
    obtain ⟨source,start,target,accept,path⟩ := accepted
    obtain ⟨letters,counted⟩ := coupleAutomaton_path path
    obtain rfl := List.mem_singleton.mp start
    obtain rfl := List.mem_singleton.mp accept
    rw [List.length_map] at letters counted
    match children with
    | [] | [_] | _ :: _ :: _ :: _ => simp at counted
    | [first,second] =>
      obtain ⟨position,behind,_⟩ := tiles
      obtain ⟨one,two⟩ : first.symbol = 0 ∧ second.symbol = 0 := by simpa using letters
      have matched := couples_letter (parts first (by simp)) one
      rw [position] at matched
      have length : first.length = 1 := (Option.some.inj matched).symm
      have place : second.position = 3 := by
        rw [behind,Node.stop,length]
        exact congrArg (· + 1) position
      have missing := couples_letter (parts second (by simp)) two
      rw [place] at missing
      cases missing

theorem couples_blamed (complete : Complete coupleProblem s) : Blamed coupleProblem s ⟨3,0⟩ := by
  have saturated := complete.saturated coupleProblem_valid
  have start : .first ⟨2,1⟩ ∈ s.chart.walks := saturated.begun _ (.first saturated.root rfl)
  have first : .of 2 0 1 ∈ s.chart.published ⟨2,0⟩ :=
    complete.matched_published coupleProblem_valid (saturated.asked _ start _ (by decide)) rfl
  have behind : Place.extend (.first ⟨2,1⟩) (.of 2 0 1) ∈ s.chart.walks :=
    saturated.begun _ (.extend start ⟨by decide,first,by decide,by decide⟩)
  have missed : (s.outcome coupleProblem).lengthsOf ⟨3,0⟩ = [] := by
    apply complete.lengthsOf_eq coupleProblem_valid .nil
    intro length
    rw [List.mem_nil_iff,iff_false]
    intro published
    cases couples_letter (Chart.reached_sound couples_wellFormed (complete.reached coupleProblem_valid) _ _ published) rfl
  refine complete.blamed_of_walk coupleProblem_valid behind (by decide) ?_
  intro other wanted
  have site : (Place.extend (.first ⟨2,1⟩) (.of 2 0 1)).site coupleProblem.grammar = [⟨3,0⟩] := by decide
  rw [site] at wanted
  rw [List.mem_singleton.mp wanted,missed]

theorem couples_reported : ∃ report, ((State.run coupleProblem).outcome coupleProblem).report? couples.grammar twoLines = some report ∧
    report.children ≠ [] ∧ report.PointsAt twoLines 3 := by
  have complete := run_complete coupleProblem_valid
  have blamed := couples_blamed complete
  obtain ⟨_,_,unreported,reports⟩ := report_at_frontier couples_wellFormed coupleProblem_ok rfl complete
  cases reported : ((State.run coupleProblem).outcome coupleProblem).report? couples.grammar twoLines with
  | none =>
    obtain ⟨derivations,listed,_⟩ := unreported.mp reported
    have published := (complete.listed_iff coupleProblem_valid listed).1
    exact absurd (Chart.reached_sound couples_wellFormed (complete.reached coupleProblem_valid) _ _ published) couples_underived
  | some report =>
    rcases (reports report reported).2 with ⟨blameless,_⟩ | ⟨frontier,symbols,greatest,within,_,expected,children,points⟩
    · exact absurd blamed (blameless _)
    · have least : 3 ≤ frontier := greatest.2 ⟨_,blamed,rfl⟩
      obtain rfl : frontier = 3 := by omega
      refine ⟨report,rfl,?_,points⟩
      rw [children,Ne,List.map_eq_nil_iff]
      exact List.ne_nil_of_mem ((expected 0).mpr blamed)

end ParseForest
