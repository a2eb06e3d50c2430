import Mathlib
import ParseForest.Proofs.Chart.Records
import ParseForest.Proofs.Session.Await

namespace ParseForest.Session

-- A new goal of a production is a task, a terminal is none.
def firstTasks (problem : Problem) (goal : Goal) : List Task :=
  if (problem.grammar.production? goal.symbol).isSome then [.enter goal] else []

section

variable {problem : Problem} {goals : List Goal} {frames : List Walk} {places : List Place} {asked : Set Goal}
  {entryAt : Goal → Entry} {duties : Multiset Duty} {active made : Nat} {pendingAt : WalkId → Nat}
  {goal : Goal} {task : Task}

theorem mem_firstTasks : task ∈ firstTasks problem goal ↔ Chart.IsProduction problem goal ∧ task = .enter goal := by
  unfold firstTasks Chart.IsProduction
  split
  · rename_i production
    simp [production]
  · rename_i terminal
    simp [terminal]

theorem Books.open_goal (books : Books goals asked entryAt active) (fresh : goal ∉ asked) :
    Books (goal :: goals) (insert goal asked) entryAt (active+1) := by
  refine ⟨?_,?_,?_,?_,books.recorded,books.published,books.own,books.waiting,books.closed⟩
  · intro other
    rw [List.mem_cons,Set.mem_insert_iff,books.listed]
  · exact List.nodup_cons.mpr ⟨fun member => fresh ((books.listed goal).mp member),books.nodup⟩
  · rw [List.countP_cons,books.unasked goal fresh,books.active]
    rfl
  · intro other unasked
    exact books.unasked other fun member => unasked (Set.mem_insert_of_mem _ member)

theorem Mail.open_goal (mail : Mail problem places asked entryAt duties) (fresh : goal ∉ asked)
    (unwalked : .first goal ∉ places) :
    Mail problem places (insert goal asked) entryAt (owe (firstTasks problem goal) + duties) := by
  have only : ∀ duty, duty ∈ owe (firstTasks problem goal) → Chart.IsProduction problem goal ∧ duty = .task (.enter goal) := by
    intro duty member
    obtain ⟨task,inside,rfl⟩ := List.mem_map.mp (Multiset.mem_coe.mp member)
    obtain ⟨production,rfl⟩ := mem_firstTasks.mp inside
    exact ⟨production,rfl⟩
  -- Anything but the one new task was owed before.
  have old : ∀ {duty : Duty}, duty ∈ owe (firstTasks problem goal) + duties → duty ≠ .task (.enter goal) → duty ∈ duties := by
    intro duty member different
    exact (Multiset.mem_add.mp member).resolve_left fun new => different (only duty new).2
  have more : ∀ {duty : Duty}, duty ∈ duties → duty ∈ owe (firstTasks problem goal) + duties :=
    fun member => Multiset.mem_add.mpr (.inr member)
  constructor
  case once =>
    rw [Multiset.filter_add,Multiset.nodup_add]
    refine ⟨?_,mail.once,?_⟩
    · refine Multiset.Nodup.filter _ ?_
      unfold firstTasks
      split
      · exact Multiset.nodup_singleton _
      · exact Multiset.nodup_zero
    · refine Multiset.disjoint_left.mpr ?_
      intro duty new before
      obtain ⟨_,rfl⟩ := only duty (Multiset.mem_filter.mp new).1
      exact fresh (mail.enter goal (Multiset.mem_filter.mp before).1).1
  case request =>
    intro other member
    exact mail.request other (old member (by simp))
  case rooted =>
    exact mail.rooted.imp (Set.mem_insert_of_mem _) more
  case enter =>
    intro other member
    rcases Multiset.mem_add.mp member with new | before
    · obtain ⟨production,equal⟩ := only _ new
      obtain rfl : other = goal := Task.enter.inj (Duty.task.inj equal)
      exact ⟨Set.mem_insert _ _,production,unwalked⟩
    · obtain ⟨known,rest⟩ := mail.enter other before
      exact ⟨Set.mem_insert_of_mem _ known,rest⟩
  case entered =>
    intro other member production
    rcases Set.mem_insert_iff.mp member with rfl | before
    · exact .inl (Multiset.mem_add.mpr (.inl (task_mem_owe.mpr (mem_firstTasks.mpr ⟨production,rfl⟩))))
    · exact (mail.entered other before production).imp_left more
  case notice =>
    intro id member
    exact mail.notice id (old member (by simp))
  case asking =>
    intro id other member
    obtain ⟨place,found,wanted,absent,untold⟩ := mail.asking id other (old member (by simp))
    refine ⟨place,found,wanted,absent,fun node own => ⟨?_,(untold node own).2⟩⟩
    exact fun sent => (untold node own).1 (old sent (by simp))
  case seated => exact mail.seated
  case joined =>
    intro id place found other wanted told
    obtain ⟨known,state⟩ := mail.joined id place found other wanted (fun before => told (more before))
    exact ⟨Set.mem_insert_of_mem _ known,state⟩
  case delivery =>
    intro id node member
    exact mail.delivery id node (old member (by simp))
  case delivered =>
    intro id place found node wanted told shown
    exact (mail.delivered id place found node wanted (fun before => told (more before)) shown).imp_left more
  case passed => exact mail.passed

theorem firstTasks_burdens {id : WalkId} :
    (owe (firstTasks problem goal)).countP (fun duty => duty.burdens id = true) = 0 := by
  refine Multiset.countP_eq_zero.mpr ?_
  intro duty member
  obtain ⟨task,inside,rfl⟩ := List.mem_map.mp (Multiset.mem_coe.mp member)
  obtain ⟨_,rfl⟩ := mem_firstTasks.mp inside
  simp [Duty.burdens]

theorem Tallied.open_goal (tallied : Tallied problem goals places entryAt duties made) (unknown : entryAt goal = {}) :
    Tallied problem (goal :: goals) places entryAt (owe (firstTasks problem goal) + duties)
      (made + (firstTasks problem goal).length) := by
  have asks : ∀ other, (owe (firstTasks problem goal) + duties).countP (fun duty => duty.asksFor other = true) =
      duties.countP (fun duty => duty.asksFor other = true) := by
    exact fun _ => asks_add_owe
  have joins : ∀ other, joining problem places (owe (firstTasks problem goal) + duties) other =
      joining problem places duties other := by
    intro other
    rw [joining,joining,asks]
  refine ⟨fun other => (asks other).symm ▸ tallied.wanted other,?_,?_⟩
  · intro other unsettled
    rw [asks]
    exact tallied.seated other unsettled
  · have none_yet : (entryAt goal).messages = 0 := by
      rw [unknown]
      rfl
    simp only [joins,List.map_cons,List.sum_cons,none_yet,Nat.mul_zero,Nat.zero_add,List.countP_cons,tallied.made]
    unfold firstTasks
    split
    · simp only [List.length_singleton]
      omega
    · simp

end

namespace State

variable {problem : Problem} {s : State} {goal : Goal} {duties : Multiset Duty}

-- The state in which a goal has been put into the table and nothing else was done.
def opened (problem : Problem) (s : State) (goal : Goal) : State :=
  { s with
    goals := goal :: s.goals
    entries := s.entries.insert goal {}
    active := s.active + 1
    tasks := firstTasks problem goal ++ s.tasks
    held := s.held + (firstTasks problem goal).length }

theorem opened_asked : (s.opened problem goal).asked = insert goal s.asked := by
  ext other
  refine Std.HashMap.mem_insert.trans (or_congr_left ?_)
  exact beq_iff_eq.trans eq_comm

theorem opened_entryAt (fresh : goal ∉ s.asked) : (s.opened problem goal).entryAt = s.entryAt := by
  funext other
  have set : (s.opened problem goal).entryAt other = (s.setEntry goal {}).entryAt other := rfl
  rw [set,setEntry_entryAt]
  split
  · rename_i same
    rw [same,entryAt_unasked fresh]
  · rfl

theorem opened_sent : Sent s (s.opened problem goal) (firstTasks problem goal) 1 :=
  ⟨rfl,rfl,rfl,rfl,fun _ member => Task.noConfusion (mem_firstTasks.mp member).2,rfl⟩

theorem Good.opened (good : Good problem s duties) (fresh : goal ∉ s.asked) (unwalked : .first goal ∉ s.places) :
    Good problem (s.opened problem goal) (owe (firstTasks problem goal) + duties) := by
  refine ⟨?_,good.family,?_,?_,good.flags,?_,good.breaches⟩
  · rw [opened_asked,opened_entryAt fresh]
    exact good.books.open_goal fresh
  · rw [opened_asked,opened_entryAt fresh]
    exact good.mail.open_goal fresh unwalked
  · rw [opened_entryAt fresh]
    intro id walk found
    rw [Multiset.countP_add,firstTasks_burdens,zero_add]
    exact good.balance id walk found
  · rw [opened_entryAt fresh]
    have tally := good.tally.open_goal (good.books.unasked goal fresh)
    rwa [Nat.add_assoc] at tally

theorem opened_chart (fresh : goal ∉ s.asked) :
    (s.opened problem goal).chart = { s.chart with asked := insert goal s.chart.asked } := by
  have same := @opened_entryAt problem s goal fresh
  refine Chart.ext opened_asked ?_ ?_ ?_ rfl rfl rfl rfl
  · funext other
    exact congrArg Entry.status (congrFun same other)
  · funext other
    exact congrArg (fun entry : Entry => {one | one ∈ entry.derivations}) (congrFun same other)
  · funext other
    exact congrArg (fun entry : Entry => {one | one ∈ entry.published}) (congrFun same other)

variable [Regex.Library]

theorem request_hit (known : goal ∈ s.asked) : s.request problem goal = { s with hits := s.hits+1 } := by
  have contained : s.entries.contains goal = true := known
  simp [request,contained]

theorem request_production (fresh : goal ∉ s.asked) (production : Chart.IsProduction problem goal) :
    s.request problem goal = s.opened problem goal := by
  have uncontained : s.entries.contains goal = false := by simpa [asked] using fresh
  obtain ⟨body,found⟩ := Option.isSome_iff_exists.mp production
  obtain ⟨symbol,at_id,kind⟩ := Grammar.production_iff.mp found
  simp [request,uncontained,startGoal,at_id,kind,spawn,opened,firstTasks,found]

theorem terminal_kind (known : goal.symbol < problem.grammar.size) (terminal : ¬Chart.IsProduction problem goal) :
    ∃ symbol kind, problem.grammar.symbol? goal.symbol = some symbol ∧ symbol.kind = .terminal kind ∧
      problem.grammar.terminalMatch? goal.symbol problem.text goal.position = kind.matches? problem.text goal.position := by
  obtain ⟨symbol,at_id⟩ : ∃ symbol, problem.grammar.symbol? goal.symbol = some symbol :=
    ⟨_,List.getElem?_eq_getElem known⟩
  cases kind : symbol.kind with
  | terminal body =>
    exact ⟨symbol,body,at_id,kind,by simp [Grammar.terminalMatch?,at_id,GrammarSymbol.terminal?,kind]⟩
  | production body =>
    refine absurd ?_ terminal
    simp [Chart.IsProduction,Grammar.production_iff.mpr ⟨symbol,at_id,kind⟩]

-- What is done for a new terminal: its match is recorded if there is one, and the goal is settled.
def matched (problem : Problem) (s : State) (goal : Goal) : State :=
  match problem.grammar.terminalMatch? goal.symbol problem.text goal.position with
  | some length => (s.opened problem goal).record problem goal (.leaf ⟨goal,length⟩)
  | none => s.opened problem goal

theorem request_terminal (fresh : goal ∉ s.asked) (known : goal.symbol < problem.grammar.size)
    (terminal : ¬Chart.IsProduction problem goal) :
    s.request problem goal = (s.matched problem goal).close problem goal .settled := by
  have uncontained : s.entries.contains goal = false := by simpa [asked] using fresh
  have none_first : firstTasks problem goal = [] := if_neg terminal
  obtain ⟨symbol,kind,at_id,isTerminal,found⟩ := terminal_kind known terminal
  unfold request startGoal matched
  cases taken : kind.matches? problem.text goal.position with
  | none =>
    simp only [uncontained,Bool.false_eq_true,if_false,at_id,isTerminal,found,taken,opened,none_first,List.nil_append,
      List.length_nil,Nat.add_zero]
  | some length =>
    simp only [uncontained,Bool.false_eq_true,if_false,at_id,isTerminal,found,taken,opened,none_first,List.nil_append,
      List.length_nil,Nat.add_zero]

theorem Good.matched (good : Good problem s duties) (fresh : goal ∉ s.asked) (unwalked : .first goal ∉ s.places) :
    ∃ new, Sent s (s.matched problem goal) new 1 ∧ Good problem (s.matched problem goal) (owe new + duties) ∧
      (s.matched problem goal).chart = { s.chart with
        asked := insert goal s.chart.asked
        derivations := (s.chart.ask problem goal).derivations
        published := (s.chart.ask problem goal).published } := by
  have opened := good.opened fresh unwalked
  have chart := @opened_chart problem s goal fresh
  cases found : problem.grammar.terminalMatch? goal.symbol problem.text goal.position with
  | none =>
    have same : s.matched problem goal = s.opened problem goal := by simp only [State.matched,found]
    rw [same]
    refine ⟨firstTasks problem goal,opened_sent,opened,?_⟩
    rw [chart]
    refine Chart.ext rfl rfl ?_ ?_ rfl rfl rfl rfl
    · funext other
      ext derivation
      simp [found]
    · funext other
      ext node
      simp [found]
  | some length =>
    have same : s.matched problem goal = (s.opened problem goal).record problem goal (.leaf ⟨goal,length⟩) := by
      simp only [State.matched,found]
    have unknown : (s.opened problem goal).entryAt goal = {} := by
      rw [opened_entryAt fresh,good.books.unasked goal fresh]
    have plain : ¬Chart.IsGreedy problem goal := fun greedy => Chart.not_production_of_match found greedy.production
    have asked : goal ∈ (s.opened problem goal).asked := opened_asked ▸ Set.mem_insert _ _
    have unrecorded : .leaf ⟨goal,length⟩ ∉ (s.opened problem goal).chart.derivations goal := by
      simp [State.chart,unknown]
    obtain ⟨new,sent,kept,recorded,_⟩ :=
      @Good.record problem _ goal _ (.leaf ⟨goal,length⟩) opened asked (by simp [unknown]) rfl unrecorded
    rw [← add_assoc,← owe_append] at kept
    have unsettled : s.chart.status goal = .unsettled := congrArg Entry.status (good.books.unasked goal fresh)
    rw [same]
    refine ⟨new ++ firstTasks problem goal,opened_sent.trans sent,kept,?_⟩
    rw [recorded,chart]
    refine Chart.ext rfl rfl ?_ ?_ rfl rfl rfl rfl
    · funext other
      ext derivation
      simp [found,Chart.record]
    · funext other
      ext node
      simp [found,Chart.record,plain,unsettled,Derivation.leaf]

theorem Good.request_terminal (good : Good problem s duties) (fresh : goal ∉ s.asked)
    (known : goal.symbol < problem.grammar.size) (unwalked : .first goal ∉ s.places)
    (terminal : ¬Chart.IsProduction problem goal) :
    ∃ new, Sent s (s.request problem goal) new 1 ∧ Good problem (s.request problem goal) (owe new + duties) ∧
      (s.request problem goal).chart = s.chart.ask problem goal := by
  obtain ⟨first,sentFirst,opened,chart⟩ := good.matched fresh unwalked
  have unknown := good.books.unasked goal fresh
  have asked : goal ∈ (s.matched problem goal).asked := by
    change goal ∈ (s.matched problem goal).chart.asked
    rw [chart]
    exact Set.mem_insert _ _
  have unsettled : (s.matched problem goal).chart.status goal = .unsettled := by
    rw [chart]
    exact congrArg Entry.status unknown
  have own : ∀ derivation ∈ ((s.matched problem goal).entryAt goal).derivations, derivation.node.goal = goal := by
    intro derivation member
    have recorded : derivation ∈ (s.matched problem goal).chart.derivations goal := member
    rw [chart] at recorded
    rcases recorded with old | ⟨_,length,_,rfl⟩
    · change derivation ∈ (s.entryAt goal).derivations at old
      rw [unknown] at old
      cases old
    · rfl
  have plain : ¬Chart.IsGreedy problem goal := fun greedy => terminal greedy.production
  obtain ⟨second,sentSecond,closed,_,final⟩ :=
    opened.close asked .settled unsettled (by simp) own (fun greedy => absurd greedy plain)
  rw [← add_assoc,← owe_append] at closed
  rw [State.request_terminal fresh known terminal]
  refine ⟨second ++ first,sentFirst.trans sentSecond,closed,?_⟩
  rw [final,chart]
  refine Chart.ext rfl ?_ rfl ?_ rfl rfl rfl rfl
  · rw [Chart.ask_status_terminal terminal]
    rfl
  · funext other
    ext node
    simp [Chart.close,plain]

theorem Good.request_production (good : Good problem s duties) (fresh : goal ∉ s.asked)
    (unwalked : .first goal ∉ s.places) (production : Chart.IsProduction problem goal) :
    Sent s (s.request problem goal) (firstTasks problem goal) 1 ∧
      Good problem (s.request problem goal) (owe (firstTasks problem goal) + duties) ∧
      (s.request problem goal).chart = s.chart.ask problem goal := by
  rw [State.request_production fresh production]
  refine ⟨opened_sent,good.opened fresh unwalked,?_⟩
  rw [opened_chart fresh]
  refine Chart.ext rfl (Chart.ask_status_production production).symm ?_ ?_ rfl rfl rfl rfl
  · funext other
    ext derivation
    simp [Chart.terminalMatch_production production]
  · funext other
    ext node
    simp [Chart.terminalMatch_production production]

end State

end ParseForest.Session
