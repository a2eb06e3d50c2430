import Mathlib
import ParseForest.Proofs.Session.Coherent
import ParseForest.Proofs.WaitGraph

namespace ParseForest.Session.State

variable {problem : Problem} {s : State} {goal : Goal} {id : WalkId} {place : Place}

-- When no task is left, nothing more can be found out without forcing.
theorem Coherent.saturated [Regex.Library] (coherent : Coherent problem s) (idle : s.tasks = []) : s.chart.Saturated problem := by
  obtain ⟨good,reached,tidy,_,_,_⟩ := coherent
  rw [idle,owe_nil] at good
  have nodup : s.places.Nodup := places_eq ▸ good.family.places
  have linked := Chart.reached_linked reached
  have joined : ∀ (id : WalkId) (place : Place), s.places[id]? = some place → ∀ goal ∈ place.site problem.grammar,
      goal ∈ s.asked ∧ ((s.entryAt goal).status ≠ .unsettled ∨ id ∈ (s.entryAt goal).waiting) :=
    fun id place found goal wanted => good.mail.joined id place found goal wanted (Multiset.notMem_zero _)
  refine ⟨?_,?_,?_,?_,tidy⟩
  · exact good.mail.rooted.resolve_right (Multiset.notMem_zero _)
  · intro place walk goal wanted
    obtain ⟨id,found⟩ := List.mem_iff_getElem?.mp (chart_walks.mp walk)
    exact (joined id place found goal wanted).1
  · intro place ready
    cases ready with
    | @first goal asked production =>
      exact chart_walks.mpr ((good.mail.entered goal asked production).resolve_left (Multiset.notMem_zero _))
    | @extend before node walk continues =>
      obtain ⟨id,found⟩ := List.mem_iff_getElem?.mp (chart_walks.mp walk)
      rcases good.mail.delivered id before found node continues.wanted (Multiset.notMem_zero _) continues.published with
        sent | passed | refused
      · exact absurd sent (Multiset.notMem_zero _)
      · exact chart_walks.mpr passed
      · exact absurd continues.admitted refused
  · intro place exhausted
    obtain ⟨id,found⟩ := List.mem_iff_getElem?.mp (chart_walks.mp exhausted.walk)
    obtain ⟨walk,at_id,rfl⟩ := Option.map_eq_some_iff.mp (places_getElem?.symm.trans found)
    have unseated : seats s.entryAt id (walk.place.site problem.grammar) = ∅ := by
      refine Finset.filter_eq_empty_iff.mpr ?_
      intro goal wanted waits
      rw [good.books.closed goal (exhausted.closed goal (List.mem_toFinset.mp wanted))] at waits
      cases waits
    have heirless : heirs s.frames s.pendingAt id = ∅ := by
      refine Finset.filter_eq_empty_iff.mpr ?_
      rintro child _ ⟨isParent,busy⟩
      obtain ⟨heir,at_child,head⟩ := Option.bind_eq_some_iff.mp isParent
      rcases good.family.lineage child heir at_child with ⟨_,empty⟩ | ⟨before,parent,node,at_before,extended,lineage⟩
      · rw [empty] at head
        cases head
      · rw [lineage] at head
        obtain rfl : before = id := Option.some.inj head
        rw [at_id] at at_before
        obtain rfl := Option.some.inj at_before
        have at_heir : s.places[child]? = some (walk.place.extend node) := by
          rw [places_getElem?,at_child,← extended]
          rfl
        have continues := (linked.step walk.place node (chart_walks.mpr (List.mem_of_getElem? at_heir))).2
        have ended := exhausted.ended node continues
        rw [chart_ended] at ended
        obtain ⟨other,at_other,zero⟩ := ended
        rw [index_unique nodup at_other at_heir] at zero
        exact busy zero
    rw [chart_ended]
    refine ⟨id,found,?_⟩
    rw [good.balance id walk at_id,unseated,heirless]
    rfl

theorem mem_openGoals (good : Good problem s (owe s.tasks)) : goal ∈ s.openGoals ↔ s.chart.Open goal := by
  unfold openGoals Chart.Open
  rw [List.mem_filter,List.mem_reverse,good.books.listed]
  refine and_congr_right fun asked => ?_
  rw [entries_some asked]
  simp [chart]

theorem openGoals_nodup (good : Good problem s (owe s.tasks)) : s.openGoals.Nodup :=
  (List.nodup_reverse.mpr good.books.nodup).filter _

theorem openGoals_length (good : Good problem s (owe s.tasks)) : s.openGoals.length = s.active := by
  rw [good.books.active,openGoals,← List.countP_eq_length_filter,List.countP_reverse]
  refine List.countP_congr ?_
  intro goal listed
  rw [entries_some ((good.books.listed goal).mp listed)]
  simp

-- One edge for each walk that waits, by the numbers of the two goals.
theorem edge_inner (number : Std.HashMap Goal Nat) (index : Nat) (owners : List Goal) (edges : Array (List Nat)) :
    (owners.foldl (fun edges owner =>
        match number[owner]? with
        | some source => edges.modify source (index :: ·)
        | none => edges) edges).size = edges.size ∧
    ∀ i j, WaitGraph.Edge (owners.foldl (fun edges owner =>
        match number[owner]? with
        | some source => edges.modify source (index :: ·)
        | none => edges) edges) i j ↔
      WaitGraph.Edge edges i j ∨ i < edges.size ∧ j = index ∧ ∃ owner ∈ owners, number[owner]? = some i := by
  induction owners generalizing edges with
  | nil => simp
  | cons owner owners ih =>
    rw [List.foldl_cons]
    cases found : number[owner]? with
    | none =>
      obtain ⟨size,edge⟩ := ih edges
      refine ⟨size,fun i j => (edge i j).trans ?_⟩
      simp [found]
    | some source =>
      obtain ⟨size,edge⟩ := ih (edges.modify source (index :: ·))
      rw [Array.size_modify] at size edge
      refine ⟨size,fun i j => (edge i j).trans ?_⟩
      have one : WaitGraph.Edge (edges.modify source (index :: ·)) i j ↔
          WaitGraph.Edge edges i j ∨ i < edges.size ∧ j = index ∧ source = i := by
        unfold WaitGraph.Edge
        rw [Array.getElem?_modify]
        by_cases same : source = i
        · subst same
          by_cases inside : source < edges.size
          · simp [inside,or_comm]
          · simp [inside]
        · simp [same]
      rw [one]
      simp only [List.mem_cons,exists_eq_or_imp,found,Option.some.injEq]
      tauto

theorem edge_outer (number : Std.HashMap Goal Nat) (owners : Goal → List Goal) (targets : List (Goal × Nat))
    (edges : Array (List Nat)) :
    (targets.foldl (fun edges target => (owners target.1).foldl (fun edges owner =>
        match number[owner]? with
        | some source => edges.modify source (target.2 :: ·)
        | none => edges) edges) edges).size = edges.size ∧
    ∀ i j, WaitGraph.Edge (targets.foldl (fun edges target => (owners target.1).foldl (fun edges owner =>
        match number[owner]? with
        | some source => edges.modify source (target.2 :: ·)
        | none => edges) edges) edges) i j ↔
      WaitGraph.Edge edges i j ∨ i < edges.size ∧ ∃ target ∈ targets, j = target.2 ∧
        ∃ owner ∈ owners target.1, number[owner]? = some i := by
  induction targets generalizing edges with
  | nil => simp
  | cons target targets ih =>
    rw [List.foldl_cons]
    obtain ⟨innerSize,inner⟩ := edge_inner number target.2 (owners target.1) edges
    obtain ⟨size,edge⟩ := ih ((owners target.1).foldl (fun edges owner =>
        match number[owner]? with
        | some source => edges.modify source (target.2 :: ·)
        | none => edges) edges)
    rw [innerSize] at size edge
    refine ⟨size,fun i j => (edge i j).trans ?_⟩
    rw [inner,or_assoc,← and_or_left]
    simp only [List.mem_cons,exists_eq_or_imp]

theorem number_iff {goals : List Goal} (nodup : goals.Nodup) {index : Nat} :
    (Std.HashMap.ofList goals.zipIdx)[goal]? = some index ↔ goals[index]? = some goal := by
  have distinct : goals.zipIdx.Pairwise fun one two => (one.1 == two.1) = false := by
    have keys : (goals.zipIdx.map Prod.fst).Nodup := by rwa [List.zipIdx_map_fst]
    refine (List.pairwise_map.mp keys).imp ?_
    intro one two different
    simpa using different
  have back : ∀ index, goals[index]? = some goal → (Std.HashMap.ofList goals.zipIdx)[goal]? = some index :=
    fun index found => Std.HashMap.getElem?_ofList_of_mem (beq_self_eq_true goal) distinct (List.mem_zipIdx_iff_getElem?.mpr found)
  refine ⟨fun found => ?_,back index⟩
  by_cases listed : goal ∈ goals
  · obtain ⟨other,at_other⟩ := List.mem_iff_getElem?.mp listed
    rw [back other at_other] at found
    exact Option.some.inj found ▸ at_other
  · rw [Std.HashMap.getElem?_ofList_of_contains_eq_false (by simpa [List.zipIdx_map_fst] using listed)] at found
    cases found

theorem waitEdges_spec (goals : List Goal) (nodup : goals.Nodup) :
    (s.waitEdges goals).size = goals.length ∧
    ∀ i j, WaitGraph.Edge (s.waitEdges goals) i j ↔ ∃ one two, goals[i]? = some one ∧ goals[j]? = some two ∧
      one ∈ s.waitingOwners two := by
  obtain ⟨size,edge⟩ := edge_outer (Std.HashMap.ofList goals.zipIdx) s.waitingOwners goals.zipIdx
    (Array.replicate goals.length [])
  rw [Array.size_replicate] at size edge
  refine ⟨size,fun i j => (edge i j).trans ?_⟩
  have none_yet : ¬WaitGraph.Edge (Array.replicate goals.length []) i j := by
    rintro ⟨targets,found,member⟩
    rw [Array.getElem?_replicate] at found
    split at found
    · rw [← Option.some.inj found] at member
      cases member
    · cases found
  rw [or_iff_right none_yet]
  constructor
  · rintro ⟨_,target,member,rfl,owner,waits,numbered⟩
    exact ⟨owner,target.1,(number_iff nodup).mp numbered,List.mem_zipIdx_iff_getElem?.mp member,waits⟩
  · rintro ⟨one,two,at_one,at_two,waits⟩
    exact ⟨(List.getElem?_eq_some_iff.mp at_one).1,(two,j),List.mem_zipIdx_iff_getElem?.mpr at_two,rfl,one,waits,
      (number_iff nodup).mpr at_one⟩

theorem Coherent.waits_iff [Regex.Library] (coherent : Coherent problem s) (idle : s.tasks = []) {one two : Goal}
    (openOne : s.chart.Open one) (openTwo : s.chart.Open two) : one ∈ s.waitingOwners two ↔ s.chart.Waits problem one two := by
  have good := coherent.good
  rw [idle,owe_nil] at good
  unfold waitingOwners
  rw [entries_some openTwo.1,List.mem_filterMap]
  constructor
  · rintro ⟨id,waits,owner⟩
    obtain ⟨place,found,wanted⟩ := good.mail.seated two id waits
    obtain ⟨walk,at_id,rfl⟩ := walk_of_place found
    rw [at_id] at owner
    exact ⟨openOne,openTwo,walk.place,chart_walks.mpr (List.mem_of_getElem? found),Option.some.inj owner,wanted⟩
  · rintro ⟨_,_,place,walk,rfl,wanted⟩
    obtain ⟨id,found⟩ := List.mem_iff_getElem?.mp (chart_walks.mp walk)
    obtain ⟨full,at_id,rfl⟩ := walk_of_place found
    have joined := (good.mail.joined id _ found two wanted (Multiset.notMem_zero _)).2
    exact ⟨id,joined.resolve_left fun closed => closed openTwo.2,by rw [at_id]; rfl⟩

section Numbered

variable {edges : Array (List Nat)} {goals : List Goal} {waits : Goal → Goal → Prop}
  (edge : ∀ i j, WaitGraph.Edge edges i j ↔ ∃ one two, goals[i]? = some one ∧ goals[j]? = some two ∧ waits one two)
  (nodup : goals.Nodup) (listed : ∀ one two, waits one two → two ∈ goals)

include edge nodup listed

-- Paths between numbers are paths between the goals that they stand for.
theorem reach_iff {i j : Nat} {one two : Goal} (at_one : goals[i]? = some one) (at_two : goals[j]? = some two) :
    WaitGraph.Reach edges i j ↔ Relation.ReflTransGen waits one two := by
  constructor
  · intro reach
    induction reach generalizing two with
    | refl =>
      rw [at_one] at at_two
      rw [Option.some.inj at_two]
    | tail _ step ih =>
      obtain ⟨middle,last,at_middle,at_last,leads⟩ := (edge _ _).mp step
      rw [at_two] at at_last
      exact Option.some.inj at_last ▸ (ih at_middle).tail leads
  · intro path
    induction path generalizing j with
    | refl => exact index_unique nodup at_one at_two ▸ .refl
    | @tail middle last before leads ih =>
      rcases Relation.ReflTransGen.cases_tail before with rfl | ⟨_,_,into⟩
      · exact .single ((edge i j).mpr ⟨_,_,at_one,at_two,leads⟩)
      · obtain ⟨k,at_middle⟩ := List.mem_iff_getElem?.mp (listed _ _ into)
        exact (ih at_middle).tail ((edge k j).mpr ⟨_,_,at_middle,at_two,leads⟩)

end Numbered

theorem Coherent.deadlocked_spec [Regex.Library] (coherent : Coherent problem s) (idle : s.tasks = []) :
    s.deadlocked.Nodup ∧ (∀ goal, goal ∈ s.deadlocked ↔ s.chart.Stuck problem goal) ∧ (0 < s.active → s.deadlocked ≠ []) := by
  have nodup := openGoals_nodup coherent.good
  obtain ⟨size,edgeRaw⟩ := @waitEdges_spec s s.openGoals nodup
  have isOpen : ∀ {i : Nat} {goal : Goal}, s.openGoals[i]? = some goal → s.chart.Open goal :=
    fun found => (mem_openGoals coherent.good).mp (List.mem_of_getElem? found)
  have edge : ∀ i j, WaitGraph.Edge (s.waitEdges s.openGoals) i j ↔
      ∃ one two, s.openGoals[i]? = some one ∧ s.openGoals[j]? = some two ∧ s.chart.Waits problem one two := by
    intro i j
    refine (edgeRaw i j).trans (exists_congr fun one => exists_congr fun two => and_congr_right fun at_one =>
      and_congr_right fun at_two => ?_)
    exact coherent.waits_iff idle (isOpen at_one) (isOpen at_two)
  have listed : ∀ one two, s.chart.Waits problem one two → two ∈ s.openGoals :=
    fun one two waits => (mem_openGoals coherent.good).mpr waits.2.1
  have bounded : WaitGraph.Bounded (s.waitEdges s.openGoals) := by
    intro source target step
    obtain ⟨_,_,_,at_target,_⟩ := (edge source target).mp step
    rw [size]
    exact (List.getElem?_eq_some_iff.mp at_target).1
  have terminal : ∀ {i : Nat} {goal : Goal}, s.openGoals[i]? = some goal →
      (WaitGraph.Terminal (s.waitEdges s.openGoals) i ↔ s.chart.Stuck problem goal) := by
    intro i goal at_goal
    have inside := (List.getElem?_eq_some_iff.mp at_goal).1
    constructor
    · rintro ⟨_,back⟩
      refine ⟨isOpen at_goal,fun other path => ?_⟩
      have there : other ∈ s.openGoals := by
        rcases Relation.ReflTransGen.cases_tail path with rfl | ⟨_,_,into⟩
        · exact List.mem_of_getElem? at_goal
        · exact listed _ _ into
      obtain ⟨j,at_other⟩ := List.mem_iff_getElem?.mp there
      exact (reach_iff edge nodup listed at_other at_goal).mp
        (back j ((reach_iff edge nodup listed at_goal at_other).mpr path))
    · rintro ⟨_,back⟩
      refine ⟨size ▸ inside,fun j reach => ?_⟩
      have within : j < s.openGoals.length := size ▸ reach.lt bounded (size ▸ inside)
      have at_other := List.getElem?_eq_getElem within
      exact (reach_iff edge nodup listed at_other at_goal).mpr
        (back _ ((reach_iff edge nodup listed at_goal at_other).mp reach))
  have named : ∀ i, s.openGoals.toArray[i]? = s.openGoals[i]? := fun i => List.getElem?_toArray
  refine ⟨?_,?_,?_⟩
  · unfold deadlocked
    refine List.Nodup.filterMap ?_ (WaitGraph.terminalComponents_nodup bounded)
    intro i j goal at_i at_j
    rw [Option.mem_def,named] at at_i at_j
    exact index_unique nodup at_i at_j
  · intro goal
    unfold deadlocked
    rw [List.mem_filterMap]
    constructor
    · rintro ⟨i,member,at_goal⟩
      rw [named] at at_goal
      exact (terminal at_goal).mp ((WaitGraph.mem_flatten_terminalComponents bounded).mp member)
    · intro stuck
      obtain ⟨i,at_goal⟩ := List.mem_iff_getElem?.mp ((mem_openGoals coherent.good).mpr stuck.1)
      exact ⟨i,(WaitGraph.mem_flatten_terminalComponents bounded).mpr ((terminal at_goal).mpr stuck),by rw [named,at_goal]⟩
  · intro active none_stuck
    rw [← openGoals_length coherent.good] at active
    obtain ⟨i,isTerminal,_⟩ := WaitGraph.exists_terminal bounded (size.symm ▸ active : 0 < _)
    have inside : i < s.openGoals.length := size ▸ isTerminal.1
    obtain ⟨goal,at_goal⟩ : ∃ goal, s.openGoals[i]? = some goal := ⟨_,List.getElem?_eq_getElem inside⟩
    have member : goal ∈ s.deadlocked := by
      unfold deadlocked
      rw [List.mem_filterMap]
      exact ⟨i,(WaitGraph.mem_flatten_terminalComponents bounded).mpr isTerminal,by rw [named,at_goal]⟩
    rw [none_stuck] at member
    cases member

-- A round holds the parse while it closes goals, which has no part in how they are closed.
def shifted (s : State) : State := { s with held := s.held + 1,rounds := s.rounds + 1 }

theorem shifted_entries : s.shifted.entries = s.entries := rfl

theorem delivers_shifted (s : State) (ids : List WalkId) (node : Node) : ids.foldl (fun state walk => state.deliver walk node) s.shifted =
    (ids.foldl (fun state walk => state.deliver walk node) s).shifted :=
  List.foldl_hom shifted fun _ _ => rfl

theorem notifies_shifted (s : State) (ids : List WalkId) : ids.foldl notify s.shifted = (ids.foldl notify s).shifted :=
  List.foldl_hom shifted fun _ _ => rfl

theorem publish_shifted {node : Node} : s.shifted.publish goal node = (s.publish goal node).shifted := by
  unfold publish
  rw [shifted_entries]
  cases s.entries[goal]? with
  | none => rfl
  | some entry => exact delivers_shifted (s.setEntry goal { entry with published := node :: entry.published }) entry.waiting node

theorem publishLongest_shifted : s.shifted.publishLongest goal = (s.publishLongest goal).shifted := by
  unfold publishLongest
  rw [shifted_entries]
  cases s.entries[goal]? with
  | none => rfl
  | some entry =>
    dsimp only
    cases (entry.derivations.map (·.node.length)).max? with
    | none => rfl
    | some length => exact publish_shifted

theorem dismiss_shifted : s.shifted.dismiss goal = (s.dismiss goal).shifted := by
  unfold dismiss
  rw [shifted_entries]
  cases s.entries[goal]? with
  | none => rfl
  | some entry => exact notifies_shifted (s.setEntry goal { entry with waiting := [] }) entry.waiting

theorem closeGoal_shifted : s.shifted.closeGoal = s.closeGoal.shifted := by
  unfold closeGoal
  rw [show s.shifted.active = s.active from rfl]
  split <;> rfl

theorem close_shifted {status : Status} : s.shifted.close problem goal status = (s.close problem goal status).shifted := by
  unfold close
  rw [shifted_entries]
  cases s.entries[goal]? with
  | none => rfl
  | some entry =>
    dsimp only
    split
    · rw [← closeGoal_shifted,← dismiss_shifted]
      split
      · rw [← publishLongest_shifted]
        rfl
      · rfl
    · split <;> rfl

theorem Good.close_all {duties : Multiset Duty} (goals : List Goal) (good : Good problem s duties) (nodup : goals.Nodup)
    (each : ∀ goal ∈ goals, goal ∈ s.asked ∧ (s.entryAt goal).status = .unsettled ∧
      (∀ derivation ∈ (s.entryAt goal).derivations, derivation.node.goal = goal) ∧
      (Chart.IsGreedy problem goal → (s.entryAt goal).published = [])) :
    ∃ new, Sent s (goals.foldl (fun s goal => s.close problem goal .forced) s) new 0 ∧
      Good problem (goals.foldl (fun s goal => s.close problem goal .forced) s) (owe new + duties) ∧
      (goals.foldl (fun s goal => s.close problem goal .forced) s).chart =
        goals.foldl (fun chart goal => chart.close problem goal .forced) s.chart := by
  induction goals generalizing s duties with
  | nil => exact ⟨[],.refl,by simpa using good,rfl⟩
  | cons goal goals ih =>
    obtain ⟨fresh,nodupRest⟩ := List.nodup_cons.mp nodup
    obtain ⟨asked,unsettled,own,silent⟩ := each goal (List.mem_cons_self ..)
    obtain ⟨first,sentFirst,closed,others,chart⟩ := good.close asked .forced unsettled (by simp) own silent
    obtain ⟨second,sentSecond,kept,final⟩ := ih closed nodupRest (by
      intro other member
      have different : other ≠ goal := fun same => fresh (same ▸ member)
      obtain ⟨known,rest⟩ := each other (List.mem_cons_of_mem _ member)
      rw [others other different]
      refine ⟨?_,rest⟩
      change other ∈ (s.close problem goal .forced).chart.asked
      rw [chart]
      exact known)
    refine ⟨second ++ first,sentFirst.trans sentSecond,?_,?_⟩
    · rw [owe_append,add_assoc]
      exact kept
    · rw [List.foldl_cons,List.foldl_cons,final,chart]

end ParseForest.Session.State

namespace ParseForest.Session

theorem Chart.close_all {problem : Problem} (goals : List Goal) (chart : Chart) :
    goals.foldl (fun chart goal => chart.close problem goal .forced) chart = { chart with
      status := fun goal => if goal ∈ goals then .forced else chart.status goal
      published := fun goal => chart.published goal ∪ {node | goal ∈ goals ∧ IsGreedy problem goal ∧ chart.Longest goal node} } := by
  induction goals generalizing chart with
  | nil => exact Chart.ext rfl (by simp) rfl (by simp) rfl rfl rfl rfl
  | cons goal goals ih =>
    rw [List.foldl_cons,ih]
    refine Chart.ext rfl ?_ rfl ?_ rfl rfl rfl rfl
    · funext other
      by_cases same : other = goal
      · subst same
        simp [close]
      · simp [close,same]
    · funext other
      ext node
      simp only [Set.mem_union,Set.mem_ofPred_eq,List.mem_cons,close]
      constructor
      · rintro ((old | ⟨rfl,greedy,most⟩) | ⟨member,rest⟩)
        · exact .inl old
        · exact .inr ⟨.inl rfl,greedy,most⟩
        · exact .inr ⟨.inr member,rest⟩
      · rintro (old | ⟨rfl | member,rest⟩)
        · exact .inl (.inl old)
        · exact .inl (.inr ⟨rfl,rest⟩)
        · exact .inr ⟨member,rest⟩

namespace State

variable {problem : Problem} {s : State}

-- The state when all stuck goals have been closed, before the round is counted.
def closedAll (problem : Problem) (s : State) : State := s.deadlocked.foldl (fun s goal => s.close problem goal .forced) s

def counted (s : State) (count : Nat) : State := { s with rounds := s.rounds + 1,forced := s.forced + count }

theorem counted_chart {count : Nat} : (s.counted count).chart =
    { s.chart with rounds := s.chart.rounds + 1,forced := s.chart.forced + count } := rfl

theorem counted_places {count : Nat} : (s.counted count).places = s.places := rfl

theorem Good.counted {duties : Multiset Duty} (good : Good problem s duties) (count : Nat) :
    Good problem (s.counted count) duties :=
  ⟨good.books,good.family,good.mail,good.balance,good.flags,good.tally,good.breaches⟩

theorem force_eq (some_goal : s.deadlocked ≠ []) : s.force problem = (s.closedAll problem).counted s.deadlocked.length := by
  have fold : s.deadlocked.foldl (fun state goal => state.close problem goal .forced)
      { s with held := s.held + 1,rounds := s.rounds + 1 } = (s.closedAll problem).shifted :=
    List.foldl_hom shifted fun _ _ => close_shifted
  have filled : s.deadlocked.isEmpty = false := by simpa using some_goal
  unfold State.force
  dsimp only
  rw [filled,fold]
  simp only [Bool.false_eq_true,if_false,leave,shifted,counted,Nat.succ_ne_zero,Nat.add_sub_cancel]

section Round

variable (stuck : ∀ goal, goal ∈ s.deadlocked ↔ s.chart.Stuck problem goal)

include stuck

theorem stuck_ncard (nodup : s.deadlocked.Nodup) : {goal | s.chart.Stuck problem goal}.ncard = s.deadlocked.length := by
  have same : {goal | s.chart.Stuck problem goal} = ↑s.deadlocked.toFinset := by
    ext goal
    simp [stuck]
  rw [same,Set.ncard_coe_finset,List.toFinset_card_of_nodup nodup]

theorem force_chart (nodup : s.deadlocked.Nodup) (some_goal : s.deadlocked ≠ []) (chart : (s.closedAll problem).chart =
      s.deadlocked.foldl (fun chart goal => chart.close problem goal .forced) s.chart) :
    (s.force problem).chart = s.chart.force problem := by
  rw [force_eq some_goal,counted_chart,chart,Chart.close_all]
  refine Chart.ext rfl ?_ rfl ?_ rfl rfl rfl ?_
  · funext goal
    by_cases member : goal ∈ s.deadlocked
    · exact (if_pos member).trans (if_pos ((stuck goal).mp member)).symm
    · exact (if_neg member).trans (if_neg fun isStuck => member ((stuck goal).mpr isStuck)).symm
  · funext goal
    ext node
    simp only [stuck,Chart.force]
  · exact congrArg (s.chart.forced + ·) (stuck_ncard stuck nodup).symm

theorem force_stirred (some_goal : s.deadlocked ≠ []) : Chart.Stirred s.chart (s.chart.force problem) := by
  obtain ⟨goal,member⟩ := List.exists_mem_of_ne_nil _ some_goal
  have isStuck := (stuck goal).mp member
  refine .inr (.inr ⟨goal,?_,fun closed => closed isStuck.1.2⟩)
  rcases Chart.force_status problem s.chart goal with ⟨_,status⟩ | ⟨free,_⟩
  · simp [Chart.Closed,status]
  · exact absurd isStuck free

end Round

theorem Coherent.force [Regex.Library] (coherent : Coherent problem s) (idle : s.tasks = []) (waiting : 0 < s.active) :
    Coherent problem (s.force problem) ∧ (s.force problem).chart = s.chart.force problem ∧
      (s.force problem).places = s.places ∧ Chart.Stirred s.chart (s.chart.force problem) := by
  obtain ⟨nodup,stuck,some_stuck⟩ := coherent.deadlocked_spec idle
  have some_goal := some_stuck waiting
  have saturated := coherent.saturated idle
  obtain ⟨good,reached,tidy,held,sites,requests⟩ := coherent
  rw [idle,owe_nil] at good
  have owned := Chart.reached_owned reached
  have recorded := Chart.reached_recorded reached
  obtain ⟨new,sent,kept,chart⟩ := good.close_all s.deadlocked nodup (by
    intro goal member
    have isOpen := ((stuck goal).mp member).1
    refine ⟨isOpen.1,isOpen.2,fun derivation known => recorded.goal_eq owned known,fun greedy => ?_⟩
    refine List.eq_nil_iff_forall_not_mem.mpr fun node known => ?_
    have shown : node ∈ s.chart.published goal := known
    rw [(Chart.reached_announced reached).greedy_open goal greedy isOpen.2] at shown
    exact shown)
  change Sent s (s.closedAll problem) new 0 at sent
  change Good problem (s.closedAll problem) _ at kept
  change (s.closedAll problem).chart = _ at chart
  rw [add_zero] at kept
  have tasks : (s.closedAll problem).tasks = new := by rw [sent.tasks,idle,List.append_nil]
  have final := force_chart stuck nodup some_goal chart
  have places : (s.force problem).places = s.places := by
    rw [force_eq some_goal,counted_places,sent.places]
  refine ⟨?_,final,places,force_stirred stuck some_goal⟩
  constructor
  case good =>
    rw [force_eq some_goal]
    change Good problem _ (owe (s.closedAll problem).tasks)
    rw [tasks]
    exact kept.counted _
  case reached =>
    rw [final]
    exact reached.round saturated
  case tidy =>
    intro goal ended
    rw [final] at ended ⊢
    exact Chart.round_later.closed_mono (tidy goal ended)
  case held =>
    rw [force_eq some_goal]
    change (s.closedAll problem).held = (s.closedAll problem).tasks.length
    rw [sent.held,held,tasks,idle]
    simp
  case sites =>
    intro site
    rw [places,force_eq some_goal]
    change site ∈ (s.closedAll problem).sites ↔ _
    rw [sent.sites]
    exact sites site
  case requests =>
    rw [places,force_eq some_goal]
    change (s.closedAll problem).hits + (s.closedAll problem).goals.length + ((s.closedAll problem).tasks.map Task.requests).sum = _
    rw [tasks,requests_zero sent.requestless,sent.requests,← requests,idle]
    rfl

end State

end ParseForest.Session
