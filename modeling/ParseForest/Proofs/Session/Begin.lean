import Mathlib
import ParseForest.Proofs.Lists
import ParseForest.Proofs.Session.Request

namespace ParseForest.Session

-- The task that a walk at a place begins with.
inductive Opens (problem : Problem) (places : List Place) : Task → Place → Prop where
  | enter (goal : Goal) : Opens problem places (.enter goal) (.first goal)
  | deliver {id : WalkId} {place : Place} {node : Node} (found : places[id]? = some place)
      (admitted : place.Admits problem.grammar node) : Opens problem places (.deliver id node) (place.extend node)

-- What a new walk is to do: to ask for the goals of its site, and to let go of itself.
def questions (id : WalkId) (site : List Goal) : Multiset Duty := ↑(site.map (Duty.ask id))

section

variable {problem : Problem} {goals : List Goal} {frames : List Walk} {places : List Place} {asked : Set Goal}
  {entryAt : Goal → Entry} {rest : Multiset Duty} {active made : Nat} {pendingAt : WalkId → Nat}
  {place here : Place} {id new : WalkId} {goal : Goal} {site : List Goal} {task : Task}

@[simp] theorem ask_mem_questions : .ask id goal ∈ questions new site ↔ id = new ∧ goal ∈ site := by
  simp [questions,eq_comm,and_comm]

@[simp] theorem task_mem_questions : .task task ∉ questions new site := by simp [questions]

theorem Opens.fresh (opens : Opens problem places task place)
    (mail : Mail problem places asked entryAt (.task task ::ₘ rest)) : place ∉ places := by
  cases opens with
  | enter goal => exact (mail.enter goal (Multiset.mem_cons_self _ _)).2.2
  | deliver found admitted =>
    obtain ⟨place,at_id,_,_,fresh⟩ := mail.delivery _ _ (Multiset.mem_cons_self _ _)
    rw [found] at at_id
    exact Option.some.inj at_id ▸ fresh

-- A place behind an older one is new only through the delivery that is taken.
theorem Opens.extend (opens : Opens problem places task place) (nodup : places.Nodup) {node : Node}
    (at_id : places[id]? = some here) (same : here.extend node = place) : task = .deliver id node := by
  cases opens with
  | enter goal => exact absurd same.symm Place.first_ne_extend
  | deliver found admitted =>
    obtain ⟨rfl,rfl⟩ := Place.extend_inj.mp same
    rw [index_unique nodup at_id found]

theorem Opens.letter (opens : Opens problem places task place) : (Duty.task task).isNotice = false := by
  cases opens <;> rfl

theorem Mail.push (mail : Mail problem places asked entryAt (.task task ::ₘ rest)) (nodup : places.Nodup)
    (opens : Opens problem places task place) :
    Mail problem (places ++ [place]) asked entryAt
      (.task (.exhausted places.length) ::ₘ (questions places.length (place.site problem.grammar) + rest)) := by
  have fresh := opens.fresh mail
  obtain ⟨taken,once⟩ := mail.take opens.letter
  have behind : ∀ node, place.extend node ∉ places := fun node member => fresh (mail.passed place node member).1
  have older : ∀ {duty : Duty}, duty ∈ rest → duty ∈ .task task ::ₘ rest := Multiset.mem_cons_of_mem
  have more : ∀ {duty : Duty}, duty ∈ rest →
      duty ∈ .task (.exhausted places.length) ::ₘ (questions places.length (place.site problem.grammar) + rest) :=
    fun member => Multiset.mem_cons_of_mem (Multiset.mem_add.mpr (.inr member))
  have asks_lt : ∀ id goal, .ask id goal ∈ rest → id < places.length := by
    intro id goal member
    obtain ⟨_,found,_⟩ := mail.asking id goal (older member)
    exact (List.getElem?_eq_some_iff.mp found).1
  constructor
  case once =>
    rw [Multiset.filter_cons,if_neg (by simp [Duty.isNotice]),zero_add,Multiset.filter_add,Multiset.nodup_add]
    refine ⟨Multiset.Nodup.filter _ ?_,once,?_⟩
    · exact Multiset.coe_nodup.mpr (Place.site_nodup.map fun _ _ same => (Duty.ask.inj same).2)
    · refine Multiset.disjoint_left.mpr ?_
      intro duty new old
      obtain ⟨goal,_,rfl⟩ := List.mem_map.mp (Multiset.mem_coe.mp (Multiset.mem_filter.mp new).1)
      exact Nat.lt_irrefl _ (asks_lt _ _ (Multiset.mem_filter.mp old).1)
  case request =>
    intro other member
    simp only [Multiset.mem_cons,Multiset.mem_add,task_mem_questions,Duty.task.injEq,reduceCtorEq,false_or] at member
    exact mail.request other (older member)
  case rooted =>
    refine mail.rooted.imp_right fun member => ?_
    rcases Multiset.mem_cons.mp member with equal | old
    · cases opens with
      | enter goal => cases Duty.task.inj equal
      | deliver found admitted => cases Duty.task.inj equal
    · exact more old
  case enter =>
    intro other member
    simp only [Multiset.mem_cons,Multiset.mem_add,task_mem_questions,Duty.task.injEq,reduceCtorEq,false_or] at member
    obtain ⟨known,production,unwalked⟩ := mail.enter other (older member)
    refine ⟨known,production,?_⟩
    rw [List.mem_append,List.mem_singleton,not_or]
    refine ⟨unwalked,?_⟩
    intro same
    cases opens with
    | enter goal =>
      obtain rfl : other = goal := congrArg Place.owner same
      exact taken member
    | deliver found admitted => exact Place.first_ne_extend same
  case entered =>
    intro other known production
    rcases mail.entered other known production with member | walked
    · rcases Multiset.mem_cons.mp member with equal | old
      · cases opens with
        | enter goal =>
          obtain rfl : other = goal := Task.enter.inj (Duty.task.inj equal)
          exact .inr (List.mem_append_right _ (List.mem_singleton_self _))
        | deliver found admitted => cases Duty.task.inj equal
      · exact .inl (more old)
    · exact .inr (List.mem_append_left _ walked)
  case notice =>
    intro receiver member
    rw [List.length_append,List.length_singleton]
    simp only [Multiset.mem_cons,Multiset.mem_add,task_mem_questions,Duty.task.injEq,Task.exhausted.injEq,false_or] at member
    rcases member with rfl | old
    · exact Nat.lt_succ_self _
    · exact Nat.lt_succ_of_lt (mail.notice receiver (older old))
  case asking =>
    intro asker other member
    simp only [Multiset.mem_cons,Multiset.mem_add,ask_mem_questions,reduceCtorEq,false_or] at member
    rcases member with ⟨rfl,wanted⟩ | old
    · refine ⟨place,concat_getElem?.mpr (.inr ⟨rfl,rfl⟩),wanted,?_,?_⟩
      · intro waits
        obtain ⟨_,found,_⟩ := mail.seated other _ waits
        exact Nat.lt_irrefl _ (List.getElem?_eq_some_iff.mp found).1
      · intro node own
        constructor
        · simp only [Multiset.mem_cons,Multiset.mem_add,task_mem_questions,Duty.task.injEq,reduceCtorEq,false_or]
          intro sent
          obtain ⟨_,found,_⟩ := mail.delivery _ node (older sent)
          exact Nat.lt_irrefl _ (List.getElem?_eq_some_iff.mp found).1
        · rw [List.mem_append,List.mem_singleton,not_or]
          exact ⟨behind node,Place.extend_ne⟩
    · obtain ⟨spot,found,wanted,absent,untold⟩ := mail.asking asker other (older old)
      refine ⟨spot,concat_getElem?.mpr (.inl found),wanted,absent,?_⟩
      intro node own
      constructor
      · simp only [Multiset.mem_cons,Multiset.mem_add,task_mem_questions,Duty.task.injEq,reduceCtorEq,false_or]
        exact fun sent => (untold node own).1 (older sent)
      · rw [List.mem_append,List.mem_singleton,not_or]
        refine ⟨(untold node own).2,fun same => ?_⟩
        rw [opens.extend nodup found same] at untold
        exact (untold node own).1 (Multiset.mem_cons_self _ _)
  case seated =>
    intro other waiter waits
    obtain ⟨spot,found,wanted⟩ := mail.seated other waiter waits
    exact ⟨spot,concat_getElem?.mpr (.inl found),wanted⟩
  case joined =>
    intro walk spot found other wanted told
    simp only [Multiset.mem_cons,Multiset.mem_add,ask_mem_questions,reduceCtorEq,false_or,not_or] at told
    rcases concat_getElem?.mp found with old | ⟨rfl,rfl⟩
    · refine mail.joined walk spot old other wanted ?_
      rw [Multiset.mem_cons,not_or]
      exact ⟨by simp,told.2⟩
    · exact absurd ⟨rfl,wanted⟩ told.1
  case delivery =>
    intro receiver node member
    simp only [Multiset.mem_cons,Multiset.mem_add,task_mem_questions,Duty.task.injEq,reduceCtorEq,false_or] at member
    obtain ⟨spot,found,wanted,shown,unpassed⟩ := mail.delivery receiver node (older member)
    refine ⟨spot,concat_getElem?.mpr (.inl found),wanted,shown,?_⟩
    rw [List.mem_append,List.mem_singleton,not_or]
    refine ⟨unpassed,fun same => ?_⟩
    rw [opens.extend nodup found same] at taken
    exact taken member
  case delivered =>
    intro walk spot found node wanted told shown
    simp only [Multiset.mem_cons,Multiset.mem_add,ask_mem_questions,reduceCtorEq,false_or,not_or] at told
    rcases concat_getElem?.mp found with old | ⟨rfl,rfl⟩
    · rcases mail.delivered walk spot old node wanted (by
        rw [Multiset.mem_cons,not_or]
        exact ⟨by simp,told.2⟩) shown with member | passed | refused
      · rcases Multiset.mem_cons.mp member with equal | sent
        · cases opens with
          | enter goal => cases Duty.task.inj equal
          | @deliver id before last at_id admitted =>
            obtain ⟨rfl,rfl⟩ := Task.deliver.inj (Duty.task.inj equal)
            rw [at_id] at old
            obtain rfl := Option.some.inj old
            exact .inr (.inl (List.mem_append_right _ (List.mem_singleton_self _)))
        · exact .inl (more sent)
      · exact .inr (.inl (List.mem_append_left _ passed))
      · exact .inr (.inr refused)
    · exact absurd ⟨rfl,wanted⟩ told.1
  case passed =>
    intro spot node passed
    rw [List.mem_append,List.mem_singleton] at passed
    rcases passed with old | same
    · obtain ⟨before,shown⟩ := mail.passed spot node old
      exact ⟨List.mem_append_left _ before,shown⟩
    · cases opens with
      | enter goal => exact absurd same.symm Place.first_ne_extend
      | @deliver id before last at_id admitted =>
        obtain ⟨rfl,rfl⟩ := Place.extend_inj.mp same
        obtain ⟨_,_,_,shown,_⟩ := mail.delivery id node (Multiset.mem_cons_self _ _)
        exact ⟨List.mem_append_left _ (List.mem_of_getElem? at_id),shown⟩

theorem Mail.walk_of_extends {duties : Multiset Duty} {further : Place} (mail : Mail problem places asked entryAt duties)
    (walk : further ∈ places) (extended : further.Extends place) : place ∈ places := by
  induction further using Place.rec_trail with
  | start goal => exact Place.first_extends extended ▸ walk
  | step further node ih =>
    rcases Place.extends_cases extended with rfl | shorter
    · exact walk
    · exact ih (mail.passed further node walk).1 shorter

theorem Family.push {grammar : Grammar} {frame : Walk} (family : Family grammar frames)
    (fresh : frame.place ∉ frames.map Walk.place)
    (layout : frame.position = frame.place.position ∧ frame.states = frame.place.states grammar ∧
      frame.visited = frame.place.visited grammar)
    (lineage : frame.trail = [] ∧ frame.lineage = [] ∨ ∃ (before : WalkId) (parent : Walk) (node : Node),
      frames[before]? = some parent ∧ frame.place = parent.place.extend node ∧ frame.lineage = before :: parent.lineage) :
    Family grammar (frames ++ [frame]) := by
  refine ⟨?_,?_,?_⟩
  · intro id walk found
    rcases concat_getElem?.mp found with old | ⟨_,rfl⟩
    · exact family.layout id walk old
    · exact layout
  · intro id walk found
    have older : ∀ (walk : Walk), walk.trail = [] ∧ walk.lineage = [] ∨ (∃ (before : WalkId) (parent : Walk) (node : Node),
        frames[before]? = some parent ∧ walk.place = parent.place.extend node ∧ walk.lineage = before :: parent.lineage) →
        walk.trail = [] ∧ walk.lineage = [] ∨ ∃ (before : WalkId) (parent : Walk) (node : Node),
        (frames ++ [frame])[before]? = some parent ∧ walk.place = parent.place.extend node ∧
          walk.lineage = before :: parent.lineage := by
      rintro walk (first | ⟨before,parent,node,at_before,rest⟩)
      · exact .inl first
      · exact .inr ⟨before,parent,node,concat_getElem?.mpr (.inl at_before),rest⟩
    rcases concat_getElem?.mp found with old | ⟨_,rfl⟩
    · exact older walk (family.lineage id walk old)
    · exact older walk lineage
  · rw [List.map_append,List.map_singleton,← List.concat_eq_append]
    exact family.places.concat fresh

theorem Family.parent_lt {grammar : Grammar} (family : Family grammar frames) {child : WalkId}
    (parent : parentAt frames child = some id) : id < frames.length := by
  obtain ⟨walk,found,head⟩ := Option.bind_eq_some_iff.mp parent
  rcases family.lineage child walk found with ⟨_,none_before⟩ | ⟨before,_,_,at_before,_,lineage⟩
  · rw [none_before] at head
    cases head
  · rw [lineage] at head
    rw [← Option.some.inj head]
    exact (List.getElem?_eq_some_iff.mp at_before).1

theorem heirs_push {frame : Walk} {count : Nat} (positive : count ≠ 0) :
    (heirs (frames ++ [frame]) (fun child => if child = frames.length then count else pendingAt child) id).card =
      (heirs frames pendingAt id).card + if frame.lineage.head? = some id then 1 else 0 := by
  have same : (Finset.range frames.length).filter (fun child => parentAt (frames ++ [frame]) child = some id ∧
      (if child = frames.length then count else pendingAt child) ≠ 0) = heirs frames pendingAt id := by
    refine Finset.filter_congr ?_
    intro child inside
    have before := Finset.mem_range.mp inside
    rw [parentAt,parentAt,List.getElem?_append_left before,if_neg (Nat.ne_of_lt before)]
  have last : parentAt (frames ++ [frame]) frames.length = frame.lineage.head? := by
    rw [parentAt,List.getElem?_concat_length]
    rfl
  unfold heirs at same ⊢
  rw [List.length_append,List.length_singleton,Finset.range_add_one,Finset.filter_insert,same,last]
  simp only [if_true]
  by_cases heir : frame.lineage.head? = some id
  · rw [if_pos ⟨heir,positive⟩,if_pos heir,Finset.card_insert_of_notMem]
    simp
  · rw [if_neg fun both => heir both.1,if_neg heir,Nat.add_zero]

theorem questions_burdens : (questions new site).countP (fun duty => duty.burdens id = true) =
    if id = new then site.length else 0 := by
  rw [questions,Multiset.coe_countP,List.countP_map]
  split
  · rename_i same
    refine List.countP_eq_length.mpr ?_
    intro goal _
    simp [Duty.burdens,same]
  · rename_i different
    refine List.countP_eq_zero.mpr ?_
    intro goal _
    simpa [Duty.burdens] using Ne.symm different

theorem questions_asks (nodup : site.Nodup) : (questions new site).countP (fun duty => duty.asksFor goal = true) =
    if goal ∈ site then 1 else 0 := by
  rw [← List.Nodup.count nodup,questions,Multiset.coe_countP,List.countP_map,List.count]
  refine List.countP_congr ?_
  intro other _
  simp [Duty.asksFor]

-- Nothing is owed to a walk that is not there yet.
theorem Mail.unburdened {duties : Multiset Duty} (mail : Mail problem places asked entryAt duties) :
    duties.countP (fun duty => duty.burdens places.length = true) = 0 := by
  refine Multiset.countP_eq_zero.mpr ?_
  intro duty member burdens
  cases duty with
  | ask id goal =>
    obtain rfl := beq_iff_eq.mp burdens
    obtain ⟨_,found,_⟩ := mail.asking _ goal member
    exact Nat.lt_irrefl _ (List.getElem?_eq_some_iff.mp found).1
  | task task =>
    cases task with
    | request goal => cases burdens
    | enter goal => cases burdens
    | deliver id node =>
      obtain rfl := beq_iff_eq.mp burdens
      obtain ⟨_,found,_⟩ := mail.delivery _ node member
      exact Nat.lt_irrefl _ (List.getElem?_eq_some_iff.mp found).1
    | exhausted id =>
      obtain rfl := beq_iff_eq.mp burdens
      exact Nat.lt_irrefl _ (mail.notice _ member)

theorem Balanced.push {frame : Walk} (balanced : Balanced problem frames entryAt pendingAt (.task task ::ₘ rest))
    (mail : Mail problem (frames.map Walk.place) asked entryAt (.task task ::ₘ rest))
    (family : Family problem.grammar frames)
    (parent : ∀ id, frame.lineage.head? = some id ↔ (Duty.task task).burdens id = true) :
    Balanced problem (frames ++ [frame]) entryAt
      (fun id => if id = frames.length then 1 + (frame.place.site problem.grammar).length else pendingAt id)
      (.task (.exhausted frames.length) ::ₘ (questions frames.length (frame.place.site problem.grammar) + rest)) := by
  intro id walk found
  have positive : 1 + (frame.place.site problem.grammar).length ≠ 0 := by omega
  rw [heirs_push positive,Multiset.countP_cons,Multiset.countP_add,questions_burdens]
  rcases concat_getElem?.mp found with old | ⟨rfl,rfl⟩
  · have before := balanced id walk old
    have apart : id ≠ frames.length := Nat.ne_of_lt (List.getElem?_eq_some_iff.mp old).1
    have self : Duty.burdens id (.task (.exhausted frames.length)) = false := by
      simpa [Duty.burdens] using Ne.symm apart
    rw [Multiset.countP_cons] at before
    simp only [parent,apart,self,if_false,Bool.false_eq_true] at before ⊢
    omega
  · have unburdened := mail.unburdened
    rw [List.length_map,Multiset.countP_cons] at unburdened
    have nobody : seats entryAt frames.length (walk.place.site problem.grammar) = ∅ := by
      refine Finset.filter_eq_empty_iff.mpr ?_
      intro other _ waits
      obtain ⟨_,there,_⟩ := mail.seated other _ waits
      have := (List.getElem?_eq_some_iff.mp there).1
      rw [List.length_map] at this
      exact Nat.lt_irrefl _ this
    have childless : heirs frames pendingAt frames.length = ∅ := by
      refine Finset.filter_eq_empty_iff.mpr ?_
      rintro child _ ⟨isParent,_⟩
      exact Nat.lt_irrefl _ (family.parent_lt isParent)
    have self : Duty.burdens frames.length (.task (.exhausted frames.length)) = true := beq_self_eq_true _
    rw [nobody,childless]
    simp only [parent,if_true,self,Finset.card_empty] at unburdened ⊢
    omega

theorem Tallied.push (tallied : Tallied problem goals places entryAt (.task task ::ₘ rest) made) :
    Tallied problem goals (places ++ [place]) entryAt
      (.task (.exhausted places.length) ::ₘ (questions places.length (place.site problem.grammar) + rest)) made := by
  have more : ∀ goal, wanting problem (places ++ [place]) goal =
      wanting problem places goal + if goal ∈ place.site problem.grammar then 1 else 0 := by
    intro goal
    rw [wanting,wanting,List.countP_append,List.countP_singleton]
    simp
  have asks : ∀ goal, (.task (.exhausted places.length) ::ₘ (questions places.length (place.site problem.grammar) + rest)).countP
      (fun duty => duty.asksFor goal = true) =
      (.task task ::ₘ rest).countP (fun duty => duty.asksFor goal = true) + if goal ∈ place.site problem.grammar then 1 else 0 := by
    intro goal
    rw [Multiset.countP_cons,Multiset.countP_add,questions_asks Place.site_nodup,Multiset.countP_cons]
    simp [Duty.asksFor,Nat.add_comm]
  refine ⟨?_,?_,?_⟩
  · intro goal
    have := tallied.wanted goal
    rw [asks,more]
    omega
  · intro goal unsettled
    have := tallied.seated goal unsettled
    rw [asks,more]
    omega
  · have joins : ∀ goal, joining problem (places ++ [place])
        (.task (.exhausted places.length) ::ₘ (questions places.length (place.site problem.grammar) + rest)) goal =
        joining problem places (.task task ::ₘ rest) goal := by
      intro goal
      rw [joining,joining,asks,more]
      omega
    simp only [joins]
    exact tallied.made

theorem ended_push {count : Nat} (positive : count ≠ 0) :
    endedPlaces (places ++ [place]) (fun id => if id = places.length then count else pendingAt id) =
      endedPlaces places pendingAt := by
  ext spot
  constructor
  · rintro ⟨id,found,zero⟩
    rcases concat_getElem?.mp found with old | ⟨rfl,rfl⟩
    · have apart : id ≠ places.length := Nat.ne_of_lt (List.getElem?_eq_some_iff.mp old).1
      simp only [apart,if_false] at zero
      exact ⟨id,old,zero⟩
    · simp only [if_true] at zero
      exact absurd zero positive
  · rintro ⟨id,found,zero⟩
    have apart : id ≠ places.length := Nat.ne_of_lt (List.getElem?_eq_some_iff.mp found).1
    exact ⟨id,concat_getElem?.mpr (.inl found),by simpa [apart] using zero⟩

end

end ParseForest.Session
