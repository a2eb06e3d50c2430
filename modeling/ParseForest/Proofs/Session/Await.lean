import Mathlib
import ParseForest.Proofs.Session.Record

namespace ParseForest.Session

-- What a walk is told when it joins a goal, and the entry that it leaves.
def greetings (entry : Entry) (id : WalkId) : List Task :=
  (if entry.status = .unsettled then [] else [.exhausted id]) ++ (entry.published.map (.deliver id ·)).reverse

def Entry.join (entry : Entry) (id : WalkId) : Entry :=
  if entry.status = .unsettled then { entry with waiting := id :: entry.waiting } else entry

section

variable {entry : Entry} {id other : WalkId} {node : Node} {goal : Goal}

@[simp] theorem Entry.join_status : (entry.join id).status = entry.status := by
  unfold join
  split <;> rfl

@[simp] theorem Entry.join_published : (entry.join id).published = entry.published := by
  unfold join
  split <;> rfl

@[simp] theorem Entry.join_derivations : (entry.join id).derivations = entry.derivations := by
  unfold join
  split <;> rfl

theorem Entry.mem_join : other ∈ (entry.join id).waiting ↔
    entry.status = .unsettled ∧ other = id ∨ other ∈ entry.waiting := by
  unfold join
  split
  · rename_i unsettled
    simp [unsettled]
  · rename_i closed
    simp [closed]

@[simp] theorem deliver_mem_greetings : .deliver other node ∈ greetings entry id ↔ other = id ∧ node ∈ entry.published := by
  unfold greetings
  split <;> simp [eq_comm,and_comm]

@[simp] theorem exhausted_mem_greetings : .exhausted other ∈ greetings entry id ↔ entry.status ≠ .unsettled ∧ other = id := by
  unfold greetings
  split
  · rename_i unsettled
    simp [unsettled]
  · rename_i closed
    simp [closed]

@[simp] theorem request_mem_greetings : .request goal ∉ greetings entry id := by
  unfold greetings
  split <;> simp

@[simp] theorem enter_mem_greetings : .enter goal ∉ greetings entry id := by
  unfold greetings
  split <;> simp

theorem greetings_length : (greetings entry id).length = entry.messages := by
  unfold greetings Entry.messages
  split
  · simp
  · simp

theorem greetings_burdens : (owe (greetings entry id)).countP (fun duty => duty.burdens other = true) =
    if other = id then entry.messages else 0 := by
  have all : ∀ duty ∈ owe (greetings entry id), (duty.burdens other = true ↔ other = id) := by
    intro duty member
    obtain ⟨task,inside,rfl⟩ := List.mem_map.mp (Multiset.mem_coe.mp member)
    cases task with
    | request goal => exact absurd inside request_mem_greetings
    | enter goal => exact absurd inside enter_mem_greetings
    | deliver receiver node =>
      obtain ⟨rfl,_⟩ := deliver_mem_greetings.mp inside
      exact beq_iff_eq.trans eq_comm
    | exhausted receiver =>
      obtain ⟨_,rfl⟩ := exhausted_mem_greetings.mp inside
      exact beq_iff_eq.trans eq_comm
  split
  · rename_i same
    rw [Multiset.countP_eq_card.mpr fun duty member => (all duty member).mpr same,← @greetings_length entry id]
    simp [owe]
  · rename_i different
    exact Multiset.countP_eq_zero.mpr fun duty member burdens => different ((all duty member).mp burdens)

theorem greetings_once (published : entry.published.Nodup) :
    ((owe (greetings entry id)).filter fun duty => duty.isNotice = false).Nodup := by
  unfold greetings
  rw [owe_append,Multiset.filter_add]
  have notice : (owe (if entry.status = .unsettled then [] else [.exhausted id])).filter
      (fun duty => duty.isNotice = false) = 0 := by
    split
    · rfl
    · rfl
  rw [notice,zero_add]
  refine Multiset.Nodup.filter _ ?_
  rw [owe,Multiset.coe_nodup]
  refine List.Nodup.map (fun _ _ same => Duty.task.inj same) (List.nodup_reverse.mpr ?_)
  exact published.map fun _ _ same => (Task.deliver.inj same).2

end

section

variable {problem : Problem} {goals : List Goal} {frames : List Walk} {places : List Place} {asked : Set Goal}
  {entryAt : Goal → Entry} {rest : Multiset Duty} {active made : Nat} {pendingAt : WalkId → Nat}
  {goal : Goal} {id : WalkId}

theorem update_published {entry : Entry} (same : entry.published = (entryAt goal).published) (other : Goal) :
    (Function.update entryAt goal entry other).published = (entryAt other).published := by
  by_cases here : other = goal
  · subst here
    rw [Function.update_self,same]
  · rw [Function.update_of_ne here]

theorem update_status {entry : Entry} (same : entry.status = (entryAt goal).status) (other : Goal) :
    (Function.update entryAt goal entry other).status = (entryAt other).status := by
  by_cases here : other = goal
  · subst here
    rw [Function.update_self,same]
  · rw [Function.update_of_ne here]

theorem mem_join_waiting {other : Goal} {receiver : WalkId} :
    receiver ∈ (Function.update entryAt goal ((entryAt goal).join id) other).waiting ↔
      other = goal ∧ (entryAt goal).status = .unsettled ∧ receiver = id ∨ receiver ∈ (entryAt other).waiting := by
  by_cases here : other = goal
  · subst here
    rw [Function.update_self,Entry.mem_join]
    simp
  · rw [Function.update_of_ne here]
    simp [here]

theorem Mail.await (mail : Mail problem places asked entryAt (.ask id goal ::ₘ rest)) (known : goal ∈ asked)
    (published : (entryAt goal).published.Nodup) (own : ∀ node ∈ (entryAt goal).published, node.goal = goal) :
    Mail problem places asked (Function.update entryAt goal ((entryAt goal).join id))
      (owe (greetings (entryAt goal) id) + rest) := by
  obtain ⟨onceHere,onceRest⟩ := mail.take rfl
  obtain ⟨place,found,wanted,absent,untold⟩ := mail.asking id goal (Multiset.mem_cons_self _ _)
  have posts : ∀ other, (Function.update entryAt goal ((entryAt goal).join id) other).published = (entryAt other).published :=
    update_published Entry.join_published
  have states : ∀ other, (Function.update entryAt goal ((entryAt goal).join id) other).status = (entryAt other).status :=
    update_status Entry.join_status
  constructor
  case once =>
    rw [Multiset.filter_add,Multiset.nodup_add]
    refine ⟨greetings_once published,onceRest,?_⟩
    refine Multiset.disjoint_left.mpr ?_
    intro duty new old
    obtain ⟨member,letter⟩ := Multiset.mem_filter.mp new
    obtain ⟨task,inside,rfl⟩ := List.mem_map.mp (Multiset.mem_coe.mp member)
    cases task with
    | request other => exact request_mem_greetings inside
    | enter other => exact enter_mem_greetings inside
    | exhausted receiver => simp [Duty.isNotice] at letter
    | deliver receiver node =>
      obtain ⟨rfl,shown⟩ := deliver_mem_greetings.mp inside
      exact (untold node (own node shown)).1 (Multiset.mem_cons_of_mem (Multiset.mem_filter.mp old).1)
  case request =>
    intro other member
    simp only [Multiset.mem_add,task_mem_owe,request_mem_greetings,false_or] at member
    exact mail.request other (Multiset.mem_cons_of_mem member)
  case rooted =>
    refine mail.rooted.imp_right fun member => ?_
    exact Multiset.mem_add.mpr (.inr ((Multiset.mem_cons.mp member).resolve_left (by simp)))
  case enter =>
    intro other member
    simp only [Multiset.mem_add,task_mem_owe,enter_mem_greetings,false_or] at member
    exact mail.enter other (Multiset.mem_cons_of_mem member)
  case entered =>
    intro other member production
    refine (mail.entered other member production).imp_left fun member => ?_
    exact Multiset.mem_add.mpr (.inr ((Multiset.mem_cons.mp member).resolve_left (by simp)))
  case notice =>
    intro receiver member
    simp only [Multiset.mem_add,task_mem_owe,exhausted_mem_greetings] at member
    rcases member with ⟨_,rfl⟩ | old
    · exact (List.getElem?_eq_some_iff.mp found).1
    · exact mail.notice receiver (Multiset.mem_cons_of_mem old)
  case asking =>
    intro receiver other member
    simp only [Multiset.mem_add,ask_mem_owe,false_or] at member
    have different : ¬(receiver = id ∧ other = goal) := by
      rintro ⟨rfl,rfl⟩
      exact onceHere member
    obtain ⟨spot,at_to,wantedThere,absentThere,untoldThere⟩ := mail.asking receiver other (Multiset.mem_cons_of_mem member)
    refine ⟨spot,at_to,wantedThere,?_,?_⟩
    · rw [mem_join_waiting]
      rintro (⟨rfl,_,rfl⟩ | here)
      · exact different ⟨rfl,rfl⟩
      · exact absentThere here
    · intro node ownThere
      refine ⟨?_,(untoldThere node ownThere).2⟩
      simp only [Multiset.mem_add,task_mem_owe,deliver_mem_greetings,not_or]
      refine ⟨?_,fun old => (untoldThere node ownThere).1 (Multiset.mem_cons_of_mem old)⟩
      rintro ⟨rfl,shown⟩
      exact different ⟨rfl,ownThere.symm.trans (own node shown)⟩
  case seated =>
    intro other receiver member
    rcases mem_join_waiting.mp member with ⟨rfl,_,rfl⟩ | old
    · exact ⟨place,found,wanted⟩
    · exact mail.seated other receiver old
  case joined =>
    intro receiver spot at_to other wantedThere told
    simp only [Multiset.mem_add,ask_mem_owe,false_or] at told
    rw [states,mem_join_waiting]
    by_cases same : receiver = id ∧ other = goal
    · obtain ⟨rfl,rfl⟩ := same
      refine ⟨known,?_⟩
      by_cases unsettled : (entryAt other).status = .unsettled
      · exact .inr (.inl ⟨rfl,unsettled,rfl⟩)
      · exact .inl unsettled
    · obtain ⟨knownThere,state⟩ := mail.joined receiver spot at_to other wantedThere (by
        rw [Multiset.mem_cons,not_or]
        refine ⟨?_,told⟩
        rintro ⟨rfl,rfl⟩
        exact same ⟨rfl,rfl⟩)
      exact ⟨knownThere,state.imp_right .inr⟩
  case delivery =>
    intro receiver node member
    rw [posts]
    simp only [Multiset.mem_add,task_mem_owe,deliver_mem_greetings] at member
    rcases member with ⟨rfl,shown⟩ | old
    · have here := own node shown
      exact ⟨place,found,here ▸ wanted,here ▸ shown,(untold node here).2⟩
    · exact mail.delivery receiver node (Multiset.mem_cons_of_mem old)
  case delivered =>
    intro receiver spot at_to node wantedThere told shown
    rw [posts] at shown
    simp only [Multiset.mem_add,ask_mem_owe,false_or] at told
    simp only [Multiset.mem_add,task_mem_owe,deliver_mem_greetings]
    by_cases same : receiver = id ∧ node.goal = goal
    · obtain ⟨rfl,here⟩ := same
      exact .inl (.inl ⟨rfl,here ▸ shown⟩)
    · have told' : .ask receiver node.goal ∉ .ask id goal ::ₘ rest := by
        rw [Multiset.mem_cons,not_or]
        refine ⟨?_,told⟩
        intro equal
        exact same ⟨(Duty.ask.inj equal).1,(Duty.ask.inj equal).2⟩
      refine (mail.delivered receiver spot at_to node wantedThere told' shown).imp_left fun member => ?_
      exact .inr ((Multiset.mem_cons.mp member).resolve_left (by simp))
  case passed =>
    intro spot node passed
    rw [posts]
    exact mail.passed spot node passed

theorem seats_join {walk : WalkId} {site : List Goal} (absent : id ∉ (entryAt goal).waiting)
    (wanted : walk = id → goal ∈ site) :
    (seats (Function.update entryAt goal ((entryAt goal).join id)) walk site).card =
      (seats entryAt walk site).card + if walk = id ∧ (entryAt goal).status = .unsettled then 1 else 0 := by
  split
  · rename_i joins
    obtain ⟨rfl,unsettled⟩ := joins
    have more : seats (Function.update entryAt goal ((entryAt goal).join walk)) walk site =
        insert goal (seats entryAt walk site) := by
      ext other
      simp only [seats,Finset.mem_filter,mem_join_waiting,unsettled,and_true,Finset.mem_insert,List.mem_toFinset]
      constructor
      · rintro ⟨member,here | old⟩
        · exact .inl here
        · exact .inr ⟨member,old⟩
      · rintro (rfl | ⟨member,old⟩)
        · exact ⟨wanted rfl,.inl rfl⟩
        · exact ⟨member,.inr old⟩
    rw [more,Finset.card_insert_of_notMem]
    simp [seats,absent]
  · rename_i stays
    have same : seats (Function.update entryAt goal ((entryAt goal).join id)) walk site = seats entryAt walk site := by
      refine Finset.filter_congr ?_
      intro other _
      rw [mem_join_waiting]
      refine or_iff_right ?_
      rintro ⟨_,unsettled,rfl⟩
      exact stays ⟨rfl,unsettled⟩
    rw [same,Nat.add_zero]

theorem Balanced.burden_pos {duties : Multiset Duty} {duty : Duty} {walk : Walk}
    (balanced : Balanced problem frames entryAt pendingAt duties) (found : frames[id]? = some walk)
    (member : duty ∈ duties) (burdens : duty.burdens id = true) : pendingAt id ≠ 0 := by
  have positive : 0 < duties.countP fun duty => duty.burdens id = true := Multiset.countP_pos.mpr ⟨duty,member,burdens⟩
  rw [balanced id walk found]
  omega

theorem raise_iff {count : Nat} (busy : pendingAt id ≠ 0) (other : WalkId) :
    (pendingAt other + if other = id then count else 0) ≠ 0 ↔ pendingAt other ≠ 0 := by
  by_cases here : other = id
  · subst here
    simp [busy]
  · simp [here]

theorem Balanced.await (balanced : Balanced problem frames entryAt pendingAt (.ask id goal ::ₘ rest))
    (mail : Mail problem (frames.map Walk.place) asked entryAt (.ask id goal ::ₘ rest)) :
    Balanced problem frames (Function.update entryAt goal ((entryAt goal).join id))
      (fun other => pendingAt other + if other = id then (entryAt goal).published.length else 0)
      (owe (greetings (entryAt goal) id) + rest) := by
  obtain ⟨place,found,wanted,absent,_⟩ := mail.asking id goal (Multiset.mem_cons_self _ _)
  rw [List.getElem?_map] at found
  obtain ⟨asker,at_id,rfl⟩ := Option.map_eq_some_iff.mp found
  have busy : pendingAt id ≠ 0 := balanced.burden_pos at_id (Multiset.mem_cons_self _ _) (by simp [Duty.burdens])
  intro other walk at_other
  have before := balanced other walk at_other
  rw [heirs_raise (raise_iff busy),Multiset.countP_add,greetings_burdens,seats_join absent (by
    rintro rfl
    rw [at_id] at at_other
    exact Option.some.inj at_other ▸ wanted)]
  rw [Multiset.countP_cons] at before
  by_cases here : other = id
  · subst here
    simp only [Duty.burdens,beq_self_eq_true,if_true,true_and,Entry.messages] at before ⊢
    split <;> omega
  · have apart : id ≠ other := fun equal => here equal.symm
    simp only [Duty.burdens,beq_iff_eq,apart,here,if_false,false_and] at before ⊢
    omega

theorem Tallied.await (tallied : Tallied problem goals places entryAt (.ask id goal ::ₘ rest) made)
    (books : Books goals asked entryAt active) (known : goal ∈ asked) :
    Tallied problem goals places (Function.update entryAt goal ((entryAt goal).join id))
      (owe (greetings (entryAt goal) id) + rest) (made + (greetings (entryAt goal) id).length) := by
  have asks : ∀ other, (owe (greetings (entryAt goal) id) + rest).countP (fun duty => duty.asksFor other = true) =
      rest.countP (fun duty => duty.asksFor other = true) := by
    exact fun _ => asks_add_owe
  have taken : ∀ other, (.ask id goal ::ₘ rest).countP (fun duty => duty.asksFor other = true) =
      rest.countP (fun duty => duty.asksFor other = true) + if goal = other then 1 else 0 := by
    intro other
    rw [Multiset.countP_cons]
    simp [Duty.asksFor]
  refine ⟨?_,?_,?_⟩
  · intro other
    have before := tallied.wanted other
    rw [taken] at before
    rw [asks]
    omega
  · intro other unsettled
    rw [update_status Entry.join_status] at unsettled
    have before := tallied.seated other unsettled
    rw [taken] at before
    rw [asks]
    by_cases same : other = goal
    · subst same
      simp only [if_true] at before
      simp only [Function.update_self,Entry.join,unsettled,if_true,List.length_cons]
      omega
    · rw [if_neg (Ne.symm same)] at before
      rw [Function.update_of_ne same]
      omega
  · have joins : ∀ other, joining problem places (owe (greetings (entryAt goal) id) + rest) other =
        joining problem places (.ask id goal ::ₘ rest) other + if goal = other then 1 else 0 := by
      intro other
      have before := tallied.wanted other
      rw [taken] at before
      rw [joining,joining,asks,taken]
      omega
    have same : ∀ other, (Function.update entryAt goal ((entryAt goal).join id) other).messages = (entryAt other).messages := by
      intro other
      rw [Entry.messages,Entry.messages,update_published Entry.join_published,update_status Entry.join_status]
    simp only [same]
    have listed : goal ∈ goals := (books.listed goal).mpr known
    have change := @sum_update goals goal
      (fun other => joining problem places (.ask id goal ::ₘ rest) other * (entryAt other).messages)
      (fun other => joining problem places (owe (greetings (entryAt goal) id) + rest) other * (entryAt other).messages)
      books.nodup listed (fun other different => by simp only [joins,if_neg (Ne.symm different),Nat.add_zero])
    have here := joins goal
    simp only [if_true] at here
    rw [here,Nat.add_mul,Nat.one_mul] at change
    rw [greetings_length,tallied.made]
    omega

theorem Books.await (books : Books goals asked entryAt active) (known : goal ∈ asked)
    (absent : id ∉ (entryAt goal).waiting) :
    Books goals asked (Function.update entryAt goal ((entryAt goal).join id)) active := by
  constructor
  case listed => exact books.listed
  case nodup => exact books.nodup
  case active =>
    simp only [update_status Entry.join_status]
    exact books.active
  case unasked =>
    intro other unasked
    have different : other ≠ goal := fun same => unasked (same ▸ known)
    rw [Function.update_of_ne different]
    exact books.unasked other unasked
  case recorded =>
    intro other
    by_cases same : other = goal
    · subst same
      rw [Function.update_self,Entry.join_derivations]
      exact books.recorded other
    · rw [Function.update_of_ne same]
      exact books.recorded other
  case published =>
    intro other
    rw [update_published Entry.join_published]
    exact books.published other
  case own =>
    intro other
    rw [update_published Entry.join_published]
    exact books.own other
  case waiting =>
    intro other
    by_cases same : other = goal
    · subst same
      rw [Function.update_self,Entry.join]
      split
      · exact List.nodup_cons.mpr ⟨absent,books.waiting other⟩
      · exact books.waiting other
    · rw [Function.update_of_ne same]
      exact books.waiting other
  case closed =>
    intro other closed
    rw [update_status Entry.join_status] at closed
    by_cases same : other = goal
    · subst same
      rw [Function.update_self,Entry.join,if_neg closed]
      exact books.closed other closed
    · rw [Function.update_of_ne same]
      exact books.closed other closed

end

namespace State

variable {problem : Problem} {s : State} {goal : Goal} {id : WalkId} {rest : Multiset Duty}

theorem Good.await (good : Good problem s (.ask id goal ::ₘ rest)) (known : goal ∈ s.asked) :
    Sent s (s.await id goal) (greetings (s.entryAt goal) id) 0 ∧
      Good problem (s.await id goal) (owe (greetings (s.entryAt goal) id) + rest) ∧
      (s.await id goal).chart = s.chart := by
  have update : Update s goal ((s.entryAt goal).join id) (List.replicate (s.entryAt goal).published.length id)
      (greetings (s.entryAt goal) id) (s.await id goal) := await_update known
  obtain ⟨place,found,wanted,absent,_⟩ := good.mail.asking id goal (Multiset.mem_cons_self _ _)
  have pending : (s.await id goal).pendingAt = fun other =>
      s.pendingAt other + if other = id then (s.entryAt goal).published.length else 0 := by
    rw [update.pendingAt_eq (by
      intro other member
      rw [List.eq_of_mem_replicate member,← places_length]
      exact (List.getElem?_eq_some_iff.mp found).1)]
    funext other
    rw [List.count_replicate]
    by_cases same : other = id
    · simp [same]
    · simp [same,Ne.symm same]
  obtain ⟨walk,at_id,_⟩ := Option.map_eq_some_iff.mp (places_getElem?.symm.trans found)
  have busy : s.pendingAt id ≠ 0 := good.balance.burden_pos at_id (Multiset.mem_cons_self _ _) (by simp [Duty.burdens])
  have ended : endedPlaces (s.await id goal).places (s.await id goal).pendingAt = endedPlaces s.places s.pendingAt := by
    rw [update.places_eq,pending]
    exact ended_raise (raise_iff busy)
  refine ⟨update.sent (fun _ => request_mem_greetings),⟨?_,?_,?_,?_,?_,?_,update.breaches.trans good.breaches⟩,?_⟩
  · rw [update.goals,update.asked_eq,update.entryAt_eq,update.active]
    exact good.books.await known absent
  · rw [update.frames_eq]
    exact good.family
  · rw [update.places_eq,update.asked_eq,update.entryAt_eq]
    exact good.mail.await known (good.books.published goal) (good.books.own goal)
  · rw [update.frames_eq,update.entryAt_eq,pending]
    exact good.balance.await good.mail_frames
  · intro other place here greedy
    rw [ended,update.extendedAt_eq]
    exact good.flags other place (update.places_eq ▸ here) greedy
  · rw [update.goals,update.places_eq,update.entryAt_eq,update.finished,update.held,← Nat.add_assoc]
    exact good.tally.await good.books known
  · rw [update.chart_eq (by rw [chart_ended,chart_ended,ended]),Entry.join_status,Entry.join_derivations,Entry.join_published]
    exact Chart.ext rfl (Function.update_eq_self _ _) (Function.update_eq_self _ _) (Function.update_eq_self _ _)
      rfl rfl rfl rfl

end State

end ParseForest.Session
