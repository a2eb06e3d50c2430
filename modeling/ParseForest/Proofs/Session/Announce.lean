import Mathlib
import ParseForest.Proofs.Session.Laws

namespace ParseForest.Session

-- A change of one goal's entry that makes nodes public and may close the goal. Those that wait are
-- split into those dismissed, who get a notice, and those who wait on.
structure Announcement (goal : Goal) (entry next : Entry) (fresh : List Node) (notices : List WalkId) : Prop where
  nodup : fresh.Nodup
  unknown : ∀ node ∈ fresh, node ∉ entry.published
  own : ∀ node ∈ fresh, node.goal = goal
  recorded : entry.derivations.Nodup → next.derivations.Nodup
  published : next.published = fresh ++ entry.published
  waiting : entry.waiting = notices ++ next.waiting
  opened : fresh ≠ [] → entry.status = .unsettled
  kept : entry.status ≠ .unsettled → next.status ≠ .unsettled
  closed : next.status ≠ .unsettled → next.waiting = []
  dismissed : notices ≠ [] → next.status ≠ .unsettled

def letters (fresh : List Node) (waiting notices : List WalkId) : List Task :=
  notices.map .exhausted ++ fresh.flatMap fun node => waiting.map (.deliver · node)

section

variable {fresh : List Node} {waiting notices : List WalkId} {id : WalkId} {node : Node} {goal : Goal}

@[simp] theorem deliver_mem_letters : .deliver id node ∈ letters fresh waiting notices ↔ node ∈ fresh ∧ id ∈ waiting := by
  simp [letters,and_comm]

@[simp] theorem exhausted_mem_letters : .exhausted id ∈ letters fresh waiting notices ↔ id ∈ notices := by
  simp [letters]

@[simp] theorem request_mem_letters : .request goal ∉ letters fresh waiting notices := by
  simp [letters]

@[simp] theorem enter_mem_letters : .enter goal ∉ letters fresh waiting notices := by
  simp [letters]

theorem letters_length : (letters fresh waiting notices).length = notices.length + fresh.length * waiting.length := by
  simp [letters,List.length_flatMap]

theorem letters_burdens : (owe (letters fresh waiting notices)).countP (fun duty => duty.burdens id = true) =
    notices.count id + fresh.length * waiting.count id := by
  have notice : ∀ ids : List WalkId, (owe (ids.map .exhausted)).countP (fun duty => duty.burdens id = true) = ids.count id := by
    intro ids
    simp [owe,List.countP_map,List.count,Function.comp_def,Duty.burdens]
  have delivery : ∀ node, (owe (waiting.map (.deliver · node))).countP (fun duty => duty.burdens id = true) =
      waiting.count id := by
    intro node
    simp [owe,List.countP_map,List.count,Function.comp_def,Duty.burdens]
  unfold letters
  rw [owe_append,Multiset.countP_add,notice]
  congr 1
  induction fresh with
  | nil => simp
  | cons node rest ih =>
    rw [List.flatMap_cons,owe_append,Multiset.countP_add,delivery,ih,List.length_cons]
    ring

theorem letters_once (nodes : fresh.Nodup) (ids : waiting.Nodup) :
    ((owe (letters fresh waiting notices)).filter fun duty => duty.isNotice = false).Nodup := by
  have notice : (owe (notices.map .exhausted)).filter (fun duty => duty.isNotice = false) = 0 := by
    refine Multiset.filter_eq_nil.mpr ?_
    intro duty member
    simp only [owe,Multiset.mem_coe,List.mem_map] at member
    obtain ⟨_,⟨id,_,rfl⟩,rfl⟩ := member
    simp [Duty.isNotice]
  unfold letters
  rw [owe_append,Multiset.filter_add,notice,zero_add]
  refine Multiset.Nodup.filter _ ?_
  rw [owe,Multiset.coe_nodup]
  refine List.Nodup.map (fun _ _ same => Duty.task.inj same) ?_
  refine List.nodup_flatMap.mpr ⟨?_,?_⟩
  · intro node _
    exact ids.map fun _ _ same => (Task.deliver.inj same).1
  · refine nodes.imp ?_
    intro one two different task first second
    obtain ⟨_,_,rfl⟩ := List.mem_map.mp first
    obtain ⟨_,_,same⟩ := List.mem_map.mp second
    exact different (Task.deliver.inj same).2.symm

end

section

variable {problem : Problem} {goals : List Goal} {frames : List Walk} {places : List Place} {asked : Set Goal}
  {entryAt : Goal → Entry} {duties : Multiset Duty} {active made : Nat} {pendingAt : WalkId → Nat}
  {goal : Goal} {next : Entry} {fresh : List Node} {notices : List WalkId}

theorem Announcement.sub (announcement : Announcement goal (entryAt goal) next fresh notices) (other : Goal) :
    (Function.update entryAt goal next other).waiting ⊆ (entryAt other).waiting := by
  by_cases same : other = goal
  · subst same
    rw [Function.update_self,announcement.waiting]
    exact List.subset_append_right _ _
  · rw [Function.update_of_ne same]
    exact fun _ member => member

theorem Announcement.more (announcement : Announcement goal (entryAt goal) next fresh notices) (other : Goal) {node : Node}
    (known : node ∈ (entryAt other).published) : node ∈ (Function.update entryAt goal next other).published := by
  by_cases same : other = goal
  · subst same
    rw [Function.update_self,announcement.published]
    exact List.mem_append_right _ known
  · rwa [Function.update_of_ne same]

theorem Mail.announce (mail : Mail problem places asked entryAt duties) (waiting : (entryAt goal).waiting.Nodup)
    (announcement : Announcement goal (entryAt goal) next fresh notices) :
    Mail problem places asked (Function.update entryAt goal next)
      (owe (letters fresh (entryAt goal).waiting notices) + duties) := by
  have sub := announcement.sub
  have more := announcement.more
  constructor
  case once =>
    rw [Multiset.filter_add,Multiset.nodup_add]
    refine ⟨letters_once announcement.nodup waiting,mail.once,?_⟩
    refine Multiset.disjoint_left.mpr ?_
    intro duty new old
    obtain ⟨member,letter⟩ := Multiset.mem_filter.mp new
    obtain ⟨task,_,rfl⟩ := List.mem_map.mp (Multiset.mem_coe.mp member)
    have inside := task_mem_owe.mp member
    cases task with
    | request other => exact request_mem_letters inside
    | enter other => exact enter_mem_letters inside
    | exhausted id => simp [Duty.isNotice] at letter
    | deliver id node =>
      obtain ⟨isFresh,_⟩ := deliver_mem_letters.mp inside
      obtain ⟨place,_,_,known,_⟩ := mail.delivery id node (Multiset.mem_filter.mp old).1
      rw [announcement.own node isFresh] at known
      exact announcement.unknown node isFresh known
  case request =>
    intro other member
    simp only [Multiset.mem_add,task_mem_owe,request_mem_letters,false_or] at member
    exact mail.request other member
  case rooted =>
    exact mail.rooted.imp_right (Multiset.mem_add.mpr ∘ .inr)
  case enter =>
    intro other member
    simp only [Multiset.mem_add,task_mem_owe,enter_mem_letters,false_or] at member
    exact mail.enter other member
  case entered =>
    intro other member production
    exact (mail.entered other member production).imp_left (Multiset.mem_add.mpr ∘ .inr)
  case notice =>
    intro id member
    simp only [Multiset.mem_add,task_mem_owe,exhausted_mem_letters] at member
    rcases member with dismissed | old
    · have before : id ∈ (entryAt goal).waiting := announcement.waiting ▸ List.mem_append_left _ dismissed
      obtain ⟨place,found,_⟩ := mail.seated goal id before
      exact (List.getElem?_eq_some_iff.mp found).1
    · exact mail.notice id old
  case asking =>
    intro id other member
    simp only [Multiset.mem_add,ask_mem_owe,false_or] at member
    obtain ⟨place,found,wanted,absent,untold⟩ := mail.asking id other member
    refine ⟨place,found,wanted,fun here => absent (sub other here),?_⟩
    intro node own
    refine ⟨?_,(untold node own).2⟩
    simp only [Multiset.mem_add,task_mem_owe,deliver_mem_letters,not_or]
    refine ⟨?_,(untold node own).1⟩
    rintro ⟨isFresh,here⟩
    rw [← own,announcement.own node isFresh] at absent
    exact absent here
  case seated =>
    intro other id member
    exact mail.seated other id (sub other member)
  case joined =>
    intro id place found other wanted told
    simp only [Multiset.mem_add,ask_mem_owe,false_or] at told
    obtain ⟨known,state⟩ := mail.joined id place found other wanted told
    refine ⟨known,?_⟩
    by_cases same : other = goal
    · subst same
      rw [Function.update_self]
      rcases state with closed | here
      · exact .inl (announcement.kept closed)
      · rw [announcement.waiting] at here
        rcases List.mem_append.mp here with dismissed | still
        · exact .inl (announcement.dismissed (List.ne_nil_of_mem dismissed))
        · exact .inr still
    · rwa [Function.update_of_ne same]
  case delivery =>
    intro id node member
    simp only [Multiset.mem_add,task_mem_owe,deliver_mem_letters] at member
    rcases member with ⟨isFresh,here⟩ | old
    · have own := announcement.own node isFresh
      obtain ⟨place,found,wanted⟩ := mail.seated goal id here
      refine ⟨place,found,own ▸ wanted,?_,?_⟩
      · rw [own,Function.update_self,announcement.published]
        exact List.mem_append_left _ isFresh
      · intro passed
        have known := (mail.passed place node passed).2
        rw [own] at known
        exact announcement.unknown node isFresh known
    · obtain ⟨place,found,wanted,known,rest⟩ := mail.delivery id node old
      exact ⟨place,found,wanted,more _ known,rest⟩
  case delivered =>
    intro id place found node wanted told known
    simp only [Multiset.mem_add,ask_mem_owe,false_or] at told
    simp only [Multiset.mem_add,task_mem_owe,deliver_mem_letters]
    by_cases before : node ∈ (entryAt node.goal).published
    · exact (mail.delivered id place found node wanted told before).imp_left .inr
    · have same : node.goal = goal := by
        by_contra different
        rw [Function.update_of_ne different] at known
        exact before known
      rw [same,Function.update_self,announcement.published] at known
      have isFresh : node ∈ fresh := (List.mem_append.mp known).resolve_right (same ▸ before)
      have isOpen := announcement.opened (List.ne_nil_of_mem isFresh)
      obtain ⟨_,state⟩ := mail.joined id place found node.goal wanted told
      rw [same] at state
      exact .inl (.inl ⟨isFresh,state.resolve_left (fun closed => closed isOpen)⟩)
  case passed =>
    intro place node passed
    exact ⟨(mail.passed place node passed).1,more _ (mail.passed place node passed).2⟩

theorem seats_split {id : WalkId} {site : List Goal} (nodup : (entryAt goal).waiting.Nodup)
    (waiting : (entryAt goal).waiting = notices ++ next.waiting) (wanted : id ∈ (entryAt goal).waiting → goal ∈ site) :
    (seats entryAt id site).card = notices.count id + (seats (Function.update entryAt goal next) id site).card := by
  rw [waiting] at nodup
  obtain ⟨noticesOnce,_,apart⟩ := List.nodup_append'.mp nodup
  by_cases dismissed : id ∈ notices
  · have here : id ∈ (entryAt goal).waiting := waiting ▸ List.mem_append_left _ dismissed
    have member : goal ∈ seats entryAt id site := by simp [seats,here,wanted here]
    have rest : seats (Function.update entryAt goal next) id site = (seats entryAt id site).erase goal := by
      ext other
      by_cases same : other = goal
      · subst same
        simp only [seats,Finset.mem_filter,Function.update_self,Finset.mem_erase,ne_eq,not_true,false_and,iff_false]
        exact fun absurd_here => apart dismissed absurd_here.2
      · simp [seats,same]
    rw [rest,Finset.card_erase_of_mem member,List.count_eq_one_of_mem noticesOnce dismissed]
    have := Finset.card_pos.mpr ⟨goal,member⟩
    omega
  · have rest : seats (Function.update entryAt goal next) id site = seats entryAt id site := by
      refine Finset.filter_congr ?_
      intro other _
      by_cases same : other = goal
      · subst same
        rw [Function.update_self,waiting,List.mem_append]
        exact (or_iff_right dismissed).symm
      · rw [Function.update_of_ne same]
    rw [rest,List.count_eq_zero_of_not_mem dismissed,zero_add]

theorem Balanced.waiting_pos (balanced : Balanced problem frames entryAt pendingAt duties)
    (mail : Mail problem (frames.map Walk.place) asked entryAt duties) {id : WalkId}
    (waits : id ∈ (entryAt goal).waiting) : pendingAt id ≠ 0 := by
  obtain ⟨place,found,wanted⟩ := mail.seated goal id waits
  rw [List.getElem?_map] at found
  obtain ⟨walk,at_id,rfl⟩ := Option.map_eq_some_iff.mp found
  have member : goal ∈ seats entryAt id (walk.place.site problem.grammar) := by simp [seats,waits,wanted]
  have positive := Finset.card_pos.mpr ⟨goal,member⟩
  rw [balanced id walk at_id]
  omega

-- Raising the counters of walks that have not ended changes neither who has ended nor whose end is
-- waited for.
theorem heirs_raise {raised : WalkId → Nat} (same : ∀ id, raised id ≠ 0 ↔ pendingAt id ≠ 0) (id : WalkId) :
    heirs frames raised id = heirs frames pendingAt id :=
  Finset.filter_congr fun child _ => and_congr_right' (same child)

theorem ended_raise {raised : WalkId → Nat} (same : ∀ id, raised id ≠ 0 ↔ pendingAt id ≠ 0) :
    endedPlaces places raised = endedPlaces places pendingAt := by
  ext place
  refine exists_congr fun id => and_congr_right' ?_
  exact not_iff_not.mp (same id)

theorem Balanced.announce (balanced : Balanced problem frames entryAt pendingAt duties)
    (mail : Mail problem (frames.map Walk.place) asked entryAt duties) (waiting : (entryAt goal).waiting.Nodup)
    (announcement : Announcement goal (entryAt goal) next fresh notices) :
    Balanced problem frames (Function.update entryAt goal next)
      (fun id => pendingAt id + fresh.length * (entryAt goal).waiting.count id)
      (owe (letters fresh (entryAt goal).waiting notices) + duties) := by
  intro id walk found
  have wanted : id ∈ (entryAt goal).waiting → goal ∈ walk.place.site problem.grammar := by
    intro waits
    obtain ⟨place,here,wanted⟩ := mail.seated goal id waits
    rw [List.getElem?_map,found] at here
    exact Option.some.inj here ▸ wanted
  have same : ∀ id, pendingAt id + fresh.length * (entryAt goal).waiting.count id ≠ 0 ↔ pendingAt id ≠ 0 := by
    intro id
    constructor
    · intro raised zero
      rw [zero,zero_add] at raised
      have waits : id ∈ (entryAt goal).waiting := List.count_pos_iff.mp (Nat.pos_of_ne_zero (right_ne_zero_of_mul raised))
      exact balanced.waiting_pos mail waits zero
    · omega
  have before := balanced id walk found
  rw [seats_split waiting announcement.waiting wanted] at before
  rw [heirs_raise same,Multiset.countP_add,letters_burdens]
  dsimp only
  omega

theorem sum_update {values changed : Goal → Nat} (nodup : goals.Nodup) (member : goal ∈ goals)
    (same : ∀ other, other ≠ goal → changed other = values other) :
    (goals.map changed).sum + values goal = (goals.map values).sum + changed goal := by
  induction goals with
  | nil => cases member
  | cons head rest ih =>
    obtain ⟨fresh,tail⟩ := List.nodup_cons.mp nodup
    simp only [List.map_cons,List.sum_cons]
    by_cases here : head = goal
    · subst here
      have unchanged : rest.map changed = rest.map values :=
        List.map_congr_left fun other inRest => same other fun equal => fresh (equal ▸ inRest)
      rw [unchanged]
      omega
    · have inRest : goal ∈ rest := (List.mem_cons.mp member).resolve_left (Ne.symm here)
      have := ih tail inRest
      rw [same head here]
      omega

theorem Tallied.announce (tallied : Tallied problem goals places entryAt duties made)
    (books : Books goals asked entryAt active) (member : goal ∈ asked)
    (announcement : Announcement goal (entryAt goal) next fresh notices) :
    Tallied problem goals places (Function.update entryAt goal next)
      (owe (letters fresh (entryAt goal).waiting notices) + duties)
      (made + (letters fresh (entryAt goal).waiting notices).length) := by
  have asks : ∀ other, (owe (letters fresh (entryAt goal).waiting notices) + duties).countP
      (fun duty => duty.asksFor other = true) = duties.countP (fun duty => duty.asksFor other = true) := by
    exact fun _ => asks_add_owe
  have joins : ∀ other, joining problem places (owe (letters fresh (entryAt goal).waiting notices) + duties) other =
      joining problem places duties other := by
    intro other
    rw [joining,joining,asks]
  refine ⟨fun other => (asks other).symm ▸ tallied.wanted other,?_,?_⟩
  · intro other unsettled
    rw [asks]
    by_cases same : other = goal
    · subst same
      rw [Function.update_self] at unsettled ⊢
      have before : (entryAt other).status = .unsettled := by
        by_contra closed
        exact announcement.kept closed unsettled
      have none_dismissed : notices = [] := by
        by_contra some_dismissed
        exact announcement.dismissed some_dismissed unsettled
      have kept := announcement.waiting
      rw [none_dismissed,List.nil_append] at kept
      rw [← kept]
      exact tallied.seated other before
    · rw [Function.update_of_ne same] at unsettled ⊢
      exact tallied.seated other unsettled
  · simp only [joins]
    have listed : goal ∈ goals := (books.listed goal).mpr member
    have change := @sum_update goals goal (fun other => joining problem places duties other * (entryAt other).messages)
      (fun other => joining problem places duties other * (Function.update entryAt goal next other).messages)
      books.nodup listed (fun other different => by rw [Function.update_of_ne different])
    simp only [Function.update_self] at change
    -- While the goal is open those who have joined it are those who wait.
    have messages : joining problem places duties goal * next.messages =
        joining problem places duties goal * (entryAt goal).messages +
          (notices.length + fresh.length * (entryAt goal).waiting.length) := by
      by_cases unsettled : (entryAt goal).status = .unsettled
      · have seated := tallied.seated goal unsettled
        have joined : joining problem places duties goal = (entryAt goal).waiting.length := by
          unfold joining
          omega
        rw [joined]
        by_cases still : next.status = .unsettled
        · have none_dismissed : notices = [] := by
            by_contra some_dismissed
            exact announcement.dismissed some_dismissed still
          simp only [Entry.messages,unsettled,still,announcement.published,none_dismissed,List.length_append,
            List.length_nil,if_true]
          ring
        · have all_dismissed := announcement.waiting
          rw [announcement.closed still,List.append_nil] at all_dismissed
          simp only [Entry.messages,unsettled,still,announcement.published,List.length_append,all_dismissed,
            if_true,if_false]
          ring
      · have none_fresh : fresh = [] := by
          by_contra some_fresh
          exact unsettled (announcement.opened some_fresh)
        have nobody := announcement.waiting
        rw [books.closed goal unsettled] at nobody
        have none_dismissed : notices = [] := (List.append_eq_nil_iff.mp nobody.symm).1
        simp [Entry.messages,unsettled,announcement.kept unsettled,announcement.published,none_fresh,none_dismissed]
    rw [letters_length,tallied.made]
    omega

theorem countP_eq_sum {test : Goal → Prop} [DecidablePred test] :
    goals.countP (fun goal => decide (test goal)) = (goals.map fun goal => if test goal then 1 else 0).sum := by
  induction goals with
  | nil => rfl
  | cons head rest ih => simp [List.countP_cons,ih,Nat.add_comm]

theorem Books.announce (books : Books goals asked entryAt active) {rest : Nat} (member : goal ∈ asked)
    (announcement : Announcement goal (entryAt goal) next fresh notices)
    (counted : active = rest + if (entryAt goal).status = .unsettled ∧ next.status ≠ .unsettled then 1 else 0) :
    Books goals asked (Function.update entryAt goal next) rest := by
  constructor
  case listed => exact books.listed
  case nodup => exact books.nodup
  case active =>
    have listed : goal ∈ goals := (books.listed goal).mpr member
    have change := @sum_update goals goal (fun goal => if (entryAt goal).status = .unsettled then 1 else 0)
      (fun other => if (Function.update entryAt goal next other).status = .unsettled then 1 else 0)
      books.nodup listed (fun other different => by rw [Function.update_of_ne different])
    simp only [Function.update_self] at change
    have before := books.active
    rw [countP_eq_sum] at before ⊢
    have kept := announcement.kept
    by_cases unsettled : (entryAt goal).status = .unsettled <;> by_cases still : next.status = .unsettled <;>
      simp_all
  case unasked =>
    intro other unasked
    have different : other ≠ goal := fun same => unasked (same ▸ member)
    rw [Function.update_of_ne different]
    exact books.unasked other unasked
  case recorded =>
    intro other
    by_cases same : other = goal
    · subst same
      rw [Function.update_self]
      exact announcement.recorded (books.recorded other)
    · rw [Function.update_of_ne same]
      exact books.recorded other
  case published =>
    intro other
    by_cases same : other = goal
    · subst same
      rw [Function.update_self,announcement.published]
      exact announcement.nodup.append (books.published other) announcement.unknown
    · rw [Function.update_of_ne same]
      exact books.published other
  case own =>
    intro other node known
    by_cases same : other = goal
    · subst same
      rw [Function.update_self,announcement.published] at known
      rcases List.mem_append.mp known with isFresh | old
      · exact announcement.own node isFresh
      · exact books.own other node old
    · rw [Function.update_of_ne same] at known
      exact books.own other node known
  case waiting =>
    intro other
    by_cases same : other = goal
    · subst same
      have before := books.waiting other
      rw [announcement.waiting] at before
      rw [Function.update_self]
      exact before.of_append_right
    · rw [Function.update_of_ne same]
      exact books.waiting other
  case closed =>
    intro other closed
    by_cases same : other = goal
    · subst same
      rw [Function.update_self] at closed ⊢
      exact announcement.closed closed
    · rw [Function.update_of_ne same] at closed ⊢
      exact books.closed other closed

end

end ParseForest.Session
