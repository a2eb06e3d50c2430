import Mathlib
import ParseForest.Proofs.Session.Announce

namespace ParseForest.Session.State

variable {problem : Problem} {s next middle : State} {goal : Goal} {entry : Entry} {ids notices : List WalkId}
  {new : List Task} {duties : Multiset Duty} {fresh : List Node} {id : WalkId}

section Update

variable (update : Update s goal entry ids new next)

include update

theorem Update.frames_eq : next.frames = s.frames := by
  refine List.ext_getElem? fun id => ?_
  rw [frames_getElem?,frames_getElem?,update.walks,bump_getElem?,Option.map_map]
  rfl

theorem Update.places_eq : next.places = s.places := by
  rw [State.places_eq,State.places_eq,update.frames_eq]

theorem Update.asked_eq : next.asked = s.asked := Set.ext update.asked

theorem Update.entryAt_eq : next.entryAt = Function.update s.entryAt goal entry := by
  funext other
  rw [update.entryAt,Function.update_apply]

theorem Update.extendedAt_eq : next.extendedAt = s.extendedAt := by
  funext id
  rw [extendedAt,update.walks,bump_getElem?,Option.map_map]
  rfl

theorem Update.pendingAt_eq (inside : ∀ id ∈ ids, id < s.walks.size) :
    next.pendingAt = fun id => s.pendingAt id + ids.count id := by
  funext id
  rw [pendingAt,update.walks,bump_getElem?,Option.map_map,pendingAt]
  cases found : s.walks[id]? with
  | some walk => rfl
  | none =>
    have outside : id ∉ ids := fun member => by
      rw [Array.getElem?_eq_getElem (inside id member)] at found
      cases found
    simp [List.count_eq_zero_of_not_mem outside]

end Update

theorem Good.waiting_lt (good : Good problem s duties) (waits : id ∈ (s.entryAt goal).waiting) : id < s.walks.size := by
  obtain ⟨place,found,_⟩ := good.mail.seated goal id waits
  rw [← places_length]
  exact (List.getElem?_eq_some_iff.mp found).1

theorem Good.mail_frames (good : Good problem s duties) :
    Mail problem (s.frames.map Walk.place) s.asked s.entryAt duties := places_eq ▸ good.mail

-- What an announcement does to the state that makes it. The caller says how many open goals remain.
theorem Good.announce (good : Good problem s duties) (asked : goal ∈ s.asked)
    (announcement : Announcement goal (s.entryAt goal) entry fresh notices)
    (update : Update s goal entry (fresh.flatMap fun _ => (s.entryAt goal).waiting) new middle)
    (sent : new.Perm (letters fresh (s.entryAt goal).waiting notices)) (rest : Nat)
    (counted : s.active = rest + if (s.entryAt goal).status = .unsettled ∧ entry.status ≠ .unsettled then 1 else 0) :
    Good problem { middle with active := rest } (owe new + duties) ∧ middle.chart.ended = s.chart.ended := by
  have waiting := good.books.waiting goal
  have inside : ∀ id ∈ fresh.flatMap (fun _ => (s.entryAt goal).waiting), id < s.walks.size := by
    intro id member
    obtain ⟨_,_,waits⟩ := List.mem_flatMap.mp member
    exact good.waiting_lt waits
  have count : ∀ id, (fresh.flatMap fun _ => (s.entryAt goal).waiting).count id =
      fresh.length * (s.entryAt goal).waiting.count id := by
    intro id
    simp [List.count_flatMap,Function.comp_def]
  have pending := update.pendingAt_eq inside
  simp only [count] at pending
  have same : ∀ id, middle.pendingAt id ≠ 0 ↔ s.pendingAt id ≠ 0 := by
    intro id
    rw [pending]
    constructor
    · intro raised zero
      simp only [zero,zero_add] at raised
      have waits : id ∈ (s.entryAt goal).waiting :=
        List.count_pos_iff.mp (Nat.pos_of_ne_zero (right_ne_zero_of_mul raised))
      exact good.balance.waiting_pos good.mail_frames waits zero
    · dsimp only
      omega
  have ended : endedPlaces middle.places middle.pendingAt = endedPlaces s.places s.pendingAt := by
    rw [update.places_eq]
    exact ended_raise same
  constructor
  · refine ⟨?_,?_,?_,?_,?_,?_,?_⟩
    · change Books middle.goals middle.asked middle.entryAt rest
      rw [update.goals,update.asked_eq,update.entryAt_eq]
      exact good.books.announce asked announcement counted
    · change Family problem.grammar middle.frames
      rw [update.frames_eq]
      exact good.family
    · change Mail problem middle.places middle.asked middle.entryAt _
      rw [update.places_eq,update.asked_eq,update.entryAt_eq,owe_perm sent]
      exact good.mail.announce waiting announcement
    · change Balanced problem middle.frames middle.entryAt middle.pendingAt _
      rw [update.frames_eq,update.entryAt_eq,pending,owe_perm sent]
      exact good.balance.announce good.mail_frames waiting announcement
    · change Flagged problem middle.places middle.pendingAt middle.extendedAt
      intro id place found greedy
      rw [ended,update.extendedAt_eq]
      exact good.flags id place (update.places_eq ▸ found) greedy
    · change Tallied problem middle.goals middle.places middle.entryAt _ (middle.finished + middle.held)
      rw [update.goals,update.places_eq,update.entryAt_eq,update.finished,update.held,owe_perm sent,sent.length_eq,
        ← Nat.add_assoc]
      exact good.tally.announce good.books asked announcement
    · exact update.breaches.trans good.breaches
  · rw [chart_ended,chart_ended,ended]

-- The effect of an operation apart from the entries: the tasks it adds and the requests it makes.
structure Sent (s next : State) (new : List Task) (requests : Nat) : Prop where
  tasks : next.tasks = new ++ s.tasks
  held : next.held = s.held + new.length
  sites : next.sites = s.sites
  frames : next.frames = s.frames
  requestless : ∀ goal, .request goal ∉ new
  requests : next.hits + next.goals.length = s.hits + s.goals.length + requests

theorem Sent.places {n : Nat} (sent : Sent s next new n) : next.places = s.places := by
  rw [State.places_eq,State.places_eq,sent.frames]

theorem Sent.refl : Sent s s [] 0 := ⟨rfl,rfl,rfl,rfl,fun _ => List.not_mem_nil,rfl⟩

theorem Sent.trans {first second : List Task} {m n : Nat} (one : Sent s middle first m) (two : Sent middle next second n) :
    Sent s next (second ++ first) (m+n) := by
  refine ⟨?_,?_,two.sites.trans one.sites,two.frames.trans one.frames,?_,?_⟩
  · rw [two.tasks,one.tasks,List.append_assoc]
  · rw [two.held,one.held,List.length_append]
    omega
  · intro goal member
    rcases List.mem_append.mp member with inSecond | inFirst
    · exact two.requestless goal inSecond
    · exact one.requestless goal inFirst
  · rw [two.requests,one.requests,Nat.add_assoc]

theorem Update.sent (update : Update s goal entry ids new next) (requestless : ∀ goal, .request goal ∉ new) :
    Sent s next new 0 :=
  ⟨update.tasks,update.held,update.sites,update.frames_eq,requestless,by rw [update.hits,update.goals]; rfl⟩

theorem Update.chart_walks (update : Update s goal entry ids new next) : next.chart.walks = s.chart.walks := by
  ext place
  rw [State.chart_walks,State.chart_walks,update.places_eq]

theorem Update.chart_eq (update : Update s goal entry ids new next) (ended : next.chart.ended = s.chart.ended) :
    next.chart = { s.chart with
      status := Function.update s.chart.status goal entry.status
      derivations := Function.update s.chart.derivations goal {derivation | derivation ∈ entry.derivations}
      published := Function.update s.chart.published goal {node | node ∈ entry.published} } := by
  have at_goal : ∀ {α : Type} (read : Entry → α), (fun other => read (next.entryAt other)) =
      Function.update (fun other => read (s.entryAt other)) goal (read entry) := by
    intro α read
    funext other
    rw [update.entryAt,Function.update_apply]
    split <;> rfl
  refine Chart.ext update.asked_eq (at_goal Entry.status) (at_goal fun entry => {one | one ∈ entry.derivations})
    (at_goal fun entry => {one | one ∈ entry.published}) update.chart_walks ended update.rounds update.forced

end ParseForest.Session.State

namespace ParseForest.Session.Chart

def record (problem : Problem) (chart : Chart) (goal : Goal) (derivation : Derivation) : Chart :=
  { chart with
    derivations := fun other => chart.derivations other ∪ {one | other = goal ∧ one = derivation}
    published := fun other => chart.published other ∪
      {node | other = goal ∧ ¬IsGreedy problem goal ∧ chart.status goal = .unsettled ∧ node = derivation.node} }

def close (problem : Problem) (chart : Chart) (goal : Goal) (status : Status) : Chart :=
  { chart with
    status := Function.update chart.status goal status
    published := fun other => chart.published other ∪ {node | other = goal ∧ IsGreedy problem goal ∧ chart.Longest goal node} }

end ParseForest.Session.Chart

namespace ParseForest.Session.State

variable {problem : Problem} {s : State} {goal : Goal} {duties : Multiset Duty} {derivation : Derivation}

theorem record_announces (own : derivation.node.goal = goal) (unrecorded : derivation ∉ (s.entryAt goal).derivations)
    (closed : (s.entryAt goal).status ≠ .unsettled → (s.entryAt goal).waiting = []) :
    Announcement goal (s.entryAt goal) { s.entryAt goal with
      derivations := derivation :: (s.entryAt goal).derivations
      published := news problem goal (s.entryAt goal) derivation ++ (s.entryAt goal).published }
      (news problem goal (s.entryAt goal) derivation) [] := by
  have shape : ∀ node ∈ news problem goal (s.entryAt goal) derivation, node = derivation.node ∧
      (s.entryAt goal).status = .unsettled ∧ derivation.node ∉ (s.entryAt goal).published := by
    intro node member
    unfold news at member
    split at member
    · rename_i shown
      exact ⟨List.mem_singleton.mp member,shown.1,shown.2.2⟩
    · cases member
  refine ⟨?_,?_,?_,fun once => List.nodup_cons.mpr ⟨unrecorded,once⟩,rfl,rfl,?_,id,closed,fun absurd_nil => absurd rfl absurd_nil⟩
  · unfold news
    split
    · exact List.nodup_singleton _
    · exact List.nodup_nil
  · intro node member
    obtain ⟨rfl,_,unknown⟩ := shape node member
    exact unknown
  · intro node member
    obtain ⟨rfl,_,_⟩ := shape node member
    exact own
  · intro some_new
    obtain ⟨node,member⟩ := List.exists_mem_of_ne_nil _ some_new
    exact (shape node member).2.1

theorem mem_news {node : Node} : node ∈ news problem goal (s.entryAt goal) derivation ↔
    ((s.entryAt goal).status = .unsettled ∧ ¬Chart.IsGreedy problem goal ∧ derivation.node ∉ (s.entryAt goal).published) ∧
      node = derivation.node := by
  unfold news Chart.IsGreedy
  rw [Bool.not_eq_true]
  split
  · rename_i shown
    simp [shown]
  · rename_i hidden
    simp [hidden]

theorem Good.record (good : Good problem s duties) (asked : goal ∈ s.asked)
    (unsettled : (s.entryAt goal).status ≠ .settled) (own : derivation.node.goal = goal)
    (unrecorded : derivation ∉ s.chart.derivations goal) :
    ∃ new, Sent s (s.record problem goal derivation) new 0 ∧
      Good problem (s.record problem goal derivation) (owe new + duties) ∧
      (s.record problem goal derivation).chart = s.chart.record problem goal derivation ∧
      (new = [] ∨ derivation.node ∉ s.chart.published goal ∧
        derivation.node ∈ (s.chart.record problem goal derivation).published goal) := by
  have announcement := @record_announces problem s goal derivation own unrecorded (good.books.closed goal)
  have update := @record_update s goal problem derivation asked unsettled
  obtain ⟨kept,ended⟩ := good.announce asked announcement update (by simp [letters]) s.active (by simp)
  have active : { s.record problem goal derivation with active := s.active } = s.record problem goal derivation := by
    rw [← update.active]
  rw [active] at kept
  refine ⟨_,update.sent (by simp),kept,?_,?_⟩
  · rw [update.chart_eq ended]
    refine Chart.ext rfl (Function.update_eq_self _ _) ?_ ?_ rfl rfl rfl rfl
    · funext other
      by_cases same : other = goal
      · subst same
        ext one
        simp [chart,Chart.record]
      · ext one
        simp [chart,Chart.record,same]
    · funext other
      by_cases same : other = goal
      · subst same
        ext node
        simp only [Function.update_self,chart,Chart.record,Set.mem_ofPred_eq,List.mem_append,Set.mem_union,mem_news,true_and]
        constructor
        · rintro (⟨shown,rfl⟩ | old)
          · exact .inr ⟨shown.2.1,shown.1,rfl⟩
          · exact .inl old
        · rintro (old | ⟨plain,isOpen,rfl⟩)
          · exact .inr old
          · by_cases known : derivation.node ∈ (s.entryAt other).published
            · exact .inr known
            · exact .inl ⟨⟨isOpen,plain,known⟩,rfl⟩
      · ext node
        simp [chart,Chart.record,same]
  · by_cases shown : (s.entryAt goal).status = .unsettled ∧ ¬Chart.IsGreedy problem goal ∧
        derivation.node ∉ (s.entryAt goal).published
    · exact .inr ⟨shown.2.2,.inr ⟨rfl,shown.2.1,shown.1,rfl⟩⟩
    · have none_new : news problem goal (s.entryAt goal) derivation = [] :=
        List.eq_nil_iff_forall_not_mem.mpr fun node member => shown (mem_news.mp member).1
      rw [none_new]
      exact .inl rfl

theorem mem_lastWords (own : ∀ derivation ∈ (s.entryAt goal).derivations, derivation.node.goal = goal) {node : Node} :
    node ∈ lastWords problem goal (s.entryAt goal) ↔ Chart.IsGreedy problem goal ∧ s.chart.Longest goal node := by
  unfold lastWords Chart.IsGreedy
  split
  · rename_i greedy
    simp only [List.mem_map,Option.mem_toList,List.max?_eq_some_iff,greedy,true_and]
    constructor
    · rintro ⟨length,⟨⟨derivation,recorded,rfl⟩,most⟩,rfl⟩
      refine ⟨⟨derivation,recorded,?_⟩,fun other member => most _ ⟨other,member,rfl⟩⟩
      rw [← own derivation recorded]
    · rintro ⟨⟨derivation,recorded,rfl⟩,most⟩
      refine ⟨derivation.node.length,⟨⟨derivation,recorded,rfl⟩,?_⟩,?_⟩
      · rintro _ ⟨other,member,rfl⟩
        exact most other member
      · rw [← own derivation recorded]
  · rename_i plain
    simp [plain]

theorem close_announces {status : Status} (unsettled : (s.entryAt goal).status = .unsettled) (closing : status ≠ .unsettled)
    (silent : Chart.IsGreedy problem goal → (s.entryAt goal).published = []) :
    Announcement goal (s.entryAt goal) { s.entryAt goal with
      status := status
      published := lastWords problem goal (s.entryAt goal) ++ (s.entryAt goal).published
      waiting := [] } (lastWords problem goal (s.entryAt goal)) (s.entryAt goal).waiting := by
  refine ⟨?_,?_,?_,id,rfl,by simp,fun _ => unsettled,fun closed => absurd unsettled closed,fun _ => rfl,fun _ => closing⟩
  · unfold lastWords
    split
    · refine List.Nodup.map (fun _ _ same => congrArg Node.length same) ?_
      cases ((s.entryAt goal).derivations.map (·.node.length)).max? with
      | none => exact List.nodup_nil
      | some length => exact List.nodup_singleton _
    · exact List.nodup_nil
  · intro node member
    unfold lastWords at member
    split at member
    · rename_i greedy
      rw [silent greedy]
      exact List.not_mem_nil
    · cases member
  · intro node member
    unfold lastWords at member
    split at member
    · obtain ⟨length,_,rfl⟩ := List.mem_map.mp member
      rfl
    · cases member

theorem Good.close (good : Good problem s duties) (asked : goal ∈ s.asked) (status : Status)
    (unsettled : (s.entryAt goal).status = .unsettled) (closing : status ≠ .unsettled)
    (own : ∀ derivation ∈ (s.entryAt goal).derivations, derivation.node.goal = goal)
    (silent : Chart.IsGreedy problem goal → (s.entryAt goal).published = []) :
    ∃ new, Sent s (s.close problem goal status) new 0 ∧
      Good problem (s.close problem goal status) (owe new + duties) ∧
      (∀ other, other ≠ goal → (s.close problem goal status).entryAt other = s.entryAt other) ∧
      (s.close problem goal status).chart = s.chart.close problem goal status := by
  have announcement := @close_announces problem s goal status unsettled closing silent
  obtain ⟨middle,update,closed⟩ := @close_update s goal problem status asked unsettled
  have positive : 0 < s.active := by
    rw [good.books.active]
    exact List.countP_pos_iff.mpr ⟨goal,(good.books.listed goal).mpr asked,by simpa using unsettled⟩
  obtain ⟨kept,ended⟩ := good.announce asked announcement update ((List.reverse_perm _).append (List.reverse_perm _))
    (s.active-1) (by
      simp only [unsettled,closing,ne_eq,not_false_eq_true,and_self,if_true]
      omega)
  have result : s.close problem goal status = { middle with active := s.active-1 } := by
    rw [closed,closeGoal,if_neg (by rw [update.active]; omega),update.active]
  rw [result]
  have sent := update.sent (by simp)
  refine ⟨_,⟨sent.tasks,sent.held,sent.sites,sent.frames,sent.requestless,sent.requests⟩,kept,?_,?_⟩
  · intro other different
    change middle.entryAt other = _
    rw [update.entryAt,if_neg different]
  · change middle.chart = _
    rw [update.chart_eq ended]
    refine Chart.ext rfl rfl (Function.update_eq_self _ _) ?_ rfl rfl rfl rfl
    funext other
    by_cases same : other = goal
    · subst same
      ext node
      simp only [Function.update_self,chart,Chart.close,Set.mem_ofPred_eq,List.mem_append,Set.mem_union,true_and,
        mem_lastWords own]
      exact or_comm
    · ext node
      simp [chart,Chart.close,same]

end ParseForest.Session.State
