import Mathlib
import ParseForest.Proofs.Session.Inquire
import ParseForest.Session.Run

namespace ParseForest.Session

-- The goals that a walk asks for, one for each symbol that may come next.
def Walk.site (grammar : Grammar) (walk : Walk) : Site :=
  (grammar.outgoing walk.owner.symbol walk.states).map fun symbol => ⟨walk.position,symbol⟩

def mailOf (id : WalkId) (tasks : List Task) : List Task := tasks.filter fun task => task.walk? = some id

-- Exactly what the goals have for a walk has been made into tasks, carried out or not. `joined` tells for each walk
-- the goals that it has asked for. A walk waits at those of them that are not closed.
structure Told (problem : Problem) (history : List Task) (sites : List Site) (joined : WalkId → List Goal) (s : State) : Prop where
  walks : s.walks.toList.map (Walk.site problem.grammar) = sites
  once : ∀ id, (joined id).Nodup
  strangers : ∀ id, sites.length ≤ id → joined id = []
  waiting : ∀ goal, (s.entryAt goal).waiting.Nodup
  seated : ∀ goal id, id ∈ (s.entryAt goal).waiting ↔ goal ∈ joined id ∧ (s.entryAt goal).status = .unsettled
  letters : ∀ id, (mailOf id (history ++ s.tasks)).Perm ((joined id).flatMap fun goal => greetings (s.entryAt goal) id)

section Mail

variable {id : WalkId} {one two : List Task} {goals : List Goal} {goal : Goal}

theorem mailOf_append : mailOf id (one ++ two) = mailOf id one ++ mailOf id two := List.filter_append ..

theorem mailOf_perm (perm : one.Perm two) : (mailOf id one).Perm (mailOf id two) := perm.filter _

-- New tasks stand before the old ones in the bag, but behind what has been carried out.
theorem mailOf_new {history new tasks : List Task} :
    (mailOf id (history ++ (new ++ tasks))).Perm (mailOf id new ++ mailOf id (history ++ tasks)) := by
  have reordered : (history ++ (new ++ tasks)).Perm (new ++ (history ++ tasks)) := by
    rw [← List.append_assoc,← List.append_assoc]
    exact List.perm_append_comm.append_right _
  rw [← mailOf_append]
  exact mailOf_perm reordered

theorem filter_eq_of_nodup {α : Type} [DecidableEq α] {item : α} {items : List α} (nodup : items.Nodup) :
    items.filter (· = item) = if item ∈ items then [item] else [] := by
  rw [List.filter_eq,nodup.count]
  split
  · rfl
  · rfl

-- Of what is made once for each of several walks, a walk gets its own.
theorem mailOf_map {make : WalkId → Task} {ids : List WalkId} (own : ∀ other, (make other).walk? = some other) (nodup : ids.Nodup) :
    mailOf id (ids.map make) = if id ∈ ids then [make id] else [] := by
  have same : ((fun task : Task => decide (task.walk? = some id)) ∘ make) = fun other => decide (other = id) := by
    funext other
    simp [own]
  rw [mailOf,List.filter_map,same,filter_eq_of_nodup nodup]
  split
  · rfl
  · rfl

-- Of what is sent to those who wait, a walk gets each node once and its notice.
theorem mailOf_letters {fresh : List Node} {waiting notices : List WalkId} (ids : waiting.Nodup) (dismissed : notices.Nodup) :
    mailOf id (letters fresh waiting notices) =
      (if id ∈ notices then [.exhausted id] else []) ++ if id ∈ waiting then fresh.map (.deliver id ·) else [] := by
  have delivery (node : Node) : mailOf id (waiting.map (.deliver · node)) = if id ∈ waiting then [.deliver id node] else [] :=
    mailOf_map (fun _ => rfl) ids
  rw [letters,mailOf_append,mailOf_map (fun _ => rfl) dismissed]
  congr 1
  rw [mailOf,List.filter_flatMap]
  change (fresh.flatMap fun node => mailOf id (waiting.map (.deliver · node))) = _
  simp only [delivery]
  split
  · rw [List.map_eq_flatMap]
  · simp

-- What a goal has for a walk goes to that walk alone.
theorem mailOf_greetings {asker : WalkId} {entry : Entry} :
    mailOf asker (greetings entry id) = if asker = id then greetings entry id else [] := by
  split
  · rename_i same
    exact List.filter_eq_self.mpr fun task member => decide_eq_true (same ▸ greetings_walk member)
  · rename_i different
    refine List.filter_eq_nil_iff.mpr fun task member => ?_
    rw [greetings_walk member]
    simpa using Ne.symm different

section Greetings

variable {old entry : Entry} {fresh : List Node} (published : entry.published = fresh ++ old.published)

include published

theorem greetings_fresh (status : entry.status = old.status) :
    (greetings entry id).Perm (fresh.map (.deliver id ·) ++ greetings old id) := by
  refine List.perm_iff_count.mpr fun task => ?_
  simp only [greetings,published,status,List.map_append,List.reverse_append,List.count_append,List.count_reverse]
  omega

theorem greetings_close (unsettled : old.status = .unsettled) (closed : entry.status ≠ .unsettled) :
    (greetings entry id).Perm (.exhausted id :: fresh.map (.deliver id ·) ++ greetings old id) := by
  refine List.perm_iff_count.mpr fun task => ?_
  simp only [greetings,published,if_neg closed,if_pos unsettled,List.map_append,List.reverse_append,List.count_append,
    List.count_reverse,List.count_cons,List.count_nil]
  omega

end Greetings

-- A change at one place of a list without repeats.
theorem flatMap_change {before after : Goal → List Task} {extra : List Task} (nodup : goals.Nodup) (member : goal ∈ goals)
    (others : ∀ other, other ≠ goal → after other = before other) (here : (after goal).Perm (extra ++ before goal)) :
    (goals.flatMap after).Perm (extra ++ goals.flatMap before) := by
  induction goals with
  | nil => cases member
  | cons head rest ih =>
    obtain ⟨fresh,tail⟩ := List.nodup_cons.mp nodup
    rw [List.flatMap_cons,List.flatMap_cons]
    by_cases same : head = goal
    · subst same
      have unchanged : rest.flatMap after = rest.flatMap before :=
        List.flatMap_congr fun other inRest => others other fun equal => fresh (equal ▸ inRest)
      rw [unchanged,← List.append_assoc]
      exact here.append_right _
    · have later := ih tail ((List.mem_cons.mp member).resolve_left (Ne.symm same))
      rw [others head same]
      have swapped : (before head ++ (extra ++ rest.flatMap before)).Perm (extra ++ (before head ++ rest.flatMap before)) := by
        rw [← List.append_assoc,← List.append_assoc]
        exact List.perm_append_comm.append_right _
      exact (later.append_left _).trans swapped

end Mail

theorem State.sites_eq {grammar : Grammar} {s : State} : s.walks.toList.map (Walk.site grammar) = s.frames.map (Walk.site grammar) := by
  rw [State.frames,List.map_map]
  rfl

theorem State.record_late {problem : Problem} {s : State} {goal : Goal} {derivation : Derivation}
    (found : s.entries[goal]? = some (s.entryAt goal)) (settled : (s.entryAt goal).status = .settled) :
    s.record problem goal derivation =
      (s.setEntry goal { s.entryAt goal with derivations := derivation :: (s.entryAt goal).derivations }).breach (.lateResult goal) := by
  simp only [State.record,found,settled]

section Updates

variable {problem : Problem} {history : List Task} {sites : List Site} {joined : WalkId → List Goal} {s next : State} {goal : Goal}
  {entry : Entry} {ids : List WalkId} {new : List Task} {fresh : List Node} {notices : List WalkId}
  (told : Told problem history sites joined s)

include told

theorem Told.breach (what : Breach) : Told problem history sites joined (s.breach what) := { told with }

theorem Told.closeGoal : Told problem history sites joined s.closeGoal := by
  unfold State.closeGoal
  split
  · exact told.breach _
  · exact { told with }

theorem Told.leave : Told problem history sites joined s.leave := by
  unfold State.leave
  split
  · exact told.breach _
  · exact { told with }

theorem Told.spawn {task : Task} (unaddressed : task.walk? = none) : Told problem history sites joined (s.spawn task) := by
  refine { told with letters := fun id => ?_ }
  have none_new : mailOf id [task] = [] := by simp [mailOf,unaddressed]
  have same : mailOf id (history ++ (s.spawn task).tasks) = mailOf id (history ++ s.tasks) := by
    change mailOf id (history ++ ([task] ++ s.tasks)) = _
    rw [mailOf_append,mailOf_append,none_new,mailOf_append,List.nil_append]
  rw [same]
  exact told.letters id

theorem Told.modifyWalk (id : WalkId) {change : Walk → Walk}
    (kept : ∀ walk, (change walk).site problem.grammar = walk.site problem.grammar) :
    Told problem history sites joined (s.modifyWalk id change) := by
  refine { told with walks := ?_ }
  rw [← told.walks]
  change (s.walks.modify id change).toList.map _ = _
  apply List.ext_getElem?
  intro index
  simp only [Array.toList_modify,List.getElem?_map,List.getElem?_modify]
  cases s.walks.toList[index]? with
  | none => rfl
  | some walk =>
    by_cases same : id = index
    · simp [same,kept]
    · simp [same]

-- Where only one goal has changed, a walk that has asked for it must get what is new.
theorem Told.letters_change (update : State.Update s goal entry ids new next) (id : WalkId) {extra : List Task}
    (sent : (mailOf id new).Perm extra) (absent : goal ∉ joined id → extra = [])
    (here : goal ∈ joined id → (greetings entry id).Perm (extra ++ greetings (s.entryAt goal) id)) :
    (mailOf id (history ++ next.tasks)).Perm ((joined id).flatMap fun goal => greetings (next.entryAt goal) id) := by
  have before := told.letters id
  have made : (mailOf id (history ++ next.tasks)).Perm (extra ++ mailOf id (history ++ s.tasks)) := by
    rw [update.tasks]
    exact mailOf_new.trans (sent.append_right _)
  by_cases member : goal ∈ joined id
  · have changed : ((joined id).flatMap fun goal => greetings (next.entryAt goal) id).Perm
        (extra ++ (joined id).flatMap fun goal => greetings (s.entryAt goal) id) := by
      refine flatMap_change (told.once id) member (fun other different => ?_) ?_
      · rw [update.entryAt,if_neg different]
      · rw [update.entryAt,if_pos rfl]
        exact here member
    exact made.trans ((before.append_left extra).trans changed.symm)
  · have unchanged : ((joined id).flatMap fun goal => greetings (next.entryAt goal) id) =
        (joined id).flatMap fun goal => greetings (s.entryAt goal) id := by
      refine List.flatMap_congr fun other inside => ?_
      have different : other ≠ goal := fun same => member (same ▸ inside)
      rw [update.entryAt,if_neg different]
    rw [absent member,List.nil_append] at made
    rw [unchanged]
    exact made.trans before

-- What is made public and closed at one goal, with what is sent for it.
theorem Told.announce (update : State.Update s goal entry ids new next)
    (published : entry.published = fresh ++ (s.entryAt goal).published)
    (sent : new.Perm (Session.letters fresh (s.entryAt goal).waiting notices))
    (how : (entry.status = (s.entryAt goal).status ∧ entry.waiting = (s.entryAt goal).waiting ∧ notices = [] ∧
        ((s.entryAt goal).status ≠ .unsettled → fresh = [])) ∨
      (s.entryAt goal).status = .unsettled ∧ entry.status ≠ .unsettled ∧ entry.waiting = [] ∧ notices = (s.entryAt goal).waiting) :
    Told problem history sites joined next := by
  have waiting := told.waiting goal
  constructor
  case walks =>
    rw [← told.walks,State.sites_eq,State.sites_eq,update.frames_eq]
  case once => exact told.once
  case strangers => exact told.strangers
  case waiting =>
    intro other
    rw [update.entryAt]
    split
    · rcases how with ⟨_,same,_,_⟩ | ⟨_,_,empty,_⟩
      · exact same ▸ waiting
      · exact empty ▸ List.nodup_nil
    · exact told.waiting other
  case seated =>
    intro other id
    rw [update.entryAt]
    split
    · rename_i same
      subst same
      rcases how with ⟨status,seats,_,_⟩ | ⟨_,closed,empty,_⟩
      · rw [status,seats]
        exact told.seated other id
      · simp [empty,closed]
    · exact told.seated other id
  case letters =>
    intro id
    have seat := told.seated goal id
    rcases how with ⟨status,_,rfl,quiet⟩ | ⟨unsettled,closed,_,rfl⟩
    · have own : (mailOf id new).Perm (if id ∈ (s.entryAt goal).waiting then fresh.map (.deliver id ·) else []) := by
        have mail := @mailOf_perm id _ _ sent
        rw [mailOf_letters waiting List.nodup_nil] at mail
        simpa using mail
      refine told.letters_change update id own ?_ ?_
      · intro member
        rw [if_neg fun here => member (seat.mp here).1]
      · intro member
        by_cases unsettled : (s.entryAt goal).status = .unsettled
        · rw [if_pos (seat.mpr ⟨member,unsettled⟩)]
          exact greetings_fresh published status
        · have silent := @greetings_fresh id _ _ _ published status
          rw [quiet unsettled] at silent ⊢
          simpa using silent
    · have own : (mailOf id new).Perm (if id ∈ (s.entryAt goal).waiting then .exhausted id :: fresh.map (.deliver id ·) else []) := by
        have mail := @mailOf_perm id _ _ sent
        rw [mailOf_letters waiting waiting] at mail
        refine mail.trans (.of_eq ?_)
        split
        · rfl
        · rfl
      refine told.letters_change update id own ?_ ?_
      · intro member
        rw [if_neg fun here => member (seat.mp here).1]
      · intro member
        rw [if_pos (seat.mpr ⟨member,unsettled⟩)]
        exact greetings_close published unsettled closed

-- A walk that asks for a goal gets what the goal has.
theorem Told.await {id : WalkId} (known : goal ∈ s.entries) (apart : goal ∉ joined id) (inside : id < sites.length) :
    Told problem history sites (Function.update joined id (joined id ++ [goal])) (s.await id goal) := by
  have update : State.Update s goal ((s.entryAt goal).join id) _ (greetings (s.entryAt goal) id) _ := State.await_update known
  generalize s.await id goal = next at update
  have joins : ∀ other asker, other ∈ Function.update joined id (joined id ++ [goal]) asker ↔
      other ∈ joined asker ∨ asker = id ∧ other = goal := by
    intro other asker
    by_cases same : asker = id
    · subst same
      simp
    · simp [same]
  have greeted : ∀ other asker, greetings (next.entryAt other) asker = greetings (s.entryAt other) asker := by
    intro other asker
    rw [update.entryAt]
    split
    · rename_i same
      rw [same,greetings,greetings,Entry.join_status,Entry.join_published]
    · rfl
  constructor
  case walks => rw [← told.walks,State.sites_eq,State.sites_eq,update.frames_eq]
  case once =>
    intro asker
    by_cases same : asker = id
    · subst same
      rw [Function.update_self]
      exact (told.once asker).append (List.nodup_singleton goal) (by simpa using apart)
    · rw [Function.update_of_ne same]
      exact told.once asker
  case strangers =>
    intro asker outside
    rw [Function.update_of_ne (Nat.ne_of_gt (inside.trans_le outside))]
    exact told.strangers asker outside
  case waiting =>
    intro other
    rw [update.entryAt]
    split
    · unfold Entry.join
      split
      · exact List.nodup_cons.mpr ⟨fun seat => apart ((told.seated goal id).mp seat).1,told.waiting goal⟩
      · exact told.waiting goal
    · exact told.waiting other
  case seated =>
    intro other asker
    rw [update.entryAt,joins]
    split
    · rename_i same
      subst same
      rw [Entry.mem_join,told.seated,Entry.join_status]
      tauto
    · rename_i different
      rw [told.seated]
      tauto
  case letters =>
    intro asker
    simp only [greeted]
    rw [update.tasks]
    refine mailOf_new.trans ?_
    rw [mailOf_greetings]
    by_cases same : asker = id
    · subst same
      rw [if_pos rfl,Function.update_self,List.flatMap_append,List.flatMap_singleton]
      exact ((told.letters asker).append_left _).trans List.perm_append_comm
    · rw [if_neg same,Function.update_of_ne same,List.nil_append]
      exact told.letters asker

end Updates

section Operations

variable {problem : Problem} {history : List Task} {sites : List Site} {joined : WalkId → List Goal} {s : State}
  (told : Told problem history sites joined s)

include told

theorem Told.record (goal : Goal) (derivation : Derivation) : Told problem history sites joined (s.record problem goal derivation) := by
  cases found : s.entries[goal]? with
  | none =>
    simp only [State.record,found]
    exact told.breach _
  | some entry =>
    obtain ⟨known,rfl⟩ := State.entered found
    by_cases settled : (s.entryAt goal).status = .settled
    · rw [State.record_late found settled]
      refine Told.breach ?_ _
      exact told.announce (State.setEntry_update known) rfl .nil (.inl ⟨rfl,rfl,rfl,fun _ => rfl⟩)
    · refine told.announce (State.record_update known settled) rfl ?_ (.inl ⟨rfl,rfl,rfl,?_⟩)
      · exact List.reverse_perm _
      · intro closed
        exact if_neg fun shown => closed shown.1

theorem Told.close (goal : Goal) {status : Status} (closing : status ≠ .unsettled) :
    Told problem history sites joined (s.close problem goal status) := by
  cases found : s.entries[goal]? with
  | none =>
    simp only [State.close,found]
    exact told.breach _
  | some entry =>
    obtain ⟨known,rfl⟩ := State.entered found
    by_cases unsettled : (s.entryAt goal).status = .unsettled
    · obtain ⟨middle,update,closed⟩ := @State.close_update s goal problem status known unsettled
      rw [closed]
      refine (told.announce update rfl ?_ (.inr ⟨unsettled,closing,rfl,rfl⟩)).closeGoal
      exact (List.reverse_perm _).append (List.reverse_perm _)
    · simp only [State.close,found,if_neg unsettled]
      split
      · exact told
      · exact told.breach _

theorem Told.markExtended (lineage : List WalkId) : Told problem history sites joined (s.markExtended lineage) := by
  induction lineage generalizing s with
  | nil => exact told
  | cons id rest ih =>
    unfold State.markExtended
    split
    · exact told.breach _
    · split
      · exact told
      · exact ih (told.modifyWalk id fun _ => rfl)

theorem Told.emit (walk : Walk) : Told problem history sites joined (s.emit problem walk) :=
  (told.markExtended walk.lineage).record walk.owner _

theorem Told.emit_if (ends : Bool) (walk : Walk) :
    Told problem history sites joined (if ends = true then s.emit problem walk else s) := by
  split
  · exact told.emit walk
  · exact told

theorem Told.release (ids : List WalkId) : Told problem history sites joined (s.release problem ids) := by
  induction ids generalizing s with
  | nil => exact told
  | cons id before ih =>
    unfold State.release
    split
    · exact told.breach _
    · rename_i walk found
      have released : Told problem history sites joined (s.modifyWalk id fun walk => { walk with pending := walk.pending-1 }) :=
        told.modifyWalk id fun _ => rfl
      split
      · exact told.breach _
      · dsimp only
        split
        · exact released
        · have ended := fun ends => released.emit_if ends walk
          cases before with
          | nil => exact (ended _).close walk.owner (by decide)
          | cons next others => exact ih (ended _)

variable [Regex.Library]

theorem Told.startGoal (goal : Goal) : Told problem history sites joined (s.startGoal problem goal) := by
  unfold State.startGoal
  split
  · exact told.breach _
  · split
    · dsimp only
      split
      · exact (told.record goal _).close goal (by decide)
      · exact told.close goal (by decide)
    · exact told.spawn rfl

theorem Told.request (goal : Goal) : Told problem history sites joined (s.request problem goal) := by
  unfold State.request
  split
  · exact { told with }
  · rename_i fresh
    rw [Bool.not_eq_true,Std.HashMap.contains_eq_false_iff_not_mem] at fresh
    refine Told.startGoal ?_ goal
    have entryAt : ∀ other, (s.setEntry goal {}).entryAt other = s.entryAt other := by
      intro other
      rw [State.setEntry_entryAt]
      split
      · rename_i same
        rw [same,State.entryAt_unasked fresh]
      · rfl
    constructor
    case walks => exact told.walks
    case once => exact told.once
    case strangers => exact told.strangers
    case waiting =>
      intro other
      change ((s.setEntry goal {}).entryAt other).waiting.Nodup
      rw [entryAt]
      exact told.waiting other
    case seated =>
      intro other id
      change id ∈ ((s.setEntry goal {}).entryAt other).waiting ↔ _ ∧ ((s.setEntry goal {}).entryAt other).status = _
      rw [entryAt]
      exact told.seated other id
    case letters =>
      intro id
      change (mailOf id (history ++ s.tasks)).Perm ((joined id).flatMap fun other => greetings ((s.setEntry goal {}).entryAt other) id)
      simp only [entryAt]
      exact told.letters id

end Operations

section Entries

variable {problem : Problem} {s : State} {goal other : Goal}

theorem State.closeGoal_entries : s.closeGoal.entries = s.entries := by
  unfold State.closeGoal
  split
  · rfl
  · rfl

theorem State.record_entries {derivation : Derivation} (known : other ∈ s.entries) :
    other ∈ (s.record problem goal derivation).entries := by
  cases found : s.entries[goal]? with
  | none =>
    simp only [State.record,found]
    exact known
  | some entry =>
    obtain ⟨asked,rfl⟩ := State.entered found
    by_cases settled : (s.entryAt goal).status = .settled
    · rw [State.record_late found settled]
      exact (State.setEntry_mem asked).mpr known
    · exact ((State.record_update asked settled).asked other).mpr known

theorem State.close_entries {status : Status} (known : other ∈ s.entries) : other ∈ (s.close problem goal status).entries := by
  cases found : s.entries[goal]? with
  | none =>
    simp only [State.close,found]
    exact known
  | some entry =>
    obtain ⟨asked,rfl⟩ := State.entered found
    by_cases unsettled : (s.entryAt goal).status = .unsettled
    · obtain ⟨middle,update,closed⟩ := @State.close_update s goal problem status asked unsettled
      rw [closed,State.closeGoal_entries]
      exact (update.asked other).mpr known
    · simp only [State.close,found,if_neg unsettled]
      split
      · exact known
      · exact known

variable [Regex.Library]

theorem State.startGoal_entries (known : other ∈ s.entries) : other ∈ (s.startGoal problem goal).entries := by
  unfold State.startGoal
  split
  · exact known
  · split
    · dsimp only
      split
      · exact State.close_entries (State.record_entries known)
      · exact State.close_entries known
    · exact known

theorem State.request_entries : goal ∈ (s.request problem goal).entries := by
  unfold State.request
  split
  · rename_i known
    exact Std.HashMap.contains_iff_mem.mp known
  · exact State.startGoal_entries Std.HashMap.mem_insert_self

end Entries

section Walks

variable {problem : Problem} {history : List Task} {sites : List Site} {joined : WalkId → List Goal} {s : State}

theorem Told.push (told : Told problem history sites joined s) (walk : Walk) :
    Told problem history (sites ++ [walk.site problem.grammar]) joined { s with walks := s.walks.push walk } := by
  refine { told with walks := ?_,strangers := ?_ }
  · rw [Array.toList_push,List.map_append,told.walks,List.map_singleton]
  · intro id outside
    rw [List.length_append,List.length_singleton] at outside
    exact told.strangers id (Nat.le_of_succ_le outside)

theorem Walk.mem_site {grammar : Grammar} {walk : Walk} {goal : Goal} : goal ∈ walk.site grammar ↔
    goal.position = walk.position ∧ goal.symbol ∈ grammar.outgoing walk.owner.symbol walk.states := by
  rw [Walk.site,List.mem_map]
  constructor
  · rintro ⟨symbol,wanted,rfl⟩
    exact ⟨rfl,wanted⟩
  · rintro ⟨position,wanted⟩
    exact ⟨goal.symbol,wanted,Goal.ext position.symm rfl⟩

theorem Walk.site_nodup {grammar : Grammar} {walk : Walk} : (walk.site grammar).Nodup :=
  Place.goals_nodup Grammar.outgoing_ascending

variable [Regex.Library]

-- A new walk asks for the goals of its site one after the other.
theorem Told.inquire {id : WalkId} (told : Told problem history sites joined s) (inside : id < sites.length) (site : Site)
    (apart : (joined id ++ site).Nodup) :
    Told problem history sites (Function.update joined id (joined id ++ site))
      (site.foldl (fun s goal => (s.request problem goal).await id goal) s) := by
  induction site generalizing s joined with
  | nil =>
    rw [List.append_nil,Function.update_eq_self]
    exact told
  | cons goal rest ih =>
    have unasked : goal ∉ joined id := fun member => List.disjoint_of_nodup_append apart member List.mem_cons_self
    rw [List.append_cons] at apart
    have first := (told.request goal).await State.request_entries unasked inside
    have later := ih first (by rwa [Function.update_self])
    rw [Function.update_idem,Function.update_self,← List.append_cons] at later
    exact later

theorem Told.begin (told : Told problem history sites joined s) (walk : Walk) :
    Told problem history (sites ++ [walk.site problem.grammar])
      (Function.update joined sites.length (walk.site problem.grammar)) (s.begin problem walk) := by
  have number : s.walks.size = sites.length := by rw [← told.walks,List.length_map,Array.length_toList]
  have added := told.push { walk with pending := 1 + (problem.grammar.outgoing walk.owner.symbol walk.states).length }
  have inside : sites.length < (sites ++ [walk.site problem.grammar]).length := by simp
  have empty : joined sites.length = [] := told.strangers _ (Nat.le_refl _)
  have apart : (joined sites.length ++ walk.site problem.grammar).Nodup := by
    rw [empty]
    exact Walk.site_nodup
  have asked := fun ends => (added.emit_if ends walk).inquire inside (walk.site problem.grammar) apart
  rw [empty,List.nil_append] at asked
  unfold State.begin
  rw [number]
  refine Told.release ?_ _
  split
  · exact asked _
  · exact { asked _ with }

end Walks

-- Between the steps of a parse every walk has asked for all goals of its site.
def Served (problem : Problem) (history : List Task) (s : State) : Prop :=
  ∃ sites : List Site, Told problem history sites (fun id => sites.getD id []) s

-- A task that is carried out goes from the bag into the history.
theorem Told.take {sites : List Site} {joined : WalkId → List Goal} (told : Told problem history sites joined s)
    {before after : List Task} {task : Task} (queued : s.tasks = before ++ task :: after) :
    Told problem (task :: history) sites joined { s with tasks := before ++ after } := by
  refine { told with letters := fun id => ?_ }
  have moved : (task :: history ++ (before ++ after)).Perm (history ++ s.tasks) := by
    rw [queued,← List.append_assoc,← List.append_assoc]
    exact List.perm_middle.symm
  exact (mailOf_perm moved).trans (told.letters id)

theorem Told.close_all {sites : List Site} {joined : WalkId → List Goal} (told : Told problem history sites joined s)
    (goals : List Goal) :
    Told problem history sites joined (goals.foldl (fun s goal => s.close problem goal .forced) s) := by
  induction goals generalizing s with
  | nil => exact told
  | cons goal rest ih => exact ih (told.close goal (by decide))

theorem Served.force (served : Served problem history s) : Served problem history (s.force problem) := by
  obtain ⟨sites,told⟩ := served
  have raised : Told problem history sites (fun id => sites.getD id []) { s with held := s.held + 1,rounds := s.rounds + 1 } :=
    { told with }
  have closed := raised.close_all s.deadlocked
  unfold State.force
  dsimp only
  generalize s.deadlocked.foldl _ _ = last at closed ⊢
  refine ⟨sites,Told.leave ?_⟩
  by_cases nothing : s.deadlocked.isEmpty = true
  · simp only [if_pos nothing]
    exact { closed.breach .nothingForced with }
  · simp only [if_neg nothing]
    exact { closed with }

theorem initial_served : Served problem [] (.initial problem) := by
  have entryAt : ∀ goal, (State.initial problem).entryAt goal = {} :=
    fun goal => State.entryAt_unasked (by simp [State.initial,State.spawn])
  refine ⟨[],rfl,fun _ => List.nodup_nil,fun _ _ => rfl,?_,?_,?_⟩
  · intro goal
    rw [entryAt]
    exact List.nodup_nil
  · intro goal id
    simp [entryAt]
  · intro id
    exact .nil

variable [Regex.Library]

-- The tasks carried out on the way to a state, latest first.
inductive Traced (problem : Problem) : List Task → State → Prop where
  | start : Traced problem [] (.initial problem)
  | task {history : List Task} {s : State} (traced : Traced problem history s) (before after : List Task) (task : Task)
      (queued : s.tasks = before ++ task :: after) :
      Traced problem (task :: history) ({ s with tasks := before ++ after }.perform problem task)
  | round {history : List Task} {s : State} (traced : Traced problem history s) (idle : s.tasks = []) (stuck : 0 < s.active) :
      Traced problem history (s.force problem)

section Steps

variable {problem : Problem} {history : List Task} {s : State}

theorem Served.begin (served : Served problem history s) (walk : Walk) : Served problem history (s.begin problem walk) := by
  obtain ⟨sites,told⟩ := served
  have begun := told.begin walk
  have grown : Function.update (fun id => sites.getD id []) sites.length (walk.site problem.grammar) =
      fun id => (sites ++ [walk.site problem.grammar]).getD id [] := by
    funext id
    rcases Nat.lt_trichotomy id sites.length with inside | rfl | outside
    · rw [Function.update_of_ne (Nat.ne_of_lt inside),List.getD_append _ _ _ _ inside]
    · simp
    · rw [Function.update_of_ne (Nat.ne_of_gt outside),List.getD_eq_default _ _ (Nat.le_of_lt outside),
        List.getD_eq_default _ _ (by simp; omega)]
  rw [grown] at begun
  exact ⟨_,begun⟩

theorem Served.act (served : Served problem history s) (task : Task) : Served problem history (s.act problem task) := by
  obtain ⟨sites,told⟩ := served
  cases task with
  | request goal => exact ⟨sites,told.request goal⟩
  | enter goal => exact Served.begin ⟨sites,told⟩ _
  | deliver id node =>
    simp only [State.act,State.advance]
    split
    · exact ⟨sites,told.breach _⟩
    · split
      · exact Served.begin ⟨sites,told⟩ _
      · exact ⟨sites,told.release _⟩
  | exhausted id =>
    simp only [State.act]
    split
    · exact ⟨sites,told.breach _⟩
    · exact ⟨sites,told.release _⟩

theorem Served.perform (served : Served problem history s) {before after : List Task} {task : Task}
    (queued : s.tasks = before ++ task :: after) :
    Served problem (task :: history) ({ s with tasks := before ++ after }.perform problem task) := by
  obtain ⟨sites,told⟩ := served
  obtain ⟨grown,acted⟩ := Served.act ⟨sites,told.take queued⟩ task
  exact ⟨grown,Told.leave { acted with }⟩

theorem Traced.served (traced : Traced problem history s) : Served problem history s := by
  induction traced with
  | start => exact initial_served
  | task _ before after task queued ih => exact ih.perform queued
  | round _ idle stuck ih => exact ih.force

theorem Traced.steps (traced : Traced problem history s) : Steps problem (.initial problem) s := by
  induction traced with
  | start => exact .refl _
  | task _ before after task queued ih => exact ih.tail (.task before after task queued)
  | round _ idle stuck ih => exact ih.tail (.round idle stuck)

-- Whatever happens after a history is added to it.
theorem Traced.extend {next : State} (traced : Traced problem history s) (steps : Steps problem s next) :
    ∃ more, Traced problem (more ++ history) next := by
  induction steps with
  | refl => exact ⟨[],traced⟩
  | tail _ step ih =>
    obtain ⟨more,extended⟩ := ih
    cases step with
    | task before after task queued => exact ⟨task :: more,extended.task before after task queued⟩
    | round idle stuck => exact ⟨more,extended.round idle stuck⟩

-- Every run has a history.
theorem steps_traced (steps : Steps problem (.initial problem) s) : ∃ history, Traced problem history s := by
  obtain ⟨history,traced⟩ := Traced.start.extend steps
  exact ⟨_,traced⟩

end Steps

end ParseForest.Session
