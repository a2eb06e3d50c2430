import Mathlib
import ParseForest.Proofs.Session.Inquire

namespace ParseForest.Session

section

variable {problem : Problem} {goals : List Goal} {frames : List Walk} {places : List Place} {asked : Set Goal}
  {entryAt : Goal → Entry} {duties rest : Multiset Duty} {made : Nat} {pendingAt : WalkId → Nat}
  {id : WalkId} {walk : Walk}

def lower (pendingAt : WalkId → Nat) (id : WalkId) : WalkId → Nat := Function.update pendingAt id (pendingAt id - 1)

-- The notice that the end of a walk is to the walk before it.
def endNotice (frames : List Walk) (id : WalkId) : List Task := (parentAt frames id).toList.map .exhausted

-- Notices are counted by the walks, not by the mail.
theorem Mail.renotice (mail : Mail problem places asked entryAt duties)
    (same : rest.filter (fun duty => duty.isNotice = false) = duties.filter fun duty => duty.isNotice = false)
    (notice : ∀ id, .task (.exhausted id) ∈ rest → id < places.length) : Mail problem places asked entryAt rest := by
  have member : ∀ {duty : Duty}, duty.isNotice = false → (duty ∈ rest ↔ duty ∈ duties) := by
    intro duty letter
    have both : duty ∈ rest.filter (fun duty => duty.isNotice = false) ↔
        duty ∈ duties.filter fun duty => duty.isNotice = false := by rw [same]
    simpa [Multiset.mem_filter,letter] using both
  constructor
  case once => exact same ▸ mail.once
  case request =>
    exact fun goal owed => mail.request goal ((member rfl).mp owed)
  case rooted =>
    exact mail.rooted.imp_right (member rfl).mpr
  case enter =>
    exact fun goal owed => mail.enter goal ((member rfl).mp owed)
  case entered =>
    exact fun goal known production => (mail.entered goal known production).imp_left (member rfl).mpr
  case notice => exact notice
  case asking =>
    intro id goal owed
    obtain ⟨place,found,wanted,absent,untold⟩ := mail.asking id goal ((member rfl).mp owed)
    exact ⟨place,found,wanted,absent,fun node own =>
      ⟨fun sent => (untold node own).1 ((member rfl).mp sent),(untold node own).2⟩⟩
  case seated => exact mail.seated
  case joined =>
    exact fun id place found goal wanted told => mail.joined id place found goal wanted (told ∘ (member rfl).mpr)
  case delivery =>
    exact fun id node owed => mail.delivery id node ((member rfl).mp owed)
  case delivered =>
    exact fun id place found node wanted told shown =>
      (mail.delivered id place found node wanted (told ∘ (member rfl).mpr) shown).imp_left (member rfl).mpr
  case passed => exact mail.passed

theorem filter_notices {tasks : List Task} (notices : ∀ task ∈ tasks, (Duty.task task).isNotice = true) :
    (owe tasks + rest).filter (fun duty => duty.isNotice = false) = rest.filter fun duty => duty.isNotice = false := by
  rw [Multiset.filter_add,Multiset.filter_eq_nil.mpr,zero_add]
  intro duty member
  obtain ⟨task,inside,rfl⟩ := List.mem_map.mp (Multiset.mem_coe.mp member)
  simp [notices task inside]

theorem filter_notice : ((.task (.exhausted id) : Duty) ::ₘ rest).filter (fun duty => duty.isNotice = false) =
    rest.filter fun duty => duty.isNotice = false := by
  rw [Multiset.filter_cons,if_neg (by simp [Duty.isNotice]),zero_add]

theorem Mail.drop_notice (mail : Mail problem places asked entryAt (.task (.exhausted id) ::ₘ rest)) :
    Mail problem places asked entryAt rest :=
  mail.renotice filter_notice.symm fun other member => mail.notice other (Multiset.mem_cons_of_mem member)

theorem endNotice_notice {task : Task} (member : task ∈ endNotice frames id) : (Duty.task task).isNotice = true := by
  obtain ⟨_,_,rfl⟩ := List.mem_map.mp member
  rfl

theorem Mail.end_notice {grammar : Grammar} (mail : Mail problem (frames.map Walk.place) asked entryAt rest)
    (family : Family grammar frames) : Mail problem (frames.map Walk.place) asked entryAt (owe (endNotice frames id) + rest) := by
  refine mail.renotice (filter_notices fun _ => endNotice_notice) ?_
  intro other member
  rcases Multiset.mem_add.mp member with new | old
  · obtain ⟨parent,isParent,equal⟩ := List.mem_map.mp (task_mem_owe.mp new)
    obtain rfl := Task.exhausted.inj equal
    rw [List.length_map]
    exact family.parent_lt (Option.mem_toList.mp isParent)
  · exact mail.notice other old

theorem lower_ne {other : WalkId} (different : other ≠ id) : lower pendingAt id other = pendingAt other :=
  Function.update_of_ne different _ _

theorem lower_self : lower pendingAt id id = pendingAt id - 1 := Function.update_self _ _ _

theorem Balanced.lower (balanced : Balanced problem frames entryAt pendingAt (.task (.exhausted id) ::ₘ rest))
    (more : pendingAt id ≠ 1) (found : frames[id]? = some walk) :
    Balanced problem frames entryAt (Session.lower pendingAt id) rest := by
  have busy := balanced.burden_pos found (Multiset.mem_cons_self _ _) (by simp [Duty.burdens])
  have same : ∀ other, Session.lower pendingAt id other ≠ 0 ↔ pendingAt other ≠ 0 := by
    intro other
    by_cases here : other = id
    · subst here
      rw [lower_self]
      omega
    · rw [lower_ne here]
  intro other spot at_other
  have before := balanced other spot at_other
  rw [Multiset.countP_cons] at before
  rw [heirs_raise same]
  by_cases here : other = id
  · subst here
    rw [lower_self]
    simp only [Duty.burdens_exhausted,if_true] at before
    omega
  · rw [lower_ne here]
    simp only [Duty.burdens_exhausted,here,if_false] at before
    omega

theorem heirs_end (last : pendingAt id = 1) (inside : id < frames.length) (other : WalkId) :
    (heirs frames pendingAt other).card = (heirs frames (lower pendingAt id) other).card +
      if parentAt frames id = some other then 1 else 0 := by
  have erased : heirs frames (lower pendingAt id) other = (heirs frames pendingAt other).erase id := by
    ext child
    simp only [heirs,Finset.mem_filter,Finset.mem_range,Finset.mem_erase]
    by_cases here : child = id
    · subst here
      simp [lower_self,last]
    · simp [lower_ne here,here]
  rw [erased]
  split
  · rename_i isParent
    have member : id ∈ heirs frames pendingAt other := by simp [heirs,inside,isParent,last]
    have := Finset.card_pos.mpr ⟨id,member⟩
    rw [Finset.card_erase_of_mem member]
    omega
  · rename_i notParent
    rw [Finset.erase_eq_of_notMem (by simp [heirs,notParent]),Nat.add_zero]

theorem endNotice_burdens {other : WalkId} : (owe (endNotice frames id)).countP (fun duty => duty.burdens other = true) =
    if parentAt frames id = some other then 1 else 0 := by
  unfold endNotice
  cases parentAt frames id with
  | none => rfl
  | some parent =>
    have only : owe ((some parent).toList.map .exhausted) = Duty.task (.exhausted parent) ::ₘ 0 := rfl
    rw [only,Multiset.countP_cons,Multiset.countP_zero]
    simp only [Duty.burdens_exhausted,Option.some.injEq,zero_add,@eq_comm _ other]

theorem Balanced.finish (balanced : Balanced problem frames entryAt pendingAt (.task (.exhausted id) ::ₘ rest))
    (last : pendingAt id = 1) (found : frames[id]? = some walk) :
    Balanced problem frames entryAt (Session.lower pendingAt id) (owe (endNotice frames id) + rest) := by
  have inside := (List.getElem?_eq_some_iff.mp found).1
  intro other spot at_other
  have before := balanced other spot at_other
  rw [Multiset.countP_cons,heirs_end last inside] at before
  rw [Multiset.countP_add,endNotice_burdens]
  by_cases here : other = id
  · subst here
    rw [lower_self]
    simp only [Duty.burdens_exhausted,if_true] at before
    omega
  · rw [lower_ne here]
    simp only [Duty.burdens_exhausted,here,if_false] at before
    omega

theorem ended_lower (more : pendingAt id ≠ 1) (busy : pendingAt id ≠ 0) :
    endedPlaces places (lower pendingAt id) = endedPlaces places pendingAt := by
  refine ended_raise ?_
  intro other
  by_cases here : other = id
  · subst here
    rw [lower_self]
    omega
  · rw [lower_ne here]

theorem ended_finish {place : Place} (last : pendingAt id = 1) (found : places[id]? = some place) :
    endedPlaces places (lower pendingAt id) = insert place (endedPlaces places pendingAt) := by
  ext spot
  rw [Set.mem_insert_iff]
  constructor
  · rintro ⟨other,at_other,zero⟩
    by_cases here : other = id
    · subst here
      rw [found] at at_other
      exact .inl (Option.some.inj at_other).symm
    · rw [lower_ne here] at zero
      exact .inr ⟨other,at_other,zero⟩
  · rintro (rfl | ⟨other,at_other,zero⟩)
    · exact ⟨id,found,by rw [lower_self,last]⟩
    · refine ⟨other,at_other,?_⟩
      rw [lower_ne]
      · exact zero
      · rintro rfl
        omega

-- A mark reaches all the way to the front.
theorem Flagged.earlier {extendedAt : WalkId → Bool} {one two : Place} {later earlier : WalkId}
    (flags : Flagged problem places pendingAt extendedAt) (at_later : places[later]? = some one)
    (at_earlier : places[earlier]? = some two) (extended : one.Extends two) (greedy : Chart.IsGreedy problem two.owner)
    (marked : extendedAt later = true) : extendedAt earlier = true := by
  obtain ⟨further,ended,behind,different,accepting⟩ := (flags later one at_later (extended.1 ▸ greedy)).mp marked
  refine (flags earlier two at_earlier greedy).mpr ⟨further,ended,extended.trans behind,?_,accepting⟩
  rintro rfl
  exact different (behind.antisymm extended)

theorem Flagged.finish {extendedAt marks : WalkId → Bool} {place : Place}
    (flags : Flagged problem places pendingAt extendedAt) (last : pendingAt id = 1) (found : places[id]? = some place)
    (new : ∀ (other : WalkId) (spot : Place), places[other]? = some spot → Chart.IsGreedy problem spot.owner →
      (marks other = true ↔ extendedAt other = true ∨
        place.Extends spot ∧ place ≠ spot ∧ place.accepting problem.grammar = true)) :
    Flagged problem places (Session.lower pendingAt id) marks := by
  intro other spot at_other greedy
  rw [new other spot at_other greedy,flags other spot at_other greedy,ended_finish last found]
  constructor
  · rintro (⟨further,ended,rest⟩ | here)
    · exact ⟨further,Set.mem_insert_of_mem _ ended,rest⟩
    · exact ⟨place,Set.mem_insert _ _,here⟩
  · rintro ⟨further,ended,rest⟩
    rcases Set.mem_insert_iff.mp ended with rfl | before
    · exact .inr rest
    · exact .inl ⟨further,before,rest⟩

end

namespace State

variable {problem : Problem} {s : State} {duties rest : Multiset Duty} {id : WalkId} {walk : Walk} {place : Place}

def lowered (s : State) (id : WalkId) : State := s.modifyWalk id fun walk => { walk with pending := walk.pending - 1 }

theorem lowered_frames : (s.lowered id).frames = s.frames := by
  refine List.ext_getElem? fun other => ?_
  rw [frames_getElem?,frames_getElem?,lowered,modify_getElem?]
  split
  · rw [Option.map_map]
    rfl
  · rfl

theorem lowered_places : (s.lowered id).places = s.places := by rw [places_eq,places_eq,lowered_frames]

theorem lowered_extended : (s.lowered id).extendedAt = s.extendedAt := by
  funext other
  rw [extendedAt,lowered,modify_getElem?]
  split
  · rw [Option.map_map]
    rfl
  · rfl

theorem lowered_pending : (s.lowered id).pendingAt = lower s.pendingAt id := by
  funext other
  rw [pendingAt,lowered,modify_getElem?]
  split
  · rename_i same
    subst same
    rw [lower_self,pendingAt,Option.map_map]
    cases s.walks[id]? <;> rfl
  · rename_i different
    rw [lower_ne (Ne.symm different),pendingAt]

theorem lowered_sent : Sent s (s.lowered id) [] 0 := ⟨rfl,rfl,rfl,lowered_frames,fun _ => List.not_mem_nil,rfl⟩

theorem Good.lower (good : Good problem s (.task (.exhausted id) ::ₘ rest)) (found : s.frames[id]? = some walk)
    (more : s.pendingAt id ≠ 1) : Good problem (s.lowered id) rest ∧ (s.lowered id).chart = s.chart := by
  have busy := good.balance.burden_pos found (Multiset.mem_cons_self _ _) (Duty.burdens_exhausted.mpr rfl)
  have ended : endedPlaces (s.lowered id).places (s.lowered id).pendingAt = endedPlaces s.places s.pendingAt := by
    rw [lowered_places,lowered_pending]
    exact ended_lower more busy
  refine ⟨⟨good.books,?_,?_,?_,?_,?_,good.breaches⟩,?_⟩
  · rw [lowered_frames]
    exact good.family
  · rw [lowered_places]
    exact good.mail.drop_notice
  · rw [lowered_frames,lowered_pending]
    exact good.balance.lower more found
  · intro other place at_other greedy
    rw [ended,lowered_extended]
    exact good.flags other place (lowered_places ▸ at_other) greedy
  · rw [lowered_places]
    exact good.tally.reask fun _ => asks_task.symm
  · refine Chart.ext rfl rfl rfl rfl ?_ ?_ rfl rfl
    · ext place
      rw [chart_walks,chart_walks,lowered_places]
    · rw [chart_ended,chart_ended,ended]

-- When the last thing that a walk waits for is a notice, nothing more can come of it.
theorem Good.exhausted (good : Good problem s (.task (.exhausted id) ::ₘ rest)) (found : s.frames[id]? = some walk)
    (last : s.pendingAt id = 1) :
    walk.place ∉ s.chart.ended ∧ s.chart.Exhausted problem walk.place := by
  have nodup : s.places.Nodup := places_eq ▸ good.family.places
  have at_id : s.places[id]? = some walk.place := by rw [places_getElem?,found]; rfl
  have balance := good.balance id walk found
  rw [last,Multiset.countP_cons,if_pos (Duty.burdens_exhausted.mpr rfl)] at balance
  have unburdened : ∀ duty ∈ rest, duty.burdens id = false := by
    have none_left : rest.countP (fun duty => duty.burdens id = true) = 0 := by omega
    intro duty member
    simpa using Multiset.countP_eq_zero.mp none_left duty member
  have unseated : ∀ goal ∈ walk.place.site problem.grammar, id ∉ (s.entryAt goal).waiting := by
    have none_left : seats s.entryAt id (walk.place.site problem.grammar) = ∅ := Finset.card_eq_zero.mp (by omega)
    intro goal wanted waits
    exact Finset.notMem_empty goal (none_left ▸ by simp [seats,wanted,waits])
  have heirless : heirs s.frames s.pendingAt id = ∅ := Finset.card_eq_zero.mp (by omega)
  have told : ∀ goal, .ask id goal ∉ .task (.exhausted id) ::ₘ rest := by
    intro goal member
    have owed := (Multiset.mem_cons.mp member).resolve_left (by simp)
    simpa [Duty.burdens] using unburdened _ owed
  constructor
  · rw [chart_ended]
    rintro ⟨other,at_other,zero⟩
    rw [index_unique nodup at_other at_id] at zero
    omega
  · refine ⟨chart_walks.mpr (List.mem_of_getElem? at_id),?_,?_⟩
    · intro goal wanted
      exact (good.mail.joined id _ at_id goal wanted (told goal)).2.resolve_right (unseated goal wanted)
    · intro node continues
      rcases good.mail.delivered id _ at_id node continues.wanted (told _) continues.published with sent | passed | refused
      · have owed := (Multiset.mem_cons.mp sent).resolve_left (by simp)
        simpa [Duty.burdens] using unburdened _ owed
      · -- The walk behind the node was begun from this one, so it has ended.
        obtain ⟨child,at_child⟩ := List.mem_iff_getElem?.mp passed
        obtain ⟨heir,here,same⟩ := Option.map_eq_some_iff.mp (places_getElem?.symm.trans at_child)
        rw [chart_ended]
        refine ⟨child,at_child,?_⟩
        by_contra busy
        rcases good.family.lineage child heir here with ⟨empty,_⟩ | ⟨before,parent,step,at_before,extended,lineage⟩
        · have trail := congrArg Place.trail same
          change heir.trail = _ at trail
          rw [empty] at trail
          cases trail
        · obtain ⟨equal,_⟩ := Place.extend_inj.mp (extended.symm.trans same)
          have parentHere : before = id := by
            refine index_unique nodup ?_ at_id
            rw [places_getElem?,at_before,← equal]
            rfl
          have member : child ∈ heirs s.frames s.pendingAt id := by
            simp only [heirs,Finset.mem_filter,Finset.mem_range]
            exact ⟨(List.getElem?_eq_some_iff.mp here).1,by simp [parentAt,here,lineage,parentHere],busy⟩
          rw [heirless] at member
          exact Finset.notMem_empty _ member
      · exact absurd continues.admitted refused

-- The marks that the end of a walk makes are those that the flags call for.
theorem Good.finish_marks (good : Good problem s (.task (.exhausted id) ::ₘ rest)) (found : s.walks[id]? = some walk)
    (last : s.pendingAt id = 1) (greedy : Chart.IsGreedy problem walk.owner)
    (accepting : walk.place.accepting problem.grammar = true) :
    Marked (s.lowered id) ((s.lowered id).markExtended walk.lineage) walk.lineage ∧
      Flagged problem (s.lowered id).places (s.lowered id).pendingAt ((s.lowered id).markExtended walk.lineage).extendedAt := by
  have nodup : s.places.Nodup := places_eq ▸ good.family.places
  have frame : s.frames[id]? = some walk.frame := by rw [frames_getElem?,found]; rfl
  have on_way : ∀ other ∈ walk.lineage, ∃ spot ∈ walk.place.before, s.places[other]? = some spot := by
    intro other member
    obtain ⟨spot,before,at_other⟩ := good.family.mem_lineage frame member
    exact ⟨spot,before,places_eq ▸ at_other⟩
  have inside : ∀ other ∈ walk.lineage, other < (s.lowered id).walks.size := by
    intro other member
    obtain ⟨_,_,at_other⟩ := on_way other member
    rw [← places_length,lowered_places]
    exact (List.getElem?_eq_some_iff.mp at_other).1
  have closed : walk.lineage.Pairwise fun later earlier =>
      (s.lowered id).extendedAt later = true → (s.lowered id).extendedAt earlier = true := by
    refine (good.family.lineage_pairwise frame).imp_of_mem ?_
    intro later earlier memberLater memberEarlier extended
    obtain ⟨one,_,at_later⟩ := on_way later memberLater
    obtain ⟨two,before,at_earlier⟩ := on_way earlier memberEarlier
    have owner : two.owner = walk.owner := (Place.mem_before.mp before).1.1.symm
    rw [lowered_extended]
    exact good.flags.earlier at_later at_earlier (extended one two (places_eq ▸ at_later) (places_eq ▸ at_earlier))
      (owner ▸ greedy)
  have marked := markExtended_marked walk.lineage inside
  have once := good.family.lineage_nodup frame
  have all := markExtended_all walk.lineage inside once closed
  refine ⟨marked,?_⟩
  rw [lowered_places,lowered_pending]
  refine good.flags.finish last (place_of_walk found) ?_
  intro other spot at_other _
  by_cases member : other ∈ walk.lineage
  · obtain ⟨same,before,at_same⟩ := on_way other member
    rw [at_other] at at_same
    obtain rfl := Option.some.inj at_same
    obtain ⟨extended,different⟩ := Place.mem_before.mp before
    exact iff_of_true (all other member) (.inr ⟨extended,Ne.symm different,accepting⟩)
  · rw [marked.outside other member,lowered_extended]
    refine (or_iff_left ?_).symm
    rintro ⟨extended,different,_⟩
    obtain ⟨listed,inLineage,at_listed⟩ := good.family.lineage_mem frame (Place.mem_before.mpr ⟨extended,Ne.symm different⟩)
    rw [← places_eq] at at_listed
    exact member (index_unique nodup at_other at_listed ▸ inLineage)

theorem Marked.refl : Marked s s [] := ⟨⟨_,rfl⟩,rfl,rfl,fun _ _ => rfl⟩

theorem Good.finished (good : Good problem s (.task (.exhausted id) ::ₘ rest)) (found : s.walks[id]? = some walk)
    (last : s.pendingAt id = 1) {next : State} {ids : List WalkId} (marked : Marked (s.lowered id) next ids)
    (flags : Flagged problem s.places (Session.lower s.pendingAt id) next.extendedAt) :
    Good problem next (owe (endNotice s.frames id) + rest) ∧ Sent s next [] 0 ∧ next.entryAt = s.entryAt ∧
      next.chart = { s.chart with ended := insert walk.place s.chart.ended } := by
  have frame : s.frames[id]? = some walk.frame := by rw [frames_getElem?,found]; rfl
  have frames : next.frames = s.frames := marked.frames.trans lowered_frames
  have places : next.places = s.places := by rw [places_eq,places_eq,frames]
  have pending : next.pendingAt = Session.lower s.pendingAt id := marked.pending.trans lowered_pending
  obtain ⟨⟨walks,rfl⟩,_,_,_⟩ := marked
  refine ⟨⟨good.books,?_,?_,?_,?_,?_,good.breaches⟩,⟨rfl,rfl,rfl,frames,fun _ => List.not_mem_nil,rfl⟩,rfl,?_⟩
  · rw [frames]
    exact good.family
  · rw [places,places_eq]
    exact good.mail_frames.drop_notice.end_notice good.family
  · rw [frames,pending]
    exact good.balance.finish last frame
  · rw [places,pending]
    exact flags
  · rw [places]
    exact good.tally.reask fun _ => asks_add_owe.trans asks_task.symm
  · refine Chart.ext rfl rfl rfl rfl ?_ ?_ rfl rfl
    · ext place
      rw [chart_walks,chart_walks,places]
    · rw [chart_ended,chart_ended,places,pending,ended_finish last (place_of_walk found)]

theorem Good.walk_of_frame (found : s.frames[id]? = some walk) :
    ∃ full, s.walks[id]? = some full ∧ full.frame = walk := by
  rw [frames_getElem?] at found
  exact Option.map_eq_some_iff.mp found

-- The flag of a walk that ends says whether a longer derivation is there.
theorem Good.extended_iff [Regex.Library] (good : Good problem s duties) (reached : Chart.Reached problem s.chart)
    (found : s.walks[id]? = some walk) (exhausted : s.chart.Exhausted problem walk.place)
    (greedy : Chart.IsGreedy problem walk.owner) : walk.extended = false ↔ s.chart.Maximal problem walk.place := by
  have linked := Chart.reached_linked reached
  have flag : s.extendedAt id = walk.extended := by simp [extendedAt,found]
  have marked := good.flags id walk.place (place_of_walk found) greedy
  rw [flag,← chart_ended] at marked
  rw [← Bool.not_eq_true,marked]
  constructor
  · intro unmarked further member extended accepting
    by_contra different
    rcases linked.extends_cases member extended with same | ⟨node,continues,behind⟩
    · exact different same
    · have ended := linked.ended_of_extends (exhausted.ended node continues) member behind
      exact unmarked ⟨further,ended,extended,different,accepting⟩
  · rintro maximal ⟨further,ended,extended,different,accepting⟩
    exact different (maximal further ((Chart.reached_owned reached).ended ended) extended accepting)

def ended (problem : Problem) (s : State) (id : WalkId) (walk : Walk) : State :=
  if (problem.grammar.isGreedy walk.owner.symbol && !walk.extended && walk.place.accepting problem.grammar) = true then
    ((s.lowered id).markExtended walk.lineage).record problem walk.owner walk.place.derivation
  else s.lowered id

theorem Good.finish [Regex.Library] (good : Good problem s (.task (.exhausted id) ::ₘ rest)) (reached : Chart.Reached problem s.chart)
    (found : s.walks[id]? = some walk) (last : s.pendingAt id = 1) :
    Chart.Event problem s.chart (s.chart.finish problem walk.place) ∧ s.chart.status walk.owner ≠ .settled ∧
      Sent s (s.ended problem id walk) [] 0 ∧
      Good problem (s.ended problem id walk) (owe (endNotice s.frames id) + rest) ∧
      (s.ended problem id walk).chart = s.chart.finish problem walk.place := by
  have frame : s.frames[id]? = some walk.frame := by rw [frames_getElem?,found]; rfl
  have owned := Chart.reached_owned reached
  obtain ⟨live,exhausted⟩ := good.exhausted frame last
  have unsettled : s.chart.status walk.owner ≠ .settled := by
    intro settled
    have ended := (Chart.reached_decided reached).settled walk.owner settled (owned.walk _ exhausted.walk).2
    exact live ((Chart.reached_linked reached).ended_of_extends ended exhausted.walk Place.extends_first)
  refine ⟨.finish _ live exhausted,unsettled,?_⟩
  unfold State.ended
  split
  · rename_i ends
    simp only [Bool.and_eq_true,Bool.not_eq_true'] at ends
    obtain ⟨⟨greedy,unmarked⟩,accepting⟩ := ends
    have maximal := (good.extended_iff reached found exhausted greedy).mp unmarked
    obtain ⟨marked,flags⟩ := good.finish_marks found last greedy accepting
    rw [lowered_places,lowered_pending] at flags
    obtain ⟨kept,quietly,entryAt,chart⟩ := good.finished found last marked flags
    have asked : walk.owner ∈ ((s.lowered id).markExtended walk.lineage).asked := by
      change walk.owner ∈ ((s.lowered id).markExtended walk.lineage).chart.asked
      rw [chart]
      exact (owned.walk _ exhausted.walk).1
    have unrecorded : walk.place.derivation ∉ s.chart.derivations walk.owner := by
      rw [(Chart.reached_recorded reached).greedy walk.owner greedy]
      rintro ⟨place,member,owner,_,_,same⟩
      exact live (Place.derivation_inj owner.symm same ▸ member)
    obtain ⟨new,sent,recorded,final,news⟩ := kept.record asked (by
      rw [entryAt]
      exact unsettled) (@Place.derivation_goal walk.place) (by
      rw [chart]
      exact unrecorded)
    have none_new : new = [] := by
      rcases news with none_new | ⟨unknown,shown | ⟨_,plain,_⟩⟩
      · exact none_new
      · exact absurd shown unknown
      · exact absurd greedy plain
    subst none_new
    refine ⟨quietly.trans sent,by simpa using recorded,?_⟩
    rw [final,chart]
    refine Chart.ext rfl rfl ?_ ?_ rfl rfl rfl rfl
    · funext other
      ext derivation
      refine or_congr_right ?_
      constructor
      · rintro ⟨rfl,rfl⟩
        exact ⟨rfl,greedy,accepting,maximal,rfl⟩
      · rintro ⟨rfl,_,_,_,rfl⟩
        exact ⟨rfl,rfl⟩
    · funext other
      ext node
      refine or_iff_left ?_
      rintro ⟨rfl,plain,_⟩
      exact plain greedy
  · rename_i quiet
    have nothing : Chart.IsGreedy problem walk.owner → walk.place.accepting problem.grammar = true → walk.extended = true := by
      intro greedy accepting
      by_contra unmarked
      have greedy : problem.grammar.isGreedy walk.owner.symbol = true := greedy
      exact quiet (by simp [greedy,accepting,unmarked])
    obtain ⟨kept,quietly,_,chart⟩ := good.finished found last Marked.refl (by
      rw [lowered_extended]
      refine good.flags.finish last (place_of_walk found) ?_
      intro other spot at_other greedy
      refine (or_iff_left_of_imp ?_).symm
      rintro ⟨extended,_,accepting⟩
      have owner : spot.owner = walk.owner := extended.1.symm
      have marked := nothing (owner ▸ greedy) accepting
      exact good.flags.earlier (place_of_walk found) at_other extended greedy (by simp [extendedAt,found,marked]))
    refine ⟨quietly,kept,?_⟩
    rw [chart]
    refine Chart.ext rfl rfl ?_ rfl rfl rfl rfl rfl
    funext other
    ext derivation
    refine (or_iff_left ?_).symm
    rintro ⟨rfl,greedy,accepting,maximal,_⟩
    have unmarked := (good.extended_iff reached found exhausted greedy).mpr maximal
    rw [nothing greedy accepting] at unmarked
    cases unmarked

theorem release_cons (good : Good problem s (.task (.exhausted id) ::ₘ rest)) (found : s.walks[id]? = some walk)
    (before : List WalkId) :
    s.release problem (id :: before) =
      if walk.pending ≠ 1 then s.lowered id
      else match before with
        | [] => (s.ended problem id walk).close problem walk.owner .settled
        | _ :: _ => (s.ended problem id walk).release problem before := by
  have frame : s.frames[id]? = some walk.frame := by rw [frames_getElem?,found]; rfl
  have busy := good.balance.burden_pos frame (Multiset.mem_cons_self _ _) (Duty.burdens_exhausted.mpr rfl)
  rw [pendingAt_eq found] at busy
  obtain ⟨position,states,_⟩ := good.family.layout id walk.frame frame
  have position : walk.position = walk.place.position := position
  have states : walk.states = walk.place.states problem.grammar := states
  have emission : (s.lowered id).emit problem walk =
      ((s.lowered id).markExtended walk.lineage).record problem walk.owner walk.place.derivation := by
    rw [emit,position]
    rfl
  have accepting : problem.grammar.accepting walk.owner.symbol walk.states = walk.place.accepting problem.grammar := by
    rw [states]
    rfl
  conv_lhs => unfold release
  rw [found]
  dsimp only
  rw [if_neg busy,accepting]
  by_cases last : walk.pending ≠ 1
  · rw [if_pos last,if_pos last]
    rfl
  · rw [if_neg last,if_neg last]
    change (match before with
      | [] => (if _ then (s.lowered id).emit problem walk else s.lowered id).close problem walk.owner .settled
      | _ :: _ => (if _ then (s.lowered id).emit problem walk else s.lowered id).release problem before) = _
    rw [emission]
    rfl

end State

-- A goal whose first walk has ended is closed.
def Chart.Tidy (chart : Chart) : Prop := ∀ goal, .first goal ∈ chart.ended → chart.Closed goal

namespace State

variable {problem : Problem} {s : State} {rest : Multiset Duty} {id : WalkId} {walk : Walk}

-- The end of a goal's first walk settles the goal, unless it was forced before.
theorem Good.settle [Regex.Library] (good : Good problem s rest) (reached : Chart.Reached problem s.chart) (goal : Goal)
    (ended : .first goal ∈ s.chart.ended) (unsettled : s.chart.status goal ≠ .settled)
    (tidy : ∀ other, other ≠ goal → .first other ∈ s.chart.ended → s.chart.Closed other) :
    ∃ new, Sent s (s.close problem goal .settled) new 0 ∧ Good problem (s.close problem goal .settled) (owe new + rest) ∧
      Chart.Phase problem s.chart (s.close problem goal .settled).chart ∧ (s.close problem goal .settled).chart.Tidy ∧
      (Chart.Stirred s.chart (s.close problem goal .settled).chart ∨ new = []) := by
  have owned := Chart.reached_owned reached
  have asked : goal ∈ s.asked := (owned.walk _ (owned.ended ended)).1
  cases status : (s.entryAt goal).status with
  | settled => exact absurd status unsettled
  | forced =>
    rw [close_forced asked status]
    refine ⟨[],.refl,by simpa using good,.refl,?_,.inr rfl⟩
    intro other firstEnded
    by_cases same : other = goal
    · subst same
      intro isOpen
      rw [show s.chart.status other = .forced from status] at isOpen
      cases isOpen
    · exact tidy other same firstEnded
  | unsettled =>
    have recorded := Chart.reached_recorded reached
    obtain ⟨new,sent,kept,_,chart⟩ := good.close asked .settled status (by simp)
      (fun derivation member => recorded.goal_eq owned member) (by
        intro greedy
        refine List.eq_nil_iff_forall_not_mem.mpr fun node member => ?_
        have shown : node ∈ s.chart.published goal := member
        rw [(Chart.reached_announced reached).greedy_open goal greedy status] at shown
        exact shown)
    have event : Chart.Event problem s.chart (s.close problem goal .settled).chart := by
      rw [chart]
      exact .settle goal status ended
    have closed : (s.close problem goal .settled).chart.Closed goal := by
      rw [chart]
      simp [Chart.Closed,Chart.close]
    refine ⟨new,sent,kept,.single event,?_,.inl (.inr (.inr ⟨goal,closed,fun before => before status⟩))⟩
    intro other firstEnded
    by_cases same : other = goal
    · subst same
      exact closed
    · rw [chart] at firstEnded
      exact (Chart.event_later owned event).closed_mono (tidy other same firstEnded)

-- A notice to a walk, and the ends that follow from it towards the front.
theorem Good.release [Regex.Library] (good : Good problem s (.task (.exhausted id) ::ₘ rest)) (reached : Chart.Reached problem s.chart)
    (tidy : s.chart.Tidy) (found : s.frames[id]? = some walk) :
    ∃ new, Sent s (s.release problem (id :: walk.lineage)) new 0 ∧
      Good problem (s.release problem (id :: walk.lineage)) (owe new + rest) ∧
      Chart.Phase problem s.chart (s.release problem (id :: walk.lineage)).chart ∧
      (s.release problem (id :: walk.lineage)).chart.Tidy ∧
      (Chart.Stirred s.chart (s.release problem (id :: walk.lineage)).chart ∨ new = []) := by
  generalize lineage : walk.lineage = ids
  induction ids generalizing s id walk with
  | nil =>
    obtain ⟨full,at_id,rfl⟩ := Good.walk_of_frame found
    rw [release_cons good at_id]
    split
    · rename_i more
      obtain ⟨kept,same⟩ := good.lower found (by rwa [pendingAt_eq at_id])
      exact ⟨[],lowered_sent,by simpa using kept,same ▸ .refl,same.symm ▸ tidy,.inr rfl⟩
    · rename_i last
      obtain ⟨event,unsettled,sent,kept,chart⟩ := good.finish reached at_id (by rw [pendingAt_eq at_id]; omega)
      have first : full.place = .first full.owner := by
        rcases good.family.lineage id full.frame found with ⟨empty,_⟩ | ⟨_,_,_,_,_,cons⟩
        · exact Place.ext rfl empty
        · rw [lineage] at cons
          cases cons
      have unparented : endNotice s.frames id = [] := by simp [endNotice,parentAt,found,lineage]
      rw [unparented,owe_nil,zero_add] at kept
      rw [first] at chart event
      have reachedHere : Chart.Reached problem (s.ended problem id full).chart := chart ▸ reached.event event
      obtain ⟨new,sentLast,settled,phase,tidyLast,quiet⟩ := kept.settle reachedHere full.owner
        (chart ▸ Set.mem_insert _ _) (chart ▸ unsettled) (by
          intro other different firstEnded
          rw [chart] at firstEnded ⊢
          rcases Set.mem_insert_iff.mp firstEnded with same | before
          · exact absurd (congrArg Place.owner same) different
          · exact tidy other before)
      have whole : Chart.Phase problem s.chart (s.ended problem id full).chart := chart ▸ .single event
      refine ⟨new,by simpa using sent.trans sentLast,settled,whole.trans phase,tidyLast,?_⟩
      exact quiet.imp_left (·.earlier (Chart.phase_later reached whole))
  | cons before ids ih =>
    obtain ⟨full,at_id,rfl⟩ := Good.walk_of_frame found
    rw [release_cons good at_id]
    split
    · rename_i more
      obtain ⟨kept,same⟩ := good.lower found (by rwa [pendingAt_eq at_id])
      exact ⟨[],lowered_sent,by simpa using kept,same ▸ .refl,same.symm ▸ tidy,.inr rfl⟩
    · rename_i last
      obtain ⟨event,_,sent,kept,chart⟩ := good.finish reached at_id (by rw [pendingAt_eq at_id]; omega)
      rcases good.family.lineage id full.frame found with ⟨_,empty⟩ | ⟨parentId,parent,node,at_parent,extended,cons⟩
      · rw [lineage] at empty
        cases empty
      · rw [lineage] at cons
        obtain ⟨rfl,rfl⟩ := List.cons.inj cons
        have parented : endNotice s.frames id = [.exhausted before] := by simp [endNotice,parentAt,found,lineage]
        rw [parented,owe_cons,owe_nil,Multiset.cons_add,zero_add] at kept
        have tidyHere : (s.ended problem id full).chart.Tidy := by
          intro goal firstEnded
          rw [chart] at firstEnded ⊢
          rcases Set.mem_insert_iff.mp firstEnded with same | earlier
          · exact absurd (same.trans extended) Place.first_ne_extend
          · exact tidy goal earlier
        have whole : Chart.Phase problem s.chart (s.ended problem id full).chart := chart ▸ .single event
        obtain ⟨new,sentLast,settled,phase,tidyLast,quiet⟩ := ih kept (reached.phase whole) tidyHere
          (sent.frames ▸ at_parent) rfl
        refine ⟨new,by simpa using sent.trans sentLast,settled,whole.trans phase,tidyLast,?_⟩
        exact quiet.imp_left (·.earlier (Chart.phase_later reached whole))

end State

end ParseForest.Session
