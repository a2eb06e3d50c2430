import Mathlib
import ParseForest.Proofs.Chart.Weight
import ParseForest.Proofs.Session.Begin

namespace ParseForest.Session.State

variable {problem : Problem} {s next : State} {duties rest : Multiset Duty} {id : WalkId} {ids : List WalkId}
  {walk : Walk} {place : Place} {task : Task} {goal : Goal} {node : Node}

-- What marking walks may change: their marks.
structure Marked (s next : State) (ids : List WalkId) : Prop where
  rest : ∃ walks, next = { s with walks := walks }
  frames : next.frames = s.frames
  pending : next.pendingAt = s.pendingAt
  outside : ∀ id ∉ ids, next.extendedAt id = s.extendedAt id

theorem modify_getElem? {change : Walk → Walk} {other : WalkId} :
    (s.modifyWalk id change).walks[other]? = if id = other then (s.walks[other]?).map change else s.walks[other]? := by
  rw [modifyWalk,Array.getElem?_modify]

theorem mark_frames : (s.modifyWalk id fun walk => { walk with extended := true }).frames = s.frames := by
  refine List.ext_getElem? fun other => ?_
  rw [frames_getElem?,frames_getElem?,modify_getElem?]
  split
  · rw [Option.map_map]
    rfl
  · rfl

theorem mark_pending : (s.modifyWalk id fun walk => { walk with extended := true }).pendingAt = s.pendingAt := by
  funext other
  rw [pendingAt,modify_getElem?]
  split
  · rw [Option.map_map]
    rfl
  · rfl

theorem mark_extended {other : WalkId} (inside : id < s.walks.size) :
    (s.modifyWalk id fun walk => { walk with extended := true }).extendedAt other =
      (decide (id = other) || s.extendedAt other) := by
  rw [extendedAt,modify_getElem?]
  split
  · rename_i same
    subst same
    rw [Array.getElem?_eq_getElem inside]
    simp
  · rename_i different
    simp [different,extendedAt]

theorem markExtended_marked (ids : List WalkId) (inside : ∀ id ∈ ids, id < s.walks.size) :
    Marked s (s.markExtended ids) ids := by
  induction ids generalizing s with
  | nil => exact ⟨⟨_,rfl⟩,rfl,rfl,fun _ _ => rfl⟩
  | cons head rest ih =>
    have here := inside head (List.mem_cons_self ..)
    unfold markExtended
    rw [Array.getElem?_eq_getElem here]
    dsimp only
    split
    · exact ⟨⟨_,rfl⟩,rfl,rfl,fun _ _ => rfl⟩
    · have tail := @ih (s.modifyWalk head fun walk => { walk with extended := true }) (by
        intro id member
        rw [modifyWalk,Array.size_modify]
        exact inside id (List.mem_cons_of_mem _ member))
      refine ⟨?_,tail.frames.trans mark_frames,tail.pending.trans mark_pending,?_⟩
      · obtain ⟨walks,same⟩ := tail.rest
        exact ⟨walks,same⟩
      · intro id absent
        obtain ⟨different,notInRest⟩ := not_or.mp (fun either => absent (List.mem_cons.mpr either))
        rw [tail.outside id notInRest,mark_extended here]
        simp [Ne.symm different]

-- Where the marks are closed towards the front of the walk, all of the list gets marked.
theorem markExtended_all (ids : List WalkId) (inside : ∀ id ∈ ids, id < s.walks.size) (nodup : ids.Nodup)
    (closed : ids.Pairwise fun later earlier => s.extendedAt later = true → s.extendedAt earlier = true) :
    ∀ id ∈ ids, (s.markExtended ids).extendedAt id = true := by
  induction ids generalizing s with
  | nil => exact fun _ member => by cases member
  | cons head rest ih =>
    have here := inside head (List.mem_cons_self ..)
    obtain ⟨fresh,nodupRest⟩ := List.nodup_cons.mp nodup
    obtain ⟨closedHead,closedRest⟩ := List.pairwise_cons.mp closed
    unfold markExtended
    rw [Array.getElem?_eq_getElem here]
    dsimp only
    split
    · rename_i marked
      have already : s.extendedAt head = true := by simp [extendedAt,Array.getElem?_eq_getElem here,marked]
      intro id member
      rcases List.mem_cons.mp member with rfl | inRest
      · exact already
      · exact closedHead id inRest already
    · have insideRest : ∀ id ∈ rest, id < (s.modifyWalk head fun walk => { walk with extended := true }).walks.size := by
        intro id member
        rw [modifyWalk,Array.size_modify]
        exact inside id (List.mem_cons_of_mem _ member)
      have same : ∀ id ∈ rest, (s.modifyWalk head fun walk => { walk with extended := true }).extendedAt id = s.extendedAt id := by
        intro id member
        have different : head ≠ id := fun equal => fresh (equal ▸ member)
        rw [mark_extended here]
        simp [different]
      intro id member
      rcases List.mem_cons.mp member with rfl | inRest
      · rw [(markExtended_marked rest insideRest).outside id fresh,mark_extended here]
        simp
      · refine ih insideRest nodupRest ?_ id inRest
        refine closedRest.imp_of_mem ?_
        intro later earlier memberLater memberEarlier closed marked
        rw [same later memberLater] at marked
        rw [same earlier memberEarlier]
        exact closed marked

end ParseForest.Session.State

namespace ParseForest.Session

-- The lineage of a walk lists the walks at the places on its way.
theorem Family.lineage_places {grammar : Grammar} {frames : List Walk} (family : Family grammar frames) {id : WalkId}
    {walk : Walk} (found : frames[id]? = some walk) :
    walk.lineage.map (fun id => (frames[id]?).map Walk.place) = walk.place.before.map some := by
  generalize same : walk.place = place
  induction place using Place.rec_trail generalizing id walk with
  | start goal =>
    rcases family.lineage id walk found with ⟨_,none_before⟩ | ⟨before,parent,node,_,extended,_⟩
    · rw [none_before]
      rfl
    · exact absurd (same.symm.trans extended) Place.first_ne_extend
  | step place node ih =>
    rcases family.lineage id walk found with ⟨empty,_⟩ | ⟨before,parent,last,at_before,extended,lineage⟩
    · have trail := congrArg Place.trail same
      rw [Place.extend_trail] at trail
      change walk.trail = _ at trail
      rw [empty] at trail
      cases trail
    · obtain ⟨equal,_⟩ := Place.extend_inj.mp (same.symm.trans extended)
      rw [lineage,List.map_cons,ih at_before equal.symm,Place.extend_before,List.map_cons,at_before]
      rw [Option.map_some,equal]

section Lineage

variable {grammar : Grammar} {frames : List Walk} {id other : WalkId} {walk : Walk} {earlier : Place}

theorem Family.mem_lineage (family : Family grammar frames) (found : frames[id]? = some walk)
    (member : other ∈ walk.lineage) : ∃ place ∈ walk.place.before, (frames.map Walk.place)[other]? = some place := by
  have image : (frames[other]?).map Walk.place ∈ walk.place.before.map some := by
    rw [← family.lineage_places found]
    exact List.mem_map_of_mem member
  obtain ⟨place,before,same⟩ := List.mem_map.mp image
  exact ⟨place,before,by rw [List.getElem?_map,same]⟩

theorem Family.lineage_mem (family : Family grammar frames) (found : frames[id]? = some walk)
    (before : earlier ∈ walk.place.before) : ∃ other ∈ walk.lineage, (frames.map Walk.place)[other]? = some earlier := by
  have image : some earlier ∈ walk.lineage.map fun id => (frames[id]?).map Walk.place := by
    rw [family.lineage_places found]
    exact List.mem_map_of_mem before
  obtain ⟨other,member,same⟩ := List.mem_map.mp image
  exact ⟨other,member,by rw [List.getElem?_map,same]⟩

theorem Family.lineage_nodup (family : Family grammar frames) (found : frames[id]? = some walk) : walk.lineage.Nodup := by
  refine List.Nodup.of_map (fun id => (frames[id]?).map Walk.place) ?_
  rw [family.lineage_places found]
  exact Place.before_nodup.map fun _ _ same => Option.some.inj same

theorem Family.lineage_pairwise (family : Family grammar frames) (found : frames[id]? = some walk) :
    walk.lineage.Pairwise fun later earlier => ∀ one two, (frames.map Walk.place)[later]? = some one →
      (frames.map Walk.place)[earlier]? = some two → one.Extends two := by
  have pairs : (walk.lineage.map fun id => (frames[id]?).map Walk.place).Pairwise fun later earlier =>
      ∀ one two, later = some one → earlier = some two → Place.Extends one two := by
    rw [family.lineage_places found,List.pairwise_map]
    refine Place.before_pairwise.imp ?_
    rintro _ _ extended one two ⟨rfl⟩ ⟨rfl⟩
    exact extended
  refine (List.pairwise_map.mp pairs).imp ?_
  intro later earlier extended one two
  rw [List.getElem?_map,List.getElem?_map]
  exact extended one two

end Lineage

namespace State

variable {problem : Problem} {s next : State} {duties rest : Multiset Duty} {id : WalkId} {ids : List WalkId}
  {walk : Walk} {place : Place} {task : Task} {goal : Goal} {node : Node}

theorem Good.marked (good : Good problem s duties) (marked : Marked s next ids)
    (flags : Flagged problem s.places s.pendingAt next.extendedAt) :
    Good problem next duties ∧ Sent s next [] 0 ∧ next.entryAt = s.entryAt ∧ next.chart = s.chart := by
  have places : next.places = s.places := by rw [places_eq,places_eq,marked.frames]
  obtain ⟨⟨walks,rfl⟩,frames,pending,_⟩ := marked
  refine ⟨⟨good.books,?_,?_,?_,?_,?_,good.breaches⟩,⟨rfl,rfl,rfl,frames,fun _ => List.not_mem_nil,rfl⟩,rfl,?_⟩
  · rw [frames]
    exact good.family
  · rw [places]
    exact good.mail
  · rw [frames,pending]
    exact good.balance
  · rw [places,pending]
    exact flags
  · rw [places]
    exact good.tally
  · refine Chart.ext rfl rfl rfl rfl ?_ ?_ rfl rfl
    · ext place
      rw [chart_walks,chart_walks,places]
    · rw [chart_ended,chart_ended,places,pending]

-- A walk that is to begin because of a task.
structure Fits (problem : Problem) (s : State) (task : Task) (walk : Walk) : Prop where
  opens : Opens problem s.places task walk.place
  layout : walk.position = walk.place.position ∧ walk.states = walk.place.states problem.grammar ∧
    walk.visited = walk.place.visited problem.grammar
  lineage : walk.trail = [] ∧ walk.lineage = [] ∨ ∃ (before : WalkId) (parent : Walk) (node : Node),
    s.frames[before]? = some parent ∧ walk.place = parent.place.extend node ∧ walk.lineage = before :: parent.lineage
  parent : ∀ id, walk.lineage.head? = some id ↔ (Duty.task task).burdens id = true
  unmarked : walk.extended = false

def pushed (problem : Problem) (s : State) (walk : Walk) : State :=
  { s with walks := s.walks.push { walk with pending := 1 + (walk.place.site problem.grammar).length } }

theorem pushed_frames : (s.pushed problem walk).frames = s.frames ++ [walk.frame] := by
  simp [pushed,frames,Walk.frame]

theorem pushed_places : (s.pushed problem walk).places = s.places ++ [walk.place] := by
  simp [pushed,places,Walk.place]

theorem pushed_pending : (s.pushed problem walk).pendingAt = fun id =>
    if id = s.walks.size then 1 + (walk.place.site problem.grammar).length else s.pendingAt id := by
  funext id
  rw [pendingAt,pushed,Array.getElem?_push]
  split
  · rfl
  · rfl

theorem pushed_extended (unmarked : walk.extended = false) : (s.pushed problem walk).extendedAt = s.extendedAt := by
  funext id
  rw [extendedAt,pushed,Array.getElem?_push]
  split
  · rename_i last
    rw [extendedAt,last,Array.getElem?_eq_none (Nat.le_refl _)]
    simpa using unmarked
  · rfl

theorem Good.push (good : Good problem s (.task task ::ₘ rest)) (fits : Fits problem s task walk) :
    Good problem (s.pushed problem walk)
      (.task (.exhausted s.walks.size) ::ₘ (questions s.walks.size (walk.place.site problem.grammar) + rest)) ∧
    (s.pushed problem walk).chart = { s.chart with walks := insert walk.place s.chart.walks } := by
  have fresh := fits.opens.fresh good.mail
  have nodup : s.places.Nodup := places_eq ▸ good.family.places
  have positive : 1 + (walk.place.site problem.grammar).length ≠ 0 := by omega
  have ended : endedPlaces (s.pushed problem walk).places (s.pushed problem walk).pendingAt =
      endedPlaces s.places s.pendingAt := by
    rw [pushed_places,pushed_pending,← places_length]
    exact ended_push positive
  constructor
  · refine ⟨good.books,?_,?_,?_,?_,?_,good.breaches⟩
    · rw [pushed_frames]
      exact good.family.push (by rw [← places_eq]; exact fresh) fits.layout fits.lineage
    · rw [pushed_places,← places_length]
      exact good.mail.push nodup fits.opens
    · rw [pushed_frames,pushed_pending,← frames_length]
      exact good.balance.push good.mail_frames good.family fits.parent
    · intro id place found greedy
      rw [ended,pushed_extended fits.unmarked]
      rw [pushed_places] at found
      rcases concat_getElem?.mp found with old | ⟨rfl,rfl⟩
      · exact good.flags id place old greedy
      · have unmarked : s.extendedAt s.places.length = false := by
          rw [places_length,extendedAt,Array.getElem?_eq_none (Nat.le_refl _)]
          rfl
        rw [unmarked]
        refine iff_of_false (by simp) ?_
        rintro ⟨further,⟨other,at_other,_⟩,extended,_,_⟩
        exact fresh (good.mail.walk_of_extends (List.mem_of_getElem? at_other) extended)
    · rw [pushed_places,← places_length]
      exact good.tally.push
  · refine Chart.ext rfl rfl rfl rfl ?_ ?_ rfl rfl
    · ext place
      rw [chart_walks,pushed_places,List.mem_append,List.mem_singleton,Set.mem_insert_iff,chart_walks,or_comm]
    · rw [chart_ended,ended,← chart_ended]

theorem Fits.ready (fits : Fits problem s task walk) (good : Good problem s (.task task ::ₘ rest)) :
    s.chart.Ready problem walk.place := by
  obtain ⟨opens,_,_,_,_⟩ := fits
  generalize walk.place = place at opens
  cases opens with
  | enter goal =>
    obtain ⟨known,production,_⟩ := good.mail.enter goal (Multiset.mem_cons_self _ _)
    exact .first known production
  | deliver found admitted =>
    obtain ⟨place,at_id,wanted,shown,_⟩ := good.mail.delivery _ _ (Multiset.mem_cons_self _ _)
    rw [found] at at_id
    obtain rfl := Option.some.inj at_id
    exact .extend (chart_walks.mpr (List.mem_of_getElem? found)) ⟨wanted,shown,admitted⟩

-- The derivation that a walk stands for, recorded when its production may end there.
def emitted (problem : Problem) (s : State) (walk : Walk) : State :=
  if (walk.place.accepting problem.grammar && !problem.grammar.isGreedy walk.owner.symbol) = true then
    ((s.pushed problem walk).markExtended walk.lineage).record problem walk.owner walk.place.derivation
  else s.pushed problem walk

-- The walks on the way of a plain walk are plain, so marking them says nothing.
theorem Good.mark_plain (good : Good problem s duties) (found : s.frames[id]? = some walk.frame)
    (plain : ¬Chart.IsGreedy problem walk.owner) :
    Marked s (s.markExtended walk.lineage) walk.lineage ∧
      Flagged problem s.places s.pendingAt (s.markExtended walk.lineage).extendedAt := by
  have on_way : ∀ other ∈ walk.lineage, ∃ place, s.places[other]? = some place ∧ place.owner = walk.owner := by
    intro other member
    obtain ⟨place,before,at_other⟩ := good.family.mem_lineage found member
    exact ⟨place,places_eq ▸ at_other,(Place.mem_before.mp before).1.1.symm⟩
  have marked := markExtended_marked walk.lineage (by
    intro other member
    obtain ⟨place,at_other,_⟩ := on_way other member
    rw [← places_length]
    exact (List.getElem?_eq_some_iff.mp at_other).1)
  refine ⟨marked,?_⟩
  intro other place at_other greedy
  rw [marked.outside other]
  · exact good.flags other place at_other greedy
  · intro member
    obtain ⟨spot,at_spot,owner⟩ := on_way other member
    rw [at_other] at at_spot
    rw [Option.some.inj at_spot,owner] at greedy
    exact plain greedy

variable [Regex.Library]

theorem Good.emitted (good : Good problem s (.task task ::ₘ rest)) (reached : Chart.Reached problem s.chart)
    (fits : Fits problem s task walk) :
    Chart.Event problem s.chart (s.chart.begin problem walk.place) ∧
    ∃ new, Sent (s.pushed problem walk) (s.emitted problem walk) new 0 ∧
      Good problem (s.emitted problem walk) (owe new + (.task (.exhausted s.walks.size) ::ₘ
        (questions s.walks.size (walk.place.site problem.grammar) + rest))) ∧
      (s.emitted problem walk).chart = s.chart.begin problem walk.place ∧
      (new = [] ∨ Chart.Stirred s.chart (s.chart.begin problem walk.place)) := by
  have owned := Chart.reached_owned reached
  have ready := fits.ready good
  have fresh : walk.place ∉ s.chart.walks := fun member => fits.opens.fresh good.mail (chart_walks.mp member)
  refine ⟨.begin _ fresh ready,?_⟩
  obtain ⟨pushed,chart⟩ := good.push fits
  unfold State.emitted
  split
  · rename_i ends
    rw [Bool.and_eq_true,Bool.not_eq_true'] at ends
    obtain ⟨accepting,quiet⟩ := ends
    have plain : ¬Chart.IsGreedy problem walk.owner := by simp [Chart.IsGreedy,quiet]
    have unsettled : s.chart.status walk.owner ≠ .settled :=
      (Chart.reached_decided reached).begin_unsettled owned (Chart.reached_linked reached) fresh ready
    have here : (s.pushed problem walk).frames[s.walks.size]? = some walk.frame := by
      rw [pushed_frames,← frames_length,List.getElem?_concat_length]
    obtain ⟨marked,flags⟩ := pushed.mark_plain here plain
    obtain ⟨kept,quietly,entryAt,same⟩ := pushed.marked marked flags
    have asked : walk.owner ∈ ((s.pushed problem walk).markExtended walk.lineage).asked := by
      change walk.owner ∈ ((s.pushed problem walk).markExtended walk.lineage).chart.asked
      rw [same]
      exact (ready.owner owned).1
    have unrecorded : walk.place.derivation ∉ s.chart.derivations walk.owner := by
      rw [(Chart.reached_recorded reached).plain walk.owner (ready.owner owned).2 plain]
      rintro ⟨place,member,owner,_,same⟩
      exact fresh (Place.derivation_inj owner.symm same ▸ member)
    obtain ⟨new,sent,recorded,final,news⟩ := kept.record asked (by
      rw [entryAt]
      exact unsettled) (@Place.derivation_goal walk.place) (by
      rw [same,chart]
      exact unrecorded)
    have result : (s.pushed problem walk).chart.record problem walk.owner walk.place.derivation =
        s.chart.begin problem walk.place := by
      rw [chart]
      refine Chart.ext rfl rfl ?_ ?_ rfl rfl rfl rfl
      · funext other
        ext derivation
        refine or_congr_right ?_
        constructor
        · rintro ⟨rfl,rfl⟩
          exact ⟨rfl,plain,accepting,rfl⟩
        · rintro ⟨rfl,_,_,rfl⟩
          exact ⟨rfl,rfl⟩
      · funext other
        ext node
        refine or_congr_right ?_
        constructor
        · rintro ⟨rfl,_,isOpen,rfl⟩
          exact ⟨rfl,plain,accepting,isOpen,rfl⟩
        · rintro ⟨rfl,_,_,isOpen,rfl⟩
          exact ⟨rfl,plain,isOpen,rfl⟩
    rw [same,result] at final
    refine ⟨new,?_,recorded,final,?_⟩
    · simpa using quietly.trans sent
    · refine news.imp_right ?_
      rintro ⟨unknown,shown⟩
      rw [same] at unknown shown
      rw [result] at shown
      exact .inr (.inl ⟨_,_,shown,by rwa [chart] at unknown⟩)
  · rename_i quiet
    refine ⟨[],.refl,by simpa using pushed,?_,.inl rfl⟩
    have nothing : ∀ other, other = walk.owner → ¬Chart.IsGreedy problem other →
        walk.place.accepting problem.grammar = true → False := by
      rintro other rfl plain accepting
      refine quiet ?_
      rw [Bool.and_eq_true,Bool.not_eq_true']
      exact ⟨accepting,by simpa [Chart.IsGreedy] using plain⟩
    rw [chart]
    refine Chart.ext rfl rfl ?_ ?_ rfl rfl rfl rfl
    · funext other
      ext derivation
      refine (or_iff_left ?_).symm
      rintro ⟨own,plain,accepting,_⟩
      exact nothing other own plain accepting
    · funext other
      ext node
      refine (or_iff_left ?_).symm
      rintro ⟨own,plain,accepting,_⟩
      exact nothing other own plain accepting

end State

end ParseForest.Session
