import Mathlib
import ParseForest.Proofs.Chart.Basic
import ParseForest.Session.Step

namespace ParseForest.Session

def Walk.place (walk : Walk) : Place := ⟨walk.owner,walk.trail⟩

namespace State

variable {s next : State} {goal other : Goal} {node : Node} {id : WalkId}

-- The entry of a goal, an empty one where none was made.
def entryAt (s : State) (goal : Goal) : Entry := s.entries.getD goal {}

-- The places of the walks by number.
def places (s : State) : List Place := s.walks.toList.map Walk.place

def chart (s : State) : Chart where
  asked := {goal | goal ∈ s.entries}
  status goal := (s.entryAt goal).status
  derivations goal := {derivation | derivation ∈ (s.entryAt goal).derivations}
  published goal := {node | node ∈ (s.entryAt goal).published}
  walks := {place | ∃ walk ∈ s.walks, walk.place = place}
  ended := {place | ∃ walk ∈ s.walks, walk.place = place ∧ walk.pending = 0}
  rounds := s.rounds
  forced := s.forced

theorem chart_status : s.chart.status goal = (s.entryAt goal).status := rfl

theorem entries_some (asked : goal ∈ s.entries) : s.entries[goal]? = some (s.entryAt goal) := by
  rw [entryAt,Std.HashMap.getD_eq_getD_getElem?]
  obtain ⟨entry,found⟩ := Option.isSome_iff_exists.mp (Std.HashMap.isSome_getElem?_iff_mem.mpr asked)
  rw [found]
  rfl

theorem entered {entry : Entry} (found : s.entries[goal]? = some entry) : goal ∈ s.entries ∧ s.entryAt goal = entry := by
  have asked : goal ∈ s.entries := Std.HashMap.isSome_getElem?_iff_mem.mp (by rw [found]; rfl)
  exact ⟨asked,Option.some.inj ((entries_some asked).symm.trans found)⟩

theorem entryAt_unasked (unasked : goal ∉ s.entries) : s.entryAt goal = {} :=
  Std.HashMap.getD_eq_fallback unasked

@[simp] theorem setEntry_entryAt {entry : Entry} :
    (s.setEntry goal entry).entryAt other = if other = goal then entry else s.entryAt other := by
  unfold entryAt setEntry
  rw [Std.HashMap.getD_insert]
  simp only [beq_iff_eq,@eq_comm _ goal other]

theorem setEntry_mem {entry : Entry} (asked : goal ∈ s.entries) :
    other ∈ (s.setEntry goal entry).entries ↔ other ∈ s.entries := by
  simp only [setEntry,Std.HashMap.mem_insert,beq_iff_eq]
  constructor
  · rintro (rfl | before)
    · exact asked
    · exact before
  · exact .inr

-- Raises the counter of each walk by the number of times that it is named.
def bump (walks : Array Walk) (ids : List WalkId) : Array Walk :=
  walks.mapIdx fun id walk => { walk with pending := walk.pending + ids.count id }

theorem bump_getElem? {walks : Array Walk} {ids : List WalkId} :
    (bump walks ids)[id]? = (walks[id]?).map fun walk => { walk with pending := walk.pending + ids.count id } := by
  unfold bump
  rw [Array.getElem?_mapIdx]

@[simp] theorem bump_nil {walks : Array Walk} : bump walks [] = walks := by
  refine Array.ext_getElem? fun id => ?_
  rw [bump_getElem?]
  simp

theorem bump_append {walks : Array Walk} {one two : List WalkId} :
    bump (bump walks one) two = bump walks (one ++ two) := by
  refine Array.ext_getElem? fun id => ?_
  simp only [bump_getElem?,Option.map_map,List.count_append]
  congr 1
  funext walk
  simp [Nat.add_assoc]

-- What a change of one goal's entry does: the entry, counters of walks and new tasks, no more.
structure Update (s : State) (goal : Goal) (entry : Entry) (ids : List WalkId) (new : List Task) (next : State) :
    Prop where
  asked : ∀ other, other ∈ next.entries ↔ other ∈ s.entries
  entryAt : ∀ other, next.entryAt other = if other = goal then entry else s.entryAt other
  walks : next.walks = bump s.walks ids
  tasks : next.tasks = new ++ s.tasks
  active : next.active = s.active
  held : next.held = s.held + new.length
  goals : next.goals = s.goals
  sites : next.sites = s.sites
  hits : next.hits = s.hits
  finished : next.finished = s.finished
  rounds : next.rounds = s.rounds
  forced : next.forced = s.forced
  breaches : next.breaches = s.breaches

theorem Update.trans {middle : State} {one two : Entry} {first second : List WalkId} {new more : List Task}
    (left : Update s goal one first new middle) (right : Update middle goal two second more next) :
    Update s goal two (first ++ second) (more ++ new) next := by
  refine ⟨fun other => (right.asked other).trans (left.asked other),?_,?_,?_,right.active.trans left.active,?_,right.goals.trans left.goals,
    right.sites.trans left.sites,right.hits.trans left.hits,right.finished.trans left.finished,
    right.rounds.trans left.rounds,right.forced.trans left.forced,right.breaches.trans left.breaches⟩
  · intro other
    rw [right.entryAt,left.entryAt]
    split <;> rfl
  · rw [right.walks,left.walks,bump_append]
  · rw [right.tasks,left.tasks,List.append_assoc]
  · rw [right.held,left.held,List.length_append]
    omega

theorem Update.refl : Update s goal (s.entryAt goal) [] [] s := by
  refine ⟨fun _ => Iff.rfl,?_,bump_nil.symm,rfl,rfl,rfl,rfl,rfl,rfl,rfl,rfl,rfl,rfl⟩
  intro other
  split
  · rename_i same
    rw [same]
  · rfl

theorem setEntry_update {entry : Entry} (asked : goal ∈ s.entries) :
    Update s goal entry [] [] (s.setEntry goal entry) :=
  ⟨fun _ => setEntry_mem asked,fun _ => setEntry_entryAt,bump_nil.symm,rfl,rfl,rfl,rfl,rfl,rfl,rfl,rfl,rfl,rfl⟩

theorem deliver_update : Update s goal (s.entryAt goal) [id] [.deliver id node] (s.deliver id node) := by
  refine ⟨fun _ => Iff.rfl,Update.refl.entryAt,?_,rfl,rfl,rfl,rfl,rfl,rfl,rfl,rfl,rfl,rfl⟩
  refine Array.ext_getElem? fun other => ?_
  simp only [deliver,spawn,modifyWalk,bump_getElem?,Array.getElem?_modify,List.count_singleton,beq_iff_eq]
  split <;> simp

theorem notify_update : Update s goal (s.entryAt goal) [] [.exhausted id] (s.notify id) :=
  ⟨fun _ => Iff.rfl,Update.refl.entryAt,bump_nil.symm,rfl,rfl,rfl,rfl,rfl,rfl,rfl,rfl,rfl,rfl⟩

-- A run of single messages, latest first in the bag.
theorem fold_update {α : Type} (goal : Goal) (act : State → α → State) (ids : α → List WalkId) (task : α → Task)
    (each : ∀ s item, Update s goal (s.entryAt goal) (ids item) [task item] (act s item)) (items : List α) (s : State) :
    Update s goal (s.entryAt goal) (items.flatMap ids) (items.map task).reverse (items.foldl act s) := by
  induction items generalizing s with
  | nil => exact .refl
  | cons item rest ih =>
    have first := each s item
    have second := ih (act s item)
    have same : (act s item).entryAt goal = s.entryAt goal := by rw [first.entryAt,if_pos rfl]
    rw [same] at second
    simpa using first.trans second

theorem deliver_to_all (goal : Goal) (node : Node) (ids : List WalkId) (s : State) :
    Update s goal (s.entryAt goal) ids (ids.map (.deliver · node)).reverse (ids.foldl (fun s id => s.deliver id node) s) := by
  have all := fold_update goal (fun s id => s.deliver id node) (fun id => [id]) (.deliver · node)
    (fun _ _ => deliver_update) ids s
  simpa [← List.map_eq_flatMap] using all

theorem deliver_nodes (goal : Goal) (id : WalkId) (nodes : List Node) (s : State) :
    Update s goal (s.entryAt goal) (List.replicate nodes.length id) (nodes.map (.deliver id ·)).reverse
      (nodes.foldl (fun s node => s.deliver id node) s) := by
  have all := fold_update goal (fun s node => s.deliver id node) (fun _ => [id]) (.deliver id ·)
    (fun _ _ => deliver_update) nodes s
  rwa [← List.map_eq_flatMap,List.map_const'] at all

theorem notify_all (goal : Goal) (ids : List WalkId) (s : State) :
    Update s goal (s.entryAt goal) [] (ids.map .exhausted).reverse (ids.foldl notify s) := by
  have all := fold_update goal notify (fun _ => []) .exhausted (fun _ _ => notify_update) ids s
  have unraised : ids.flatMap (fun _ => ([] : List WalkId)) = [] := by simp
  rwa [unraised] at all

theorem publish_update (asked : goal ∈ s.entries) :
    Update s goal { s.entryAt goal with published := node :: (s.entryAt goal).published } (s.entryAt goal).waiting
      ((s.entryAt goal).waiting.map (.deliver · node)).reverse (s.publish goal node) := by
  unfold publish
  rw [entries_some asked]
  have first := @setEntry_update s goal { s.entryAt goal with published := node :: (s.entryAt goal).published } asked
  have second := deliver_to_all goal node (s.entryAt goal).waiting
    (s.setEntry goal { s.entryAt goal with published := node :: (s.entryAt goal).published })
  rw [setEntry_entryAt,if_pos rfl] at second
  simpa using first.trans second

-- The nodes that recording a derivation makes public.
def news (problem : Problem) (goal : Goal) (entry : Entry) (derivation : Derivation) : List Node :=
  if entry.status = .unsettled ∧ problem.grammar.isGreedy goal.symbol = false ∧ derivation.node ∉ entry.published then
    [derivation.node]
  else []

theorem record_update {problem : Problem} {derivation : Derivation} (asked : goal ∈ s.entries)
    (unsettled : (s.entryAt goal).status ≠ .settled) :
    Update s goal { s.entryAt goal with
        derivations := derivation :: (s.entryAt goal).derivations
        published := news problem goal (s.entryAt goal) derivation ++ (s.entryAt goal).published }
      ((news problem goal (s.entryAt goal) derivation).flatMap fun _ => (s.entryAt goal).waiting)
      ((news problem goal (s.entryAt goal) derivation).flatMap fun node =>
        (s.entryAt goal).waiting.map (.deliver · node)).reverse
      (s.record problem goal derivation) := by
  unfold record
  rw [entries_some asked]
  have first := @setEntry_update s goal
    { s.entryAt goal with derivations := derivation :: (s.entryAt goal).derivations } asked
  cases status : (s.entryAt goal).status with
  | settled => exact absurd status unsettled
  | forced => simpa [news,status] using first
  | unsettled =>
    by_cases quiet : problem.grammar.isGreedy goal.symbol = true ∨ derivation.node ∈ (s.entryAt goal).published
    · have none_new : news problem goal (s.entryAt goal) derivation = [] := by
        refine if_neg ?_
        rintro ⟨_,plain,fresh⟩
        rcases quiet with greedy | old
        · rw [plain] at greedy
          cases greedy
        · exact fresh old
      rw [none_new]
      simpa [quiet,status] using first
    · obtain ⟨plain,fresh⟩ := not_or.mp quiet
      have one_new : news problem goal (s.entryAt goal) derivation = [derivation.node] :=
        if_pos ⟨status,by simpa using plain,fresh⟩
      have second := @publish_update (s.setEntry goal
        { s.entryAt goal with derivations := derivation :: (s.entryAt goal).derivations }) goal derivation.node
        ((setEntry_mem asked).mpr asked)
      rw [setEntry_entryAt,if_pos rfl] at second
      rw [one_new]
      simpa [quiet,status] using first.trans second

-- The nodes that closing a goal makes public.
def lastWords (problem : Problem) (goal : Goal) (entry : Entry) : List Node :=
  if problem.grammar.isGreedy goal.symbol = true then
    ((entry.derivations.map (·.node.length)).max?).toList.map fun length => ⟨goal,length⟩
  else []

theorem publishLongest_update (asked : goal ∈ s.entries) {longest : List Node}
    (found : longest = (((s.entryAt goal).derivations.map (·.node.length)).max?).toList.map fun length => ⟨goal,length⟩) :
    Update s goal { s.entryAt goal with published := longest ++ (s.entryAt goal).published }
      (longest.flatMap fun _ => (s.entryAt goal).waiting)
      (longest.flatMap fun node => (s.entryAt goal).waiting.map (.deliver · node)).reverse (s.publishLongest goal) := by
  unfold publishLongest
  rw [entries_some asked]
  subst found
  cases most : ((s.entryAt goal).derivations.map (·.node.length)).max? with
  | none => simpa [most] using @Update.refl s goal
  | some length => simpa [most] using @publish_update s goal ⟨goal,length⟩ asked

theorem dismiss_update (asked : goal ∈ s.entries) :
    Update s goal { s.entryAt goal with waiting := [] } [] ((s.entryAt goal).waiting.map .exhausted).reverse (s.dismiss goal) := by
  unfold dismiss
  rw [entries_some asked]
  have first := @setEntry_update s goal { s.entryAt goal with waiting := [] } asked
  have second := notify_all goal (s.entryAt goal).waiting (s.setEntry goal { s.entryAt goal with waiting := [] })
  rw [setEntry_entryAt,if_pos rfl] at second
  simpa using first.trans second

theorem close_update {problem : Problem} {status : Status} (asked : goal ∈ s.entries)
    (unsettled : (s.entryAt goal).status = .unsettled) :
    ∃ middle, Update s goal { s.entryAt goal with
        status := status
        published := lastWords problem goal (s.entryAt goal) ++ (s.entryAt goal).published
        waiting := [] }
      ((lastWords problem goal (s.entryAt goal)).flatMap fun _ => (s.entryAt goal).waiting)
      (((s.entryAt goal).waiting.map .exhausted).reverse ++
        ((lastWords problem goal (s.entryAt goal)).flatMap fun node => (s.entryAt goal).waiting.map (.deliver · node)).reverse)
      middle ∧ s.close problem goal status = middle.closeGoal := by
  unfold close
  rw [entries_some asked]
  simp only [unsettled,if_true]
  refine ⟨_,?_,rfl⟩
  have first := @setEntry_update s goal { s.entryAt goal with status := status } asked
  have asked' : goal ∈ (s.setEntry goal { s.entryAt goal with status := status }).entries := (setEntry_mem asked).mpr asked
  by_cases greedy : problem.grammar.isGreedy goal.symbol = true
  · have second := publishLongest_update asked' rfl
    rw [setEntry_entryAt,if_pos rfl] at second
    have both := first.trans second
    have third := dismiss_update ((both.asked goal).mpr asked)
    rw [both.entryAt,if_pos rfl] at third
    simpa [greedy,lastWords] using both.trans third
  · have third := dismiss_update asked'
    rw [setEntry_entryAt,if_pos rfl] at third
    simpa [greedy,lastWords] using first.trans third

theorem close_forced {problem : Problem} (asked : goal ∈ s.entries) (forced : (s.entryAt goal).status = .forced) :
    s.close problem goal .settled = s := by
  unfold close
  rw [entries_some asked]
  simp [forced]

theorem await_update (asked : goal ∈ s.entries) :
    Update s goal (if (s.entryAt goal).status = .unsettled then { s.entryAt goal with waiting := id :: (s.entryAt goal).waiting }
        else s.entryAt goal)
      (List.replicate (s.entryAt goal).published.length id)
      ((if (s.entryAt goal).status = .unsettled then [] else [.exhausted id]) ++
        ((s.entryAt goal).published.map (.deliver id ·)).reverse) (s.await id goal) := by
  unfold await
  rw [entries_some asked]
  have first := deliver_nodes goal id (s.entryAt goal).published s
  by_cases unsettled : (s.entryAt goal).status = .unsettled
  · have second := @setEntry_update _ goal { s.entryAt goal with waiting := id :: (s.entryAt goal).waiting }
      ((first.asked goal).mpr asked)
    simpa [unsettled] using first.trans second
  · have second := @notify_update ((s.entryAt goal).published.foldl (fun s node => s.deliver id node) s) goal id
    rw [first.entryAt,if_pos rfl] at second
    simpa [unsettled] using first.trans second

end State

end ParseForest.Session
