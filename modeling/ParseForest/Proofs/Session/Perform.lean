import Mathlib
import ParseForest.Proofs.Session.Release

namespace ParseForest.Session.State

variable {problem : Problem} {s next : State} {rest : Multiset Duty} {task : Task} {walk : Walk} {id : WalkId} {node : Node}

def note (s : State) (site : Site) : State := if site.isEmpty then s else { s with sites := site :: s.sites }

-- A note of a site changes nothing else.
theorem note_eq {site : Site} : ∃ sites, s.note site = { s with sites := sites } := by
  unfold note
  split
  · exact ⟨s.sites,rfl⟩
  · exact ⟨_,rfl⟩

theorem mem_note_sites {site other : Site} : other ∈ (s.note site).sites ↔ other ∈ s.sites ∨ other ≠ [] ∧ other = site := by
  unfold note
  split
  · rename_i empty
    rw [List.isEmpty_iff.mp empty]
    simp
  · rename_i some_site
    simp only [List.isEmpty_iff] at some_site
    rw [List.mem_cons,or_comm]
    refine or_congr_right ⟨?_,fun both => both.2⟩
    rintro rfl
    exact ⟨some_site,rfl⟩

theorem Good.note {duties : Multiset Duty} (good : Good problem s duties) (site : Site) :
    Good problem (s.note site) duties ∧ (s.note site).chart = s.chart := by
  unfold State.note
  split
  · exact ⟨good,rfl⟩
  · exact ⟨⟨good.books,good.family,good.mail,good.balance,good.flags,good.tally,good.breaches⟩,rfl⟩

theorem firstWalk_fits {goal : Goal} : Fits problem s (.enter goal) (firstWalk problem goal) := by
  refine ⟨.enter goal,⟨rfl,rfl,rfl⟩,.inl ⟨rfl,rfl⟩,?_,rfl⟩
  intro id
  simp [firstWalk,Duty.burdens]

theorem successor_fits (good : Good problem s rest) (found : s.walks[id]? = some walk) {further : Walk}
    (leads : successor? problem id walk node = some further) : Fits problem s (.deliver id node) further := by
  have frame : s.frames[id]? = some walk.frame := by rw [frames_getElem?,found]; rfl
  obtain ⟨position,states,visited⟩ := good.family.layout id walk.frame frame
  change walk.position = walk.place.position at position
  change walk.states = walk.place.states problem.grammar at states
  change walk.visited = walk.place.visited problem.grammar at visited
  have nextStates : problem.grammar.next walk.owner.symbol walk.states node.symbol =
      (walk.place.extend node).states problem.grammar := by
    rw [states]
    rfl
  unfold successor? at leads
  simp only [nextStates,position,visited] at leads
  split at leads
  · cases leads
  · rename_i admitted
    simp only [Bool.or_eq_true,Bool.and_eq_true,List.isEmpty_iff,beq_iff_eq,List.contains_iff_mem,not_or,not_and] at admitted
    obtain rfl := Option.some.inj leads
    refine ⟨.deliver (place_of_walk found) admitted,⟨rfl,rfl,rfl⟩,.inr ⟨id,walk.frame,node,frame,rfl,rfl⟩,?_,rfl⟩
    intro other
    simp [Duty.burdens]

theorem successor_refused (good : Good problem s rest) (found : s.walks[id]? = some walk)
    (refused : successor? problem id walk node = none) : ¬walk.place.Admits problem.grammar node := by
  have frame : s.frames[id]? = some walk.frame := by rw [frames_getElem?,found]; rfl
  obtain ⟨position,states,visited⟩ := good.family.layout id walk.frame frame
  change walk.states = walk.place.states problem.grammar at states
  change walk.visited = walk.place.visited problem.grammar at visited
  have nextStates : problem.grammar.next walk.owner.symbol walk.states node.symbol =
      (walk.place.extend node).states problem.grammar := by
    rw [states]
    rfl
  unfold successor? at refused
  simp only [nextStates,visited] at refused
  split at refused
  · rename_i stops
    simp only [Bool.or_eq_true,Bool.and_eq_true,List.isEmpty_iff,beq_iff_eq,List.contains_iff_mem] at stops
    rintro ⟨alive,unmet⟩
    rcases stops with dead | ⟨empty,met⟩
    · exact alive dead
    · exact unmet empty met
  · cases refused

variable [Regex.Library]

-- What carrying out a task does: the tasks it adds, the walks it begins, the requests it makes.
structure Acted (problem : Problem) (s next : State) (task : Task) (new : List Task) (begun : List Place)
    (requests : Nat) : Prop where
  tasks : next.tasks = new ++ s.tasks
  held : next.held = s.held + new.length
  places : next.places = s.places ++ begun
  opens : ∀ place ∈ begun, Opens problem s.places task place
  sites : ∀ site, site ∈ next.sites ↔ site ∈ s.sites ∨ site ≠ [] ∧ ∃ place ∈ begun, site = place.site problem.grammar
  requestless : ∀ goal, .request goal ∉ new
  requests : next.hits + next.goals.length = s.hits + s.goals.length + requests
  phase : Chart.Phase problem s.chart next.chart
  tidy : next.chart.Tidy
  quiet : Chart.Stirred s.chart next.chart ∨ ∀ task ∈ new, task.walk? = some s.walks.size

theorem Acted.of_sent {new : List Task} {requests : Nat} (sent : Sent s next new requests)
    (phase : Chart.Phase problem s.chart next.chart) (tidy : next.chart.Tidy)
    (quiet : Chart.Stirred s.chart next.chart ∨ new = []) : Acted problem s next task new [] requests := by
  refine ⟨sent.tasks,sent.held,?_,?_,?_,sent.requestless,sent.requests,phase,tidy,?_⟩
  · rw [sent.places,List.append_nil]
  · intro place member
    cases member
  · intro site
    rw [sent.sites]
    simp
  · refine quiet.imp_right ?_
    rintro rfl task member
    cases member

-- The state of a new walk when it has asked for all of its site.
def inquired (problem : Problem) (s : State) (walk : Walk) : State :=
  (walk.place.site problem.grammar).foldl (fun state goal => (state.request problem goal).await s.walks.size goal)
    (s.emitted problem walk)

theorem begin_eq (layout : walk.position = walk.place.position ∧ walk.states = walk.place.states problem.grammar ∧
      walk.visited = walk.place.visited problem.grammar) :
    s.begin problem walk = ((s.inquired problem walk).note (walk.place.site problem.grammar)).release problem
      (s.walks.size :: walk.lineage) := by
  obtain ⟨position,states,_⟩ := layout
  have site : ((problem.grammar.outgoing walk.owner.symbol walk.states).map fun symbol => (⟨walk.position,symbol⟩ : Goal)) =
      walk.place.site problem.grammar := by
    rw [position,states]
    rfl
  have count : (problem.grammar.outgoing walk.owner.symbol walk.states).length = (walk.place.site problem.grammar).length := by
    rw [← site,List.length_map]
  have accepting : problem.grammar.accepting walk.owner.symbol walk.states = walk.place.accepting problem.grammar := by
    rw [states]
    rfl
  have emission : ∀ state : State, state.emit problem walk =
      (state.markExtended walk.lineage).record problem walk.owner walk.place.derivation := by
    intro state
    rw [emit,position]
    rfl
  unfold begin
  dsimp only
  rw [site,count,accepting,emission]
  rfl

theorem Good.inquired (valid : problem.Valid) (good : Good problem s (.task task ::ₘ rest))
    (reached : Chart.Reached problem s.chart) (fits : Fits problem s task walk) :
    ∃ new, Sent (s.pushed problem walk) (s.inquired problem walk) new (walk.place.site problem.grammar).length ∧
      Good problem (s.inquired problem walk) (.task (.exhausted s.walks.size) ::ₘ (owe new + rest)) ∧
      Chart.Phase problem s.chart (s.inquired problem walk).chart ∧ (s.inquired problem walk).chart.ended = s.chart.ended ∧
      (Chart.Stirred s.chart (s.inquired problem walk).chart ∨ ∀ task ∈ new, task.walk? = some s.walks.size) := by
  obtain ⟨event,first,sentFirst,emitted,chart,quietFirst⟩ := good.emitted reached fits
  have arranged : Good problem (s.emitted problem walk) (questions s.walks.size (walk.place.site problem.grammar) +
      (.task (.exhausted s.walks.size) ::ₘ (owe first + rest))) := by
    have same : questions s.walks.size (walk.place.site problem.grammar) +
        (.task (.exhausted s.walks.size) ::ₘ (owe first + rest)) = owe first + (.task (.exhausted s.walks.size) ::ₘ
          (questions s.walks.size (walk.place.site problem.grammar) + rest)) := by
      rw [Multiset.add_cons,Multiset.add_cons,add_left_comm]
    rw [same]
    exact emitted
  have phaseFirst : Chart.Phase problem s.chart (s.emitted problem walk).chart := chart ▸ .single event
  have reachedFirst := reached.phase phaseFirst
  obtain ⟨second,sentSecond,asked,phaseSecond,ended,quietSecond⟩ := Good.inquire valid _ arranged reachedFirst
  have sent := sentFirst.trans sentSecond
  rw [Nat.zero_add] at sent
  refine ⟨second ++ first,sent,?_,phaseFirst.trans phaseSecond,ended.trans (by rw [chart]; rfl),?_⟩
  · rw [owe_append,add_assoc,← Multiset.add_cons]
    exact asked
  · rcases quietSecond with stirred | own
    · exact .inl (stirred.earlier (Chart.phase_later reached phaseFirst))
    · rcases quietFirst with rfl | stirred
      · exact .inr (by simpa using own)
      · rw [← chart] at stirred
        exact .inl (stirred.later (Chart.phase_later reachedFirst phaseSecond))

theorem Good.begin (valid : problem.Valid) (good : Good problem s (.task task ::ₘ rest))
    (reached : Chart.Reached problem s.chart) (tidy : s.chart.Tidy) (fits : Fits problem s task walk) :
    ∃ new, Good problem (s.begin problem walk) (owe new + rest) ∧
      Acted problem s (s.begin problem walk) task new [walk.place] (walk.place.site problem.grammar).length := by
  obtain ⟨first,sent,asked,phase,ended,quiet⟩ := good.inquired valid reached fits
  obtain ⟨noted,chart⟩ := asked.note (walk.place.site problem.grammar)
  obtain ⟨sites,same⟩ := @note_eq (s.inquired problem walk) (walk.place.site problem.grammar)
  have later := Chart.phase_later reached phase
  have reachedHere := reached.phase phase
  rw [← chart] at reachedHere
  have tidyHere : ((s.inquired problem walk).note (walk.place.site problem.grammar)).chart.Tidy := by
    intro goal firstEnded
    rw [chart] at firstEnded ⊢
    rw [ended] at firstEnded
    exact later.closed_mono (tidy goal firstEnded)
  have here : ((s.inquired problem walk).note (walk.place.site problem.grammar)).frames[s.walks.size]? = some walk.frame := by
    rw [same]
    change (s.inquired problem walk).frames[s.walks.size]? = _
    rw [sent.frames,pushed_frames,← frames_length,List.getElem?_concat_length]
  obtain ⟨second,sentLast,released,phaseLast,tidyLast,quietLast⟩ := noted.release reachedHere tidyHere here
  change Sent _ (State.release problem _ (s.walks.size :: walk.lineage)) _ _ at sentLast
  change Good problem (State.release problem _ (s.walks.size :: walk.lineage)) _ at released
  rw [begin_eq fits.layout]
  refine ⟨second ++ first,?_,?_⟩
  · rw [owe_append,add_assoc]
    exact released
  constructor
  case tasks =>
    rw [sentLast.tasks,same]
    change second ++ (s.inquired problem walk).tasks = _
    rw [sent.tasks,List.append_assoc]
    rfl
  case held =>
    rw [sentLast.held,same]
    change (s.inquired problem walk).held + second.length = _
    rw [sent.held,List.length_append]
    change s.held + first.length + second.length = _
    omega
  case places =>
    rw [sentLast.places,same]
    change (s.inquired problem walk).places = _
    rw [sent.places,pushed_places]
  case opens =>
    intro place member
    rw [List.mem_singleton.mp member]
    exact fits.opens
  case sites =>
    intro site
    rw [sentLast.sites,mem_note_sites,sent.sites]
    simp [pushed]
  case requestless =>
    intro goal member
    rcases List.mem_append.mp member with last | before
    · exact sentLast.requestless goal last
    · exact sent.requestless goal before
  case requests =>
    rw [sentLast.requests,same]
    change (s.inquired problem walk).hits + (s.inquired problem walk).goals.length + 0 = _
    rw [sent.requests]
    rfl
  case phase => exact (chart ▸ phase : Chart.Phase problem s.chart _).trans phaseLast
  case tidy => exact tidyLast
  case quiet =>
    rcases quietLast with stirred | rfl
    · rw [chart] at stirred
      exact .inl (stirred.earlier later)
    · have laterLast := Chart.phase_later reachedHere phaseLast
      rw [chart] at laterLast
      exact quiet.imp (fun stirred => stirred.later laterLast) id

end ParseForest.Session.State

namespace ParseForest.Session

variable {problem : Problem} {goals : List Goal} {frames : List Walk} {places : List Place} {asked : Set Goal}
  {entryAt : Goal → Entry} {rest : Multiset Duty} {made : Nat} {pendingAt : WalkId → Nat} {id : WalkId} {node : Node}
  {place : Place}

-- A delivery that leads nowhere is as good as a notice.
theorem Mail.refuse (mail : Mail problem places asked entryAt (.task (.deliver id node) ::ₘ rest))
    (found : places[id]? = some place) (refused : ¬place.Admits problem.grammar node) :
    Mail problem places asked entryAt (.task (.exhausted id) ::ₘ rest) := by
  obtain ⟨_,once⟩ := mail.take rfl
  have old : ∀ {duty : Duty}, duty.isNotice = false → duty ∈ .task (.exhausted id) ::ₘ rest →
      duty ∈ .task (.deliver id node) ::ₘ rest := by
    intro duty letter member
    rcases Multiset.mem_cons.mp member with rfl | inRest
    · cases letter
    · exact Multiset.mem_cons_of_mem inRest
  have more : ∀ {duty : Duty}, duty ≠ .task (.deliver id node) → duty ∈ .task (.deliver id node) ::ₘ rest →
      duty ∈ .task (.exhausted id) ::ₘ rest := by
    intro duty different member
    exact Multiset.mem_cons_of_mem ((Multiset.mem_cons.mp member).resolve_left different)
  constructor
  case once =>
    rw [filter_notice]
    exact once
  case request =>
    exact fun goal owed => mail.request goal (old rfl owed)
  case rooted =>
    exact mail.rooted.imp_right (more (by simp))
  case enter =>
    exact fun goal owed => mail.enter goal (old rfl owed)
  case entered =>
    exact fun goal known production => (mail.entered goal known production).imp_left (more (by simp))
  case notice =>
    intro receiver member
    rcases Multiset.mem_cons.mp member with equal | inRest
    · obtain rfl := Task.exhausted.inj (Duty.task.inj equal)
      exact (List.getElem?_eq_some_iff.mp found).1
    · exact mail.notice receiver (Multiset.mem_cons_of_mem inRest)
  case asking =>
    intro asker goal owed
    obtain ⟨spot,at_asker,wanted,absent,untold⟩ := mail.asking asker goal (old rfl owed)
    exact ⟨spot,at_asker,wanted,absent,fun last own => ⟨fun sent => (untold last own).1 (old rfl sent),(untold last own).2⟩⟩
  case seated => exact mail.seated
  case joined =>
    exact fun walk spot at_walk goal wanted told =>
      mail.joined walk spot at_walk goal wanted fun owed => told (more (by simp) owed)
  case delivery =>
    exact fun receiver last owed => mail.delivery receiver last (old rfl owed)
  case delivered =>
    intro walk spot at_walk last wanted told shown
    rcases mail.delivered walk spot at_walk last wanted (fun owed => told (more (by simp) owed)) shown with sent | passed
    · rcases Multiset.mem_cons.mp sent with equal | inRest
      · obtain ⟨rfl,rfl⟩ := Task.deliver.inj (Duty.task.inj equal)
        rw [found] at at_walk
        exact .inr (.inr (Option.some.inj at_walk ▸ refused))
      · exact .inl (Multiset.mem_cons_of_mem inRest)
    · exact .inr passed
  case passed => exact mail.passed

-- Once the root has been asked for, the request is done with.
theorem Mail.drop_request {goal : Goal} (mail : Mail problem places asked entryAt (.task (.request goal) ::ₘ rest))
    (known : problem.root.goal ∈ asked) : Mail problem places asked entryAt rest := by
  obtain ⟨_,once⟩ := mail.take rfl
  have old : ∀ {duty : Duty}, duty ∈ rest → duty ∈ .task (.request goal) ::ₘ rest := Multiset.mem_cons_of_mem
  have more : ∀ {duty : Duty}, duty ≠ .task (.request goal) → duty ∈ .task (.request goal) ::ₘ rest → duty ∈ rest :=
    fun different member => (Multiset.mem_cons.mp member).resolve_left different
  refine ⟨once,fun other owed => mail.request other (old owed),.inl known,fun other owed => mail.enter other (old owed),
    ?_,fun receiver owed => mail.notice receiver (old owed),?_,mail.seated,?_,
    fun receiver last owed => mail.delivery receiver last (old owed),?_,mail.passed⟩
  · exact fun other listed production => (mail.entered other listed production).imp_left (more (by simp))
  · intro asker other owed
    obtain ⟨spot,at_asker,wanted,absent,untold⟩ := mail.asking asker other (old owed)
    exact ⟨spot,at_asker,wanted,absent,fun last own => ⟨fun sent => (untold last own).1 (old sent),(untold last own).2⟩⟩
  · exact fun walk spot at_walk other wanted told =>
      mail.joined walk spot at_walk other wanted fun owed => told (more (by simp) owed)
  · exact fun walk spot at_walk last wanted told shown =>
      (mail.delivered walk spot at_walk last wanted (fun owed => told (more (by simp) owed)) shown).imp_left (more (by simp))

-- Duties that weigh the same on every walk and ask for nothing may stand for each other.
theorem Balanced.exchange {one two : Duty} (balanced : Balanced problem frames entryAt pendingAt (one ::ₘ rest))
    (same : ∀ id, one.burdens id = two.burdens id) : Balanced problem frames entryAt pendingAt (two ::ₘ rest) := by
  intro id walk found
  have before := balanced id walk found
  rw [Multiset.countP_cons,same id] at before
  rw [Multiset.countP_cons]
  exact before

end ParseForest.Session
