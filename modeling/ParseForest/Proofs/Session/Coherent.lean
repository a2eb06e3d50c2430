import Mathlib
import ParseForest.Proofs.Session.Perform
import ParseForest.Session.Run

namespace ParseForest.Session

-- The requests that a task makes itself, and those of the walks that it begins.
def Task.requests : Task → Nat
  | .request _ => 1
  | .enter _ => 0
  | .deliver _ _ => 0
  | .exhausted _ => 0

theorem requests_zero {tasks : List Task} (requestless : ∀ goal, .request goal ∉ tasks) :
    (tasks.map Task.requests).sum = 0 := by
  refine List.sum_eq_zero ?_
  intro count member
  obtain ⟨task,inside,rfl⟩ := List.mem_map.mp member
  cases task with
  | request goal => exact absurd inside (requestless goal)
  | enter goal => rfl
  | deliver id node => rfl
  | exhausted id => rfl

def questionsOf (problem : Problem) (places : List Place) : Nat :=
  (places.map fun place => (place.site problem.grammar).length).sum

namespace State

variable {problem : Problem} {s : State} {rest : Multiset Duty} {task : Task}

theorem initial_chart : (initial problem).chart = .empty := by
  refine Chart.ext ?_ ?_ ?_ ?_ ?_ ?_ rfl rfl
  · ext goal
    simp [State.chart,initial,spawn,Chart.empty]
  · funext goal
    simp [State.chart,initial,spawn,Chart.empty,entryAt]
  · funext goal
    simp [State.chart,initial,spawn,Chart.empty,entryAt]
  · funext goal
    simp [State.chart,initial,spawn,Chart.empty,entryAt]
  · ext place
    simp [State.chart,initial,spawn,Chart.empty]
  · ext place
    simp [State.chart,initial,spawn,Chart.empty]

theorem none_at_all {α : Type} {item : α} {index : Nat} : ([] : List α)[index]? ≠ some item := by simp

theorem owe_middle {before after : List Task} : owe (before ++ task :: after) = .task task ::ₘ owe (before ++ after) := by
  rw [owe_append,owe_cons,Multiset.add_cons,← owe_append]

variable [Regex.Library]

theorem Good.act (valid : problem.Valid) (good : Good problem s (.task task ::ₘ rest))
    (reached : Chart.Reached problem s.chart) (tidy : s.chart.Tidy) :
    ∃ new begun, Good problem (s.act problem task) (owe new + rest) ∧
      Acted problem s (s.act problem task) task new begun (Task.requests task + questionsOf problem begun) := by
  cases task with
  | request goal =>
    obtain rfl := good.mail.request goal (Multiset.mem_cons_self _ _)
    obtain ⟨new,sent,kept,asked,phase,ended,quiet⟩ := good.request reached valid.root (.inl rfl)
    have later := Chart.phase_later reached phase
    rw [Multiset.add_cons] at kept
    refine ⟨new,[],?_,.of_sent sent phase ?_ quiet⟩
    · refine ⟨kept.books,kept.family,kept.mail.drop_request asked,?_,kept.flags,?_,kept.breaches⟩
      · intro id walk found
        have before := kept.balance id walk found
        rwa [Multiset.countP_cons_of_neg _ (by simp [Duty.burdens])] at before
      · exact kept.tally.reask fun _ => asks_task.symm
    · intro goal firstEnded
      change _ ∈ (s.request problem problem.root.goal).chart.ended at firstEnded
      rw [ended] at firstEnded
      exact later.closed_mono (tidy goal firstEnded)
  | enter goal =>
    obtain ⟨new,kept,acted⟩ := good.begin valid reached tidy firstWalk_fits
    refine ⟨new,[(firstWalk problem goal).place],kept,?_⟩
    have count : Task.requests (.enter goal) + questionsOf problem [(firstWalk problem goal).place] =
        ((firstWalk problem goal).place.site problem.grammar).length := by simp [Task.requests,questionsOf]
    rw [count]
    exact acted
  | deliver id node =>
    obtain ⟨place,at_place,_⟩ := good.mail.delivery id node (Multiset.mem_cons_self _ _)
    obtain ⟨walk,found,rfl⟩ := walk_of_place at_place
    have frame : s.frames[id]? = some walk.frame := by rw [frames_getElem?,found]; rfl
    simp only [act,advance,found]
    cases leads : successor? problem id walk node with
    | some further =>
      obtain ⟨new,kept,acted⟩ := good.begin valid reached tidy (successor_fits good found leads)
      refine ⟨new,[further.place],kept,?_⟩
      have count : Task.requests (.deliver id node) + questionsOf problem [further.place] =
          (further.place.site problem.grammar).length := by simp [Task.requests,questionsOf]
      rw [count]
      exact acted
    | none =>
      have refused := successor_refused good found leads
      have noticed : Good problem s (.task (.exhausted id) ::ₘ rest) :=
        ⟨good.books,good.family,good.mail.refuse at_place refused,good.balance.exchange fun _ => rfl,good.flags,
          good.tally.reask fun _ => asks_task.trans asks_task.symm,good.breaches⟩
      obtain ⟨new,sent,kept,phase,tidyLast,quiet⟩ := noticed.release reached tidy frame
      exact ⟨new,[],kept,.of_sent sent phase tidyLast quiet⟩
  | exhausted id =>
    have inside := good.mail.notice id (Multiset.mem_cons_self _ _)
    obtain ⟨walk,found,_⟩ := walk_of_place (List.getElem?_eq_getElem inside)
    have frame : s.frames[id]? = some walk.frame := by rw [frames_getElem?,found]; rfl
    simp only [act,found]
    obtain ⟨new,sent,kept,phase,tidyLast,quiet⟩ := good.release reached tidy frame
    exact ⟨new,[],kept,.of_sent sent phase tidyLast quiet⟩

-- What holds between the steps of a parse.
structure Coherent (problem : Problem) (s : State) : Prop where
  good : Good problem s (owe s.tasks)
  reached : Chart.Reached problem s.chart
  tidy : s.chart.Tidy
  held : s.held = s.tasks.length
  sites : ∀ site, site ∈ s.sites ↔ site ≠ [] ∧ ∃ place ∈ s.places, site = place.site problem.grammar
  requests : s.hits + s.goals.length + (s.tasks.map Task.requests).sum = 1 + questionsOf problem s.places

theorem initial_coherent : Coherent problem (initial problem) := by
  have entries : (initial problem).entryAt = fun _ => {} := by
    funext goal
    simp [entryAt,initial,spawn]
  have asked : (initial problem).asked = ∅ := congrArg Chart.asked initial_chart
  have tasks : owe (initial problem).tasks = {.task (.request problem.root.goal)} := rfl
  have places : (initial problem).places = [] := rfl
  refine ⟨⟨?_,?_,?_,?_,?_,?_,rfl⟩,initial_chart ▸ .empty,?_,rfl,?_,rfl⟩
  · rw [asked,entries]
    exact ⟨fun goal => by simp [initial,spawn],List.nodup_nil,rfl,fun _ _ => rfl,fun _ => List.nodup_nil,fun _ => List.nodup_nil,
      fun _ _ member => absurd member List.not_mem_nil,fun _ => List.nodup_nil,fun _ _ => rfl⟩
  · exact ⟨fun _ _ found => absurd found none_at_all,fun _ _ found => absurd found none_at_all,List.nodup_nil⟩
  · rw [asked,entries,tasks,places]
    refine ⟨(Multiset.nodup_singleton _).filter _,?_,.inr (Multiset.mem_singleton_self _),?_,fun _ member => member.elim,
      ?_,?_,fun _ _ member => absurd member List.not_mem_nil,fun _ _ found => absurd found none_at_all,?_,
      fun _ _ found => absurd found none_at_all,fun _ _ member => absurd member List.not_mem_nil⟩
    · intro goal member
      exact Task.request.inj (Duty.task.inj (Multiset.mem_singleton.mp member))
    · intro goal member
      cases Multiset.mem_singleton.mp member
    · intro id member
      cases Multiset.mem_singleton.mp member
    · intro id goal member
      cases Multiset.mem_singleton.mp member
    · intro id node member
      cases Multiset.mem_singleton.mp member
  · exact fun _ _ found => absurd found none_at_all
  · exact fun _ _ found => absurd found none_at_all
  · rw [entries,tasks,places]
    refine ⟨fun goal => ?_,fun goal _ => ?_,rfl⟩
    · rfl
    · rfl
  · intro goal ended
    rw [initial_chart] at ended
    exact ended.elim
  · intro site
    rw [places]
    simp [initial,spawn]

-- What a step does to a coherent state: one task is replaced by those that it causes.
structure Performed (problem : Problem) (s next : State) (before after : List Task) (task : Task) (new : List Task)
    (begun : List Place) : Prop where
  coherent : Coherent problem next
  tasks : next.tasks = new ++ (before ++ after)
  places : next.places = s.places ++ begun
  opens : ∀ place ∈ begun, Opens problem s.places task place
  phase : Chart.Phase problem s.chart next.chart
  quiet : Chart.Stirred s.chart next.chart ∨ ∀ task ∈ new, task.walk? = some s.walks.size

theorem Coherent.perform (valid : problem.Valid) (coherent : Coherent problem s) {before after : List Task}
    (queued : s.tasks = before ++ task :: after) :
    ∃ new begun, Performed problem s ({ s with tasks := before ++ after }.perform problem task) before after task new begun := by
  obtain ⟨good,reached,tidy,held,sites,requests⟩ := coherent
  rw [queued,owe_middle] at good
  rw [queued,List.length_append,List.length_cons] at held
  let taken : State := { s with tasks := before ++ after }
  have ready : Good problem taken (.task task ::ₘ owe (before ++ after)) :=
    ⟨good.books,good.family,good.mail,good.balance,good.flags,good.tally,good.breaches⟩
  obtain ⟨new,begun,kept,acted⟩ := ready.act valid reached tidy
  have heldActed : (taken.act problem task).held = s.held + new.length := acted.held
  have result : taken.perform problem task = { taken.act problem task with
      finished := (taken.act problem task).finished + 1
      held := (taken.act problem task).held - 1 } := by
    unfold State.perform leave
    simp only
    rw [if_neg (by omega)]
  have places : (taken.act problem task).places = s.places ++ begun := acted.places
  change ∃ new begun, Performed problem s (taken.perform problem task) before after task new begun
  rw [result]
  refine ⟨new,begun,⟨?_,?_,acted.tidy,?_,?_,?_⟩,acted.tasks,acted.places,acted.opens,acted.phase,acted.quiet⟩
  · rw [show ({ taken.act problem task with
      finished := (taken.act problem task).finished + 1
      held := (taken.act problem task).held - 1 } : State).tasks = new ++ (before ++ after) from acted.tasks,owe_append]
    refine ⟨kept.books,kept.family,kept.mail,kept.balance,kept.flags,?_,kept.breaches⟩
    have made : (taken.act problem task).finished + 1 + ((taken.act problem task).held - 1) =
        (taken.act problem task).finished + (taken.act problem task).held := by omega
    change Tallied problem _ _ _ _ ((taken.act problem task).finished + 1 + ((taken.act problem task).held - 1))
    rw [made]
    exact kept.tally
  · exact reached.phase acted.phase
  · change (taken.act problem task).held - 1 = (taken.act problem task).tasks.length
    rw [acted.tasks,heldActed,held]
    change _ = (new ++ (before ++ after)).length
    simp only [List.length_append]
    omega
  · intro site
    change site ∈ (taken.act problem task).sites ↔ site ≠ [] ∧ ∃ place ∈ (taken.act problem task).places, _
    rw [acted.sites,places]
    change site ∈ s.sites ∨ _ ↔ _
    rw [sites]
    simp only [List.mem_append,or_and_right,exists_or,and_or_left]
  · change (taken.act problem task).hits + (taken.act problem task).goals.length +
      ((taken.act problem task).tasks.map Task.requests).sum = 1 + questionsOf problem (taken.act problem task).places
    have none_new := requests_zero acted.requestless
    have split : questionsOf problem (s.places ++ begun) = questionsOf problem s.places + questionsOf problem begun := by
      simp [questionsOf]
    rw [queued] at requests
    rw [acted.requests,acted.tasks,places,split]
    change s.hits + s.goals.length + _ + ((new ++ (before ++ after)).map Task.requests).sum = _
    simp only [List.map_append,List.sum_append,List.map_cons,List.sum_cons,none_new] at requests ⊢
    omega

end State

end ParseForest.Session
