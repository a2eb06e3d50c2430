import Mathlib
import ParseForest.Proofs.Session.Emit

namespace ParseForest.Session

-- The walk that a task is for.
def Task.walk? : Task → Option WalkId
  | .deliver id _ => some id
  | .exhausted id => some id
  | .request _ => none
  | .enter _ => none

theorem greetings_walk {entry : Entry} {id : WalkId} {task : Task} (member : task ∈ greetings entry id) :
    task.walk? = some id := by
  cases task with
  | request goal => exact absurd member request_mem_greetings
  | enter goal => exact absurd member enter_mem_greetings
  | deliver receiver node =>
    obtain ⟨rfl,_⟩ := deliver_mem_greetings.mp member
    rfl
  | exhausted receiver =>
    obtain ⟨_,rfl⟩ := exhausted_mem_greetings.mp member
    rfl

theorem questions_cons {id : WalkId} {goal : Goal} {site : List Goal} :
    questions id (goal :: site) = .ask id goal ::ₘ questions id site := rfl

namespace State

variable {problem : Problem} {s : State} {goal : Goal} {id : WalkId} {duties rest : Multiset Duty}

variable [Regex.Library]

theorem Good.request (good : Good problem s duties) (reached : Chart.Reached problem s.chart)
    (known : goal.symbol < problem.grammar.size)
    (wanted : goal = problem.root.goal ∨ ∃ place ∈ s.chart.walks, goal ∈ place.site problem.grammar) :
    ∃ new, Sent s (s.request problem goal) new 1 ∧ Good problem (s.request problem goal) (owe new + duties) ∧
      goal ∈ (s.request problem goal).asked ∧ Chart.Phase problem s.chart (s.request problem goal).chart ∧
      (s.request problem goal).chart.ended = s.chart.ended ∧
      (Chart.Stirred s.chart (s.request problem goal).chart ∨ new = []) := by
  by_cases fresh : goal ∈ s.asked
  · rw [request_hit fresh]
    refine ⟨[],⟨rfl,rfl,rfl,rfl,fun _ => List.not_mem_nil,by simp only; omega⟩,?_,fresh,.refl,rfl,.inr rfl⟩
    rw [owe_nil,zero_add]
    exact ⟨good.books,good.family,good.mail,good.balance,good.flags,good.tally,good.breaches⟩
  · have unwalked : .first goal ∉ s.places :=
      fun member => fresh ((Chart.reached_owned reached).walk _ (chart_walks.mpr member)).1
    obtain ⟨new,sent,kept,chart⟩ : ∃ new, Sent s (s.request problem goal) new 1 ∧
        Good problem (s.request problem goal) (owe new + duties) ∧
        (s.request problem goal).chart = s.chart.ask problem goal := by
      by_cases production : Chart.IsProduction problem goal
      · exact ⟨_,good.request_production fresh unwalked production⟩
      · exact good.request_terminal fresh known unwalked production
    have event : Chart.Event problem s.chart (s.chart.ask problem goal) := .ask goal fresh wanted
    have asked : goal ∈ (s.request problem goal).chart.asked := chart ▸ Set.mem_insert _ _
    exact ⟨new,sent,kept,asked,chart ▸ .single event,chart ▸ rfl,.inl (.inl ⟨goal,asked,fresh⟩)⟩

-- The questions of a new walk, one after the other: nothing but greetings to the walk itself is sent
-- unless a goal is new.
theorem Good.inquire (valid : problem.Valid) (site : List Goal) (good : Good problem s (questions id site + rest))
    (reached : Chart.Reached problem s.chart) :
    ∃ new, Sent s (site.foldl (fun s goal => (s.request problem goal).await id goal) s) new site.length ∧
      Good problem (site.foldl (fun s goal => (s.request problem goal).await id goal) s) (owe new + rest) ∧
      Chart.Phase problem s.chart (site.foldl (fun s goal => (s.request problem goal).await id goal) s).chart ∧
      (site.foldl (fun s goal => (s.request problem goal).await id goal) s).chart.ended = s.chart.ended ∧
      (Chart.Stirred s.chart (site.foldl (fun s goal => (s.request problem goal).await id goal) s).chart ∨
        ∀ task ∈ new, task.walk? = some id) := by
  induction site generalizing s rest with
  | nil =>
    refine ⟨[],.refl,?_,.refl,rfl,.inr fun _ member => by cases member⟩
    simpa [questions] using good
  | cons goal site ih =>
    rw [questions_cons,Multiset.cons_add] at good
    obtain ⟨place,found,wanted,_⟩ := good.mail.asking id goal (Multiset.mem_cons_self _ _)
    have walk : place ∈ s.chart.walks := chart_walks.mpr (List.mem_of_getElem? found)
    have known := valid.wellFormed.outgoing_lt (Place.mem_site.mp wanted).2
    obtain ⟨first,sentFirst,asked,member,phaseFirst,endedFirst,quietFirst⟩ := good.request reached known (.inr ⟨place,walk,wanted⟩)
    rw [Multiset.add_cons] at asked
    obtain ⟨sentSecond,joined,same⟩ := asked.await member
    rw [add_left_comm (owe first),← add_assoc,add_comm (owe (greetings _ _)),add_assoc] at joined
    have reachedHere := reached.phase phaseFirst
    rw [← same] at phaseFirst endedFirst quietFirst reachedHere
    obtain ⟨last,sentLast,kept,phaseLast,endedLast,quietLast⟩ := ih joined reachedHere
    have sent := (sentFirst.trans sentSecond).trans sentLast
    rw [Nat.add_zero,Nat.add_comm] at sent
    refine ⟨_,sent,?_,phaseFirst.trans phaseLast,endedLast.trans endedFirst,?_⟩
    · rw [owe_append,owe_append,add_assoc,add_assoc]
      exact kept
    · rcases quietFirst with stirred | rfl
      · exact .inl (stirred.later (Chart.phase_later reachedHere phaseLast))
      · rcases quietLast with stirred | own
        · exact .inl (stirred.earlier (Chart.phase_later reached phaseFirst))
        · refine .inr fun task member => ?_
          rcases List.mem_append.mp member with inLast | inFirst
          · exact own task inLast
          · rw [List.append_nil] at inFirst
            exact greetings_walk inFirst

end State

end ParseForest.Session
