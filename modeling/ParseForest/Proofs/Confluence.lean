import Mathlib
import ParseForest.Proofs.Outcome

namespace ParseForest

theorem Suspect.rank_eq : Suspect.rank = compareLex (compareOn Suspect.bypassed)
    (compareLex (fun one two => compareOn (fun suspect => suspect.goal.position) two one)
      (compareOn fun suspect => suspect.goal.symbol)) := rfl

instance : Std.TransCmp Suspect.rank := by
  rw [Suspect.rank_eq]
  infer_instance

instance : Std.LawfulEqCmp Suspect.rank where
  eq_of_compare {one two} same := by
    obtain ⟨ranked,rest⟩ := Ordering.then_eq_eq.mp same
    obtain ⟨further,smaller⟩ := Ordering.then_eq_eq.mp rest
    have bypassed : one.bypassed = two.bypassed := Std.LawfulEqOrd.eq_of_compare ranked
    have position : two.goal.position = one.goal.position := Std.LawfulEqOrd.eq_of_compare further
    have symbol : one.goal.symbol = two.goal.symbol := Std.LawfulEqOrd.eq_of_compare smaller
    have goal : one.goal = two.goal := Goal.ext position.symm symbol
    cases one
    cases two
    simp_all

-- The ranking hangs on the sets of goals and sites, not on the order in which they were met.
theorem rankSuspects_congr {asked others : List Goal} {succeeded : Goal → Bool} {sites places : List Site}
    (goals : ∀ goal, goal ∈ asked ↔ goal ∈ others) (groups : ∀ site, site ∈ sites ↔ site ∈ places) :
    rankSuspects asked succeeded sites = rankSuspects others succeeded places := by
  have unbypassed : ∀ goal, (unbypassedGoals succeeded sites).contains goal = (unbypassedGoals succeeded places).contains goal := by
    intro goal
    rw [Bool.eq_iff_iff]
    simp only [unbypassedGoals,Std.HashSet.contains_ofList,List.contains_iff_mem,List.mem_flatten,List.mem_filter,groups]
  refine arranged_ext Suspect.rank ?_
  intro suspect
  simp only [List.mem_map,List.mem_filter,goals,unbypassed]

namespace Session

open State

theorem twins_entry {s t : State} {goal : Goal} (same : s.chart = t.chart) :
    (∀ derivation, derivation ∈ (s.entryAt goal).derivations ↔ derivation ∈ (t.entryAt goal).derivations) ∧
    (∀ node, node ∈ (s.entryAt goal).published ↔ node ∈ (t.entryAt goal).published) ∧
      (s.entryAt goal).status = (t.entryAt goal).status :=
  ⟨Set.ext_iff.mp (congrFun (congrArg Chart.derivations same) goal),Set.ext_iff.mp (congrFun (congrArg Chart.published same) goal),
    congrFun (congrArg Chart.status same) goal⟩

section Twins

variable [Regex.Library]

variable {problem : Problem} {s t : State} {goal : Goal} (one : Coherent problem s) (two : Coherent problem t)
  (same : s.chart = t.chart)

include one two same

theorem twins_goals : s.goals.Perm t.goals := by
  refine (List.perm_ext_iff_of_nodup one.good.books.nodup two.good.books.nodup).mpr fun goal => ?_
  rw [one.good.books.listed,two.good.books.listed]
  exact Set.ext_iff.mp (congrArg Chart.asked same) goal

theorem twins_places : s.places.Perm t.places := by
  have first := one.good.family.places
  have second := two.good.family.places
  rw [← places_eq] at first second
  refine (List.perm_ext_iff_of_nodup first second).mpr fun place => ?_
  rw [← chart_walks,← chart_walks,same]

theorem twins_published : (s.entryAt goal).published.Perm (t.entryAt goal).published :=
  (List.perm_ext_iff_of_nodup (one.good.books.published goal) (two.good.books.published goal)).mpr (twins_entry same).2.1

theorem twins_lengthsOf : s.lengthsOf goal = t.lengthsOf goal := by
  refine Sorted.Ascending.ext (lengthsOf_ascending one.good.books) (lengthsOf_ascending two.good.books) fun length => ?_
  rw [mem_lengthsOf one.good.books,mem_lengthsOf two.good.books,same]

theorem twins_lengths : (s.outcome problem).lengths = (t.outcome problem).lengths := by
  refine Std.ExtTreeMap.ext_getElem? fun goal => ?_
  rw [outcome_lengths one.good.books,outcome_lengths two.good.books,twins_lengthsOf one two same]
  simp only [(twins_goals one two same).mem_iff]

theorem twins_table : s.table = t.table := by
  refine Std.ExtTreeMap.ext_getElem? fun node => Option.ext fun derivations => ?_
  have listed : s.derivationsOf node = t.derivationsOf node := by
    refine sortedSet_ext fun derivation => ?_
    simp only [List.mem_filter,(twins_entry same).1]
  rw [table_getElem? one,table_getElem? two,listed,same]

theorem twins_suspects : (s.outcome problem).suspects = (t.outcome problem).suspects := by
  have succeeded : (fun goal => !(s.lengthsOf goal).isEmpty) = fun goal => !(t.lengthsOf goal).isEmpty := by
    funext goal
    rw [twins_lengthsOf one two same]
  change rankSuspects s.goals _ _ = rankSuspects t.goals _ _
  rw [succeeded]
  refine rankSuspects_congr (fun goal => (twins_goals one two same).mem_iff) fun site => ?_
  simp only [List.mem_cons,one.sites,two.sites,(twins_places one two same).mem_iff]

-- The tasks of a whole parse are counted by what it has found out.
theorem twins_finished (idleOne : s.tasks = []) (idleTwo : t.tasks = []) : s.finished = t.finished := by
  have first := one.good.tally.made
  have second := two.good.tally.made
  rw [one.held,idleOne,owe_nil] at first
  rw [two.held,idleTwo,owe_nil] at second
  have productions := (twins_goals one two same).countP_eq fun goal => (problem.grammar.production? goal.symbol).isSome
  have messages : ∀ goal, joining problem s.places 0 goal * (s.entryAt goal).messages =
      joining problem t.places 0 goal * (t.entryAt goal).messages := by
    intro goal
    have wanted : wanting problem s.places goal = wanting problem t.places goal := (twins_places one two same).countP_eq _
    unfold joining Entry.messages
    rw [wanted,(twins_published one two same).length_eq,(twins_entry same).2.2]
  have sum := ((twins_goals one two same).map fun goal => joining problem s.places 0 goal * (s.entryAt goal).messages).sum_eq
  simp only [messages] at first sum
  simp only [List.length_nil,Nat.add_zero] at first second
  rw [first,second,productions,sum]

theorem twins_hits (idleOne : s.tasks = []) (idleTwo : t.tasks = []) : s.hits = t.hits := by
  have first := one.requests
  have second := two.requests
  have questions : questionsOf problem s.places = questionsOf problem t.places := ((twins_places one two same).map _).sum_eq
  have goals := (twins_goals one two same).length_eq
  rw [idleOne,questions] at first
  rw [idleTwo] at second
  simp only [List.map_nil,List.sum_nil] at first second
  omega

theorem twins_outcome (idleOne : s.tasks = []) (idleTwo : t.tasks = []) : s.outcome problem = t.outcome problem := by
  have forest : (s.outcome problem).forest = (t.outcome problem).forest := by
    change Forest.pruned problem.root s.table = Forest.pruned problem.root t.table
    rw [twins_table one two same]
  have walks : s.walks.size = t.walks.size := by
    rw [← places_length,← places_length,(twins_places one two same).length_eq]
  have statistics : (s.outcome problem).statistics = (t.outcome problem).statistics := by
    simp only [outcome,Statistics.mk.injEq]
    exact ⟨(twins_goals one two same).length_eq,twins_hits one two same idleOne idleTwo,
      twins_finished one two same idleOne idleTwo,walks,congrArg Chart.rounds same,congrArg Chart.forced same⟩
  have suspects := twins_suspects one two same
  have lengths := twins_lengths one two same
  generalize s.outcome problem = first at *
  generalize t.outcome problem = second at *
  cases first
  cases second
  simp_all

end Twins

variable [Regex.Library]

theorem Complete.outcome_unique {problem : Problem} {s t : State} (valid : problem.Valid) (one : Complete problem s)
    (two : Complete problem t) : s.outcome problem = t.outcome problem :=
  twins_outcome (one.coherent valid) (two.coherent valid) (one.chart_unique valid two) one.idle two.idle

end Session

end ParseForest
