import Mathlib
import ParseForest.Proofs.Deliveries
import ParseForest.Proofs.Fixpoint

namespace ParseForest

namespace Suspect

-- The order of rank in plain terms: first what is not bypassed, then what lies further on, then the smaller symbol.
def Before (one two : Suspect) : Prop :=
  one.bypassed = false ∧ two.bypassed = true ∨ one.bypassed = two.bypassed ∧
    (two.goal.position < one.goal.position ∨ two.goal.position = one.goal.position ∧ one.goal.symbol < two.goal.symbol)

theorem before_of_rank {one two : Suspect} (less : one.rank two = .lt) : one.Before two := by
  rcases Ordering.then_eq_lt.mp less with flag | ⟨flag,rest⟩
  · left
    cases first : one.bypassed <;> cases second : two.bypassed <;> simp_all
  · right
    refine ⟨Std.LawfulEqOrd.eq_of_compare flag,?_⟩
    rcases Ordering.then_eq_lt.mp rest with further | ⟨level,smaller⟩
    · exact .inl (Nat.compare_eq_lt.mp further)
    · exact .inr ⟨Nat.compare_eq_eq.mp level,Nat.compare_eq_lt.mp smaller⟩

theorem rank_self (suspect : Suspect) : suspect.rank suspect = .eq := Std.ReflCmp.compare_self

end Suspect

-- What a list of suspects says about the goals that failed: each is there once and no other is, the flag is off
-- for those to blame, and the list is in strict order of rank.
structure Ranking (failed blamed : Goal → Prop) (suspects : List Suspect) : Prop where
  once : (suspects.map Suspect.goal).Nodup
  listed : ∀ goal, goal ∈ suspects.map Suspect.goal ↔ failed goal
  flagged : ∀ suspect ∈ suspects, suspect.bypassed = false ↔ blamed suspect.goal
  ordered : suspects.Pairwise Suspect.Before

theorem Ranking.congr {failed missed blamed charged : Goal → Prop} {suspects : List Suspect}
    (ranking : Ranking failed blamed suspects) (same : ∀ goal, failed goal ↔ missed goal)
    (flags : ∀ goal, missed goal → (blamed goal ↔ charged goal)) : Ranking missed charged suspects := by
  refine ⟨ranking.once,fun goal => (ranking.listed goal).trans (same goal),?_,ranking.ordered⟩
  intro suspect member
  apply (ranking.flagged suspect member).trans
  apply flags
  apply (same _).mp
  exact (ranking.listed _).mp (List.mem_map_of_mem member)

section Ranked

variable {asked : List Goal} {succeeded : Goal → Bool} {sites : List Site} {goal : Goal} {suspect : Suspect}

theorem mem_unbypassedGoals : goal ∈ unbypassedGoals succeeded sites ↔
    ∃ site ∈ sites, goal ∈ site ∧ ∀ other ∈ site, succeeded other = false := by
  simp only [unbypassedGoals,Std.HashSet.mem_ofList,List.contains_iff_mem,List.mem_flatten,List.mem_filter,List.all_eq_true,
    Bool.not_eq_true']
  constructor
  · rintro ⟨site,⟨stored,failed⟩,member⟩
    exact ⟨site,stored,member,failed⟩
  · rintro ⟨site,stored,member,failed⟩
    exact ⟨site,⟨stored,failed⟩,member⟩

theorem mem_rankSuspects : suspect ∈ rankSuspects asked succeeded sites ↔ (suspect.goal ∈ asked ∧ succeeded suspect.goal = false) ∧
    suspect.bypassed = !(unbypassedGoals succeeded sites).contains suspect.goal := by
  simp only [rankSuspects,mem_dropRepeats,List.mem_mergeSort,List.mem_map,List.mem_filter,Bool.not_eq_true']
  constructor
  · rintro ⟨goal,failed,rfl⟩
    exact ⟨failed,rfl⟩
  · rintro ⟨failed,flag⟩
    exact ⟨suspect.goal,failed,by rw [← flag]⟩

theorem rankSuspects_strict : (rankSuspects asked succeeded sites).Pairwise fun one two => one.rank two = .lt :=
  arranged_strict Suspect.rank

-- The ranking of any goals by any sites. No goal comes twice: the flag is a function of the goal, so equal goals
-- would be equal suspects, and no suspect comes before itself.
theorem rankSuspects_ranking (asked : List Goal) (succeeded : Goal → Bool) (sites : List Site) :
    Ranking (fun goal => goal ∈ asked ∧ succeeded goal = false)
      (fun goal => ∃ site ∈ sites, goal ∈ site ∧ ∀ other ∈ site, succeeded other = false) (rankSuspects asked succeeded sites) := by
  constructor
  case once =>
    refine List.pairwise_map.mpr (rankSuspects_strict.imp_of_mem ?_)
    intro one two first second less same
    have flags : one.bypassed = two.bypassed := by
      rw [(mem_rankSuspects.mp first).2,(mem_rankSuspects.mp second).2,same]
    have equal : one = two := by
      cases one
      cases two
      simp_all
    rw [equal,Suspect.rank_self] at less
    cases less
  case listed =>
    intro goal
    rw [List.mem_map]
    constructor
    · rintro ⟨suspect,member,rfl⟩
      exact (mem_rankSuspects.mp member).1
    · intro failed
      exact ⟨⟨goal,!(unbypassedGoals succeeded sites).contains goal⟩,mem_rankSuspects.mpr ⟨failed,rfl⟩,rfl⟩
  case flagged =>
    intro suspect member
    rw [(mem_rankSuspects.mp member).2,Bool.not_eq_false',Std.HashSet.contains_iff_mem,mem_unbypassedGoals]
  case ordered => exact rankSuspects_strict.imp Suspect.before_of_rank

end Ranked

namespace Session

variable {problem : Problem} {s : State}

theorem State.Coherent.mem_sites [Regex.Library] (coherent : Coherent problem s) {site : Site} :
    site ∈ s.sites ↔ site ≠ [] ∧ ∃ walk ∈ s.walks, site = walk.site problem.grammar := by
  rw [coherent.sites]
  refine and_congr_right fun _ => ?_
  constructor
  · rintro ⟨place,member,rfl⟩
    obtain ⟨walk,begun,rfl⟩ := List.mem_map.mp member
    exact ⟨walk,Array.mem_toList_iff.mp begun,coherent.walk_site begun⟩
  · rintro ⟨walk,begun,rfl⟩
    have listed := Array.mem_toList_iff.mpr begun
    exact ⟨walk.place,List.mem_map_of_mem listed,(coherent.walk_site listed).symm⟩

-- A goal is to blame when it is the root, or when a walk asked for it and nothing that it asked for was found.
theorem Complete.suspects_ranking [Regex.Library] (valid : problem.Valid) (complete : Complete problem s) :
    Ranking (fun goal => (s.outcome problem).wasAsked goal = true ∧ (s.outcome problem).lengthsOf goal = [])
      (fun goal => goal = problem.root.goal ∨ ∃ walk ∈ s.walks, goal ∈ walk.site problem.grammar ∧
        ∀ other ∈ walk.site problem.grammar, (s.outcome problem).lengthsOf other = []) (s.outcome problem).suspects := by
  have coherent := complete.coherent valid
  have books := coherent.good.books
  have failed : ∀ goal, (!(s.lengthsOf goal).isEmpty) = false ↔ (s.outcome problem).lengthsOf goal = [] := by
    intro goal
    rw [State.outcome_lengthsOf books,Bool.not_eq_false',List.isEmpty_iff]
  have ranking := rankSuspects_ranking s.goals (fun goal => !(s.lengthsOf goal).isEmpty) ([problem.root.goal] :: s.sites)
  apply ranking.congr
  · intro goal
    rw [failed,State.outcome_wasAsked books,books.listed]
    exact and_congr_left fun _ => Iff.rfl
  · rintro goal ⟨_,missing⟩
    simp only [failed,List.exists_mem_cons_iff,coherent.mem_sites]
    constructor
    · rintro (⟨same,_⟩ | ⟨site,⟨_,walk,begun,rfl⟩,wanted⟩)
      · exact .inl (List.mem_singleton.mp same)
      · exact .inr ⟨walk,begun,wanted⟩
    · rintro (rfl | ⟨walk,begun,wanted⟩)
      · exact .inl ⟨List.mem_singleton_self _,fun other same => List.mem_singleton.mp same ▸ missing⟩
      · exact .inr ⟨_,⟨List.ne_nil_of_mem wanted.1,walk,begun,rfl⟩,wanted⟩

end Session

open Session

variable {engine : Engine} {document : Text.Document} {root : SymbolId} {range : Option (Nat × Nat)} {problem : Problem}
  {s : State}

-- In whatever order the tasks were taken, the suspects of a parse are the goals that were asked for in vain, each
-- once and in strict order of rank. One is not bypassed when it is the root, or when some walk asked for it together
-- with goals that all failed. Ranking does the same for goals, successes and sites of any kind.
theorem suspects_ranked [Regex.Library] (wellFormed : engine.grammar.WellFormed)
    (accepted : engine.problem document root range = .ok problem) (complete : Complete problem s) :
    engine.parse document root range = .ok (s.outcome problem) ∧
    Ranking (fun goal => (s.outcome problem).wasAsked goal = true ∧ (s.outcome problem).lengthsOf goal = [])
      (fun goal => goal = problem.root.goal ∨ ∃ walk ∈ s.walks, goal ∈ walk.site engine.grammar ∧
        ∀ other ∈ walk.site engine.grammar, (s.outcome problem).lengthsOf other = []) (s.outcome problem).suspects ∧
    ∀ (asked : List Goal) (succeeded : Goal → Bool) (sites : List Site),
      Ranking (fun goal => goal ∈ asked ∧ succeeded goal = false)
        (fun goal => ∃ site ∈ sites, goal ∈ site ∧ ∀ other ∈ site, succeeded other = false)
        (rankSuspects asked succeeded sites) := by
  have valid := Engine.problem_valid wellFormed accepted
  rw [← (Engine.problem_ok accepted).1]
  refine ⟨?_,complete.suspects_ranking valid,rankSuspects_ranking⟩
  rw [Engine.parse_eq accepted,(run_complete valid).outcome_unique valid complete]

theorem words_end_unmatched (complete : Complete wordProblem s) : (s.outcome wordProblem).lengthsOf ⟨2,0⟩ = [] := by
  apply complete.lengthsOf_eq wordProblem_valid .nil
  intro length
  rw [List.mem_nil_iff,iff_false]
  intro published
  cases Chart.reached_sound words_wellFormed (complete.reached wordProblem_valid) _ _ published with
  | terminal matched => cases matched
  | production found => cases found

-- Behind the second letter a word asks for a third, and nothing else is there to take its place.
theorem words_suspect : ⟨⟨2,0⟩,false⟩ ∈ ((State.run wordProblem).outcome wordProblem).suspects := by
  have complete := run_complete wordProblem_valid
  have coherent := complete.coherent wordProblem_valid
  obtain ⟨_,ranking,_⟩ := suspects_ranked words_wellFormed wordProblem_ok complete
  have unmatched := words_end_unmatched complete
  have walked := words_walked complete
  have asked : ((State.run wordProblem).outcome wordProblem).wasAsked ⟨2,0⟩ = true := by
    rw [State.outcome_wasAsked coherent.good.books]
    exact (complete.saturated wordProblem_valid).asked _ walked _ (by decide)
  obtain ⟨walk,begun,place⟩ := walked
  have site : walk.site words.grammar = [⟨2,0⟩] := by
    have same := coherent.walk_site (Array.mem_toList_iff.mpr begun)
    rw [place] at same
    exact same.symm.trans (by decide)
  obtain ⟨suspect,member,same⟩ := List.mem_map.mp ((ranking.listed _).mpr ⟨asked,unmatched⟩)
  have blamed : suspect.bypassed = false := by
    refine (ranking.flagged suspect member).mpr (.inr ⟨walk,begun,?_,?_⟩)
    · rw [site,same]
      exact List.mem_singleton_self _
    · intro other wanted
      rw [site] at wanted
      rw [List.mem_singleton.mp wanted,unmatched]
  have equal : suspect = ⟨⟨2,0⟩,false⟩ := by
    cases suspect
    simp_all
  exact equal ▸ member

end ParseForest
