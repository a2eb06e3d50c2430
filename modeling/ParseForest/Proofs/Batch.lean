import Mathlib
import ParseForest.Batch
import ParseForest.Proofs.Engine

namespace ParseForest

open Session

namespace Batch

variable {engine : Engine} {root : SymbolId} {window : Nat} {documents waiting : List Text.Document} {progress : Progress}

-- A batch between two moves: the documents that are still to be started, and what has come of the others.
structure Stage where
  waiting : List Text.Document
  progress : Progress

theorem window_pos (maxInFlight count : Nat) : 0 < Batch.window maxInFlight count := by
  unfold Batch.window
  split
  · exact Nat.lt_of_lt_of_le Nat.one_pos (Nat.le_max_right _ _)
  · rename_i given
    exact Nat.pos_of_ne_zero given

variable [Regex.Library]

-- One move of a batch. A document is started when the window is not full. The oldest parse is joined when it is full
-- and a document waits, and also when no document waits any more.
inductive Move (engine : Engine) (root : SymbolId) (window : Nat) : Stage → Stage → Prop where
  | start {document : Text.Document} {waiting : List Text.Document} {results : List (Except Fault Outcome)} {running : List Started}
      (room : running.length ≠ window) :
      Move engine root window ⟨document :: waiting,⟨results,running⟩⟩ ⟨waiting,⟨results,running ++ [engine.problem document root none]⟩⟩
  | join {waiting : List Text.Document} {results : List (Except Fault Outcome)} {oldest : Started} {running : List Started}
      (due : running.length + 1 = window ∨ waiting = []) :
      Move engine root window ⟨waiting,⟨results,oldest :: running⟩⟩ ⟨waiting,⟨oldest.join :: results,running⟩⟩

abbrev Moves (engine : Engine) (root : SymbolId) (window : Nat) : Stage → Stage → Prop :=
  Relation.ReflTransGen (Move engine root window)

theorem move_unique : Relator.RightUnique (Move engine root window) := by
  intro stage one two first second
  cases first with
  | start room =>
    cases second with
    | start _ => rfl
    | join due =>
      rcases due with full | none_left
      · exact absurd full room
      · cases none_left
  | join due =>
    cases second with
    | start room =>
      rcases due with full | none_left
      · exact absurd full room
      · cases none_left
    | join _ => rfl

section Loop

theorem makeRoom_length (positive : 0 < window) (bounded : progress.running.length ≤ window) :
    (makeRoom window progress).running.length < window := by
  unfold makeRoom
  split
  · rename_i full
    split
    · rename_i oldest rest held
      rw [← full,held]
      exact Nat.lt_succ_self _
    · rename_i empty
      rw [← full,empty] at positive
      cases positive
  · rename_i roomy
    exact Nat.lt_of_le_of_ne bounded roomy

theorem makeRoom_moves : Moves engine root window ⟨waiting,progress⟩ ⟨waiting,makeRoom window progress⟩ := by
  unfold makeRoom
  split
  · rename_i full
    split
    · rename_i oldest rest held
      obtain ⟨results,running⟩ := progress
      cases held
      exact .single (.join (.inl full))
    · exact .refl
  · exact .refl

theorem start_length (positive : 0 < window) (bounded : progress.running.length ≤ window) (document : Text.Document) :
    (start engine root window progress document).running.length ≤ window := by
  rw [start,List.length_append]
  exact makeRoom_length positive bounded

-- One turn of the loop makes room if it must, and then starts the next document.
theorem start_moves (positive : 0 < window) (bounded : progress.running.length ≤ window) {document : Text.Document} :
    Moves engine root window ⟨document :: waiting,progress⟩ ⟨waiting,start engine root window progress document⟩ :=
  makeRoom_moves.tail (.start (makeRoom_length positive bounded).ne)

theorem fold_moves (positive : 0 < window) (bounded : progress.running.length ≤ window) :
    Moves engine root window ⟨documents ++ waiting,progress⟩ ⟨waiting,documents.foldl (start engine root window) progress⟩ := by
  induction documents generalizing progress with
  | nil => exact .refl
  | cons document rest ih => exact (start_moves positive bounded).trans (ih (start_length positive bounded document))

theorem drain_moves {results : List (Except Fault Outcome)} {running : List Started} :
    Moves engine root window ⟨[],⟨results,running⟩⟩ ⟨[],⟨(running.map Started.join).reverse ++ results,[]⟩⟩ := by
  induction running generalizing results with
  | nil => exact .refl
  | cons oldest rest ih =>
    have moves := (Relation.ReflTransGen.single (Move.join (.inr rfl))).trans (@ih (oldest.join :: results))
    rwa [List.map_cons,List.reverse_cons,List.append_assoc]

-- The whole batch: all documents are started in turn, and what still runs is joined at the end.
theorem parse_moves (engine : Engine) (root : SymbolId) (documents : List Text.Document) (maxInFlight : Nat) :
    Moves engine root (Batch.window maxInFlight documents.length) ⟨documents,{}⟩
      ⟨[],⟨(parse engine root documents maxInFlight).reverse,[]⟩⟩ := by
  have turns := @fold_moves engine root _ documents [] {} _ (window_pos maxInFlight documents.length) (Nat.zero_le _)
  rw [List.append_nil] at turns
  refine turns.trans ?_
  rw [parse,List.reverse_append,List.reverse_reverse]
  exact drain_moves

end Loop

-- The documents of a batch at one of its stages: those whose results are there, those whose parses are under way, and
-- those that wait, in this order and none twice. No more are under way than the window holds.
structure Accounted (engine : Engine) (root : SymbolId) (window : Nat) (documents joined started : List Text.Document)
    (stage : Stage) : Prop where
  parts : documents = joined ++ started ++ stage.waiting
  results : stage.progress.results.reverse = joined.map (engine.parse · root none)
  running : stage.progress.running = started.map (engine.problem · root none)
  bounded : started.length ≤ window

theorem join_problem (engine : Engine) (root : SymbolId) (document : Text.Document) :
    Started.join (engine.problem document root none) = engine.parse document root none := by
  unfold Started.join Engine.parse
  cases engine.problem document root none with
  | error fault => rfl
  | ok problem => rfl

variable {joined started : List Text.Document} {stage next : Stage}

theorem Move.accounted (move : Move engine root window stage next) (accounted : Accounted engine root window documents joined started stage) :
    ∃ joined started, Accounted engine root window documents joined started next := by
  obtain ⟨parts,results,running,bounded⟩ := accounted
  cases move with
  | @start document waiting others held room =>
    obtain rfl : held = started.map (engine.problem · root none) := running
    rw [List.length_map] at room
    refine ⟨joined,started ++ [document],?_,results,?_,?_⟩
    · rw [parts,List.append_assoc,List.append_assoc,List.append_assoc]
      rfl
    · rw [List.map_append]
      rfl
    · rw [List.length_append]
      exact Nat.lt_of_le_of_ne bounded room
  | @join waiting others oldest held due =>
    cases started with
    | nil => cases running
    | cons document rest =>
      obtain ⟨rfl,rfl⟩ := List.cons.inj running
      refine ⟨joined ++ [document],rest,?_,?_,rfl,Nat.le_of_succ_le bounded⟩
      · rw [parts,List.append_cons joined]
      · rw [List.reverse_cons,results,join_problem,List.map_append]
        rfl

theorem moves_accounted (moves : Moves engine root window ⟨documents,{}⟩ stage) :
    ∃ joined started, Accounted engine root window documents joined started stage := by
  induction moves with
  | refl => exact ⟨[],[],rfl,rfl,rfl,Nat.zero_le _⟩
  | tail _ move ih =>
    obtain ⟨joined,started,accounted⟩ := ih
    exact move.accounted accounted

theorem parse_eq_map (engine : Engine) (root : SymbolId) (documents : List Text.Document) (maxInFlight : Nat) :
    parse engine root documents maxInFlight = documents.map (engine.parse · root none) := by
  obtain ⟨joined,started,parts,results,running,_⟩ := moves_accounted (parse_moves engine root documents maxInFlight)
  obtain rfl : started = [] := List.map_eq_nil_iff.mp running.symm
  rw [List.append_nil,List.append_nil] at parts
  rwa [List.reverse_reverse,← parts] at results

-- The loop has no choice, so whatever stage it is at, it goes on to the end.
theorem moves_end {maxInFlight : Nat} (moves : Moves engine root (Batch.window maxInFlight documents.length) ⟨documents,{}⟩ stage) :
    Moves engine root (Batch.window maxInFlight documents.length) stage ⟨[],⟨(parse engine root documents maxInFlight).reverse,[]⟩⟩ := by
  rcases Relation.ReflTransGen.total_of_right_unique move_unique moves (parse_moves engine root documents maxInFlight) with on | back
  · exact on
  · cases back.cases_head with
    | inl same => exact same ▸ .refl
    | inr further =>
      obtain ⟨_,move,_⟩ := further
      cases move

end Batch

-- A batch gives what its documents give one by one, in their order, whatever the window. The turns of its loop are made
-- of moves. At every stage between two moves the documents are accounted for, and of those whose parse was started no
-- more are unjoined than the window allows. The results do not depend on the order in which the tasks of the parses are
-- taken.
theorem batch_windowed [Regex.Library] (engine : Engine) (root : SymbolId) (documents : List Text.Document) (maxInFlight : Nat) :
    Batch.parse engine root documents maxInFlight = documents.map (engine.parse · root none) ∧
    (Batch.hasRoom (Batch.window maxInFlight documents.length) = true →
      Batch.parse? engine root documents maxInFlight = some (documents.map (engine.parse · root none))) ∧
    (∀ before behind, documents = before ++ behind →
      Batch.Moves engine root (Batch.window maxInFlight documents.length) ⟨documents,{}⟩
        ⟨behind,before.foldl (Batch.start engine root (Batch.window maxInFlight documents.length)) {}⟩) ∧
    (∀ stage, Batch.Moves engine root (Batch.window maxInFlight documents.length) ⟨documents,{}⟩ stage →
      Batch.Moves engine root (Batch.window maxInFlight documents.length) stage
        ⟨[],⟨(Batch.parse engine root documents maxInFlight).reverse,[]⟩⟩ ∧
      ∃ joined started, Batch.Accounted engine root (Batch.window maxInFlight documents.length) documents joined started stage ∧
        (0 < maxInFlight → started.length ≤ maxInFlight)) ∧
    (engine.grammar.WellFormed → ∀ (index : Nat) (document : Text.Document) (problem : Problem) (s : State),
      documents[index]? = some document → engine.problem document root none = .ok problem → Complete problem s →
        (Batch.parse engine root documents maxInFlight)[index]? = some (.ok (s.outcome problem))) := by
  have plain := Batch.parse_eq_map engine root documents maxInFlight
  refine ⟨plain,?_,?_,?_,?_⟩
  · intro roomy
    rw [Batch.parse?,if_pos roomy,plain]
  · rintro before behind rfl
    exact Batch.fold_moves (Batch.window_pos _ _) (Nat.zero_le _)
  · intro stage moves
    obtain ⟨joined,started,accounted⟩ := Batch.moves_accounted moves
    refine ⟨Batch.moves_end moves,joined,started,accounted,fun given => ?_⟩
    have bounded := accounted.bounded
    rwa [Batch.window,if_neg given.ne'] at bounded
  · intro wellFormed index document problem s listed accepted complete
    have valid := Engine.problem_valid wellFormed accepted
    rw [plain,List.getElem?_map,listed,Option.map_some,Engine.parse_eq accepted,(run_complete valid).outcome_unique valid complete]

end ParseForest
