import Mathlib
import ParseForest.Proofs.Shift.Basic

namespace ParseForest.Session

def Entry.shift (start : Nat) (entry : Entry) : Entry :=
  { entry with derivations := entry.derivations.map (Derivation.shift start),published := entry.published.map (Node.shift start) }

def Walk.shift (start : Nat) (walk : Walk) : Walk :=
  { walk with owner := walk.owner.shift start,position := start+walk.position,trail := walk.trail.map (Node.shift start) }

def Task.shift (start : Nat) : Task → Task
  | .request goal => .request (goal.shift start)
  | .enter goal => .enter (goal.shift start)
  | .deliver walk node => .deliver walk (node.shift start)
  | .exhausted walk => .exhausted walk

-- The same question about the same text, which lies further on in a longer one.
structure Problem.Shifted (start : Nat) (part whole : Problem) : Prop where
  grammar : part.grammar = whole.grammar
  within : start ≤ part.text.length
  text : part.text.drop start = whole.text
  root : part.root = whole.root.shift start

-- Two parses that have come equally far. Breaches are left out: nothing that is done depends on them.
structure Similar (start : Nat) (s t : State) : Prop where
  goals : s.goals = t.goals.map (Goal.shift start)
  entries : ∀ goal : Goal, s.entries[goal.shift start]? = t.entries[goal]?.map (Entry.shift start)
  walks : s.walks = t.walks.map (Walk.shift start)
  tasks : s.tasks = t.tasks.map (Task.shift start)
  sites : s.sites = t.sites.map (List.map (Goal.shift start))
  active : s.active = t.active
  held : s.held = t.held
  hits : s.hits = t.hits
  finished : s.finished = t.finished
  rounds : s.rounds = t.rounds
  forced : s.forced = t.forced

section Updates

variable {start : Nat} {s t : State} (similar : Similar start s t)

include similar

theorem Similar.walk (id : WalkId) : s.walks[id]? = t.walks[id]?.map (Walk.shift start) := by
  rw [similar.walks,Array.getElem?_map]

theorem Similar.breach (one two : Breach) : Similar start (s.breach one) (t.breach two) := { similar with }

theorem Similar.spawn (task : Task) : Similar start (s.spawn (task.shift start)) (t.spawn task) :=
  { similar with
    tasks := congrArg (task.shift start :: ·) similar.tasks
    held := congrArg (· + 1) similar.held }

theorem Similar.setEntry (goal : Goal) (entry : Entry) :
    Similar start (s.setEntry (goal.shift start) (entry.shift start)) (t.setEntry goal entry) := by
  refine { similar with entries := fun other => ?_ }
  change (s.entries.insert _ _)[_]? = (t.entries.insert _ _)[_]?.map _
  simp only [Std.HashMap.getElem?_insert,beq_iff_eq,Goal.shift_injective.eq_iff,similar.entries]
  split
  · rfl
  · rfl

theorem Similar.modifyWalk (id : WalkId) {one two : Walk → Walk} (alike : ∀ walk, one (walk.shift start) = (two walk).shift start) :
    Similar start (s.modifyWalk id one) (t.modifyWalk id two) := by
  refine { similar with walks := ?_ }
  change s.walks.modify id one = (t.walks.modify id two).map (Walk.shift start)
  apply Array.ext_getElem?
  intro index
  rw [Array.getElem?_modify,Array.getElem?_map,Array.getElem?_modify,similar.walk]
  cases t.walks[index]? with
  | none => simp
  | some walk =>
    split
    · simp [alike]
    · simp

theorem Similar.deliver (id : WalkId) (node : Node) : Similar start (s.deliver id (node.shift start)) (t.deliver id node) := by
  have raised : Similar start (s.modifyWalk id fun walk => { walk with pending := walk.pending+1 })
      (t.modifyWalk id fun walk => { walk with pending := walk.pending+1 }) := similar.modifyWalk id fun _ => rfl
  exact raised.spawn (.deliver id node)

theorem Similar.notify (id : WalkId) : Similar start (s.notify id) (t.notify id) := similar.spawn (.exhausted id)

theorem Similar.closeGoal : Similar start s.closeGoal t.closeGoal := by
  unfold State.closeGoal
  rw [similar.active]
  split
  · exact similar.breach _ _
  · exact { similar with active := rfl }

theorem Similar.leave : Similar start s.leave t.leave := by
  unfold State.leave
  rw [similar.held]
  split
  · exact similar.breach _ _
  · exact { similar with held := rfl }

omit similar in
-- Where both decide alike, it is enough to look at each way.
theorem Similar.ite {condition : Prop} [Decidable condition] {one two : State} (yes : condition → Similar start s t)
    (no : ¬condition → Similar start one two) : Similar start (if condition then s else one) (if condition then t else two) := by
  split
  · exact yes ‹_›
  · exact no ‹_›

omit similar in
-- A loop keeps what its body keeps.
theorem Similar.foldl {α : Type} {one two : State → α → State}
    (body : ∀ {s t} item, Similar start s t → Similar start (one s item) (two t item)) (items : List α)
    (similar : Similar start s t) : Similar start (items.foldl one s) (items.foldl two t) := by
  induction items generalizing s t with
  | nil => exact similar
  | cons first rest ih => exact ih (body first similar)

theorem Similar.publish (goal : Goal) (node : Node) :
    Similar start (s.publish (goal.shift start) (node.shift start)) (t.publish goal node) := by
  unfold State.publish
  rw [similar.entries]
  cases t.entries[goal]? with
  | none => exact similar.breach _ _
  | some entry =>
    have published := similar.setEntry goal { entry with published := node :: entry.published }
    exact Similar.foldl (fun walk similar => similar.deliver walk node) entry.waiting published

theorem Similar.publishLongest (goal : Goal) : Similar start (s.publishLongest (goal.shift start)) (t.publishLongest goal) := by
  unfold State.publishLongest
  rw [similar.entries]
  cases t.entries[goal]? with
  | none => exact similar.breach _ _
  | some entry =>
    have lengths : (entry.shift start).derivations.map (·.node.length) = entry.derivations.map (·.node.length) := List.map_map
    simp only [Option.map_some,lengths]
    cases (entry.derivations.map (·.node.length)).max? with
    | none => exact similar
    | some length => exact similar.publish goal ⟨goal,length⟩

theorem Similar.dismiss (goal : Goal) : Similar start (s.dismiss (goal.shift start)) (t.dismiss goal) := by
  unfold State.dismiss
  rw [similar.entries]
  cases t.entries[goal]? with
  | none => exact similar.breach _ _
  | some entry =>
    have dismissed := similar.setEntry goal { entry with waiting := [] }
    exact Similar.foldl (fun walk similar => similar.notify walk) entry.waiting dismissed

theorem Similar.markExtended (lineage : List WalkId) : Similar start (s.markExtended lineage) (t.markExtended lineage) := by
  induction lineage generalizing s t with
  | nil => exact similar
  | cons id rest ih =>
    unfold State.markExtended
    rw [similar.walk]
    cases t.walks[id]? with
    | none => exact similar.breach _ _
    | some walk =>
      simp only [Option.map_some,Walk.shift]
      split
      · exact similar
      · exact ih (similar.modifyWalk id fun _ => rfl)

theorem Similar.await (id : WalkId) (goal : Goal) : Similar start (s.await id (goal.shift start)) (t.await id goal) := by
  unfold State.await
  rw [similar.entries]
  cases t.entries[goal]? with
  | none => exact similar.breach _ _
  | some entry =>
    have informed := Similar.foldl (fun node similar => similar.deliver id node) entry.published similar
    simp only [Option.map_some,Entry.shift,List.foldl_map]
    split
    · exact informed.setEntry goal { entry with waiting := id :: entry.waiting }
    · exact informed.notify id

end Updates

section Tasks

variable {start : Nat} {part whole : Problem} {s t : State} (shifted : part.Shifted start whole)

include shifted

theorem Problem.Shifted.firstWalk (goal : Goal) :
    State.firstWalk part (goal.shift start) = (State.firstWalk whole goal).shift start := by
  simp [State.firstWalk,Walk.shift,Goal.shift,shifted.grammar]

theorem Problem.Shifted.successor? (id : WalkId) (walk : Walk) (node : Node) :
    State.successor? part id (walk.shift start) (node.shift start) = (State.successor? whole id walk node).map (Walk.shift start) := by
  unfold State.successor?
  rw [shifted.grammar]
  simp only [apply_ite (Option.map (Walk.shift start)),Option.map_none,Option.map_some,Walk.shift,List.map_cons,← Nat.add_assoc]
  rfl

-- A terminal sees the text from its position on.
theorem Problem.Shifted.matches? [Regex.Library] (terminal : Terminal) (position : Nat) :
    terminal.matches? part.text (start+position) = terminal.matches? whole.text position := by
  have within := shifted.within
  have length : start+position ≤ part.text.length ↔ position ≤ whole.text.length := by
    rw [← shifted.text,List.length_drop]
    omega
  unfold Terminal.matches?
  simp only [length,← List.drop_drop,shifted.text]

variable (similar : Similar start s t)

include similar

theorem Similar.record (goal : Goal) (derivation : Derivation) :
    Similar start (s.record part (goal.shift start) (derivation.shift start)) (t.record whole goal derivation) := by
  unfold State.record
  rw [similar.entries,shifted.grammar]
  cases t.entries[goal]? with
  | none => exact similar.breach _ _
  | some entry =>
    have recorded := similar.setEntry goal { entry with derivations := derivation :: entry.derivations }
    have known : (entry.shift start).published.contains (derivation.shift start).node = entry.published.contains derivation.node :=
      contains_map Node.shift_injective derivation.node entry.published
    obtain ⟨status,derivations,published,waiting⟩ := entry
    simp only [Option.map_some,known]
    cases status with
    | settled => exact recorded.breach _ _
    | forced => exact recorded
    | unsettled => exact .ite (fun _ => recorded) fun _ => recorded.publish goal derivation.node

theorem Similar.close (goal : Goal) (status : Status) :
    Similar start (s.close part (goal.shift start) status) (t.close whole goal status) := by
  unfold State.close
  rw [similar.entries,shifted.grammar]
  cases t.entries[goal]? with
  | none => exact similar.breach _ _
  | some entry =>
    have closed := similar.setEntry goal { entry with status := status }
    refine .ite (fun _ => ?_) fun _ => .ite (fun _ => similar) fun _ => similar.breach _ _
    exact ((Similar.ite (fun _ => closed.publishLongest goal) fun _ => closed).dismiss goal).closeGoal

theorem Similar.emit (walk : Walk) : Similar start (s.emit part (walk.shift start)) (t.emit whole walk) := by
  have marked := similar.markExtended walk.lineage
  have recorded := marked.record shifted walk.owner ⟨⟨walk.owner,walk.position-walk.owner.position⟩,walk.trail.reverse⟩
  have length : start+walk.position-(start+walk.owner.position) = walk.position-walk.owner.position := Nat.add_sub_add_left ..
  simp only [Derivation.shift,Node.shift,List.map_reverse] at recorded
  simpa only [State.emit,Walk.shift,Goal.shift,length] using recorded

theorem Similar.release (ids : List WalkId) : Similar start (s.release part ids) (t.release whole ids) := by
  induction ids generalizing s t with
  | nil => exact similar
  | cons id before ih =>
    unfold State.release
    rw [similar.walk,shifted.grammar]
    cases t.walks[id]? with
    | none => exact similar.breach _ _
    | some walk =>
      have released : Similar start (s.modifyWalk id fun walk => { walk with pending := walk.pending-1 })
          (t.modifyWalk id fun walk => { walk with pending := walk.pending-1 }) := similar.modifyWalk id fun _ => rfl
      refine .ite (fun _ => similar.breach _ _) fun _ => .ite (fun _ => released) fun _ => ?_
      cases before with
      | nil => exact (Similar.ite (fun _ => released.emit shifted walk) fun _ => released).close shifted walk.owner .settled
      | cons next others => exact ih (.ite (fun _ => released.emit shifted walk) fun _ => released)

omit shifted in
theorem Similar.note (site : Site) :
    Similar start (if (site.map (Goal.shift start)).isEmpty then s else { s with sites := site.map (Goal.shift start) :: s.sites })
      (if site.isEmpty then t else { t with sites := site :: t.sites }) := by
  rw [List.isEmpty_map]
  exact .ite (fun _ => similar) fun _ => { similar with sites := congrArg (site.map (Goal.shift start) :: ·) similar.sites }

variable [Regex.Library]

theorem Similar.startGoal (goal : Goal) : Similar start (s.startGoal part (goal.shift start)) (t.startGoal whole goal) := by
  have symbol : (goal.shift start).symbol = goal.symbol := rfl
  unfold State.startGoal
  rw [shifted.grammar,symbol]
  cases whole.grammar.symbol? goal.symbol with
  | none => exact similar.breach _ _
  | some symbol =>
    obtain ⟨name,kind⟩ := symbol
    cases kind with
    | terminal terminal =>
      have seen : terminal.matches? part.text (goal.shift start).position = terminal.matches? whole.text goal.position :=
        shifted.matches? terminal goal.position
      simp only [seen]
      cases terminal.matches? whole.text goal.position with
      | none => exact similar.close shifted goal .settled
      | some length => exact (similar.record shifted goal (.leaf ⟨goal,length⟩)).close shifted goal .settled
    | production production => exact similar.spawn (.enter goal)

theorem Similar.request (goal : Goal) : Similar start (s.request part (goal.shift start)) (t.request whole goal) := by
  have asked : s.entries.contains (goal.shift start) = t.entries.contains goal := by
    rw [Std.HashMap.contains_eq_isSome_getElem?,Std.HashMap.contains_eq_isSome_getElem?,similar.entries,Option.isSome_map]
  unfold State.request
  rw [asked]
  refine .ite (fun _ => { similar with hits := congrArg (· + 1) similar.hits }) fun _ => ?_
  have entered := similar.setEntry goal {}
  refine Similar.startGoal shifted ?_ goal
  exact { entered with
    goals := congrArg (goal.shift start :: ·) similar.goals
    active := congrArg (· + 1) similar.active }

theorem Similar.inquire (id : WalkId) (site : Site) :
    Similar start ((site.map (Goal.shift start)).foldl (fun state goal => (state.request part goal).await id goal) s)
      (site.foldl (fun state goal => (state.request whole goal).await id goal) t) := by
  rw [List.foldl_map]
  exact Similar.foldl (fun goal similar => (similar.request shifted goal).await id goal) site similar

theorem Similar.begin (walk : Walk) : Similar start (s.begin part (walk.shift start)) (t.begin whole walk) := by
  have size : s.walks.size = t.walks.size := by
    rw [similar.walks,Array.size_map]
  have added (count : Nat) : Similar start { s with walks := s.walks.push { walk.shift start with pending := count } }
      { t with walks := t.walks.push { walk with pending := count } } :=
    { similar with walks := by rw [similar.walks,Array.map_push]; rfl }
  have wanted (symbols : List SymbolId) : (symbols.map fun symbol => (⟨(walk.shift start).position,symbol⟩ : Goal)) =
      (symbols.map fun symbol => (⟨walk.position,symbol⟩ : Goal)).map (Goal.shift start) := by
    rw [List.map_map]
    rfl
  unfold State.begin
  simp only [size,shifted.grammar,wanted]
  refine ((Similar.inquire shifted ?_ _ _).note _).release shifted (t.walks.size :: walk.lineage)
  exact .ite (fun _ => (added _).emit shifted walk) fun _ => added _

theorem Similar.advance (id : WalkId) (node : Node) :
    Similar start (s.advance part id (node.shift start)) (t.advance whole id node) := by
  unfold State.advance
  rw [similar.walk]
  cases t.walks[id]? with
  | none => exact similar.breach _ _
  | some walk =>
    simp only [Option.map_some,shifted.successor?]
    cases State.successor? whole id walk node with
    | none => exact similar.release shifted (id :: walk.lineage)
    | some next => exact similar.begin shifted next

theorem Similar.act (task : Task) : Similar start (s.act part (task.shift start)) (t.act whole task) := by
  cases task with
  | request goal => exact similar.request shifted goal
  | enter goal =>
    have begun := similar.begin shifted (State.firstWalk whole goal)
    rw [← shifted.firstWalk] at begun
    exact begun
  | deliver id node => exact similar.advance shifted id node
  | exhausted id =>
    unfold State.act
    simp only [Task.shift]
    rw [similar.walk]
    cases t.walks[id]? with
    | none => exact similar.breach _ _
    | some walk => exact similar.release shifted (id :: walk.lineage)

theorem Similar.perform (task : Task) : Similar start (s.perform part (task.shift start)) (t.perform whole task) := by
  have acted := similar.act shifted task
  refine Similar.leave ?_
  exact { acted with finished := congrArg (· + 1) acted.finished }

end Tasks

section Rounds

variable {start : Nat} {s t : State}

theorem numbers_shift (items : List (Goal × Nat)) (goal : Goal) :
    (Std.HashMap.ofList (items.map (Prod.map (Goal.shift start) id)))[goal.shift start]? = (Std.HashMap.ofList items)[goal]? := by
  have grown : ∀ (after before : Std.HashMap Goal Nat), after[goal.shift start]? = before[goal]? →
      (after.insertMany (items.map (Prod.map (Goal.shift start) id)))[goal.shift start]? = (before.insertMany items)[goal]? := by
    induction items with
    | nil =>
      intro after before same
      simpa using same
    | cons first rest ih =>
      intro after before same
      obtain ⟨other,number⟩ := first
      rw [List.map_cons,Prod.map_apply,Std.HashMap.insertMany_cons,Std.HashMap.insertMany_cons]
      apply ih
      simp only [Std.HashMap.getElem?_insert,beq_iff_eq,Goal.shift_injective.eq_iff,same,id_eq]
  rw [Std.HashMap.ofList_eq_insertMany_empty,Std.HashMap.ofList_eq_insertMany_empty]
  exact grown _ _ (by simp)

variable (similar : Similar start s t)

include similar

theorem Similar.openGoals : s.openGoals = t.openGoals.map (Goal.shift start) := by
  unfold State.openGoals
  rw [similar.goals,← List.map_reverse,List.filter_map]
  congr 2
  funext goal
  rw [Function.comp_apply,similar.entries]
  cases t.entries[goal]? with
  | none => rfl
  | some entry => rfl

theorem Similar.waitingOwners (goal : Goal) : s.waitingOwners (goal.shift start) = (t.waitingOwners goal).map (Goal.shift start) := by
  unfold State.waitingOwners
  rw [similar.entries]
  cases t.entries[goal]? with
  | none => rfl
  | some entry =>
    simp only [Option.map_some,List.map_filterMap,similar.walk,Option.map_map]
    rfl

theorem Similar.waitEdges (goals : List Goal) : s.waitEdges (goals.map (Goal.shift start)) = t.waitEdges goals := by
  unfold State.waitEdges
  simp only [List.zipIdx_map,List.foldl_map,Prod.map_fst,Prod.map_snd,similar.waitingOwners,numbers_shift,List.length_map,id_eq]

theorem Similar.deadlocked : s.deadlocked = t.deadlocked.map (Goal.shift start) := by
  unfold State.deadlocked
  simp only [similar.openGoals,similar.waitEdges,List.map_filterMap,List.getElem?_toArray,List.getElem?_map]

theorem Similar.force {part whole : Problem} (shifted : part.Shifted start whole) : Similar start (s.force part) (t.force whole) := by
  have held : Similar start { s with held := s.held+1,rounds := s.rounds+1 } { t with held := t.held+1,rounds := t.rounds+1 } :=
    { similar with held := congrArg (· + 1) similar.held,rounds := congrArg (· + 1) similar.rounds }
  have closed := Similar.foldl (fun goal similar => similar.close shifted goal .forced) t.deadlocked held
  unfold State.force
  simp only [similar.deadlocked,List.foldl_map,List.isEmpty_map,List.length_map]
  have checked := @Similar.ite start _ _ (t.deadlocked.isEmpty = true) _ _ _ (fun _ => closed.breach .nothingForced .nothingForced) fun _ => closed
  refine Similar.leave ?_
  exact { checked with forced := congrArg (· + t.deadlocked.length) checked.forced }

end Rounds

section Runs

variable {start : Nat} {part whole : Problem} {s t : State} (shifted : part.Shifted start whole)

include shifted

theorem initial_similar : Similar start (State.initial part) (State.initial whole) := by
  have empty : Similar start {} {} := ⟨rfl,by simp,Array.map_empty.symm,rfl,rfl,rfl,rfl,rfl,rfl,rfl,rfl⟩
  have root : part.root.goal = whole.root.goal.shift start := congrArg Node.goal shifted.root
  unfold State.initial
  rw [root]
  exact empty.spawn (.request whole.root.goal)

variable [Regex.Library]

theorem Similar.takeLatest {one two : Nat → State → State}
    (follow : ∀ {s t} count, Similar start s t → Similar start (one count s) (two count t)) (similar : Similar start s t) :
    Similar start (s.takeLatest part one) (t.takeLatest whole two) := by
  unfold State.takeLatest
  rw [similar.tasks]
  cases t.tasks with
  | nil => exact similar
  | cons task rest =>
    have taken : Similar start { s with tasks := rest.map (Task.shift start) } { t with tasks := rest } := { similar with tasks := rfl }
    have performed := taken.perform shifted task
    have caused := congrArg₂ (fun after before => after+1-before) performed.held similar.held
    simp only [List.map_cons,caused]
    exact follow _ performed

theorem Similar.drain (chain count : Nat) (similar : Similar start s t) :
    Similar start (s.drain part chain count) (t.drain whole chain count) := by
  induction chain generalizing count s t with
  | zero => exact similar
  | succ chain ih =>
    unfold State.drain
    induction count with
    | zero => exact similar
    | succ count again => exact again.takeLatest shifted fun count similar => ih count similar

theorem Similar.runRounds (chain rounds : Nat) (similar : Similar start s t) :
    Similar start (s.runRounds part chain rounds) (t.runRounds whole chain rounds) := by
  induction rounds generalizing s t with
  | zero => exact similar
  | succ rounds ih =>
    have drained := similar.drain shifted chain t.held
    unfold State.runRounds
    simp only [similar.held,drained.tasks,drained.active,List.isEmpty_map]
    exact .ite (fun _ => ih (drained.force shifted)) fun _ => drained

-- The bounds of a run only hang on the grammar and the length of the range.
theorem run_similar : Similar start (State.run part) (State.run whole) := by
  have positions : part.positions = whole.positions := by
    unfold Problem.positions
    rw [← shifted.text,List.length_drop,shifted.root]
    change part.text.length-(start+whole.root.position)+1 = _
    rw [Nat.sub_add_eq]
  have goals : part.goalBound = whole.goalBound := by
    unfold Problem.goalBound
    rw [positions,shifted.grammar]
  have chain : part.chainBound = whole.chainBound := by
    unfold Problem.chainBound Problem.walkBound Problem.stateBound
    rw [goals,positions,shifted.grammar]
  unfold State.run
  rw [chain,goals]
  exact (initial_similar shifted).runRounds shifted _ _

end Runs

end ParseForest.Session
