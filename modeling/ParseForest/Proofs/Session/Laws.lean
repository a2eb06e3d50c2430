import Mathlib
import ParseForest.Proofs.Session.View

namespace ParseForest.Session

-- What is owed in the middle of a parse: the tasks in the bag, and the goals that a walk which has
-- just begun is still to ask for.
inductive Duty where
  | task (task : Task)
  | ask (id : WalkId) (goal : Goal)

namespace Duty

-- Whether a duty is one of the things that a walk waits for.
def burdens (id : WalkId) : Duty → Bool
  | .task (.deliver other _) => other == id
  | .task (.exhausted other) => other == id
  | .ask other _ => other == id
  | .task (.request _) => false
  | .task (.enter _) => false

def asksFor (goal : Goal) : Duty → Bool
  | .ask _ other => other == goal
  | .task _ => false

theorem burdens_exhausted {id other : WalkId} : (task (.exhausted other)).burdens id = true ↔ id = other :=
  beq_iff_eq.trans eq_comm

-- Notices may come several times to one walk, anything else is owed once.
def isNotice : Duty → Bool
  | .task (.exhausted _) => true
  | _ => false

end Duty

-- The duties that tasks are.
def owe (tasks : List Task) : Multiset Duty := ↑(tasks.map Duty.task)

@[simp] theorem task_mem_owe {tasks : List Task} {task : Task} : .task task ∈ owe tasks ↔ task ∈ tasks := by
  simp [owe]

@[simp] theorem ask_mem_owe {tasks : List Task} {id : WalkId} {goal : Goal} : .ask id goal ∉ owe tasks := by
  simp [owe]

@[simp] theorem owe_nil : owe [] = 0 := rfl

@[simp] theorem owe_cons {task : Task} {tasks : List Task} : owe (task :: tasks) = .task task ::ₘ owe tasks := rfl

theorem owe_append {one two : List Task} : owe (one ++ two) = owe one + owe two := by
  simp [owe]

theorem owe_perm {one two : List Task} (perm : one.Perm two) : owe one = owe two :=
  Multiset.coe_eq_coe.mpr (perm.map _)

theorem asks_owe {tasks : List Task} {goal : Goal} :
    (owe tasks).countP (fun duty => duty.asksFor goal = true) = 0 := by
  refine Multiset.countP_eq_zero.mpr ?_
  intro duty member
  obtain ⟨task,_,rfl⟩ := List.mem_map.mp (Multiset.mem_coe.mp member)
  simp [Duty.asksFor]

theorem asks_task {task : Task} {rest : Multiset Duty} {goal : Goal} :
    ((.task task : Duty) ::ₘ rest).countP (fun duty => duty.asksFor goal = true) =
      rest.countP fun duty => duty.asksFor goal = true := by
  rw [Multiset.countP_cons_of_neg _ (by simp [Duty.asksFor])]

theorem asks_add_owe {tasks : List Task} {rest : Multiset Duty} {goal : Goal} :
    (owe tasks + rest).countP (fun duty => duty.asksFor goal = true) =
      rest.countP fun duty => duty.asksFor goal = true := by
  rw [Multiset.countP_add,asks_owe,zero_add]

-- A walk without its counters.
def Walk.frame (walk : Walk) : Walk := { walk with pending := 0,extended := false }

namespace State

def frames (s : State) : List Walk := s.walks.toList.map Walk.frame

def asked (s : State) : Set Goal := {goal | goal ∈ s.entries}

def pendingAt (s : State) (id : WalkId) : Nat := ((s.walks[id]?).map Walk.pending).getD 0

def extendedAt (s : State) (id : WalkId) : Bool := ((s.walks[id]?).map Walk.extended).getD false

end State

def parentAt (frames : List Walk) (id : WalkId) : Option WalkId := (frames[id]?).bind (·.lineage.head?)

-- The goals of a site at which a walk waits.
def seats (entryAt : Goal → Entry) (id : WalkId) (site : List Goal) : Finset Goal :=
  site.toFinset.filter fun goal => id ∈ (entryAt goal).waiting

-- The walks begun from a walk that have not ended.
def heirs (frames : List Walk) (pendingAt : WalkId → Nat) (id : WalkId) : Finset WalkId :=
  (Finset.range frames.length).filter fun child => parentAt frames child = some id ∧ pendingAt child ≠ 0

def endedPlaces (places : List Place) (pendingAt : WalkId → Nat) : Set Place :=
  {place | ∃ id : WalkId, places[id]? = some place ∧ pendingAt id = 0}

-- The number of walks that may go on with a goal, and of those that have joined it.
def wanting (problem : Problem) (places : List Place) (goal : Goal) : Nat :=
  places.countP fun place => goal ∈ place.site problem.grammar

def joining (problem : Problem) (places : List Place) (duties : Multiset Duty) (goal : Goal) : Nat :=
  wanting problem places goal - duties.countP (fun duty => duty.asksFor goal = true)

-- The messages that each walk at a goal gets: one for every node, and one when the goal is closed.
def Entry.messages (entry : Entry) : Nat :=
  entry.published.length + if entry.status = .unsettled then 0 else 1

-- The table of goals.
structure Books (goals : List Goal) (asked : Set Goal) (entryAt : Goal → Entry) (active : Nat) : Prop where
  listed : ∀ goal, goal ∈ goals ↔ goal ∈ asked
  nodup : goals.Nodup
  active : active = goals.countP fun goal => (entryAt goal).status = .unsettled
  unasked : ∀ goal ∉ asked, entryAt goal = {}
  recorded : ∀ goal, (entryAt goal).derivations.Nodup
  published : ∀ goal, (entryAt goal).published.Nodup
  own : ∀ goal, ∀ node ∈ (entryAt goal).published, node.goal = goal
  waiting : ∀ goal, (entryAt goal).waiting.Nodup
  closed : ∀ goal, (entryAt goal).status ≠ .unsettled → (entryAt goal).waiting = []

-- The tree of walks.
structure Family (grammar : Grammar) (frames : List Walk) : Prop where
  layout : ∀ (id : WalkId) (walk : Walk), frames[id]? = some walk → walk.position = walk.place.position ∧
    walk.states = walk.place.states grammar ∧ walk.visited = walk.place.visited grammar
  lineage : ∀ (id : WalkId) (walk : Walk), frames[id]? = some walk → walk.trail = [] ∧ walk.lineage = [] ∨
    ∃ (before : WalkId) (parent : Walk) (node : Node), frames[before]? = some parent ∧ walk.place = parent.place.extend node ∧
      walk.lineage = before :: parent.lineage
  places : (frames.map Walk.place).Nodup

-- Who is told what. Between a walk and a goal of its site there is first the duty to ask; then the
-- walk waits or the goal is closed, and every node published is on its way or has been dealt with.
structure Mail (problem : Problem) (places : List Place) (asked : Set Goal) (entryAt : Goal → Entry)
    (duties : Multiset Duty) : Prop where
  once : (duties.filter fun duty => duty.isNotice = false).Nodup
  request : ∀ goal, .task (.request goal) ∈ duties → goal = problem.root.goal
  rooted : problem.root.goal ∈ asked ∨ .task (.request problem.root.goal) ∈ duties
  enter : ∀ goal, .task (.enter goal) ∈ duties → goal ∈ asked ∧ Chart.IsProduction problem goal ∧ .first goal ∉ places
  entered : ∀ goal ∈ asked, Chart.IsProduction problem goal → .task (.enter goal) ∈ duties ∨ .first goal ∈ places
  notice : ∀ id, .task (.exhausted id) ∈ duties → id < places.length
  asking : ∀ id goal, .ask id goal ∈ duties → ∃ place, places[id]? = some place ∧
    goal ∈ place.site problem.grammar ∧ id ∉ (entryAt goal).waiting ∧
      ∀ node, node.goal = goal → .task (.deliver id node) ∉ duties ∧ place.extend node ∉ places
  seated : ∀ goal, ∀ id ∈ (entryAt goal).waiting, ∃ place, places[id]? = some place ∧ goal ∈ place.site problem.grammar
  joined : ∀ (id : WalkId) (place : Place), places[id]? = some place → ∀ goal ∈ place.site problem.grammar, .ask id goal ∉ duties →
    goal ∈ asked ∧ ((entryAt goal).status ≠ .unsettled ∨ id ∈ (entryAt goal).waiting)
  delivery : ∀ id node, .task (.deliver id node) ∈ duties → ∃ place, places[id]? = some place ∧
    node.goal ∈ place.site problem.grammar ∧ node ∈ (entryAt node.goal).published ∧ place.extend node ∉ places
  delivered : ∀ (id : WalkId) (place : Place), places[id]? = some place → ∀ node, node.goal ∈ place.site problem.grammar →
    .ask id node.goal ∉ duties → node ∈ (entryAt node.goal).published →
      .task (.deliver id node) ∈ duties ∨ place.extend node ∈ places ∨ ¬place.Admits problem.grammar node
  passed : ∀ place node, place.extend node ∈ places → place ∈ places ∧ node ∈ (entryAt node.goal).published

-- The counter of a walk is the number of duties to it, of goals it waits for, and of walks begun
-- from it that have not ended.
def Balanced (problem : Problem) (frames : List Walk) (entryAt : Goal → Entry) (pendingAt : WalkId → Nat)
    (duties : Multiset Duty) : Prop :=
  ∀ (id : WalkId) (walk : Walk), frames[id]? = some walk → pendingAt id = duties.countP (fun duty => duty.burdens id = true) +
    (seats entryAt id (walk.place.site problem.grammar)).card + (heirs frames pendingAt id).card

-- A greedy walk is marked when a walk further on has ended where its production may end.
def Flagged (problem : Problem) (places : List Place) (pendingAt : WalkId → Nat) (extendedAt : WalkId → Bool) : Prop :=
  ∀ (id : WalkId) (place : Place), places[id]? = some place → Chart.IsGreedy problem place.owner →
    (extendedAt id = true ↔ ∃ further ∈ endedPlaces places pendingAt, further.Extends place ∧ further ≠ place ∧
      further.accepting problem.grammar = true)

-- The tasks made so far: the first one, one for every production, and the messages of the goals to
-- the walks that have joined them.
structure Tallied (problem : Problem) (goals : List Goal) (places : List Place) (entryAt : Goal → Entry)
    (duties : Multiset Duty) (made : Nat) : Prop where
  wanted : ∀ goal, duties.countP (fun duty => duty.asksFor goal = true) ≤ wanting problem places goal
  seated : ∀ goal, (entryAt goal).status = .unsettled →
    duties.countP (fun duty => duty.asksFor goal = true) + (entryAt goal).waiting.length = wanting problem places goal
  made : made = 1 + goals.countP (fun goal => (problem.grammar.production? goal.symbol).isSome) +
    (goals.map fun goal => joining problem places duties goal * (entryAt goal).messages).sum

namespace State

structure Good (problem : Problem) (s : State) (duties : Multiset Duty) : Prop where
  books : Books s.goals s.asked s.entryAt s.active
  family : Family problem.grammar s.frames
  mail : Mail problem s.places s.asked s.entryAt duties
  balance : Balanced problem s.frames s.entryAt s.pendingAt duties
  flags : Flagged problem s.places s.pendingAt s.extendedAt
  tally : Tallied problem s.goals s.places s.entryAt duties (s.finished + s.held)
  breaches : s.breaches = []

variable {problem : Problem} {s : State} {place : Place} {id : WalkId} {walk : Walk}

theorem frames_getElem? : s.frames[id]? = (s.walks[id]?).map Walk.frame := by
  simp [frames]

theorem places_eq : s.places = s.frames.map Walk.place := by
  simp [places,frames,Walk.frame,Walk.place]

theorem places_getElem? : s.places[id]? = (s.frames[id]?).map Walk.place := by
  rw [places_eq,List.getElem?_map]

theorem frames_length : s.frames.length = s.walks.size := by simp [frames]

theorem places_length : s.places.length = s.walks.size := by simp [places]

theorem place_of_walk (found : s.walks[id]? = some walk) : s.places[id]? = some walk.place := by
  rw [places_getElem?,frames_getElem?,found]
  rfl

theorem pendingAt_eq (found : s.walks[id]? = some walk) : s.pendingAt id = walk.pending := by
  simp [pendingAt,found]

theorem walk_of_place (found : s.places[id]? = some place) : ∃ walk, s.walks[id]? = some walk ∧ walk.place = place := by
  simpa [places] using found

theorem chart_walks : place ∈ s.chart.walks ↔ place ∈ s.places := by
  simp [chart,places]

theorem chart_ended : s.chart.ended = endedPlaces s.places s.pendingAt := by
  ext place
  constructor
  · rintro ⟨walk,member,rfl,pending⟩
    obtain ⟨id,found⟩ := Array.mem_iff_getElem?.mp member
    exact ⟨id,place_of_walk found,(pendingAt_eq found).trans pending⟩
  · rintro ⟨id,found,pending⟩
    obtain ⟨walk,at_id,rfl⟩ := walk_of_place found
    exact ⟨walk,Array.mem_of_getElem? at_id,rfl,(pendingAt_eq at_id).symm.trans pending⟩

end State

section Consequences

variable {problem : Problem} {frames : List Walk} {places : List Place} {place : Place} {i j : WalkId}

theorem index_unique {α : Type} {items : List α} {item : α} (nodup : items.Nodup) (one : items[i]? = some item)
    (two : items[j]? = some item) : i = j := by
  obtain ⟨first,_⟩ := List.getElem?_eq_some_iff.mp one
  exact (List.getElem?_inj first nodup).mp (one.trans two.symm)

theorem Mail.take {asked : Set Goal} {entryAt : Goal → Entry} {duty : Duty} {rest : Multiset Duty}
    (mail : Mail problem places asked entryAt (duty ::ₘ rest)) (letter : duty.isNotice = false) :
    duty ∉ rest ∧ (rest.filter fun duty => duty.isNotice = false).Nodup := by
  have once := mail.once
  rw [Multiset.filter_cons,if_pos letter,Multiset.singleton_add,Multiset.nodup_cons] at once
  exact ⟨fun member => once.1 (Multiset.mem_filter.mpr ⟨member,letter⟩),once.2⟩

-- Of the duties only the questions count.
theorem Tallied.reask {goals : List Goal} {entryAt : Goal → Entry} {duties rest : Multiset Duty} {made : Nat}
    (tallied : Tallied problem goals places entryAt duties made)
    (same : ∀ goal, rest.countP (fun duty => duty.asksFor goal = true) = duties.countP fun duty => duty.asksFor goal = true) :
    Tallied problem goals places entryAt rest made := by
  refine ⟨fun goal => (same goal).symm ▸ tallied.wanted goal,fun goal unsettled => (same goal).symm ▸ tallied.seated goal unsettled,?_⟩
  rw [tallied.made]
  simp only [joining,same]

end Consequences

end ParseForest.Session
