import ParseForest.Session.State
import ParseForest.WaitGraph

namespace ParseForest.Session.State

def publish (state : State) (goal : Goal) (node : Node) : State :=
  match state.entries[goal]? with
  | none => state.breach (.missingEntry goal)
  | some entry =>
    entry.waiting.foldl (fun state walk => state.deliver walk node)
      (state.setEntry goal { entry with published := node :: entry.published })

-- Records a derivation. Its node is published when it is new and the goal may still publish. A greedy goal publishes
-- nothing before it is closed, and a forced goal nothing afterwards.
def record (problem : Problem) (state : State) (goal : Goal) (derivation : Derivation) : State :=
  match state.entries[goal]? with
  | none => state.breach (.missingEntry goal)
  | some entry =>
    let recorded := state.setEntry goal
      { entry with derivations := derivation :: entry.derivations }
    match entry.status with
    | .settled => recorded.breach (.lateResult goal)
    | .forced => recorded
    | .unsettled =>
      if problem.grammar.isGreedy goal.symbol || entry.published.contains derivation.node then
        recorded
      else recorded.publish goal derivation.node

def publishLongest (state : State) (goal : Goal) : State :=
  match state.entries[goal]? with
  | none => state.breach (.missingEntry goal)
  | some entry =>
    match (entry.derivations.map (·.node.length)).max? with
    | some length => state.publish goal ⟨goal,length⟩
    | none => state

def dismiss (state : State) (goal : Goal) : State :=
  match state.entries[goal]? with
  | none => state.breach (.missingEntry goal)
  | some entry =>
    entry.waiting.foldl State.notify (state.setEntry goal { entry with waiting := [] })

-- Closes a goal as settled or forced. A goal that was forced stays so when its walks end later.
def close (problem : Problem) (state : State) (goal : Goal) (status : Status) : State :=
  match state.entries[goal]? with
  | none => state.breach (.missingEntry goal)
  | some entry =>
    if entry.status = .unsettled then
      let closed := state.setEntry goal { entry with status := status }
      let published :=
        if problem.grammar.isGreedy goal.symbol then closed.publishLongest goal else closed
      (published.dismiss goal).closeGoal
    else if entry.status = .forced ∧ status = .settled then state
    else state.breach (.settledTwice goal)

-- Marks the walks before one that has recorded a derivation. Once a marked walk is met, all before it are marked.
def markExtended (state : State) : List WalkId → State
  | [] => state
  | id :: rest =>
    match state.walks[id]? with
    | none => state.breach (.missingWalk id)
    | some walk =>
      if walk.extended then state
      else (state.modifyWalk id fun walk => { walk with extended := true }).markExtended rest

def emit (problem : Problem) (state : State) (walk : Walk) : State :=
  (state.markExtended walk.lineage).record problem walk.owner
    ⟨⟨walk.owner,walk.position - walk.owner.position⟩,walk.trail.reverse⟩

-- Takes one thing off what a walk waits for. A walk that waits for nothing more ends; a greedy walk records its
-- derivation then, unless one was recorded further on. Its end is one thing less for the walk before it to wait for,
-- and the end of the first walk settles the goal. The list holds the walk and those before it.
def release (problem : Problem) (state : State) : List WalkId → State
  | [] => state
  | id :: before =>
    match state.walks[id]? with
    | none => state.breach (.missingWalk id)
    | some walk =>
      if walk.pending = 0 then state.breach (.walkCounter id)
      else
        let released := state.modifyWalk id fun walk => { walk with pending := walk.pending - 1 }
        if walk.pending ≠ 1 then released
        else
          let ended :=
            if problem.grammar.isGreedy walk.owner.symbol && !walk.extended &&
                problem.grammar.accepting walk.owner.symbol walk.states then
              released.emit problem walk
            else released
          match before with
          | [] => ended.close problem walk.owner .settled
          | _ :: _ => ended.release problem before

variable [Regex.Library]

def startGoal (problem : Problem) (state : State) (goal : Goal) : State :=
  match problem.grammar.symbol? goal.symbol with
  | none => state.breach (.unknownSymbol goal)
  | some symbol =>
    match symbol.kind with
    | .terminal terminal =>
      let matched := match terminal.matches? problem.text goal.position with
        | some length => state.record problem goal (.leaf ⟨goal,length⟩)
        | none => state
      matched.close problem goal .settled
    | .production _ => state.spawn (.enter goal)

def request (problem : Problem) (state : State) (goal : Goal) : State :=
  if state.entries.contains goal then { state with hits := state.hits + 1 }
  else
    { state with
      goals := goal :: state.goals
      entries := state.entries.insert goal {}
      active := state.active + 1 }.startGoal problem goal

-- Lets a walk wait for a goal. It gets what has been published, and the notice when the goal is closed.
def await (state : State) (id : WalkId) (goal : Goal) : State :=
  match state.entries[goal]? with
  | none => state.breach (.missingEntry goal)
  | some entry =>
    let informed := entry.published.foldl (fun state node => state.deliver id node) state
    if entry.status = .unsettled then
      informed.setEntry goal { entry with waiting := id :: entry.waiting }
    else informed.notify id

-- Begins a walk: it records a derivation if its production may end here, and asks for every symbol that may come next.
-- While it does so it holds itself.
def begin (problem : Problem) (state : State) (walk : Walk) : State :=
  let id := state.walks.size
  let symbols := problem.grammar.outgoing walk.owner.symbol walk.states
  let site : Site := symbols.map fun symbol => ⟨walk.position,symbol⟩
  let added := { state with walks := state.walks.push { walk with pending := 1 + symbols.length } }
  let emitted :=
    if problem.grammar.accepting walk.owner.symbol walk.states &&
        !problem.grammar.isGreedy walk.owner.symbol then
      added.emit problem walk
    else added
  let asked := site.foldl (fun state goal => (state.request problem goal).await id goal) emitted
  let noted := if site.isEmpty then asked else { asked with sites := site :: asked.sites }
  noted.release problem (id :: walk.lineage)

def firstWalk (problem : Problem) (goal : Goal) : Walk :=
  let states := problem.grammar.entryStates goal.symbol
  { owner := goal
    position := goal.position
    states := states
    trail := []
    lineage := []
    visited := [states]
    pending := 0
    extended := false }

-- The walk behind a node, unless no state is left or an empty node leads back to a state set that was met at this
-- position.
def successor? (problem : Problem) (id : WalkId) (walk : Walk) (node : Node) : Option Walk :=
  let states := problem.grammar.next walk.owner.symbol walk.states node.symbol
  if states.isEmpty || (node.length == 0 && walk.visited.contains states) then none
  else some {
    owner := walk.owner
    position := walk.position + node.length
    states := states
    trail := node :: walk.trail
    lineage := id :: walk.lineage
    visited := if node.length = 0 then states :: walk.visited else [states]
    pending := 0
    extended := false }

def advance (problem : Problem) (state : State) (id : WalkId) (node : Node) : State :=
  match state.walks[id]? with
  | none => state.breach (.missingWalk id)
  | some walk =>
    match successor? problem id walk node with
    | some next => state.begin problem next
    | none => state.release problem (id :: walk.lineage)

def act (problem : Problem) (state : State) : Task → State
  | .request goal => state.request problem goal
  | .enter goal => state.begin problem (firstWalk problem goal)
  | .deliver id node => state.advance problem id node
  | .exhausted id =>
    match state.walks[id]? with
    | none => state.breach (.missingWalk id)
    | some walk => state.release problem (id :: walk.lineage)

def perform (problem : Problem) (state : State) (task : Task) : State :=
  let acted := state.act problem task
  { acted with finished := acted.finished + 1 }.leave

def openGoals (state : State) : List Goal :=
  state.goals.reverse.filter fun goal =>
    match state.entries[goal]? with
    | some entry => entry.status == .unsettled
    | none => false

def waitingOwners (state : State) (goal : Goal) : List Goal :=
  match state.entries[goal]? with
  | some entry => entry.waiting.filterMap fun id => (state.walks[id]?).map Walk.owner
  | none => []

def waitEdges (state : State) (goals : List Goal) : Array (List Nat) :=
  let number : Std.HashMap Goal Nat := Std.HashMap.ofList goals.zipIdx
  goals.zipIdx.foldl (fun edges (target,index) =>
      (state.waitingOwners target).foldl (fun edges owner =>
          match number[owner]? with
          | some source => edges.modify source (index :: ·)
          | none => edges) edges)
    (Array.replicate goals.length [])

def deadlocked (state : State) : List Goal :=
  let goals := state.openGoals
  let named := goals.toArray
  (WaitGraph.terminalComponents (state.waitEdges goals)).flatten.filterMap (named[·]?)

-- What happens when no task is left while goals are open: every goal of every terminal component of the wait graph is
-- closed, before any task that this causes is carried out.
def force (problem : Problem) (state : State) : State :=
  let goals := state.deadlocked
  let closed := goals.foldl (fun state goal => state.close problem goal .forced)
    { state with held := state.held + 1,rounds := state.rounds + 1 }
  let checked := if goals.isEmpty then closed.breach .nothingForced else closed
  { checked with forced := checked.forced + goals.length }.leave

def initial (problem : Problem) : State :=
  ({} : State).spawn (.request problem.root.goal)

end ParseForest.Session.State
