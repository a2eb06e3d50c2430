import Std.Data.HashMap
import ParseForest.Diagnostics
import ParseForest.Forest.Node
import ParseForest.Grammar.Subset

namespace ParseForest.Session

structure Problem where
  grammar : Grammar
  text : List Char
  root : Node

abbrev WalkId := Nat

-- Whether more may be found for a goal. A goal is settled when its walks have ended, and forced when it was closed to
-- break a circle of waiting goals.
inductive Status where
  | unsettled
  | settled
  | forced
  deriving DecidableEq, Repr

-- What is known about a goal: the derivations recorded, the nodes published, and the walks that wait, all latest first.
structure Entry where
  status : Status := .unsettled
  derivations : List Derivation := []
  published : List Node := []
  waiting : List WalkId := []

-- A place in the walk through a goal's production. `trail` holds the nodes passed and `lineage` the walks before this
-- one, both latest first. `visited` holds the state sets met at this position, this walk's first. `pending` counts what
-- the walk still waits for, and `extended` says that a derivation was recorded further on.
structure Walk where
  owner : Goal
  position : Nat
  states : List StateId
  trail : List Node
  lineage : List WalkId
  visited : List (List StateId)
  pending : Nat
  extended : Bool

inductive Task where
  | request (goal : Goal)
  | enter (goal : Goal)
  | deliver (walk : WalkId) (node : Node)
  | exhausted (walk : WalkId)
  deriving DecidableEq, Repr

-- The operations check the conditions they rely on. One that does not hold is recorded in the state.
inductive Breach where
  | unknownSymbol (goal : Goal)
  | missingEntry (goal : Goal)
  | missingWalk (walk : WalkId)
  | settledTwice (goal : Goal)
  | lateResult (goal : Goal)
  | walkCounter (walk : WalkId)
  | activeCounter
  | taskCounter
  | nothingForced
  deriving DecidableEq, Repr

-- The state of a parse. `goals` and `sites` come latest first. `active` counts the goals that are not closed, `held`
-- the tasks not finished. The other numbers count requests that met an existing entry, finished tasks, rounds of
-- forcing and forced goals.
structure State where
  goals : List Goal := []
  entries : Std.HashMap Goal Entry := {}
  walks : Array Walk := #[]
  tasks : List Task := []
  sites : List Site := []
  active : Nat := 0
  held : Nat := 0
  hits : Nat := 0
  finished : Nat := 0
  rounds : Nat := 0
  forced : Nat := 0
  breaches : List Breach := []

namespace State

def breach (state : State) (what : Breach) : State :=
  { state with breaches := what :: state.breaches }

def spawn (state : State) (task : Task) : State :=
  { state with tasks := task :: state.tasks,held := state.held + 1 }

def setEntry (state : State) (goal : Goal) (entry : Entry) : State :=
  { state with entries := state.entries.insert goal entry }

def modifyWalk (state : State) (id : WalkId) (change : Walk → Walk) : State :=
  { state with walks := state.walks.modify id change }

def deliver (state : State) (id : WalkId) (node : Node) : State :=
  (state.modifyWalk id fun walk => { walk with pending := walk.pending + 1 }).spawn
    (.deliver id node)

def notify (state : State) (id : WalkId) : State :=
  state.spawn (.exhausted id)

def closeGoal (state : State) : State :=
  if state.active = 0 then state.breach .activeCounter
  else { state with active := state.active - 1 }

def leave (state : State) : State :=
  if state.held = 0 then state.breach .taskCounter
  else { state with held := state.held - 1 }

end State

end ParseForest.Session
