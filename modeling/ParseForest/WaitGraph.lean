namespace ParseForest.WaitGraph

-- Where one item takes the place of another, there is one less of the other.
theorem count_setIfInBounds {α : Type} [BEq α] [LawfulBEq α] {items : Array α} {index : Nat}
    {old new : α} (found : items[index]? = some old) (different : new ≠ old) :
    (items.setIfInBounds index new).count old + 1 = items.count old := by
  obtain ⟨inside,same⟩ := Array.getElem?_eq_some_iff.mp found
  have present : 0 < items.count old := Array.count_pos_iff.mpr (same ▸ Array.getElem_mem inside)
  rw [Array.setIfInBounds,dif_pos inside,Array.count_set]
  simp only [same,beq_self_eq_true,if_true,beq_iff_eq,different,if_false]
  omega

-- Goes on with the first search. `path` holds the nodes that were entered and not left, innermost first, each with the
-- targets that it has yet to look at, and `left` the nodes that were left, latest first.
def walk (edges : Array (List Nat)) (entered : Array Bool) (left : List Nat) :
    (path : List (Nat × List Nat)) → Option (Array Bool × List Nat)
  | [] => some (entered,left)
  | (node,[]) :: path => walk edges entered (node :: left) path
  | (node,target :: targets) :: path =>
    match _found : entered[target]? with
    | none => none
    | some true => walk edges entered left ((node,targets) :: path)
    | some false =>
      walk edges (entered.setIfInBounds target true) left
        ((target,edges.getD target []) :: (node,targets) :: path)
termination_by path => (entered.count false,(path.flatMap Prod.snd).length + path.length)
decreasing_by
  · exact .right _ (by simp)
  · exact .right _ (by simp)
  · have fewer := count_setIfInBounds _found (by decide : true ≠ false)
    exact .left _ _ (by omega)

def walkAll (edges : Array (List Nat)) (entered : Array Bool) (left : List Nat) :
    (roots : List Nat) → Option (List Nat)
  | [] => some left
  | root :: roots =>
    match entered[root]? with
    | none => none
    | some true => walkAll edges entered left roots
    | some false => do
      let (entered,left) ← walk edges (entered.setIfInBounds root true) left
        [(root,edges.getD root [])]
      walkAll edges entered left roots

def leavingOrder (edges : Array (List Nat)) : Option (List Nat) :=
  walkAll edges (Array.replicate edges.size false) [] (List.range edges.size)

def reversed (edges : Array (List Nat)) : Array (List Nat) :=
  edges.toList.zipIdx.foldl (fun sources (targets,source) =>
      targets.foldl (fun sources target => sources.modify target (source :: ·)) sources)
    (Array.replicate edges.size [])

def mark (label : Nat) (labels : Array (Option Nat)) (waiting : List Nat) :
    (nodes : List Nat) → Option (Array (Option Nat) × List Nat)
  | [] => some (labels,waiting)
  | node :: nodes =>
    match labels[node]? with
    | none => none
    | some (some _) => mark label labels waiting nodes
    | some none => mark label (labels.setIfInBounds node (some label)) (node :: waiting) nodes

-- Every node that gets a label waits.
theorem mark_count {label : Nat} {labels marked : Array (Option Nat)}
    {waiting more nodes : List Nat} (done : mark label labels waiting nodes = some (marked,more)) :
    marked.count none + more.length = labels.count none + waiting.length := by
  induction nodes generalizing labels waiting with
  | nil =>
    obtain ⟨rfl,rfl⟩ := Prod.mk.inj (Option.some.inj done)
    rfl
  | cons node nodes ih =>
    unfold mark at done
    split at done
    · cases done
    · exact ih done
    · rename_i unlabelled
      have fewer := count_setIfInBounds unlabelled (Option.some_ne_none label)
      have rest := ih done
      rw [List.length_cons] at rest
      omega

-- Goes on with the second search: visits the nodes that wait and labels where their edges come from.
def collect (sources : Array (List Nat)) (label : Nat) (labels : Array (Option Nat)) :
    (waiting : List Nat) → Option (Array (Option Nat))
  | [] => some labels
  | node :: waiting =>
    match _marked : mark label labels waiting (sources.getD node []) with
    | none => none
    | some (marked,more) => collect sources label marked more
termination_by waiting => labels.count none + waiting.length
decreasing_by
  have same := mark_count _marked
  rw [List.length_cons]
  omega

-- Gives a new label to each of some roots that has none, and to all that leads there. The result has the labels and
-- their number.
def labelAll (sources : Array (List Nat)) (labels : Array (Option Nat)) (count : Nat) :
    (roots : List Nat) → Option (Array (Option Nat) × Nat)
  | [] => some (labels,count)
  | root :: roots =>
    match labels[root]? with
    | none => none
    | some (some _) => labelAll sources labels count roots
    | some none => do
      let labels ← collect sources count (labels.setIfInBounds root (some count)) [root]
      labelAll sources labels (count + 1) roots

def labelOf (labels : Array (Option Nat)) (node : Nat) : Option Nat :=
  labels.getD node none

def markExit (labels : Array (Option Nat)) (source : Nat) (marks : Array Bool) (target : Nat) :
    Array Bool :=
  match labelOf labels source with
  | some label =>
    if labelOf labels target = some label then marks else marks.setIfInBounds label true
  | none => marks

def exits (edges : Array (List Nat)) (labels : Array (Option Nat)) (count : Nat) : Array Bool :=
  edges.toList.zipIdx.foldl (fun marks (targets,source) =>
    targets.foldl (markExit labels source) marks) (Array.replicate count false)

def addNode (labels : Array (Option Nat)) (exits : Array Bool) (node : Nat)
    (groups : Array (List Nat)) : Array (List Nat) :=
  match labelOf labels node with
  | some label => if exits.getD label false then groups else groups.modify label (node :: ·)
  | none => groups

def groups (labels : Array (Option Nat)) (exits : Array Bool) : Array (List Nat) :=
  (List.range labels.size).foldr (addNode labels exits) (Array.replicate exits.size [])

def arrange (groups : Array (List Nat)) : List (List Nat) :=
  (groups.toList.filter (!·.isEmpty)).mergeSort fun first second =>
    first.headD 0 ≤ second.headD 0

-- The terminal components, each in ascending order, ordered by their smallest nodes. There are none to be had when an
-- edge leads out of the graph.
def terminalComponents? (edges : Array (List Nat)) : Option (List (List Nat)) := do
  let left ← leavingOrder edges
  let (labels,count) ← labelAll (reversed edges) (Array.replicate edges.size none) 0 left
  return arrange (groups labels (exits edges labels count))

def terminalComponents (edges : Array (List Nat)) : List (List Nat) :=
  (terminalComponents? edges).getD []

end ParseForest.WaitGraph
