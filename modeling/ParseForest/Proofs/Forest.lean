import Mathlib
import ParseForest.Forest.Basic

namespace ParseForest.Forest

variable {table kept : NodeTable} {seen : Std.HashSet Node} {waiting children : List Node} {node root : Node}
  {derivations : List Derivation}

theorem discover_seen : node ∈ (discover table seen waiting children).1 ↔ node ∈ seen ∨ node ∈ children ∧ node ∈ table := by
  fun_induction discover table seen waiting children with
  | case1 seen waiting => simp
  | case2 seen waiting child rest fresh ih =>
    simp only [Bool.and_eq_true,Std.ExtTreeMap.contains_iff_mem] at fresh
    rw [ih,Std.HashSet.mem_insert,beq_iff_eq,List.mem_cons]
    constructor
    · rintro ((rfl | before) | ⟨later,inside⟩)
      · exact .inr ⟨.inl rfl,fresh.1⟩
      · exact .inl before
      · exact .inr ⟨.inr later,inside⟩
    · rintro (before | ⟨rfl | later,inside⟩)
      · exact .inl (.inr before)
      · exact .inl (.inl rfl)
      · exact .inr ⟨later,inside⟩
  | case3 seen waiting child rest known ih =>
    rw [ih,List.mem_cons]
    constructor
    · rintro (before | ⟨later,inside⟩)
      · exact .inl before
      · exact .inr ⟨.inr later,inside⟩
    · rintro (before | ⟨rfl | later,inside⟩)
      · exact .inl before
      · refine .inl ?_
        simpa [inside] using known
      · exact .inr ⟨later,inside⟩

theorem discover_waiting : node ∈ (discover table seen waiting children).2 ↔
    node ∈ waiting ∨ node ∈ children ∧ node ∈ table ∧ node ∉ seen := by
  fun_induction discover table seen waiting children with
  | case1 seen waiting => simp
  | case2 seen waiting child rest fresh ih =>
    simp only [Bool.and_eq_true,Std.ExtTreeMap.contains_iff_mem,Bool.not_eq_true',Std.HashSet.contains_eq_false_iff_not_mem] at fresh
    rw [ih,Std.HashSet.mem_insert,beq_iff_eq,List.mem_cons,List.mem_cons]
    by_cases same : node = child
    · subst same
      simp [fresh]
    · simp [same,Ne.symm same]
  | case3 seen waiting child rest known ih =>
    rw [ih,List.mem_cons]
    by_cases same : node = child
    · subst same
      simp only [Bool.and_eq_true,Std.ExtTreeMap.contains_iff_mem,Bool.not_eq_true',Std.HashSet.contains_eq_false_iff_not_mem] at known
      tauto
    · simp [same]

theorem discover_nodup (nodup : waiting.Nodup) (known : ∀ node ∈ waiting, node ∈ seen) :
    (discover table seen waiting children).2.Nodup := by
  fun_induction discover table seen waiting children with
  | case1 seen waiting => exact nodup
  | case2 seen waiting child rest fresh ih =>
    simp only [Bool.and_eq_true,Bool.not_eq_true',Std.HashSet.contains_eq_false_iff_not_mem] at fresh
    apply ih (List.nodup_cons.mpr ⟨fun member => fresh.2 (known child member),nodup⟩)
    intro node member
    rw [Std.HashSet.mem_insert,beq_iff_eq]
    rcases List.mem_cons.mp member with rfl | before
    · exact .inl rfl
    · exact .inr (known node before)
  | case3 seen waiting child rest old ih => exact ih nodup known

-- Between visits: what has been seen is kept or waits, each node once, and whatever the table has of
-- the children of a kept node has been seen.
structure Exploring (table : NodeTable) (seen : Std.HashSet Node) (waiting : List Node) (kept : NodeTable) : Prop where
  covered : ∀ node, node ∈ seen ↔ node ∈ kept ∨ node ∈ waiting
  fresh : ∀ node ∈ waiting, node ∉ kept
  nodup : waiting.Nodup
  inside : ∀ node ∈ seen, node ∈ table
  closed : ∀ node ∈ kept, ∀ derivation ∈ table.getD node [], ∀ child ∈ derivation.children, child ∈ table → child ∈ seen

theorem Exploring.start (present : root ∈ table) : Exploring table (Std.HashSet.ofList [root]) [root] {} := by
  refine ⟨?_,?_,List.nodup_singleton _,?_,?_⟩
  · intro node
    simp only [Std.HashSet.mem_ofList,List.contains_iff_mem,Std.ExtTreeMap.not_mem_empty,false_or]
  · intro node _
    exact Std.ExtTreeMap.not_mem_empty
  · intro node member
    rw [Std.HashSet.mem_ofList,List.contains_iff_mem,List.mem_singleton] at member
    rwa [member]
  · intro node absent
    simp at absent

theorem Exploring.visit (exploring : Exploring table seen (node :: waiting) kept) (children : List Node)
    (all : children = (table.getD node []).flatMap Derivation.children) :
    Exploring table (discover table seen waiting children).1 (discover table seen waiting children).2
      (kept.insert node (table.getD node [])) := by
  obtain ⟨absent,distinct⟩ := List.nodup_cons.mp exploring.nodup
  have known : ∀ other ∈ waiting, other ∈ seen :=
    fun other member => (exploring.covered other).mpr (.inr (List.mem_cons_of_mem _ member))
  have kept_iff : ∀ other, other ∈ kept.insert node (table.getD node []) ↔ other = node ∨ other ∈ kept := by
    intro other
    rw [Std.ExtTreeMap.mem_insert,Std.LawfulEqCmp.compare_eq_iff_eq,@eq_comm _ node]
  constructor
  case covered =>
    intro other
    have old : other ∈ seen ↔ other ∈ kept ∨ other = node ∨ other ∈ waiting := by
      rw [exploring.covered,List.mem_cons]
    rw [discover_seen,discover_waiting,kept_iff,old]
    tauto
  case fresh =>
    intro other member
    rw [kept_iff]
    rcases discover_waiting.mp member with before | ⟨_,_,unseen⟩
    · rintro (rfl | old)
      · exact absent before
      · exact exploring.fresh other (List.mem_cons_of_mem _ before) old
    · rintro (rfl | old)
      · exact unseen ((exploring.covered other).mpr (.inr List.mem_cons_self))
      · exact unseen ((exploring.covered other).mpr (.inl old))
  case nodup => exact discover_nodup distinct known
  case inside =>
    intro other member
    rcases discover_seen.mp member with before | ⟨_,present⟩
    · exact exploring.inside other before
    · exact present
  case closed =>
    intro other member derivation listed child part present
    rw [discover_seen]
    rcases (kept_iff other).mp member with rfl | before
    · refine .inr ⟨?_,present⟩
      rw [all]
      exact List.mem_flatMap.mpr ⟨derivation,listed,part⟩
    · exact .inl (exploring.closed other before derivation listed child part present)

theorem Exploring.room (exploring : Exploring table seen waiting kept) : kept.size + waiting.length ≤ table.size := by
  rw [← Std.ExtTreeMap.length_keys,← Std.ExtTreeMap.length_keys,← List.length_append]
  apply List.Nodup.length_le_of_subset
  · refine List.nodup_append.mpr ⟨Std.ExtTreeMap.nodup_keys,exploring.nodup,?_⟩
    rintro one first two second rfl
    exact exploring.fresh one second (Std.ExtTreeMap.mem_keys.mp first)
  · intro node member
    apply Std.ExtTreeMap.mem_keys.mpr
    apply exploring.inside
    rw [exploring.covered]
    exact (List.mem_append.mp member).imp_left Std.ExtTreeMap.mem_keys.mp

theorem Exploring.perm {others : List Node} (exploring : Exploring table seen waiting kept)
    (permuted : waiting.Perm others) : Exploring table seen others kept := by
  obtain ⟨covered,fresh,nodup,inside,closed⟩ := exploring
  refine ⟨?_,?_,permuted.nodup_iff.mp nodup,inside,closed⟩
  · intro node
    rw [covered,permuted.mem_iff]
  · intro node member
    exact fresh node (permuted.mem_iff.mpr member)

theorem Exploring.nothing : Exploring table {} [] {} := by
  constructor
  case nodup => exact List.nodup_nil
  all_goals simp

-- A node refers to the children of its derivations, as far as the table has them.
def Refers (table : NodeTable) (node child : Node) : Prop :=
  child ∈ table ∧ ∃ derivations, table[node]? = some derivations ∧ ∃ derivation ∈ derivations, child ∈ derivation.children

-- A path from the root with all its nodes in the table.
def Reaches (table : NodeTable) (root node : Node) : Prop :=
  root ∈ table ∧ Relation.ReflTransGen (Refers table) root node

theorem Reaches.present (reaches : Reaches table root node) : node ∈ table := by
  obtain ⟨rooted,path⟩ := reaches
  cases path with
  | refl => exact rooted
  | tail _ refers => exact refers.1

-- A search between two visits, without a bound on their number.
structure Search where
  seen : Std.HashSet Node
  waiting : List Node
  kept : NodeTable

namespace Search

-- At first the root waits, if the table has it.
def start (table : NodeTable) (root : Node) : Search :=
  if table.contains root then ⟨.ofList [root],[root],{}⟩ else ⟨{},[],{}⟩

-- What the visit to a node leaves, where the others still wait.
def after (table : NodeTable) (search : Search) (node : Node) (others : List Node) : Search :=
  let found := discover table search.seen others ((table.getD node []).flatMap Derivation.children)
  ⟨found.1,found.2,search.kept.insert node (table.getD node [])⟩

end Search

-- A visit to any one of the nodes that wait.
inductive Visit (table : NodeTable) : Search → Search → Prop where
  | visit {search : Search} (before behind : List Node) (node : Node) (queued : search.waiting = before ++ node :: behind) :
      Visit table search (search.after table node (before ++ behind))

variable {search next : Search}

theorem no_visit_iff : (∀ next, ¬Visit table search next) ↔ search.waiting = [] := by
  constructor
  · intro last
    cases queued : search.waiting with
    | nil => rfl
    | cons node rest => exact absurd (.visit [] rest node queued) (last _)
  · intro none_left next visit
    cases visit with
    | visit before behind node queued => simp [none_left] at queued

section Termination

def unseen (table : NodeTable) (seen : Std.HashSet Node) : Finset Node := table.keys.toFinset.filter (· ∉ seen)

theorem unseen_insert : unseen table (seen.insert node) = (unseen table seen).erase node := by
  ext other
  simp only [unseen,Finset.mem_filter,Finset.mem_erase,Std.HashSet.mem_insert,beq_iff_eq,not_or,@eq_comm _ node]
  tauto

-- A node that is discovered is no longer unseen and waits from then on.
theorem discover_balance : (unseen table (discover table seen waiting children).1).card + (discover table seen waiting children).2.length =
    (unseen table seen).card + waiting.length := by
  fun_induction discover table seen waiting children with
  | case1 seen waiting => rfl
  | case2 seen waiting child rest fresh ih =>
    simp only [Bool.and_eq_true,Std.ExtTreeMap.contains_iff_mem,Bool.not_eq_true',Std.HashSet.contains_eq_false_iff_not_mem] at fresh
    have listed : child ∈ unseen table seen := by simpa [unseen] using fresh
    have count := Finset.card_erase_add_one listed
    rw [ih,unseen_insert,List.length_cons]
    omega
  | case3 seen waiting child rest known ih => exact ih

def Search.ahead (table : NodeTable) (search : Search) : Nat := (unseen table search.seen).card + search.waiting.length

theorem Visit.ahead_lt (visit : Visit table search next) : next.ahead table < search.ahead table := by
  cases visit with
  | visit before behind node queued =>
    have balance := @discover_balance table search.seen (before ++ behind) ((table.getD node []).flatMap Derivation.children)
    change (unseen table (discover table _ _ _).1).card + (discover table _ _ _).2.length < _ + search.waiting.length
    rw [balance,queued]
    simp only [List.length_append,List.length_cons]
    omega

theorem no_endless_search {run : Nat → Search} (visits : ∀ index, Visit table (run index) (run (index+1))) : False := by
  obtain ⟨index,stays⟩ := WellFounded.not_rel_apply_succ (r := (· < ·)) fun index => (run index).ahead table
  exact stays (visits index).ahead_lt

end Termination

-- What holds between two visits: all that was seen is reached, the root first, and nodes are kept as they are.
structure Search.Sound (table : NodeTable) (root : Node) (search : Search) : Prop where
  exploring : Exploring table search.seen search.waiting search.kept
  rooted : root ∈ table → root ∈ search.seen
  reached : ∀ node ∈ search.seen, Reaches table root node
  copied : ∀ (node : Node) derivations, search.kept[node]? = some derivations → table[node]? = some derivations

theorem start_sound : (Search.start table root).Sound table root := by
  unfold Search.start
  split
  · rename_i present
    have rooted := Std.ExtTreeMap.contains_iff_mem.mp present
    refine ⟨.start rooted,fun _ => by simp,?_,by simp⟩
    intro node member
    have same : root = node := by simpa using member
    exact same ▸ ⟨rooted,.refl⟩
  · rename_i absent
    refine ⟨.nothing,fun present => absurd (Std.ExtTreeMap.contains_iff_mem.mpr present) absent,by simp,by simp⟩

theorem Visit.sound (visit : Visit table search next) (sound : search.Sound table root) : next.Sound table root := by
  cases visit with
  | visit before behind node queued =>
    obtain ⟨exploring,rooted,reached,copied⟩ := sound
    have known : node ∈ search.seen := (exploring.covered node).mpr (.inr (by simp [queued]))
    obtain ⟨derivations,found⟩ := Option.isSome_iff_exists.mp
      (Std.ExtTreeMap.isSome_getElem?_iff_mem.mpr (exploring.inside node known))
    have listed : table.getD node [] = derivations := by rw [Std.ExtTreeMap.getD_eq_getD_getElem?,found,Option.getD_some]
    constructor
    case exploring => exact (exploring.perm (queued ▸ List.perm_middle)).visit _ rfl
    case rooted => exact fun present => discover_seen.mpr (.inl (rooted present))
    case reached =>
      intro child member
      rcases discover_seen.mp member with before | ⟨part,present⟩
      · exact reached child before
      · rw [listed] at part
        obtain ⟨derivation,recorded,inside⟩ := List.mem_flatMap.mp part
        obtain ⟨start,path⟩ := reached node known
        exact ⟨start,path.tail ⟨present,derivations,found,derivation,recorded,inside⟩⟩
    case copied =>
      intro other recorded present
      change (search.kept.insert node (table.getD node []))[other]? = some recorded at present
      rw [Std.ExtTreeMap.getElem?_insert,listed] at present
      split at present
      · rename_i same
        cases Std.LawfulEqOrd.eq_of_compare same
        exact Option.some.inj present ▸ found
      · exact copied other recorded present

theorem visits_sound (visits : Relation.ReflTransGen (Visit table) search next) (sound : search.Sound table root) :
    next.Sound table root := by
  induction visits with
  | refl => exact sound
  | tail _ visit ih => exact visit.sound ih

-- When none is left waiting, what has been kept is what the root reaches.
theorem Search.Sound.exact (sound : search.Sound table root) (none_left : search.waiting = []) :
    search.kept[node]? = some derivations ↔ Reaches table root node ∧ table[node]? = some derivations := by
  obtain ⟨exploring,rooted,reached,copied⟩ := sound
  have kept_iff : ∀ node, node ∈ search.kept ↔ node ∈ search.seen := by
    intro node
    rw [exploring.covered,none_left]
    simp
  constructor
  · intro found
    have present := Std.ExtTreeMap.isSome_getElem?_iff_mem.mp (Option.isSome_of_eq_some found)
    exact ⟨reached node ((kept_iff node).mp present),copied node derivations found⟩
  · rintro ⟨⟨start,path⟩,found⟩
    have present : node ∈ search.kept := by
      induction path generalizing derivations with
      | refl => exact (kept_iff root).mpr (rooted start)
      | tail _ refers ih =>
        obtain ⟨inside,recorded,listed,derivation,member,part⟩ := refers
        apply (kept_iff _).mpr
        refine exploring.closed _ (ih listed) derivation ?_ _ part inside
        rwa [Std.ExtTreeMap.getD_eq_getD_getElem?,listed]
    obtain ⟨recorded,listed⟩ := Option.isSome_iff_exists.mp (Std.ExtTreeMap.isSome_getElem?_iff_mem.mpr present)
    cases (copied node recorded listed).symm.trans found
    exact listed

-- With a visit for every node of the table the bounded search is one that has come to its end.
theorem explore_visits {visits : Nat} (exploring : Exploring table seen waiting kept)
    (enough : table.size ≤ kept.size + visits) : ∃ search : Search,
      Relation.ReflTransGen (Visit table) ⟨seen,waiting,kept⟩ search ∧ search.waiting = [] ∧
        search.kept = explore table visits seen waiting kept := by
  fun_induction explore table visits seen waiting kept with
  | case1 seen waiting kept =>
    have room := exploring.room
    have none_left : waiting = [] := List.length_eq_zero_iff.mp (by omega)
    exact ⟨_,.refl,none_left,rfl⟩
  | case2 seen kept visits => exact ⟨_,.refl,rfl,rfl⟩
  | case3 visits seen first waiting kept shown later others result ih =>
    have visited := exploring.visit _ rfl
    rw [result] at visited
    have fresh : kept.contains first = false := by
      rw [Bool.eq_false_iff,Ne,Std.ExtTreeMap.contains_iff_mem]
      exact exploring.fresh first List.mem_cons_self
    have room : table.size ≤ (kept.insert first shown).size + visits := by
      rw [Std.ExtTreeMap.size_insert,fresh]
      simp only [Bool.false_eq_true,if_false]
      omega
    obtain ⟨search,path,ended⟩ := ih visited room
    refine ⟨search,.head ?_ path,ended⟩
    have visit : Visit table ⟨seen,first :: waiting,kept⟩ _ := .visit [] waiting first rfl
    simp only [Search.after,List.nil_append,shown,result] at visit ⊢
    exact visit

theorem pruned_visits (root : Node) (table : NodeTable) : ∃ search : Search,
    Relation.ReflTransGen (Visit table) (.start table root) search ∧ search.waiting = [] ∧ search.kept = (pruned root table).nodes := by
  unfold Search.start pruned
  split
  · rename_i present
    exact explore_visits (.start (Std.ExtTreeMap.contains_iff_mem.mp present)) (Nat.le_add_left _ _)
  · exact ⟨_,.refl,rfl,rfl⟩

theorem pruned_iff : (pruned root table).derivations? node = some derivations ↔
    Reaches table root node ∧ table[node]? = some derivations := by
  obtain ⟨search,visits,none_left,kept⟩ := pruned_visits root table
  have found := @Search.Sound.exact table node root derivations search (visits_sound visits start_sound) none_left
  rwa [kept] at found

theorem contains_iff {forest : Forest} : forest.contains node = true ↔ ∃ derivations, forest.derivations? node = some derivations := by
  rw [contains,Std.ExtTreeMap.contains_iff_mem,← Std.ExtTreeMap.isSome_getElem?_iff_mem,Option.isSome_iff_exists]
  rfl

theorem pruned_contains : (pruned root table).contains node = true ↔ Reaches table root node := by
  rw [contains_iff]
  constructor
  · rintro ⟨derivations,found⟩
    exact (pruned_iff.mp found).1
  · intro reaches
    obtain ⟨derivations,found⟩ := Option.isSome_iff_exists.mp (Std.ExtTreeMap.isSome_getElem?_iff_mem.mpr reaches.present)
    exact ⟨derivations,pruned_iff.mpr ⟨reaches,found⟩⟩

theorem pruned_sub (found : (pruned root table).derivations? node = some derivations) : table[node]? = some derivations :=
  (pruned_iff.mp found).2

theorem pruned_closed (found : (pruned root table).derivations? node = some derivations) {derivation : Derivation} {child : Node}
    (listed : derivation ∈ derivations) (part : child ∈ derivation.children) (present : child ∈ table) :
    (pruned root table).contains child = true := by
  obtain ⟨⟨rooted,path⟩,there⟩ := pruned_iff.mp found
  exact pruned_contains.mpr ⟨rooted,path.tail ⟨present,derivations,there,derivation,listed,part⟩⟩

theorem pruned_root : (pruned root table).contains root = true ↔ root ∈ table :=
  pruned_contains.trans ⟨Reaches.present,fun present => ⟨present,.refl⟩⟩

theorem pruned_isEmpty : (pruned root table).isEmpty = false ↔ root ∈ table := by
  constructor
  · intro some_node
    by_contra absent
    simp [pruned,isEmpty,absent] at some_node
  · intro present
    have kept := Std.ExtTreeMap.contains_iff_mem.mp (pruned_root.mpr present)
    exact Std.ExtTreeMap.isEmpty_eq_false_iff.mpr (Std.ExtTreeMap.ne_empty_of_mem kept)

-- The search for what the root reaches ends in whatever order the nodes are visited, and it always ends with the
-- same forest: the nodes that the root reaches through nodes of the table, each with its derivations as they were.
theorem pruned_exact (root : Node) (table : NodeTable) :
    (¬∃ run : Nat → Search, ∀ index, Visit table (run index) (run (index+1))) ∧
    (∀ search, Relation.ReflTransGen (Visit table) (.start table root) search → (∀ next, ¬Visit table search next) →
      search.kept = (pruned root table).nodes) ∧
    (∀ node, (pruned root table).contains node = true ↔ node ∈ table ∧ Reaches table root node) ∧
    (∀ node, (pruned root table).contains node = true → (pruned root table).derivations? node = table[node]?) ∧
    ((pruned root table).isEmpty = true ↔ root ∉ table) := by
  refine ⟨fun ⟨run,visits⟩ => no_endless_search visits,?_,?_,?_,?_⟩
  · intro search visits last
    apply Std.ExtTreeMap.ext_getElem?
    intro node
    apply Option.ext
    intro derivations
    have sound := visits_sound visits start_sound
    exact (sound.exact (no_visit_iff.mp last)).trans pruned_iff.symm
  · intro node
    rw [pruned_contains]
    exact ⟨fun reaches => ⟨reaches.present,reaches⟩,And.right⟩
  · intro node kept
    obtain ⟨derivations,found⟩ := contains_iff.mp kept
    rw [found,(pruned_iff.mp found).2]
  · rw [← not_iff_not,Bool.not_eq_true,not_not]
    exact pruned_isEmpty

end ParseForest.Forest
