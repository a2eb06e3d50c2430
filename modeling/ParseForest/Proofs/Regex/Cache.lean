import Mathlib
import ParseForest.Regex.Cache

namespace ParseForest.Regex

-- A call on the cache, or past it: validation compiles a pattern and keeps nothing.
inductive Call where
  | validate (pattern : String)
  | compile (pattern : String)
  | test (pattern : String) (c : Char)
  | clear
  deriving DecidableEq

variable [Library]

inductive Answer where
  | verdict (positive : Bool)
  | compiled (found : Option Library.Compiled)
  | cleared

namespace Call

-- The answer of a fresh compilation.
def fresh : Call → Answer
  | .validate pattern => .verdict (isValid pattern)
  | .compile pattern => .compiled (compile? pattern)
  | .test pattern c => .verdict (matchesChar pattern c)
  | .clear => .cleared

-- The pattern that is looked up.
def pattern? : Call → Option String
  | .compile pattern => some pattern
  | .test pattern _ => some pattern
  | _ => none

end Call

namespace Cache

def call (cache : Cache) : Call → Answer × Cache
  | .validate pattern => (.verdict (isValid pattern),cache)
  | .compile pattern => (.compiled (cache.getOrCompile pattern).1,(cache.getOrCompile pattern).2)
  | .test pattern c => (.verdict (cache.matchesChar pattern c).1,(cache.matchesChar pattern c).2)
  | .clear => (.cleared,cache.clear)

def answers (cache : Cache) : List Call → List Answer
  | [] => []
  | call :: rest => (cache.call call).1 :: (cache.call call).2.answers rest

def after (cache : Cache) (calls : List Call) : Cache := calls.foldl (fun cache call => (cache.call call).2) cache

-- The valid patterns that were looked up since the last clearing.
def kept (calls : List Call) : Finset String :=
  ((calls.reverse.takeWhile (· ≠ .clear)).filterMap Call.pattern?).toFinset.filter (isValid · = true)

-- Every pattern of a set has one entry, which holds what compiling the pattern gives.
structure Holds (cache : Cache) (patterns : Finset String) : Prop where
  distinct : (cache.entries.map Prod.fst).Nodup
  listed : ∀ pattern, pattern ∈ cache.entries.map Prod.fst ↔ pattern ∈ patterns
  fresh : ∀ entry ∈ cache.entries, compile? entry.1 = some entry.2

variable {cache : Cache} {patterns : Finset String} {pattern : String}

theorem empty_holds : empty.Holds ∅ := ⟨List.nodup_nil,by simp [empty],nofun⟩

theorem Holds.size_eq (holds : cache.Holds patterns) : cache.size = patterns.card := by
  have members : (cache.entries.map Prod.fst).toFinset = patterns := by
    ext pattern
    rw [List.mem_toFinset,holds.listed]
  rw [← members,List.toFinset_card_of_nodup holds.distinct,List.length_map,size]

theorem Holds.find?_eq (holds : cache.Holds patterns) (pattern : String) :
    cache.find? pattern = if pattern ∈ patterns then compile? pattern else none := by
  unfold find?
  cases found : cache.entries.find? (·.1 == pattern) with
  | none =>
    have unknown : pattern ∉ patterns := by
      intro member
      obtain ⟨entry,stored,same⟩ := List.mem_map.mp ((holds.listed pattern).mpr member)
      exact List.find?_eq_none.mp found entry stored (beq_iff_eq.mpr same)
    rw [if_neg unknown]
    rfl
  | some entry =>
    have stored := List.mem_of_find?_eq_some found
    obtain rfl : entry.1 = pattern := by simpa using List.find?_some found
    rw [if_pos ((holds.listed _).mp (List.mem_map_of_mem stored)),holds.fresh entry stored]
    rfl

-- A pattern is added to a set if it can be compiled.
def noting (patterns : Finset String) (pattern : String) : Finset String :=
  if isValid pattern = true then insert pattern patterns else patterns

-- A pattern that is looked up is answered as if compiled, and kept if that succeeds.
theorem Holds.getOrCompile (holds : cache.Holds patterns) (pattern : String) :
    (cache.getOrCompile pattern).1 = compile? pattern ∧ (cache.getOrCompile pattern).2.Holds (noting patterns pattern) := by
  unfold Cache.getOrCompile noting isValid
  rw [holds.find?_eq]
  by_cases known : pattern ∈ patterns
  · obtain ⟨entry,stored,rfl⟩ := List.mem_map.mp ((holds.listed pattern).mpr known)
    rw [if_pos known,holds.fresh entry stored,Option.isSome_some,if_pos rfl,Finset.insert_eq_of_mem known]
    exact ⟨rfl,holds⟩
  · rw [if_neg known]
    cases found : compile? pattern with
    | none => exact ⟨rfl,holds⟩
    | some compiled =>
      refine ⟨rfl,List.nodup_cons.mpr ⟨fun listed => known ((holds.listed pattern).mp listed),holds.distinct⟩,?_,?_⟩
      · intro other
        rw [List.map_cons,List.mem_cons,holds.listed,Option.isSome_some,if_pos rfl,Finset.mem_insert]
      · exact List.forall_mem_cons.mpr ⟨found,holds.fresh⟩

-- A test is a look-up, and its verdict that of what was found.
theorem matchesChar_eq (cache : Cache) (pattern : String) (c : Char) : cache.matchesChar pattern c =
    (match (cache.getOrCompile pattern).1 with
      | some compiled => Library.matchesChar compiled c
      | none => false,(cache.getOrCompile pattern).2) := by
  unfold Cache.matchesChar
  split
  · rename_i same
    rw [same]
  · rename_i same
    rw [same]

-- What a call makes of the set of patterns.
def keeps (patterns : Finset String) : Call → Finset String
  | .validate _ => patterns
  | .compile pattern => noting patterns pattern
  | .test pattern _ => noting patterns pattern
  | .clear => ∅

theorem Holds.call (holds : cache.Holds patterns) (call : Call) :
    (cache.call call).1 = call.fresh ∧ (cache.call call).2.Holds (keeps patterns call) := by
  cases call with
  | validate pattern => exact ⟨rfl,holds⟩
  | compile pattern =>
    obtain ⟨answer,next⟩ := holds.getOrCompile pattern
    exact ⟨congrArg Answer.compiled answer,next⟩
  | test pattern c =>
    obtain ⟨answer,next⟩ := holds.getOrCompile pattern
    simp only [Cache.call,matchesChar_eq,answer]
    exact ⟨rfl,next⟩
  | clear => exact ⟨rfl,empty_holds⟩

theorem Holds.answers (holds : cache.Holds patterns) (calls : List Call) : cache.answers calls = calls.map Call.fresh := by
  induction calls generalizing cache patterns with
  | nil => rfl
  | cons call rest ih =>
    obtain ⟨answer,next⟩ := holds.call call
    rw [Cache.answers,answer,ih next,List.map_cons]

theorem kept_concat (calls : List Call) (call : Call) : kept (calls ++ [call]) = keeps (kept calls) call := by
  unfold kept
  rw [List.reverse_concat]
  cases call with
  | validate pattern => simp [keeps,List.filterMap_cons,Call.pattern?]
  | compile pattern => simp [keeps,noting,Call.pattern?,Finset.filter_insert]
  | test pattern c => simp [keeps,noting,Call.pattern?,Finset.filter_insert]
  | clear => simp [keeps]

theorem after_holds (calls : List Call) : (empty.after calls).Holds (kept calls) := by
  induction calls using List.reverseRecOn with
  | nil => exact empty_holds
  | append_singleton calls call ih =>
    rw [kept_concat,after,List.foldl_append]
    exact (ih.call call).2

-- The cache cannot be told from its absence but by its size: whatever calls came before, every answer is that of a
-- fresh compilation, and as many entries are kept as valid patterns were looked up since the last clearing.
theorem cache_transparent (before calls : List Call) :
    (empty.after before).answers calls = calls.map Call.fresh ∧
    (∀ pattern, ((empty.after before).getOrCompile pattern).1.isSome = isValid pattern) ∧
    (empty.after before).size = (kept before).card := by
  have holds := after_holds before
  refine ⟨holds.answers calls,?_,holds.size_eq⟩
  intro pattern
  rw [(holds.getOrCompile pattern).1,isValid]

end Cache

end ParseForest.Regex
