import Mathlib
import ParseForest.Forest.Json
import ParseForest.Proofs.RoundTrip
import ParseForest.Proofs.Soundness

namespace ParseForest

open Json

-- Positions and lengths of a stored forest have 64 bits, and symbols have 32.
structure Goal.Fits (goal : Goal) : Prop where
  position : goal.position < Limits.sizes
  symbol : goal.symbol < Limits.identifiers

structure Node.Fits (node : Node) : Prop where
  goal : node.goal.Fits
  length : node.length < Limits.sizes

structure Derivation.Fits (derivation : Derivation) : Prop where
  node : derivation.node.Fits
  children : ∀ child ∈ derivation.children, child.Fits

-- A record of a stored forest: a node and the derivations that are listed for it, whatever nodes these name.
structure Forest.RecordFits (record : Node × List Derivation) : Prop where
  node : record.1.Fits
  derivations : ∀ derivation ∈ record.2, derivation.Fits

structure Forest.Fits (forest : Forest) : Prop where
  root : forest.root.Fits
  records : ∀ record ∈ forest.entries, Forest.RecordFits record

section Written

theorem size_written {value : Nat} (fits : value < Limits.sizes) : size? (.natural value) = some value := if_pos fits

theorem Goal.toJson_plain (goal : Goal) : goal.toJson.Plain := record_plain ⟨.natural _,.natural _⟩

theorem Goal.ofJson_toJson {goal : Goal} (fits : goal.Fits) : Goal.ofJson? goal.toJson = some goal := by
  change (do return (⟨← size? (.natural goal.position),← identifier? (.natural goal.symbol)⟩ : Goal)) = some goal
  rw [size_written fits.position,identifier_written fits.symbol]
  rfl

theorem Node.toJson_plain (node : Node) : node.toJson.Plain := record_plain ⟨node.goal.toJson_plain,.natural _⟩

theorem Node.ofJson_toJson {node : Node} (fits : node.Fits) : Node.ofJson? node.toJson = some node := by
  change (do return (⟨← Goal.ofJson? node.goal.toJson,← size? (.natural node.length)⟩ : Node)) = some node
  rw [Goal.ofJson_toJson fits.goal,size_written fits.length]
  rfl

theorem Derivation.toJson_plain (derivation : Derivation) : derivation.toJson.Plain :=
  record_plain ⟨derivation.node.toJson_plain,plain_list fun child _ => child.toJson_plain⟩

theorem Derivation.ofJson_toJson {derivation : Derivation} (fits : derivation.Fits) :
    Derivation.ofJson? derivation.toJson = some derivation := by
  change (do return (⟨← Node.ofJson? derivation.node.toJson,
    ← Value.list? Node.ofJson? (.array (derivation.children.map Node.toJson))⟩ : Derivation)) = some derivation
  rw [Node.ofJson_toJson fits.node,list_written fun child member => Node.ofJson_toJson (fits.children child member)]
  rfl

namespace Forest

theorem entryToJson_plain (record : Node × List Derivation) : (entryToJson record).Plain :=
  record_plain ⟨record.1.toJson_plain,plain_list fun derivation _ => derivation.toJson_plain⟩

theorem entryOfJson_entryToJson {record : Node × List Derivation} (fits : RecordFits record) :
    entryOfJson? (entryToJson record) = some record := by
  change (do return (← Node.ofJson? record.1.toJson,
    ← Value.list? Derivation.ofJson? (.array (record.2.map Derivation.toJson)))) = some record
  rw [Node.ofJson_toJson fits.node,list_written fun derivation member => Derivation.ofJson_toJson (fits.derivations derivation member)]
  rfl

-- Records as they are stored, in any order and perhaps several for one node.
def recordsToJson (root : Node) (records : List (Node × List Derivation)) : Value :=
  .object [("root",root.toJson),("nodes",.array (records.map entryToJson))]

theorem toJson_eq (forest : Forest) : forest.toJson = recordsToJson forest.root forest.entries := rfl

variable {root : Node} {records : List (Node × List Derivation)}

theorem recordsToJson_plain (root : Node) (records : List (Node × List Derivation)) : (recordsToJson root records).Plain :=
  record_plain ⟨root.toJson_plain,plain_list fun record _ => entryToJson_plain record⟩

theorem parse_records (rooted : root.Fits) (fits : ∀ record ∈ records, RecordFits record) :
    Forest.parse? (recordsToJson root records).render = some ⟨root,.ofList records⟩ := by
  have read : Value.list? entryOfJson? (.array (records.map entryToJson)) = some records :=
    list_written fun record member => entryOfJson_entryToJson (fits record member)
  rw [Forest.parse?,(recordsToJson_plain root records).parse_render]
  change (do return (⟨← Node.ofJson? root.toJson,.ofList (← Value.list? entryOfJson? _)⟩ : Forest)) = _
  rw [Node.ofJson_toJson rooted,read]
  rfl

end Forest

end Written

section Listed

-- The order of nodes in plain terms: by position, then by symbol, then by length.
def Node.Before (one two : Node) : Prop :=
  one.position < two.position ∨ one.position = two.position ∧
    (one.symbol < two.symbol ∨ one.symbol = two.symbol ∧ one.length < two.length)

theorem Node.before_of_compare {one two : Node} (less : compare one two = .lt) : one.Before two := by
  rcases Ordering.then_eq_lt.mp less with goal | ⟨same,length⟩
  · rcases Ordering.then_eq_lt.mp goal with position | ⟨level,symbol⟩
    · exact .inl (Nat.compare_eq_lt.mp position)
    · exact .inr ⟨Nat.compare_eq_eq.mp level,.inl (Nat.compare_eq_lt.mp symbol)⟩
  · have goals : one.goal = two.goal := Std.LawfulEqOrd.eq_of_compare same
    exact .inr ⟨congrArg Goal.position goals,.inr ⟨congrArg Goal.symbol goals,Nat.compare_eq_lt.mp length⟩⟩

namespace Forest

variable {forest : Forest} {node : Node} {derivations : List Derivation} {records : List (Node × List Derivation)}

theorem entries_ascending (forest : Forest) : forest.entries.Pairwise fun one two => one.1.Before two.1 :=
  Std.ExtTreeMap.ordered_keys_toList.imp Node.before_of_compare

theorem mem_entries : (node,derivations) ∈ forest.entries ↔ forest.derivations? node = some derivations :=
  Std.ExtTreeMap.mem_toList_iff_getElem?_eq_some

-- Of several records for one node the last counts.
theorem ofList_getElem? (records : List (Node × List Derivation)) (node : Node) :
    (Std.ExtTreeMap.ofList records : NodeTable)[node]? = records.reverse.lookup node := by
  induction records using List.reverseRecOn with
  | nil => rfl
  | append_singleton records record ih =>
    obtain ⟨other,derivations⟩ := record
    rw [Std.ExtTreeMap.ofList_eq_insertMany_empty] at ih ⊢
    rw [Std.ExtTreeMap.insertMany_append,Std.ExtTreeMap.insertMany_list_singleton,Std.ExtTreeMap.getElem?_insert,ih,
      List.reverse_append,List.reverse_singleton,List.singleton_append,List.lookup_cons]
    by_cases same : other = node
    · simp [same]
    · have apart : (node == other) = false := beq_eq_false_iff_ne.mpr (Ne.symm same)
      simp [same,apart]

-- Entries are in order, so none is lost when they are put back into a table.
theorem ofList_entries (forest : Forest) : Std.ExtTreeMap.ofList forest.entries = forest.nodes := by
  apply Std.ExtTreeMap.ext_getElem?
  intro node
  cases found : forest.nodes[node]? with
  | some derivations =>
    have distinct : forest.entries.Pairwise fun one two => ¬compare one.1 two.1 = .eq :=
      Std.ExtTreeMap.ordered_keys_toList.imp fun less same => by simp [less] at same
    exact Std.ExtTreeMap.getElem?_ofList_of_mem Std.ReflCmp.compare_self distinct (mem_entries.mpr found)
  | none =>
    rw [ofList_getElem?,List.lookup_eq_none_iff]
    rintro ⟨other,derivations⟩ member
    have listed := mem_entries.mp (List.mem_reverse.mp member)
    rw [bne_iff_ne]
    rintro rfl
    cases listed.symm.trans found

end Forest

end Listed

section Read

variable {value : Value}

theorem Goal.fits_read {goal : Goal} (accepted : Goal.ofJson? value = some goal) : goal.Fits := by
  obtain ⟨fields,_,rest⟩ := Option.bind_eq_some_iff.mp accepted
  split at rest
  · obtain ⟨position,placed,more⟩ := Option.bind_eq_some_iff.mp rest
    obtain ⟨symbol,known,same⟩ := Option.bind_eq_some_iff.mp more
    cases same
    exact ⟨natural_read placed,natural_read known⟩
  · cases rest

theorem Node.fits_read {node : Node} (accepted : Node.ofJson? value = some node) : node.Fits := by
  obtain ⟨fields,_,rest⟩ := Option.bind_eq_some_iff.mp accepted
  split at rest
  · obtain ⟨goal,asked,more⟩ := Option.bind_eq_some_iff.mp rest
    obtain ⟨length,measured,same⟩ := Option.bind_eq_some_iff.mp more
    cases same
    exact ⟨Goal.fits_read asked,natural_read measured⟩
  · cases rest

theorem Derivation.fits_read {derivation : Derivation} (accepted : Derivation.ofJson? value = some derivation) : derivation.Fits := by
  obtain ⟨fields,_,rest⟩ := Option.bind_eq_some_iff.mp accepted
  split at rest
  · obtain ⟨node,named,more⟩ := Option.bind_eq_some_iff.mp rest
    obtain ⟨children,listed,same⟩ := Option.bind_eq_some_iff.mp more
    cases same
    refine ⟨Node.fits_read named,?_⟩
    intro child member
    obtain ⟨part,read⟩ := list_read listed member
    exact Node.fits_read read
  · cases rest

namespace Forest

theorem record_fits_read {record : Node × List Derivation} (accepted : entryOfJson? value = some record) : RecordFits record := by
  obtain ⟨fields,_,rest⟩ := Option.bind_eq_some_iff.mp accepted
  split at rest
  · obtain ⟨node,named,more⟩ := Option.bind_eq_some_iff.mp rest
    obtain ⟨derivations,listed,same⟩ := Option.bind_eq_some_iff.mp more
    cases same
    refine ⟨Node.fits_read named,?_⟩
    intro derivation member
    obtain ⟨part,read⟩ := list_read listed member
    exact Derivation.fits_read read
  · cases rest

-- A value gives a root and records, the records in the order in which they stand there.
def Lists (value : Value) (root : Node) (records : List (Node × List Derivation)) : Prop :=
  ∃ first second, value.record? ["root","nodes"] = some [first,second] ∧ Node.ofJson? first = some root ∧
    second.list? entryOfJson? = some records

theorem parse_lists {text : String} {forest : Forest} (accepted : Forest.parse? text = some forest) :
    ∃ value records, Value.parse? text = some value ∧ Lists value forest.root records ∧ forest.nodes = .ofList records := by
  obtain ⟨value,parsed,decoded⟩ := Option.bind_eq_some_iff.mp accepted
  obtain ⟨fields,given,rest⟩ := Option.bind_eq_some_iff.mp decoded
  split at rest
  · obtain ⟨root,named,more⟩ := Option.bind_eq_some_iff.mp rest
    obtain ⟨records,listed,same⟩ := Option.bind_eq_some_iff.mp more
    cases same
    exact ⟨value,records,parsed,⟨_,_,given,named,listed⟩,rfl⟩
  · cases rest

theorem fits_read {text : String} {forest : Forest} (accepted : Forest.parse? text = some forest) : forest.Fits := by
  obtain ⟨value,records,_,⟨first,second,_,named,listed⟩,same⟩ := parse_lists accepted
  refine ⟨Node.fits_read named,?_⟩
  rintro ⟨node,derivations⟩ member
  have found := mem_entries.mp member
  rw [derivations?,same,ofList_getElem?,List.lookup_eq_some_iff] at found
  obtain ⟨before,behind,parts,_⟩ := found
  have recorded : (node,derivations) ∈ records := List.mem_reverse.mp (by simp [parts])
  obtain ⟨part,read⟩ := list_read listed recorded
  exact record_fits_read read

end Forest

end Read

open Session

section Parsed

variable {problem : Problem} {s : State} {node : Node}

-- Whatever is asked for is the root or stands on an edge, so its symbol has 32 bits.
theorem Session.Chart.asked_symbol [Regex.Library] {chart : Chart} (reached : Chart.Reached problem chart)
    (fits : ∀ symbol ∈ problem.grammar.symbols, symbol.Fits) (root : problem.root.symbol < Limits.identifiers) :
    ∀ goal ∈ chart.asked, goal.symbol < Limits.identifiers := by
  induction reached with
  | empty => exact fun _ member => member.elim
  | event _ event ih =>
    cases event with
    | ask goal fresh wanted =>
      intro other member
      rcases Set.mem_insert_iff.mp member with rfl | before
      · rcases wanted with rfl | ⟨place,_,wanted⟩
        · exact root
        · obtain ⟨owner,stored,production,kind,known⟩ := Grammar.outgoing_edge (Place.mem_site.mp wanted).2
          exact (fits owner stored production kind).symbols _ known
      · exact ih other before
    | begin => exact ih
    | finish => exact ih
    | settle => exact ih
  | round _ _ ih => exact ih

namespace Session.Complete

variable [Regex.Library]

variable (valid : problem.Valid) (complete : Complete problem s) (held : problem.text.length < Limits.sizes)
  (fits : ∀ symbol ∈ problem.grammar.symbols, symbol.Fits) (root : problem.root.symbol < Limits.identifiers)

include valid complete held fits root

theorem published_fits (published : node ∈ s.chart.published node.goal) : node.Fits := by
  have reached := complete.reached valid
  have asked := (Chart.reached_owned reached).published_asked published
  have within := Chart.reached_within valid reached
  have place := (Chart.mem_goals.mp (within.asked _ asked)).1.2
  have stop := within.published _ _ published
  rw [Node.stop] at stop
  exact ⟨⟨by omega,Chart.asked_symbol reached fits root _ asked⟩,by omega⟩

theorem forest_fits : (s.outcome problem).forest.Fits := by
  have reached := complete.reached valid
  constructor
  · have stop := valid.stop
    rw [Node.stop] at stop
    change problem.root.Fits
    exact ⟨⟨by omega,root⟩,by omega⟩
  · rintro ⟨node,derivations⟩ member
    have listed := Forest.mem_entries.mp member
    have published := (complete.listed_iff valid listed).1
    refine ⟨complete.published_fits valid held fits root published,?_⟩
    intro derivation recorded
    obtain ⟨known,rfl⟩ := (complete.mem_listed valid listed).mp recorded
    refine ⟨complete.published_fits valid held fits root published,?_⟩
    intro child part
    exact complete.published_fits valid held fits root (Chart.recorded_published reached known child part)

end Session.Complete

end Parsed

-- The forests that can be had: by a parse, or by reading a text.
inductive Forest.Had [Regex.Library] : Forest → Prop where
  | parsed {engine : Engine} {document : Text.Document} {root : SymbolId} {range : Option (Nat × Nat)} {outcome : Outcome}
      (wellFormed : engine.grammar.WellFormed) (fits : ∀ symbol ∈ engine.grammar.symbols, symbol.Fits)
      (small : root < Limits.identifiers) (held : document.length < Limits.sizes)
      (parsed : engine.parse document root range = .ok outcome) : Forest.Had outcome.forest
  | read {text : String} {forest : Forest} (accepted : Forest.parse? text = some forest) : Forest.Had forest

theorem Forest.Had.fits [Regex.Library] {forest : Forest} (had : forest.Had) : forest.Fits := by
  cases had with
  | @parsed engine document root range outcome wellFormed fits small held parsed =>
    obtain ⟨problem,accepted,ran⟩ := bind_ok.mp parsed
    have valid := Engine.problem_valid wellFormed accepted
    obtain ⟨grammar,_,start,length,_,_,text,node⟩ := Engine.problem_ok accepted
    cases ran
    refine (run_complete valid).forest_fits valid ?_ (grammar ▸ fits) (by rw [node]; exact small)
    rw [text,List.length_take]
    exact Nat.lt_of_le_of_lt (Nat.min_le_right _ _) held
  | read accepted => exact Forest.fits_read accepted

-- A forest is read back as it was written, with the derivations of every node in their order. It is written with
-- every node once, in ascending order. Of several records for one node, reading keeps the last.
theorem forest_round_trip [Regex.Library] {forest : Forest} (had : forest.Had) :
    Forest.parse? forest.render = some forest ∧
    (∃ records, Value.parse? forest.render = some (Forest.recordsToJson forest.root records) ∧
      (records.Pairwise fun one two => one.1.Before two.1) ∧
      ∀ node derivations, (node,derivations) ∈ records ↔ forest.derivations? node = some derivations) ∧
    ∀ text read, Forest.parse? text = some read → ∃ value records, Value.parse? text = some value ∧
      Forest.Lists value read.root records ∧ ∀ node, read.derivations? node = records.reverse.lookup node := by
  have fits := had.fits
  refine ⟨?_,⟨forest.entries,?_,forest.entries_ascending,fun _ _ => Forest.mem_entries⟩,?_⟩
  · rw [Forest.render,Forest.toJson_eq,Forest.parse_records fits.root fits.records,Forest.ofList_entries]
  · exact (Forest.recordsToJson_plain forest.root forest.entries).parse_render
  · intro text read accepted
    obtain ⟨value,records,parsed,lists,same⟩ := Forest.parse_lists accepted
    refine ⟨value,records,parsed,lists,fun node => ?_⟩
    rw [Forest.derivations?,same,Forest.ofList_getElem?]

-- Two records for one node with the greatest numbers there are. The last of them has a derivation of another node, and
-- that one leads back to where it stands.
def extreme : Node := .of 18446744073709551615 4294967295 18446744073709551615

def loop : List Derivation := [⟨.of 0 1 0,[extreme,extreme]⟩,.leaf extreme]

def tangled : List (Node × List Derivation) := [(extreme,[.leaf extreme]),(.of 0 1 0,[]),(extreme,loop)]

theorem tangled_fits : extreme.Fits ∧ ∀ record ∈ tangled, Forest.RecordFits record := by
  have large : extreme.Fits := ⟨⟨by decide,by decide⟩,by decide⟩
  have small : (Node.of 0 1 0).Fits := ⟨⟨by decide,by decide⟩,by decide⟩
  have leaf : (Derivation.leaf extreme).Fits := ⟨large,fun child part => by cases part⟩
  have back : (⟨.of 0 1 0,[extreme,extreme]⟩ : Derivation).Fits := by
    refine ⟨small,fun child part => ?_⟩
    obtain rfl : child = extreme := by simpa using part
    exact large
  refine ⟨large,fun record member => ?_⟩
  obtain rfl | rfl | rfl : record = _ ∨ record = _ ∨ record = _ := by simpa [tangled] using member
  · exact ⟨large,by simpa using leaf⟩
  · exact ⟨small,by simp⟩
  · exact ⟨large,by simpa [loop] using ⟨back,leaf⟩⟩

theorem tangled_round_trip : ∃ forest, Forest.parse? (Forest.recordsToJson extreme tangled).render = some forest ∧
    Forest.parse? forest.render = some forest ∧ forest.derivations? extreme = some loop := by
  have read := Forest.parse_records tangled_fits.1 tangled_fits.2
  exact ⟨_,read,(forest_round_trip (.read read)).1,(Forest.ofList_getElem? tangled extreme).trans (by decide)⟩

end ParseForest
