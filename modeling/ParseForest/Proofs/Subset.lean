import Mathlib
import ParseForest.Grammar.Subset
import ParseForest.Proofs.Sorted

namespace ParseForest

namespace Automaton

-- The layout that the mutators keep and that reading a stored automaton restores.
structure WellFormed (automaton : Automaton) : Prop where
  rows : automaton.rows.length = automaton.stateCount
  start : Sorted.Ascending automaton.start ∧ ∀ state ∈ automaton.start, state < automaton.stateCount
  accept : Sorted.Ascending automaton.accept ∧ ∀ state ∈ automaton.accept, state < automaton.stateCount
  targets : ∀ row ∈ automaton.rows, ∀ edge ∈ row,
    Sorted.Ascending edge.targets ∧ ∀ state ∈ edge.targets, state < automaton.stateCount
  entries : ∀ row ∈ automaton.rows, (row.map Edge.symbol).Nodup

instance (automaton : Automaton) : Decidable automaton.WellFormed :=
  decidable_of_iff
    (automaton.rows.length = automaton.stateCount ∧
      (Sorted.Ascending automaton.start ∧ ∀ state ∈ automaton.start, state < automaton.stateCount) ∧
      (Sorted.Ascending automaton.accept ∧ ∀ state ∈ automaton.accept, state < automaton.stateCount) ∧
      (∀ row ∈ automaton.rows, ∀ edge ∈ row,
        Sorted.Ascending edge.targets ∧ ∀ state ∈ edge.targets, state < automaton.stateCount) ∧
      ∀ row ∈ automaton.rows, (row.map Edge.symbol).Nodup)
    ⟨fun ⟨rows,start,accept,targets,entries⟩ => ⟨rows,start,accept,targets,entries⟩,
      fun canonical => ⟨canonical.rows,canonical.start,canonical.accept,canonical.targets,canonical.entries⟩⟩

def Moves (automaton : Automaton) (source : StateId) (symbol : SymbolId) (target : StateId) : Prop :=
  ∃ edge ∈ automaton.row source, edge.symbol = symbol ∧ target ∈ edge.targets

inductive Path (automaton : Automaton) : StateId → List SymbolId → StateId → Prop where
  | nil (state : StateId) : Path automaton state [] state
  | cons {source middle target : StateId} {symbol : SymbolId} {rest : List SymbolId}
      (move : automaton.Moves source symbol middle) (path : Path automaton middle rest target) :
      Path automaton source (symbol :: rest) target

-- A word is accepted when it labels a path from a start state to an accept state.
def Accepts (automaton : Automaton) (word : List SymbolId) : Prop :=
  ∃ source ∈ automaton.start, ∃ target ∈ automaton.accept, automaton.Path source word target

-- The set of states that a word leads to: the start states, and then one union of targets for
-- each symbol.
def after (automaton : Automaton) (word : List SymbolId) : Set StateId :=
  word.foldl (fun states symbol => {target | ∃ source ∈ states, automaton.Moves source symbol target})
    {state | state ∈ automaton.start}

variable {automaton : Automaton} {word : List SymbolId} {source target : StateId} {symbol : SymbolId}

@[simp] theorem mem_after_nil : target ∈ automaton.after [] ↔ target ∈ automaton.start := Iff.rfl

@[simp] theorem mem_after_concat : target ∈ automaton.after (word ++ [symbol]) ↔
    ∃ source ∈ automaton.after word, automaton.Moves source symbol target := by
  unfold after
  rw [List.foldl_append]
  rfl

theorem Path.concat {middle : StateId} (path : automaton.Path source word middle)
    (move : automaton.Moves middle symbol target) : automaton.Path source (word ++ [symbol]) target := by
  induction path with
  | nil state => exact .cons move (.nil _)
  | cons first rest ih => exact .cons first (ih move)

theorem Path.unconcat (path : automaton.Path source (word ++ [symbol]) target) :
    ∃ middle, automaton.Path source word middle ∧ automaton.Moves middle symbol target := by
  induction word generalizing source with
  | nil =>
    cases path with
    | cons move rest =>
      cases rest
      exact ⟨source,.nil _,move⟩
  | cons head rest ih =>
    cases path with
    | cons move path =>
      obtain ⟨middle,first,last⟩ := ih path
      exact ⟨middle,.cons move first,last⟩

theorem mem_after_iff : target ∈ automaton.after word ↔
    ∃ source ∈ automaton.start, automaton.Path source word target := by
  induction word using List.reverseRecOn generalizing target with
  | nil =>
    rw [mem_after_nil]
    constructor
    · intro member
      exact ⟨target,member,.nil _⟩
    · rintro ⟨source,member,path⟩
      cases path
      exact member
  | append_singleton word symbol ih =>
    rw [mem_after_concat]
    constructor
    · rintro ⟨middle,reached,move⟩
      obtain ⟨source,member,path⟩ := ih.mp reached
      exact ⟨source,member,path.concat move⟩
    · rintro ⟨source,member,path⟩
      obtain ⟨middle,first,last⟩ := path.unconcat
      exact ⟨middle,ih.mpr ⟨source,member,first⟩,last⟩

theorem accepts_iff : automaton.Accepts word ↔ ∃ target ∈ automaton.accept, target ∈ automaton.after word := by
  constructor
  · rintro ⟨source,start,target,accept,path⟩
    exact ⟨target,accept,mem_after_iff.mpr ⟨source,start,path⟩⟩
  · rintro ⟨target,accept,reached⟩
    obtain ⟨source,start,path⟩ := mem_after_iff.mp reached
    exact ⟨source,start,target,accept,path⟩

theorem mem_next {states : List StateId} : target ∈ automaton.next states symbol ↔
    ∃ source ∈ states, automaton.Moves source symbol target := by
  simp only [next,Sorted.mem_ofList,List.mem_flatMap,List.mem_filter,beq_iff_eq,Moves,and_assoc]

theorem mem_outgoing {states : List StateId} : symbol ∈ automaton.outgoing states ↔
    ∃ source ∈ states, ∃ edge ∈ automaton.row source, edge.symbol = symbol := by
  simp only [outgoing,Sorted.mem_ofList,List.mem_flatMap,List.mem_map]

theorem row_mem {state : StateId} {edge : Edge} (member : edge ∈ automaton.row state) :
    ∃ row ∈ automaton.rows, edge ∈ row := by
  unfold row at member
  rw [List.getD] at member
  cases found : automaton.rows[state]? with
  | none => simp [found] at member
  | some row => exact ⟨row,List.mem_of_getElem? found,by simpa [found] using member⟩

theorem outgoing_mem_symbols {states : List StateId} (member : symbol ∈ automaton.outgoing states) :
    symbol ∈ automaton.symbols := by
  obtain ⟨source,_,edge,inRow,rfl⟩ := mem_outgoing.mp member
  obtain ⟨row,stored,inside⟩ := row_mem inRow
  exact List.mem_map_of_mem (List.mem_flatten_of_mem stored inside)

theorem WellFormed.move_lt (wellFormed : automaton.WellFormed) (move : automaton.Moves source symbol target) :
    target < automaton.stateCount := by
  obtain ⟨edge,inRow,_,member⟩ := move
  obtain ⟨row,stored,inside⟩ := row_mem inRow
  exact (wellFormed.targets row stored edge inside).2 target member

theorem accepting_iff (wellFormed : automaton.WellFormed) {states : List StateId} :
    automaton.accepting states = true ↔ ∃ state ∈ states, state ∈ automaton.accept := by
  simp only [accepting,List.any_eq_true,isAccept,Sorted.found_iff wellFormed.accept.1]

end Automaton

namespace Grammar

variable {grammar : Grammar} {id : SymbolId} {production : Production}

theorem production_iff : grammar.production? id = some production ↔
    ∃ symbol, grammar.symbol? id = some symbol ∧ symbol.kind = .production production := by
  unfold production? GrammarSymbol.production?
  rw [Option.bind_eq_some_iff]
  constructor
  · rintro ⟨symbol,found,body⟩
    refine ⟨symbol,found,?_⟩
    split at body
    · rename_i same
      rw [same,Option.some.inj body]
    · cases body
  · rintro ⟨symbol,found,kind⟩
    exact ⟨symbol,found,by rw [kind]⟩

theorem symbol_mem {symbol : GrammarSymbol} (found : grammar.symbol? id = some symbol) :
    symbol ∈ grammar.symbols := List.mem_of_getElem? found

theorem mem_outgoing (found : grammar.production? id = some production) {states : List StateId} {symbol : SymbolId} :
    symbol ∈ grammar.outgoing id states ↔ ∃ state ∈ states, ∃ edge ∈ production.automaton.row state, edge.symbol = symbol := by
  simp only [outgoing,found,Automaton.mem_outgoing]

-- A symbol that may come next stands on an edge of the production.
theorem outgoing_edge {states : List StateId} {symbol : SymbolId} (member : symbol ∈ grammar.outgoing id states) :
    ∃ owner ∈ grammar.symbols, ∃ production, owner.kind = .production production ∧ symbol ∈ production.automaton.symbols := by
  unfold outgoing at member
  split at member
  · rename_i production found
    obtain ⟨owner,at_id,kind⟩ := production_iff.mp found
    exact ⟨owner,symbol_mem at_id,production,kind,Automaton.outgoing_mem_symbols member⟩
  · cases member

theorem outgoing_ascending {states : List StateId} : Sorted.Ascending (grammar.outgoing id states) := by
  unfold outgoing
  split
  · exact Sorted.ofList_ascending _
  · exact List.Pairwise.nil

theorem next_ascending {states : List StateId} {symbol : SymbolId} :
    Sorted.Ascending (grammar.next id states symbol) := by
  unfold next
  split
  · exact Sorted.ofList_ascending _
  · exact List.Pairwise.nil

theorem entryStates_ascending : Sorted.Ascending (grammar.entryStates id) := Sorted.ofList_ascending _

variable [Regex.Library]

-- What both ways of making a grammar establish: every character pattern compiles, every edge is on
-- a symbol of the grammar, and every automaton has the canonical layout.
structure WellFormed (grammar : Grammar) : Prop where
  patterns : ∀ symbol ∈ grammar.symbols, ∀ regex, symbol.kind = .terminal (.pattern regex) →
    Regex.isValid regex = true
  edges : ∀ symbol ∈ grammar.symbols, ∀ production, symbol.kind = .production production →
    ∀ id ∈ production.automaton.symbols, id < grammar.size
  automata : ∀ symbol ∈ grammar.symbols, ∀ production, symbol.kind = .production production →
    production.automaton.WellFormed

theorem WellFormed.automaton (wellFormed : grammar.WellFormed)
    (found : grammar.production? id = some production) : production.automaton.WellFormed := by
  obtain ⟨symbol,at_id,kind⟩ := production_iff.mp found
  exact wellFormed.automata symbol (symbol_mem at_id) production kind

theorem WellFormed.outgoing_lt (wellFormed : grammar.WellFormed) {states : List StateId} {symbol : SymbolId}
    (member : symbol ∈ grammar.outgoing id states) : symbol < grammar.size := by
  obtain ⟨owner,stored,production,kind,known⟩ := outgoing_edge member
  exact wellFormed.edges owner stored production kind symbol known

end Grammar

end ParseForest
