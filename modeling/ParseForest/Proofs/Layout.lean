import Mathlib
import ParseForest.Engine
import ParseForest.Proofs.Layout.Stored
import ParseForest.Regex.Standard

namespace ParseForest

-- Two automata with the same marks and edges. How their lists are ordered, what they repeat and over
-- how many entries the edges of a state are spread does not matter, but an entry without targets counts.
structure Automaton.Alike (one two : Automaton) : Prop where
  stateCount : one.stateCount = two.stateCount
  start : ∀ state, state ∈ one.start ↔ state ∈ two.start
  accept : ∀ state, state ∈ one.accept ↔ state ∈ two.accept
  symbols : ∀ state symbol, symbol ∈ (one.row state).map Edge.symbol ↔ symbol ∈ (two.row state).map Edge.symbol
  moves : ∀ source symbol target, one.Moves source symbol target ↔ two.Moves source symbol target

inductive GrammarSymbol.Alike : GrammarSymbol → GrammarSymbol → Prop where
  | terminal (name : String) (terminal : Terminal) : Alike ⟨name,.terminal terminal⟩ ⟨name,.terminal terminal⟩
  | production (name : String) (greedy : Bool) {one two : Automaton} (alike : one.Alike two) :
      Alike ⟨name,.production ⟨one,greedy⟩⟩ ⟨name,.production ⟨two,greedy⟩⟩

def Grammar.Alike (one two : Grammar) : Prop := List.Forall₂ GrammarSymbol.Alike one.symbols two.symbols

namespace Automaton

variable {one two three : Automaton}

theorem Alike.symm (alike : one.Alike two) : two.Alike one :=
  ⟨alike.stateCount.symm,fun state => (alike.start state).symm,fun state => (alike.accept state).symm,
    fun state symbol => (alike.symbols state symbol).symm,fun source symbol target => (alike.moves source symbol target).symm⟩

theorem Alike.trans (left : one.Alike two) (right : two.Alike three) : one.Alike three :=
  ⟨left.stateCount.trans right.stateCount,fun state => (left.start state).trans (right.start state),
    fun state => (left.accept state).trans (right.accept state),
    fun state symbol => (left.symbols state symbol).trans (right.symbols state symbol),
    fun source symbol target => (left.moves source symbol target).trans (right.moves source symbol target)⟩

-- The canonical layout has the marks and edges that were stored.
theorem canonical_alike (accepted : one.canonical = .ok two) : one.Alike two := by
  obtain ⟨_,rfl⟩ := canonical_iff.mp accepted
  refine ⟨rfl,fun state => Sorted.mem_ofList.symm,fun state => Sorted.mem_ofList.symm,?_,?_⟩
  · intro state symbol
    rw [row_arranged,canonicalRow_mem_symbols]
  · intro source symbol target
    unfold Moves
    rw [row_arranged,canonicalRow_moves]

theorem Alike.outgoing (alike : one.Alike two) : one.outgoing = two.outgoing := by
  funext states
  refine Sorted.ofList_congr ?_
  intro symbol
  simp only [List.mem_flatMap,alike.symbols]

theorem Alike.next (alike : one.Alike two) : one.next = two.next := by
  funext states symbol
  refine (Sorted.ofList_ascending _).ext (Sorted.ofList_ascending _) ?_
  intro target
  exact mem_next.trans ((exists_congr fun source => and_congr_right fun _ => alike.moves source symbol target).trans mem_next.symm)

theorem Alike.accepting (alike : one.Alike two) (first : one.WellFormed) (second : two.WellFormed) :
    one.accepting = two.accepting := by
  funext states
  rw [Bool.eq_iff_iff,accepting_iff first,accepting_iff second]
  simp only [alike.accept]

end Automaton

namespace Grammar

-- All that a parse asks a grammar.
structure Agrees (one two : Grammar) : Prop where
  size : one.size = two.size
  counts : (one.symbols.filterMap GrammarSymbol.production?).map (·.automaton.stateCount) =
    (two.symbols.filterMap GrammarSymbol.production?).map (·.automaton.stateCount)
  terminal : ∀ id, (one.symbol? id).map GrammarSymbol.terminal? = (two.symbol? id).map GrammarSymbol.terminal?
  isGreedy : one.isGreedy = two.isGreedy
  entryStates : one.entryStates = two.entryStates
  outgoing : one.outgoing = two.outgoing
  next : one.next = two.next
  accepting : one.accepting = two.accepting

variable {one two : Grammar}

theorem Alike.symbol? (alike : one.Alike two) (id : SymbolId) : one.symbol? id = none ∧ two.symbol? id = none ∨
    ∃ first second, one.symbol? id = some first ∧ two.symbol? id = some second ∧ first.Alike second := by
  obtain ⟨symbols⟩ := one
  obtain ⟨others⟩ := two
  change List.Forall₂ GrammarSymbol.Alike symbols others at alike
  unfold Grammar.symbol?
  induction alike generalizing id with
  | nil => exact .inl ⟨rfl,rfl⟩
  | cons head _ ih =>
    cases id with
    | zero => exact .inr ⟨_,_,rfl,rfl,head⟩
    | succ id => exact ih id

theorem Alike.production? (alike : one.Alike two) (id : SymbolId) : one.production? id = none ∧ two.production? id = none ∨
    ∃ first second greedy, one.production? id = some ⟨first,greedy⟩ ∧ two.production? id = some ⟨second,greedy⟩ ∧
      first.Alike second := by
  unfold Grammar.production?
  obtain ⟨missing,lacking⟩ | ⟨first,second,found,known,same⟩ := alike.symbol? id
  · exact .inl ⟨by rw [missing]; rfl,by rw [lacking]; rfl⟩
  · rw [found,known]
    cases same with
    | terminal name terminal => exact .inl ⟨rfl,rfl⟩
    | production name greedy automata => exact .inr ⟨_,_,greedy,rfl,rfl,automata⟩

theorem Alike.counts (alike : one.Alike two) : (one.symbols.filterMap GrammarSymbol.production?).map (·.automaton.stateCount) =
    (two.symbols.filterMap GrammarSymbol.production?).map (·.automaton.stateCount) := by
  obtain ⟨symbols⟩ := one
  obtain ⟨others⟩ := two
  change List.Forall₂ GrammarSymbol.Alike symbols others at alike
  induction alike with
  | nil => rfl
  | cons head _ ih =>
    cases head with
    | terminal name terminal => exact ih
    | production name greedy automata => exact congrArg₂ List.cons automata.stateCount ih

-- Whatever is asked about the automaton of a production has the same answer.
theorem Alike.answer {β : Type} (alike : one.Alike two) (id : SymbolId) {answer : Automaton → β} {absent : β}
    (same : ∀ first second greedy, one.production? id = some ⟨first,greedy⟩ → two.production? id = some ⟨second,greedy⟩ →
      first.Alike second → answer first = answer second) :
    (match one.production? id with | some production => answer production.automaton | none => absent) =
      match two.production? id with | some production => answer production.automaton | none => absent := by
  obtain ⟨missing,lacking⟩ | ⟨first,second,greedy,found,known,automata⟩ := alike.production? id
  · rw [missing,lacking]
  · rw [found,known]
    exact same first second greedy found known automata

-- What becomes of two alike lists of symbols in canonical layout is alike.
theorem Alike.laid {first second others : List GrammarSymbol} {symbols : List GrammarSymbol}
    (alike : List.Forall₂ GrammarSymbol.Alike symbols others) (one : List.Forall₂ GrammarSymbol.Laid symbols first)
    (two : List.Forall₂ GrammarSymbol.Laid others second) : List.Forall₂ GrammarSymbol.Alike first second := by
  induction alike generalizing first second with
  | nil =>
    cases one
    cases two
    exact .nil
  | cons head _ ih =>
    cases one with
    | cons headOne restOne =>
      cases two with
      | cons headTwo restTwo =>
        refine .cons ?_ (ih restOne restTwo)
        cases head with
        | terminal name terminal =>
          cases headOne
          cases headTwo
          exact .terminal name terminal
        | production name greedy automata =>
          cases headOne with
          | production _ _ acceptedOne =>
            cases headTwo with
            | production _ _ acceptedTwo =>
              have before := (Automaton.canonical_alike acceptedOne).symm
              exact .production name greedy ((before.trans automata).trans (Automaton.canonical_alike acceptedTwo))

variable [Regex.Library]

theorem Alike.agrees (alike : one.Alike two) (first : one.WellFormed) (second : two.WellFormed) : one.Agrees two := by
  refine ⟨alike.length_eq,alike.counts,?_,?_,?_,?_,?_,?_⟩
  · intro id
    obtain ⟨missing,lacking⟩ | ⟨_,_,found,known,same⟩ := alike.symbol? id
    · rw [missing,lacking]
    · rw [found,known]
      cases same <;> rfl
  · funext id
    unfold Grammar.isGreedy
    obtain ⟨missing,lacking⟩ | ⟨_,_,found,known,same⟩ := alike.symbol? id
    · rw [missing,lacking]
    · rw [found,known]
      cases same <;> rfl
  · funext id
    unfold Grammar.entryStates Grammar.startStates
    obtain ⟨missing,lacking⟩ | ⟨_,_,_,found,known,same⟩ := alike.production? id
    · rw [missing,lacking]
    · rw [found,known]
      exact Sorted.ofList_congr same.start
  · funext id states
    exact alike.answer id fun _ _ _ _ _ same => congrFun same.outgoing states
  · funext id states symbol
    exact alike.answer id fun _ _ _ _ _ same => congrFun₂ same.next states symbol
  · funext id states
    exact alike.answer id fun _ _ _ found known same =>
      congrFun (same.accepting (first.automaton found) (second.automaton known)) states

theorem Alike.ofStored {first second : Grammar} (alike : one.Alike two) (admitted : one.ofStored = .ok first)
    (accepted : two.ofStored = .ok second) : first.Agrees second := by
  have same : first.Alike second := Alike.laid alike (ofStored_iff.mp admitted).1 (ofStored_iff.mp accepted).1
  exact same.agrees (ofStored_wellFormed admitted) (ofStored_wellFormed accepted)

end Grammar

namespace Session

variable {one two : Problem}

structure Problem.Agrees (one two : Problem) : Prop where
  grammar : one.grammar.Agrees two.grammar
  text : one.text = two.text
  root : one.root = two.root

namespace State

variable (agrees : one.Agrees two)

include agrees

theorem record_agrees : record one = record two := by
  funext s goal derivation
  unfold record
  rw [agrees.grammar.isGreedy]

theorem close_agrees : close one = close two := by
  funext s goal status
  unfold close
  rw [agrees.grammar.isGreedy]

theorem emit_agrees : emit one = emit two := by
  funext s walk
  unfold emit
  rw [record_agrees agrees]

theorem release_agrees : release one = release two := by
  funext s ids
  induction ids generalizing s with
  | nil => rfl
  | cons id before ih =>
    unfold release
    rw [agrees.grammar.isGreedy,agrees.grammar.accepting,emit_agrees agrees,close_agrees agrees]
    simp only [ih]

theorem successor?_agrees : successor? one = successor? two := by
  funext id walk node
  unfold successor?
  rw [agrees.grammar.next]

theorem firstWalk_agrees : firstWalk one = firstWalk two := by
  funext goal
  unfold firstWalk
  rw [agrees.grammar.entryStates]

theorem force_agrees : force one = force two := by
  funext s
  unfold force
  rw [close_agrees agrees]

theorem initial_agrees : initial one = initial two := by
  unfold initial
  rw [agrees.root]

theorem bounds_agree : one.chainBound = two.chainBound ∧ one.goalBound = two.goalBound := by
  have positions : one.positions = two.positions := by
    unfold Problem.positions
    rw [agrees.text,agrees.root]
  have states : one.stateBound = two.stateBound := by
    have fold : ∀ problem : Problem, problem.stateBound =
        ((problem.grammar.symbols.filterMap GrammarSymbol.production?).map (·.automaton.stateCount)).foldl max 0 := by
      intro problem
      rw [List.foldl_map]
      rfl
    rw [fold,fold,agrees.grammar.counts]
  unfold Problem.chainBound Problem.walkBound Problem.goalBound
  rw [positions,states,agrees.grammar.size]
  exact ⟨rfl,rfl⟩

theorem outcome_agrees : outcome one = outcome two := by
  funext s
  unfold outcome
  rw [agrees.root]

variable [Regex.Library]

theorem startGoal_agrees : startGoal one = startGoal two := by
  funext s goal
  unfold startGoal
  have same := agrees.grammar.terminal goal.symbol
  generalize one.grammar.symbol? goal.symbol = first at same ⊢
  generalize two.grammar.symbol? goal.symbol = second at same ⊢
  rw [record_agrees agrees,close_agrees agrees,agrees.text]
  cases first with
  | none =>
    cases second with
    | none => rfl
    | some other => cases same
  | some symbol =>
    cases second with
    | none => cases same
    | some other =>
      obtain ⟨name,kind⟩ := symbol
      obtain ⟨title,body⟩ := other
      cases kind with
      | terminal terminal =>
        cases body with
        | terminal other =>
          cases same
          rfl
        | production production => cases same
      | production production =>
        cases body with
        | terminal other => cases same
        | production production => rfl

theorem request_agrees : request one = request two := by
  funext s goal
  unfold request
  rw [startGoal_agrees agrees]

theorem begin_agrees : begin one = begin two := by
  funext s walk
  unfold begin
  rw [agrees.grammar.outgoing,agrees.grammar.accepting,agrees.grammar.isGreedy,emit_agrees agrees,request_agrees agrees,
    release_agrees agrees]

theorem act_agrees : act one = act two := by
  funext s task
  unfold act advance
  rw [request_agrees agrees,begin_agrees agrees,firstWalk_agrees agrees,successor?_agrees agrees,release_agrees agrees]

theorem perform_agrees : perform one = perform two := by
  funext s task
  unfold perform
  rw [act_agrees agrees]

theorem drain_agrees : drain one = drain two := by
  funext chain
  induction chain with
  | zero => rfl
  | succ chain ih =>
    funext count s
    unfold drain takeLatest
    rw [ih,perform_agrees agrees]

theorem runRounds_agrees : runRounds one = runRounds two := by
  funext chain rounds
  induction rounds with
  | zero => rfl
  | succ rounds ih =>
    funext s
    unfold runRounds
    rw [ih,drain_agrees agrees,force_agrees agrees]

theorem run_agrees : run one = run two := by
  obtain ⟨chain,goals⟩ := bounds_agree agrees
  unfold run
  rw [chain,goals,runRounds_agrees agrees,initial_agrees agrees]

end State

end Session

open Session

theorem Grammar.Agrees.parse [Regex.Library] {one two : Grammar} (agrees : one.Agrees two) (configuration : Configuration)
    (document : Text.Document) (root : SymbolId) (range : Option (Nat × Nat)) :
    (Engine.mk one configuration).parse document root range = (Engine.mk two configuration).parse document root range := by
  have same : ∀ text node, (State.run ⟨one,text,node⟩).outcome ⟨one,text,node⟩ =
      (State.run ⟨two,text,node⟩).outcome ⟨two,text,node⟩ := by
    intro text node
    have problems : Problem.Agrees ⟨one,text,node⟩ ⟨two,text,node⟩ := ⟨agrees,rfl,rfl⟩
    rw [State.run_agrees problems,State.outcome_agrees problems]
  unfold Engine.parse Engine.problem
  dsimp only
  rw [agrees.size]
  split
  · rfl
  · split
    · rfl
    · split
      · rfl
      · exact congrArg Except.ok (same _ _)

-- A parse depends on what the automata of a stored grammar denote, and not on how they are stored.
theorem parse_layout_independent [Regex.Library] {text other : String} {stored alternative grammar regrouped : Grammar}
    (read : (Json.Value.parse? text).bind Grammar.ofJson? = some stored)
    (also : (Json.Value.parse? other).bind Grammar.ofJson? = some alternative) (alike : stored.Alike alternative)
    (accepted : Grammar.parse text = .ok grammar) (admitted : Grammar.parse other = .ok regrouped)
    (configuration : Configuration) (document : Text.Document) (root : SymbolId) (range : Option (Nat × Nat)) :
    (Engine.mk grammar configuration).parse document root range = (Engine.mk regrouped configuration).parse document root range := by
  obtain ⟨first,same,one⟩ := Grammar.parse_iff.mp accepted
  obtain ⟨second,equal,two⟩ := Grammar.parse_iff.mp admitted
  cases read.symm.trans same
  cases also.symm.trans equal
  exact (alike.ofStored one two).parse configuration document root range

-- One production stored twice: with its states repeated, its entries in another order and one of them split.
def tight : Automaton := ⟨2,[0],[1],[[⟨1,[1]⟩,⟨0,[0,1]⟩],[]]⟩

def loose : Automaton := ⟨2,[0,0],[1],[[⟨0,[1]⟩,⟨1,[1]⟩,⟨0,[0]⟩],[]]⟩

def regrouped : Automaton := ⟨2,[0],[1],[[⟨0,[0,1]⟩,⟨1,[1]⟩],[]]⟩

def around (automaton : Automaton) : Grammar := ⟨[⟨"a",.terminal .any⟩,⟨"p",.production ⟨automaton,true⟩⟩]⟩

def tightText : String :=
  "[[[\"a\",\x7b\"Terminal\":\"Any\"\x7d],[\"p\",\x7b\"Production\":[[2,[0],[1],[[[1,[1]],[0,[0,1]]],[]]],true]\x7d]]]"

def looseText : String :=
  "[[[\"a\",\x7b\"Terminal\":\"Any\"\x7d],[\"p\",\x7b\"Production\":[[2,[0,0],[1],[[[0,[1]],[1,[1]],[0,[0]]],[]]],true]\x7d]]]"

theorem tight_alike : tight.Alike loose := by
  refine ⟨rfl,by simp [tight,loose],by simp [tight,loose],?_,?_⟩
  · rintro (_ | _ | state) symbol
    · simp [tight,loose,Automaton.row,or_comm]
    · rfl
    · rfl
  · rintro (_ | _ | source) symbol target
    · change (∃ edge ∈ ([⟨1,[1]⟩,⟨0,[0,1]⟩] : List Edge), _) ↔ ∃ edge ∈ ([⟨0,[1]⟩,⟨1,[1]⟩,⟨0,[0]⟩] : List Edge), _
      simp only [List.mem_cons,List.not_mem_nil,or_false,exists_eq_or_imp,exists_eq_left]
      tauto
    · rfl
    · rfl

theorem loose_parse : Grammar.parse tightText = .ok (around tight) ∧ Grammar.parse looseText = .ok (around regrouped) ∧
    tight ≠ regrouped ∧ ∀ document root range,
      (Engine.mk (around tight) {}).parse document root range = (Engine.mk (around regrouped) {}).parse document root range := by
  have read : (Json.Value.parse? tightText).bind Grammar.ofJson? = some (around tight) := by decide +kernel
  have also : (Json.Value.parse? looseText).bind Grammar.ofJson? = some (around loose) := by decide +kernel
  have one : Grammar.parse tightText = .ok (around tight) := Grammar.parse_iff.mpr ⟨_,read,by decide⟩
  have two : Grammar.parse looseText = .ok (around regrouped) := Grammar.parse_iff.mpr ⟨_,also,by decide⟩
  have alike : (around tight).Alike (around loose) := .cons (.terminal _ _) (.cons (.production _ _ tight_alike) .nil)
  exact ⟨one,two,by decide,parse_layout_independent read also alike one two {}⟩

end ParseForest
