import Mathlib
import ParseForest.Engine
import ParseForest.Proofs.Confluence
import ParseForest.Proofs.Session.Drain

namespace ParseForest

open Session

namespace Engine

variable {engine : Engine} {document : Text.Document} {root : SymbolId} {range : Option (Nat × Nat)} {problem : Problem}
  {outcome : Outcome}

-- What the checks of a request leave: a known root, and a range that ends with the text.
theorem problem_ok (accepted : engine.problem document root range = .ok problem) :
    problem.grammar = engine.grammar ∧ root < engine.grammar.size ∧
      ∃ start length, range.getD (0,document.length) = (start,length) ∧ start + length ≤ document.length ∧
        problem.text = document.chars.take (start + length) ∧ problem.root = .of start root length := by
  unfold Engine.problem at accepted
  rcases bounds : range.getD (0,document.length) with ⟨start,length⟩
  simp only [bounds] at accepted
  split at accepted
  · cases accepted
  · split at accepted
    · cases accepted
    · rename_i known
      split at accepted
      · cases accepted
      · rename_i inside
        obtain rfl := Except.ok.inj accepted
        exact ⟨rfl,Nat.lt_of_not_le known,start,length,rfl,Nat.le_of_not_lt inside,rfl,rfl⟩

theorem problem_valid [Regex.Library] (wellFormed : engine.grammar.WellFormed)
    (accepted : engine.problem document root range = .ok problem) : problem.Valid := by
  obtain ⟨grammar,known,start,length,_,inside,text,node⟩ := problem_ok accepted
  refine ⟨grammar ▸ wellFormed,?_,?_⟩
  · rw [node,grammar]
    exact known
  · rw [node,text,List.length_take]
    unfold Text.Document.length at inside
    simp only [Node.stop,Node.of]
    omega

theorem parse_eq [Regex.Library] (accepted : engine.problem document root range = .ok problem) :
    engine.parse document root range = .ok ((State.run problem).outcome problem) := by
  unfold Engine.parse
  rw [accepted]
  rfl

end Engine

-- The grammar of one letter and one production over it.
def lettered (name : String) (production : Production) : Grammar where
  symbols := [⟨"letter",.terminal (.literal "a")⟩,⟨name,.production production⟩]

theorem lettered_wellFormed [Regex.Library] {name : String} {body : Production} (wellFormed : body.automaton.WellFormed)
    (known : ∀ id ∈ body.automaton.symbols, id < 2) : (lettered name body).WellFormed := by
  refine ⟨?_,?_,?_⟩
  · simp [lettered]
  · intro symbol member production kind
    obtain rfl | rfl : symbol = _ ∨ symbol = _ := by simpa [lettered] using member
    · cases kind
    · cases kind
      exact known
  · intro symbol member production kind
    obtain rfl | rfl : symbol = _ ∨ symbol = _ := by simpa [lettered] using member
    · cases kind
    · cases kind
      exact wellFormed

-- A small grammar with all its ambiguity in one production: a letter, or the production twice.
def pairAutomaton : Automaton := ⟨3,[0],[1],[[⟨0,[1]⟩,⟨1,[2]⟩],[],[⟨1,[1]⟩]]⟩

def pairs (greedy : Bool) : Grammar where
  symbols := [⟨"letter",.terminal (.literal "a")⟩,⟨"pair",.production ⟨pairAutomaton,greedy⟩⟩]

theorem pairAutomaton_wellFormed : pairAutomaton.WellFormed := by decide

theorem pairs_wellFormed (greedy : Bool) : (pairs greedy).WellFormed := by
  have known : ∀ id ∈ pairAutomaton.symbols, id < 2 := by decide
  exact lettered_wellFormed pairAutomaton_wellFormed known

def pairEngine (greedy : Bool) : Engine := ⟨pairs greedy,{}⟩

def twoLetters : Text.Document := ⟨['a','a']⟩

def pairProblem (greedy : Bool) : Problem := ⟨pairs greedy,['a','a'],.of 0 1 2⟩

theorem pairProblem_ok (greedy : Bool) : (pairEngine greedy).problem twoLetters 1 none = .ok (pairProblem greedy) := rfl

theorem pairProblem_valid (greedy : Bool) : (pairProblem greedy).Valid :=
  Engine.problem_valid (pairs_wellFormed greedy) (pairProblem_ok greedy)

variable {engine : Engine} {document : Text.Document} {root : SymbolId} {range : Option (Nat × Nat)} {problem : Problem}
  {s t : State}

-- Forest, suspects, lengths and counters are the same in whatever order the tasks are taken.
theorem outcome_order_independent [Regex.Library] (wellFormed : engine.grammar.WellFormed)
    (accepted : engine.problem document root range = .ok problem) (one : Complete problem s) (two : Complete problem t) :
    s.outcome problem = t.outcome problem :=
  one.outcome_unique (Engine.problem_valid wellFormed accepted) two

-- A run that was stopped behind its first task and then taken up again.
theorem pairs_resumed : ∃ first, Step (pairProblem true) (State.initial (pairProblem true)) first ∧
    (first.runRounds (pairProblem true) (pairProblem true).chainBound ((pairProblem true).goalBound + 1)).outcome (pairProblem true) =
      (State.run (pairProblem true)).outcome (pairProblem true) := by
  have valid := pairProblem_valid true
  have step : Step (pairProblem true) (State.initial (pairProblem true)) _ := .task [] [] (.request (pairProblem true).root.goal) rfl
  have resumed := runRounds_complete valid ((pairProblem true).goalBound + 1) (.tail (.refl _) step)
    (Nat.lt_succ_of_le Chart.unclosed_le)
  exact ⟨_,step,outcome_order_independent (pairs_wellFormed true) (pairProblem_ok true) resumed (run_complete valid)⟩

-- No run goes on for ever, and one that cannot go on has closed every goal and has the outcome.
theorem every_run_ends [Regex.Library] (wellFormed : engine.grammar.WellFormed)
    (accepted : engine.problem document root range = .ok problem) :
    (¬∃ run : Nat → State, run 0 = State.initial problem ∧ ∀ index, Step problem (run index) (run (index+1))) ∧
    ∀ s, Steps problem (State.initial problem) s → (∀ next, ¬Step problem s next) →
      s.tasks = [] ∧ (∀ (goal : Goal) (entry : Entry), s.entries[goal]? = some entry → entry.status ≠ .unsettled) ∧
        s.breaches = [] ∧ engine.parse document root range = .ok (s.outcome problem) := by
  have valid := Engine.problem_valid wellFormed accepted
  constructor
  · rintro ⟨run,start,steps⟩
    exact no_endless_run valid (start ▸ State.initial_coherent) steps
  · intro s steps last
    have complete : Complete problem s := ⟨steps,last⟩
    refine ⟨complete.idle,?_,(complete.coherent valid).good.breaches,?_⟩
    · intro goal entry found
      have asked : goal ∈ s.entries := Std.HashMap.isSome_getElem?_iff_mem.mp (by rw [found]; rfl)
      have closed : s.chart.Closed goal := complete.closed valid asked
      rw [State.entries_some asked] at found
      exact Option.some.inj found ▸ closed
    · rw [Engine.parse_eq accepted,(run_complete valid).outcome_unique valid complete]

theorem pairs_end : ¬∃ run : Nat → State, run 0 = State.initial (pairProblem true) ∧
    ∀ index, Step (pairProblem true) (run index) (run (index+1)) :=
  (every_run_ends (pairs_wellFormed true) (pairProblem_ok true)).1

end ParseForest
