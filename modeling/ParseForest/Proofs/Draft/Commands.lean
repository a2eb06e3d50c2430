import Mathlib
import ParseForest.Grammar.Draft
import ParseForest.Proofs.Automaton.Constructed

namespace ParseForest

-- What a pattern makes of a symbol.
def Pattern.kind? (pattern : Pattern) (greedy : Bool) : Option SymbolKind :=
  pattern.compile.toOption.map fun automaton => .production ⟨automaton,greedy⟩

theorem Pattern.kind?_eq {pattern : Pattern} {automaton : Automaton} (compiled : pattern.compile = .ok automaton) (greedy : Bool) :
    pattern.kind? greedy = some (.production ⟨automaton,greedy⟩) := by
  rw [kind?,compiled]
  rfl

theorem Pattern.kind?_production {pattern : Pattern} {greedy : Bool} {production : Production}
    (made : pattern.kind? greedy = some (.production production)) : pattern.compile = .ok production.automaton := by
  obtain ⟨automaton,compiled,same⟩ := Option.map_eq_some_iff.mp made
  cases same
  exact toOption_some.mp compiled

namespace Draft

-- A call with all that it may be given: an automaton need not be one that changes make of an empty one.
inductive Command where
  | terminal (name : String) (terminal : Terminal)
  | literal (text : String)
  | declare (name : String)
  | define (id : SymbolId) (pattern : Pattern) (greedy : Bool)
  | defineAutomaton (id : SymbolId) (automaton : Automaton) (greedy : Bool)
  | production (name : String) (pattern : Pattern) (greedy : Bool)

namespace Command

def text? : Command → Option String
  | .literal text => some text
  | _ => none

-- The symbol that is to get a body, and the body.
def target? : Command → Option SymbolId
  | .define id _ _ => some id
  | .defineAutomaton id _ _ => some id
  | _ => none

def body? : Command → Option SymbolKind
  | .define _ pattern greedy => pattern.kind? greedy
  | .defineAutomaton _ automaton greedy => some (.production ⟨automaton,greedy⟩)
  | _ => none

-- The symbol that is introduced.
def symbol? : Command → Option DraftSymbol
  | .terminal name given => some ⟨name,some (.terminal given)⟩
  | .literal text => some ⟨Text.quoted text,some (.terminal (.literal text))⟩
  | .declare name => some ⟨name,none⟩
  | .production name pattern greedy => some ⟨name,pattern.kind? greedy⟩
  | _ => none

-- The automaton that a symbol gets.
def automaton? : Command → Option Automaton
  | .define _ pattern _ => pattern.compile.toOption
  | .defineAutomaton _ automaton _ => some automaton
  | .production _ pattern _ => pattern.compile.toOption
  | _ => none

-- What can be given: an automaton that was made by changes, and numbers of 32 bits.
def Given : Command → Prop
  | .defineAutomaton _ automaton _ => automaton.Constructed
  | _ => True

def Fits : Command → Prop
  | .define _ pattern _ => pattern.Fits
  | .defineAutomaton _ automaton _ => automaton.Fits
  | .production _ pattern _ => pattern.Fits
  | _ => True

variable {command : Command} {id : SymbolId} {automaton : Automaton} {symbol : DraftSymbol} {production : Production}

theorem text?_of_target (aimed : command.target? = some id) : command.text? = none := by
  cases command with
  | literal text => cases aimed
  | _ => rfl

theorem symbol?_of_target (aimed : command.target? = some id) : command.symbol? = none := by
  cases command with
  | define => rfl
  | defineAutomaton => rfl
  | _ => cases aimed

-- A symbol without a body is one that is declared.
theorem bodiless_iff (made : command.symbol? = some symbol) : symbol.kind = none ↔ ∃ name, command = .declare name := by
  cases command with
  | terminal | literal | declare =>
    cases made
    simp
  | production name pattern greedy =>
    obtain ⟨automaton,compiled,_⟩ := pattern.compile_wellFormed
    cases made
    simp [Pattern.kind?_eq compiled]
  | define | defineAutomaton => cases made

theorem body?_of_target (aimed : command.target? = some id) : ∃ production, command.body? = some (.production production) := by
  cases command with
  | define id pattern greedy =>
    obtain ⟨automaton,compiled,_⟩ := pattern.compile_wellFormed
    exact ⟨_,Pattern.kind?_eq compiled greedy⟩
  | defineAutomaton id automaton greedy => exact ⟨_,rfl⟩
  | _ => cases aimed

theorem automaton?_of_body (body : command.body? = some (.production production)) :
    command.automaton? = some production.automaton := by
  cases command with
  | define => exact toOption_some.mpr (Pattern.kind?_production body)
  | defineAutomaton =>
    cases body
    rfl
  | _ => cases body

theorem automaton?_of_symbol (made : command.symbol? = some symbol) (kind : symbol.kind = some (.production production)) :
    command.automaton? = some production.automaton := by
  cases command with
  | production =>
    cases made
    exact toOption_some.mpr (Pattern.kind?_production kind)
  | terminal | literal | declare =>
    cases made
    cases kind
  | define | defineAutomaton => cases made

theorem Given.wellFormed (given : command.Given) (gives : command.automaton? = some automaton) : automaton.WellFormed := by
  cases command with
  | define | production => exact (Automaton.Constructed.compiled (toOption_some.mp gives)).wellFormed
  | defineAutomaton =>
    cases gives
    exact Automaton.Constructed.wellFormed given
  | _ => cases gives

theorem Fits.fits_automaton (fits : command.Fits) (gives : command.automaton? = some automaton) : automaton.Fits := by
  cases command with
  | define | production => exact Pattern.Fits.compile fits (toOption_some.mp gives)
  | defineAutomaton =>
    cases gives
    exact fits
  | _ => cases gives

end Command

-- What a command answers, and the draft behind it.
def execute (draft : Draft) : Command → Except Refusal (Option SymbolId × Draft)
  | .terminal name terminal => .ok (some (draft.terminal name terminal).1,(draft.terminal name terminal).2)
  | .literal text => .ok (some (draft.literal text).1,(draft.literal text).2)
  | .declare name => .ok (some (draft.declare name).1,(draft.declare name).2)
  | .define id pattern greedy => (draft.define id pattern greedy).map (none,·)
  | .defineAutomaton id automaton greedy => (draft.defineAutomaton id automaton greedy).map (none,·)
  | .production name pattern greedy => (draft.production name pattern greedy).map fun (id,next) => (some id,next)

-- A command that is refused leaves the draft as it was.
def obey (draft : Draft) (command : Command) : Draft :=
  match draft.execute command with
  | .ok (_,next) => next
  | .error _ => draft

def ofCommands (commands : List Command) : Draft := commands.foldl obey {}

-- The answer to a command that comes after others.
def answer (commands : List Command) (command : Command) : Except Refusal (Option SymbolId) :=
  ((ofCommands commands).execute command).map Prod.fst

-- What a command can do to a draft.
inductive Executed (draft : Draft) (command : Command) : Except Refusal (Option SymbolId) → Draft → Prop where
  | introduced {symbol : DraftSymbol} (made : command.symbol? = some symbol)
      (unknown : ∀ text, command.text? = some text → draft.literals.lookup text = none) :
      Executed draft command (.ok (some draft.symbols.length))
        ⟨draft.symbols ++ [symbol],(command.text?.map fun text => (text,draft.symbols.length)).toList ++ draft.literals⟩
  | known {text : String} {id : SymbolId} (same : command = .literal text) (found : draft.literals.lookup text = some id) :
      Executed draft command (.ok (some id)) draft
  | defined {id : SymbolId} (aimed : command.target? = some id) (inside : id < draft.symbols.length) :
      Executed draft command (.ok none)
        { draft with symbols := draft.symbols.modify id fun symbol => { symbol with kind := command.body? } }
  | refused {id : SymbolId} (aimed : command.target? = some id) (outside : draft.symbols.length ≤ id) :
      Executed draft command (.error (.unknownSymbol id)) draft

variable {draft : Draft} {command : Command} {commands : List Command} {id : SymbolId}

theorem execute_body (automaton : Automaton) (greedy : Bool) (aimed : command.target? = some id)
    (body : command.body? = some (.production ⟨automaton,greedy⟩))
    (same : draft.execute command = (draft.defineAutomaton id automaton greedy).map (none,·)) :
    Executed draft command ((draft.execute command).map Prod.fst) (draft.obey command) := by
  unfold obey
  rw [same]
  unfold defineAutomaton
  split_ifs with inside
  · rw [← body]
    exact .defined aimed inside
  · exact .refused aimed (Nat.le_of_not_lt inside)

theorem unknown_of_textless (textless : command.text? = none) :
    ∀ text, command.text? = some text → draft.literals.lookup text = none := by
  intro text given
  cases textless.symm.trans given

-- A production with its body is introduced as one symbol.
theorem production_eq {pattern : Pattern} {automaton : Automaton} (compiled : pattern.compile = .ok automaton) (draft : Draft)
    (name : String) (greedy : Bool) : draft.production name pattern greedy =
      .ok (draft.symbols.length,{ draft with symbols := draft.symbols ++ [⟨name,some (.production ⟨automaton,greedy⟩)⟩] }) := by
  simp [production,declare,introduce,define,compiled,defineAutomaton,bind,Except.bind,pure,Except.pure,List.modify_eq_set_getElem?]

theorem execute_executed (draft : Draft) (command : Command) :
    Executed draft command ((draft.execute command).map Prod.fst) (draft.obey command) := by
  cases command with
  | terminal name given => exact .introduced rfl (unknown_of_textless rfl)
  | literal text =>
    unfold obey
    simp only [execute,Draft.literal]
    cases found : draft.literals.lookup text with
    | none =>
      refine .introduced rfl ?_
      rintro _ ⟨⟩
      exact found
    | some id => exact .known rfl found
  | declare name => exact .introduced rfl (unknown_of_textless rfl)
  | define id pattern greedy =>
    obtain ⟨automaton,compiled,_⟩ := pattern.compile_wellFormed
    refine execute_body automaton greedy rfl ?_ ?_
    · exact Pattern.kind?_eq compiled greedy
    · simp only [execute,define,compiled]
  | defineAutomaton id automaton greedy => exact execute_body automaton greedy rfl rfl rfl
  | production name pattern greedy =>
    obtain ⟨automaton,compiled,_⟩ := pattern.compile_wellFormed
    have made : Command.symbol? (.production name pattern greedy) = some ⟨name,some (.production ⟨automaton,greedy⟩)⟩ := by
      rw [Command.symbol?,Pattern.kind?_eq compiled]
    unfold obey
    simp only [execute,production_eq compiled]
    exact .introduced made (unknown_of_textless rfl)

theorem ofCommands_concat (commands : List Command) (command : Command) :
    ofCommands (commands ++ [command]) = (ofCommands commands).obey command := by
  unfold ofCommands
  rw [List.foldl_append]
  rfl

theorem executed (commands : List Command) (command : Command) :
    Executed (ofCommands commands) command (answer commands command) (ofCommands (commands ++ [command])) := by
  rw [ofCommands_concat]
  exact execute_executed _ _

-- What a symbol of the draft has for an automaton was given by a command.
theorem Executed.given {next : Draft} {result : Except Refusal (Option SymbolId)} {symbol : DraftSymbol} {production : Production}
    (step : Executed draft command result next) (member : symbol ∈ next.symbols) (kind : symbol.kind = some (.production production)) :
    symbol ∈ draft.symbols ∨ command.automaton? = some production.automaton := by
  cases step with
  | introduced made unknown =>
    rcases List.mem_append.mp member with before | new
    · exact .inl before
    · cases List.mem_singleton.mp new
      exact .inr (Command.automaton?_of_symbol made kind)
  | known => exact .inl member
  | defined aimed inside =>
    rcases mem_modify member with before | ⟨old,before,rfl⟩
    · exact .inl before
    · exact .inr (Command.automaton?_of_body kind)
  | refused => exact .inl member

theorem automaton_given {symbol : DraftSymbol} {production : Production} (member : symbol ∈ (ofCommands commands).symbols)
    (kind : symbol.kind = some (.production production)) : ∃ command ∈ commands, command.automaton? = some production.automaton := by
  induction commands using List.reverseRecOn with
  | nil => cases member
  | append_singleton commands command ih =>
    rcases (executed commands command).given member kind with before | gives
    · obtain ⟨earlier,listed,gives⟩ := ih before
      exact ⟨earlier,List.mem_append_left _ listed,gives⟩
    · exact ⟨command,List.mem_append_right _ List.mem_cons_self,gives⟩

end Draft

end ParseForest
