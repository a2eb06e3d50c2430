import Mathlib
import ParseForest.Proofs.Draft.Commands
import ParseForest.Proofs.Layout.Stored
import ParseForest.Regex.Standard

namespace ParseForest

namespace GrammarSymbol

variable {symbol : GrammarSymbol} {symbolCount : Nat} {fault : Fault}

-- The fault of a symbol whose automaton has no canonical layout.
inductive Unlaid : GrammarSymbol → Fault → Prop where
  | production {name : String} {production : Production} {flaw : Automaton.LayoutFlaw}
      (refused : production.automaton.canonical = .error flaw) :
      Unlaid ⟨name,.production production⟩ (.invalidGrammar (.badLayout name flaw))

theorem canonical_error : symbol.canonical = .error fault ↔ Unlaid symbol fault := by
  constructor
  · intro refused
    obtain ⟨name,kind⟩ := symbol
    cases kind with
    | terminal terminal => cases refused
    | production production =>
      simp only [canonical] at refused
      cases layout : production.automaton.canonical with
      | ok =>
        rw [layout] at refused
        cases refused
      | error flaw =>
        rw [layout] at refused
        cases refused
        exact .production layout
  · rintro ⟨refused⟩
    simp only [canonical,refused]

variable [Regex.Library]

-- The fault of a symbol in a grammar of some size: its pattern, or the first of its edges that is on no symbol.
inductive Invalid (symbolCount : Nat) : GrammarSymbol → Fault → Prop where
  | pattern {name regex : String} (invalid : Regex.isValid regex = false) :
      Invalid symbolCount ⟨name,.terminal (.pattern regex)⟩ (.invalidGrammar (.badPattern name))
  | reference {name : String} {production : Production} {before after : List SymbolId} {id : SymbolId}
      (listed : production.automaton.symbols = before ++ id :: after) (known : ∀ other ∈ before, other < symbolCount)
      (unknown : symbolCount ≤ id) :
      Invalid symbolCount ⟨name,.production production⟩ (.invalidGrammar (.unknownReference name id))

theorem flaw?_some : (∃ flaw, symbol.flaw? symbolCount = some flaw ∧ fault = .invalidGrammar flaw) ↔
    Invalid symbolCount symbol fault := by
  constructor
  · rintro ⟨flaw,found,rfl⟩
    obtain ⟨name,kind⟩ := symbol
    cases kind with
    | terminal terminal =>
      cases terminal with
      | pattern regex =>
        simp only [flaw?] at found
        split at found
        · cases found
        · rename_i invalid
          cases found
          exact .pattern (by simpa using invalid)
      | _ => cases found
    | production production =>
      obtain ⟨id,first,rfl⟩ := Option.map_eq_some_iff.mp found
      obtain ⟨unknown,before,after,listed,known⟩ := List.find?_eq_some_iff_append.mp first
      exact .reference listed (by simpa using known) (by simpa using unknown)
  · rintro (⟨invalid⟩ | ⟨listed,known,unknown⟩)
    · exact ⟨_,by simp [flaw?,invalid],rfl⟩
    · refine ⟨_,Option.map_eq_some_iff.mpr ⟨_,?_,rfl⟩,rfl⟩
      refine List.find?_eq_some_iff_append.mpr ⟨by simpa using unknown,_,_,listed,by simpa using known⟩

end GrammarSymbol

namespace Grammar

variable {stored grammar : Grammar} {fault : Fault}

theorem canonical_error : stored.canonical = .error fault ↔ FirstFault GrammarSymbol.Unlaid stored.symbols fault := by
  have unlaid := @mapM_error _ _ _ GrammarSymbol.canonical stored.symbols fault
  simp only [GrammarSymbol.canonical_error] at unlaid
  unfold canonical
  rw [← unlaid,bind_error]
  simp [pure,Except.pure]

variable [Regex.Library]

-- What validation asks of a grammar.
structure Valid (grammar : Grammar) : Prop where
  patterns : ∀ symbol ∈ grammar.symbols, ∀ regex, symbol.kind = .terminal (.pattern regex) → Regex.isValid regex = true
  edges : ∀ symbol ∈ grammar.symbols, ∀ production, symbol.kind = .production production →
    ∀ id ∈ production.automaton.symbols, id < grammar.size

theorem validate_ok : grammar.validate = .ok () ↔ grammar.Valid := by
  simp only [validate_iff,GrammarSymbol.flaw?_none_iff,forall_and]
  exact ⟨fun ⟨patterns,edges⟩ => ⟨patterns,edges⟩,fun valid => ⟨valid.patterns,valid.edges⟩⟩

theorem validate_error : grammar.validate = .error fault ↔
    FirstFault (GrammarSymbol.Invalid grammar.size) grammar.symbols fault := by
  have first : grammar.validate = .error fault ↔
      ∃ flaw, grammar.symbols.findSome? (·.flaw? grammar.size) = some flaw ∧ fault = .invalidGrammar flaw := by
    unfold validate
    split
    · rename_i found
      simp [found,eq_comm]
    · rename_i found
      simp [found]
  rw [first]
  generalize grammar.size = symbolCount
  induction grammar.symbols with
  | nil => exact ⟨nofun,fun found => absurd found firstFault_nil⟩
  | cons symbol rest ih =>
    rw [firstFault_cons,List.findSome?_cons]
    simp only [← GrammarSymbol.flaw?_some,← ih]
    cases symbol.flaw? symbolCount with
    | none => simp
    | some flaw => simp

theorem parse_ok {text : String} (decoded : (Json.Value.parse? text).bind ofJson? = some stored) :
    parse text = .ok grammar ↔ stored.Laid grammar ∧ grammar.Valid := by
  unfold parse
  rw [decoded,← validate_ok]
  exact ofStored_iff

theorem parse_error {text : String} (decoded : (Json.Value.parse? text).bind ofJson? = some stored) :
    parse text = .error fault ↔ FirstFault GrammarSymbol.Unlaid stored.symbols fault ∨
      ∃ laid, stored.Laid laid ∧ FirstFault (GrammarSymbol.Invalid laid.size) laid.symbols fault := by
  unfold parse
  rw [decoded]
  change stored.ofStored = .error fault ↔ _
  unfold ofStored
  rw [bind_error,canonical_error]
  simp only [canonical_ok,bind_error,validate_error]
  simp [pure,Except.pure]

end Grammar

-- A symbol as it stands in a draft.
def GrammarSymbol.drafted (symbol : GrammarSymbol) : DraftSymbol := ⟨symbol.name,some symbol.kind⟩

-- The fault of a symbol that was declared only.
inductive DraftSymbol.Undefined : DraftSymbol → Fault → Prop where
  | declared (name : String) : Undefined ⟨name,none⟩ (.invalidGrammar (.undefined name))

namespace Draft

section Bodies

variable {draft next : Draft} {symbols : List DraftSymbol} {command : Command} {commands : List Command}
  {result : Except Refusal (Option SymbolId)} {id : SymbolId}

-- A symbol that was declared and has no body.
def Pending (symbols : List DraftSymbol) (id : SymbolId) : Prop := ∃ name, symbols[id]? = some ⟨name,none⟩

theorem pending_append {symbol : DraftSymbol} : Pending (symbols ++ [symbol]) id ↔
    Pending symbols id ∨ id = symbols.length ∧ symbol.kind = none := by
  unfold Pending
  obtain ⟨name,kind⟩ := symbol
  simp [concat_getElem?,exists_or,@eq_comm _ none kind]

theorem pending_modify {target : SymbolId} {production : Production} :
    Pending (symbols.modify target fun symbol => { symbol with kind := some (.production production) }) id ↔
      Pending symbols id ∧ id ≠ target := by
  unfold Pending
  rw [List.getElem?_modify]
  by_cases same : target = id
  · subst same
    simp
  · simp [same,Ne.symm same]

theorem Pending.lt (pending : Pending symbols id) : id < symbols.length := by
  obtain ⟨_,found⟩ := pending
  exact (List.getElem?_eq_some_iff.mp found).1

-- What a command does to the symbols without a body.
theorem Executed.pending_iff (step : Executed draft command result next) : Pending next.symbols id ↔
    Pending draft.symbols id ∧ command.target? ≠ some id ∨ (∃ name, command = .declare name) ∧ id = draft.symbols.length := by
  cases step with
  | introduced made unknown =>
    have idle : command.target? ≠ some id := by
      intro aimed
      cases made.symm.trans (Command.symbol?_of_target aimed)
    rw [pending_append,Command.bodiless_iff made,and_iff_left idle,and_comm (a := id = _)]
  | known same found =>
    subst same
    simp [Command.target?]
  | @defined target aimed inside =>
    obtain ⟨production,body⟩ := Command.body?_of_target aimed
    have other : ∀ name, command ≠ .declare name := by
      rintro name rfl
      cases aimed
    rw [body,pending_modify,aimed]
    simp [other,eq_comm]
  | @refused target aimed outside =>
    have other : ∀ name, command ≠ .declare name := by
      rintro name rfl
      cases aimed
    simp only [other,exists_false,false_and,or_false]
    refine (and_iff_left_of_imp ?_).symm
    intro pending same
    rw [aimed] at same
    cases same
    exact absurd pending.lt (Nat.not_lt.mpr outside)

-- Every symbol that was declared is given a body later on.
def AllDefined (commands : List Command) : Prop :=
  ∀ before name after, commands = before ++ .declare name :: after →
    ∃ command ∈ after, command.target? = some ((ofCommands before).declare name).1

-- A body is missing where a symbol was declared and no later command gave it one.
theorem pending_iff : Pending (ofCommands commands).symbols id ↔ ∃ before name after, commands = before ++ .declare name :: after ∧
    id = (ofCommands before).symbols.length ∧ ∀ command ∈ after, command.target? ≠ some id := by
  induction commands using List.reverseRecOn with
  | nil =>
    constructor
    · rintro ⟨_,found⟩
      cases found
    · rintro ⟨before,name,after,same,_⟩
      cases before <;> cases same
  | append_singleton commands command ih =>
    rw [(executed commands command).pending_iff,ih]
    constructor
    · rintro (⟨⟨before,name,after,rfl,rfl,bare⟩,idle⟩ | ⟨⟨name,rfl⟩,rfl⟩)
      · refine ⟨before,name,after ++ [command],by simp,rfl,?_⟩
        exact List.forall_mem_append.mpr ⟨bare,List.forall_mem_singleton.mpr idle⟩
      · exact ⟨commands,name,[],rfl,rfl,nofun⟩
    · rintro ⟨before,name,after,same,rfl,bare⟩
      rcases concat_eq_split.mp same with ⟨earlier,rfl,rfl⟩ | ⟨rfl,rfl,rfl⟩
      · obtain ⟨bare,idle⟩ := List.forall_mem_append.mp bare
        exact .inl ⟨⟨before,name,earlier,rfl,rfl,bare⟩,idle command List.mem_cons_self⟩
      · exact .inr ⟨⟨name,rfl⟩,rfl⟩

theorem allDefined_iff : AllDefined commands ↔ ∀ symbol ∈ (ofCommands commands).symbols, symbol.kind ≠ none := by
  constructor
  · rintro defined ⟨name,kind⟩ member rfl
    obtain ⟨id,found⟩ := List.mem_iff_getElem?.mp member
    obtain ⟨before,name,after,same,rfl,bare⟩ := pending_iff.mp ⟨name,found⟩
    obtain ⟨command,later,defines⟩ := defined before name after same
    exact bare command later defines
  · intro bodies before name after same
    by_contra bare
    push Not at bare
    obtain ⟨missing,found⟩ := pending_iff.mpr ⟨before,name,after,same,rfl,bare⟩
    exact bodies _ (List.mem_of_getElem? found) rfl

end Bodies

variable {draft : Draft} {grammar : Grammar} {fault : Fault}

theorem finished_ok {symbols : List DraftSymbol} {done : List GrammarSymbol} :
    finished symbols = .ok done ↔ symbols = done.map GrammarSymbol.drafted := by
  induction symbols generalizing done with
  | nil => cases done <;> simp [finished]
  | cons symbol rest ih =>
    obtain ⟨name,kind⟩ := symbol
    unfold finished
    cases kind with
    | none => cases done <;> simp [GrammarSymbol.drafted]
    | some kind =>
      dsimp only
      rw [bind_ok]
      simp only [ih]
      constructor
      · rintro ⟨more,rfl,same⟩
        cases same
        rfl
      · intro same
        cases done with
        | nil => cases same
        | cons first more =>
          cases same
          exact ⟨more,rfl,rfl⟩

-- Every symbol has a kind where they are those of a grammar.
theorem drafted_iff {symbols : List DraftSymbol} :
    (∃ grammar : Grammar, symbols = grammar.symbols.map GrammarSymbol.drafted) ↔ ∀ symbol ∈ symbols, symbol.kind ≠ none := by
  constructor
  · rintro ⟨grammar,rfl⟩
    simp [GrammarSymbol.drafted]
  · intro kinds
    have each : symbols ∈ Set.range (List.map GrammarSymbol.drafted) := by
      rw [Set.range_list_map]
      rintro ⟨name,kind⟩ member
      obtain ⟨kind,rfl⟩ := Option.ne_none_iff_exists'.mp (kinds _ member)
      exact ⟨⟨name,kind⟩,rfl⟩
    obtain ⟨done,rfl⟩ := each
    exact ⟨⟨done⟩,rfl⟩

theorem finished_error {symbols : List DraftSymbol} :
    (∃ flaw, finished symbols = .error flaw ∧ fault = .invalidGrammar flaw) ↔ FirstFault DraftSymbol.Undefined symbols fault := by
  induction symbols with
  | nil =>
    constructor
    · rintro ⟨flaw,same,_⟩
      cases same
    · exact fun found => absurd found firstFault_nil
  | cons symbol rest ih =>
    obtain ⟨name,kind⟩ := symbol
    unfold finished
    rw [firstFault_cons,← ih]
    cases kind with
    | none =>
      constructor
      · rintro ⟨flaw,same,rfl⟩
        cases same
        exact .inl (.declared name)
      · intro found
        cases found with
        | inl undefined =>
          cases undefined
          exact ⟨_,rfl,rfl⟩
        | inr later => exact absurd (.declared name) (later.1 _)
    | some kind =>
      have known : ∀ fault, ¬DraftSymbol.Undefined ⟨name,some kind⟩ fault := by
        intro fault undefined
        cases undefined
      simp [known,bind_error,pure,Except.pure]

variable [Regex.Library]

-- What validation asks of the symbols of a draft that have a kind.
structure Valid (draft : Draft) : Prop where
  patterns : ∀ symbol ∈ draft.symbols, ∀ regex, symbol.kind = some (.terminal (.pattern regex)) → Regex.isValid regex = true
  edges : ∀ symbol ∈ draft.symbols, ∀ production, symbol.kind = some (.production production) →
    ∀ id ∈ production.automaton.symbols, id < draft.symbols.length

theorem valid_iff (same : draft.symbols = grammar.symbols.map GrammarSymbol.drafted) : draft.Valid ↔ grammar.Valid := by
  have size : draft.symbols.length = grammar.size := by
    rw [same,List.length_map]
    rfl
  constructor
  · rintro ⟨patterns,edges⟩
    rw [size] at edges
    rw [same] at patterns edges
    simp only [List.forall_mem_map,GrammarSymbol.drafted,Option.some.injEq] at patterns edges
    exact ⟨patterns,edges⟩
  · rintro ⟨patterns,edges⟩
    refine ⟨?_,?_⟩
    · simpa only [same,List.forall_mem_map,GrammarSymbol.drafted,Option.some.injEq] using patterns
    · rw [size]
      simpa only [same,List.forall_mem_map,GrammarSymbol.drafted,Option.some.injEq] using edges

theorem build_ok : draft.build = .ok grammar ↔ draft.symbols = grammar.symbols.map GrammarSymbol.drafted ∧ grammar.Valid := by
  unfold build
  rw [← finished_ok,← Grammar.validate_ok]
  split
  · rename_i refused
    simp [refused]
  · rename_i done
    rw [done,checked_ok]
    constructor
    · rintro ⟨valid,same⟩
      cases same
      exact ⟨rfl,valid⟩
    · rintro ⟨same,valid⟩
      cases same
      exact ⟨valid,rfl⟩

theorem build_error : draft.build = .error fault ↔ FirstFault DraftSymbol.Undefined draft.symbols fault ∨
    ∃ grammar : Grammar, draft.symbols = grammar.symbols.map GrammarSymbol.drafted ∧
      FirstFault (GrammarSymbol.Invalid grammar.size) grammar.symbols fault := by
  unfold build
  simp only [← finished_ok,← finished_error,← Grammar.validate_error]
  split
  · rename_i refused
    simp [refused,eq_comm]
  · rename_i done
    simp only [bind_error,done,Except.ok.injEq]
    constructor
    · rintro (refused | ⟨_,_,same⟩)
      · exact .inr ⟨⟨_⟩,rfl,refused⟩
      · cases same
    · rintro (⟨_,same,_⟩ | ⟨grammar,rfl,refused⟩)
      · cases same
      · exact .inl refused

theorem ofCommands_built (commands : List Command) : (∃ grammar, (ofCommands commands).build = .ok grammar) ↔
    AllDefined commands ∧ (ofCommands commands).Valid := by
  rw [allDefined_iff,← drafted_iff]
  constructor
  · rintro ⟨grammar,built⟩
    obtain ⟨same,valid⟩ := build_ok.mp built
    exact ⟨⟨grammar,same⟩,(valid_iff same).mpr valid⟩
  · rintro ⟨⟨grammar,same⟩,valid⟩
    exact ⟨grammar,build_ok.mpr ⟨same,(valid_iff same).mp valid⟩⟩

-- The automata of a grammar that is built are those that commands gave.
theorem built_given {commands : List Command} (built : (ofCommands commands).build = .ok grammar) :
    ∀ symbol ∈ grammar.symbols, ∀ production, symbol.kind = .production production →
      ∃ command ∈ commands, command.automaton? = some production.automaton := by
  intro symbol member production kind
  have drafted : symbol.drafted ∈ (ofCommands commands).symbols := (build_ok.mp built).1 ▸ List.mem_map_of_mem member
  exact automaton_given drafted (congrArg some kind)

theorem ofCommands_wellFormed {commands : List Command} (given : ∀ command ∈ commands, command.Given)
    (built : (ofCommands commands).build = .ok grammar) : grammar.WellFormed := by
  obtain ⟨_,valid⟩ := build_ok.mp built
  refine ⟨valid.patterns,valid.edges,?_⟩
  intro symbol member production kind
  obtain ⟨command,listed,gives⟩ := built_given built symbol member production kind
  exact (given command listed).wellFormed gives

end Draft

-- A record is admitted when every layout is canonical or can be made so, every pattern compiles and every edge is on a
-- symbol, and a draft when every declared symbol was defined and the same holds of patterns and edges. What is
-- admitted is well-formed, and a record that is well-formed already is admitted as it stands. What is not admitted
-- is refused for its first symbol with a fault: of layout before others, of a missing definition before others.
-- Which patterns compile is for the library to say.
theorem admission_exact [Regex.Library] :
    (∀ text stored, (Json.Value.parse? text).bind Grammar.ofJson? = some stored →
      (∀ grammar, Grammar.parse text = .ok grammar ↔ stored.Laid grammar ∧ grammar.Valid) ∧
      (Grammar.parse text = .ok stored ↔ stored.WellFormed) ∧
      ∀ fault, Grammar.parse text = .error fault ↔ FirstFault GrammarSymbol.Unlaid stored.symbols fault ∨
        ∃ laid, stored.Laid laid ∧ FirstFault (GrammarSymbol.Invalid laid.size) laid.symbols fault) ∧
    (∀ commands, ((∃ grammar, (Draft.ofCommands commands).build = .ok grammar) ↔
        Draft.AllDefined commands ∧ (Draft.ofCommands commands).Valid) ∧
      (∀ grammar, (Draft.ofCommands commands).build = .ok grammar →
        (Draft.ofCommands commands).symbols = grammar.symbols.map GrammarSymbol.drafted) ∧
      ∀ fault, (Draft.ofCommands commands).build = .error fault ↔
        FirstFault DraftSymbol.Undefined (Draft.ofCommands commands).symbols fault ∨
          ∃ grammar : Grammar, (Draft.ofCommands commands).symbols = grammar.symbols.map GrammarSymbol.drafted ∧
            FirstFault (GrammarSymbol.Invalid grammar.size) grammar.symbols fault) ∧
    ∀ grammar, (∃ text, Grammar.parse text = .ok grammar) ∨
      (∃ commands, (∀ command ∈ commands, command.Given) ∧ (Draft.ofCommands commands).build = .ok grammar) →
      grammar.WellFormed := by
  have read : ∀ {text grammar}, Grammar.parse text = .ok grammar → grammar.WellFormed := by
    intro text grammar admitted
    obtain ⟨stored,_,laid⟩ := Grammar.parse_iff.mp admitted
    exact Grammar.ofStored_wellFormed laid
  refine ⟨?_,?_,?_⟩
  · intro text stored decoded
    refine ⟨fun grammar => Grammar.parse_ok decoded,⟨read,?_⟩,fun fault => Grammar.parse_error decoded⟩
    intro wellFormed
    exact Grammar.parse_iff.mpr ⟨stored,decoded,wellFormed.ofStored_self⟩
  · intro commands
    exact ⟨Draft.ofCommands_built commands,fun grammar built => (Draft.build_ok.mp built).1,fun fault => Draft.build_error⟩
  · intro grammar admitted
    cases admitted with
    | inl parsed =>
      obtain ⟨text,admitted⟩ := parsed
      exact read admitted
    | inr drafted =>
      obtain ⟨commands,given,built⟩ := drafted
      exact Draft.ofCommands_wellFormed given built

-- A pattern that does not compile, followed by an automaton with a state too many and by a declaration: either way the
-- later fault is reported.
def brokenText : String :=
  "[[[\"a\",\x7b\"Terminal\":\x7b\"Pattern\":[\"[\"]\x7d\x7d],[\"p\",\x7b\"Production\":[[1,[0],[1],[[]]],false]\x7d]]]"

def broken : Grammar := ⟨[⟨"a",.terminal (.pattern "[")⟩,⟨"p",.production ⟨⟨1,[0],[1],[[]]⟩,false⟩⟩]⟩

theorem broken_refused : Regex.isValid "[" = false ∧
    Grammar.parse brokenText = .error (.invalidGrammar (.badLayout "p" (.missingState 1 1))) ∧
    (Draft.ofCommands [.terminal "a" (.pattern "["),.declare "p"]).build = .error (.invalidGrammar (.undefined "p")) := by
  have decoded : (Json.Value.parse? brokenText).bind Grammar.ofJson? = some broken := by decide +kernel
  obtain ⟨stored,drafted,_⟩ := admission_exact
  refine ⟨by decide +kernel,?_,?_⟩
  · refine ((stored brokenText broken decoded).2.2 _).mpr (.inl ⟨[_],_,[],rfl,?_,.production rfl⟩)
    intro other member
    cases List.mem_singleton.mp member
    nofun
  · refine ((drafted _).2.2 _).mpr (.inl ⟨[_],_,[],rfl,?_,.declared "p"⟩)
    intro other member
    cases List.mem_singleton.mp member
    nofun

end ParseForest
