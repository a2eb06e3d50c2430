import Mathlib
import ParseForest.Proofs.Admission
import ParseForest.Proofs.Json.Read

namespace ParseForest

open Json

section Lists

variable {α : Type} {read : Value → Option α} {write : α → Value} {items : List α}

theorem list_written (each : ∀ item ∈ items, read (write item) = some item) :
    Value.list? read (.array (items.map write)) = some items := by
  change (items.map write).mapM read = some items
  induction items with
  | nil => rfl
  | cons item rest ih =>
    rw [List.map_cons,List.mapM_cons,each item List.mem_cons_self,ih fun other member => each other (List.mem_cons_of_mem _ member)]
    rfl

theorem plain_list (each : ∀ item ∈ items, (write item).Plain) : (Value.array (items.map write)).Plain := by
  refine .array ?_
  intro value member
  obtain ⟨item,listed,rfl⟩ := List.mem_map.mp member
  exact each item listed

end Lists

theorem identifier_written {value : Nat} (fits : value < Limits.identifiers) : identifier? (.natural value) = some value := if_pos fits

theorem naturals_written {values : List Nat} (fits : ∀ value ∈ values, value < Limits.identifiers) :
    Value.list? identifier? (storedNaturals values) = some values :=
  list_written fun value member => identifier_written (fits value member)

theorem naturals_plain (values : List Nat) : (storedNaturals values).Plain := plain_list fun value _ => .natural value

-- Records and choices are written as objects, and plain when their parts are.
theorem record_plain {members : List (String × Value)} (each : members.Forall fun member => member.2.Plain) :
    (Value.object members).Plain := .object (List.forall_iff_forall_mem.mp each)

theorem Terminal.toJson_plain (terminal : Terminal) : terminal.toJson.Plain := by
  cases terminal with
  | any => exact .string _
  | range low high => exact record_plain (record_plain ⟨.string _,.string _⟩)
  | _ => exact record_plain (record_plain (.string _))

theorem Terminal.ofJson_toJson (terminal : Terminal) : Terminal.ofJson? terminal.toJson = some terminal := by
  cases terminal with
  | range low high =>
    have single : ∀ c : Char, Value.char? (.string (String.ofList [c])) = some c := by simp [Value.char?]
    change (do return Terminal.range (← Value.char? (.string (String.ofList [low]))) (← Value.char? (.string (String.ofList [high])))) = _
    rw [single,single]
    rfl
  | _ => rfl

theorem Edge.toJson_plain (edge : Edge) : edge.toJson.Plain := record_plain ⟨.natural _,naturals_plain _⟩

theorem Edge.ofJson_toJson {edge : Edge} (symbol : edge.symbol < Limits.identifiers)
    (targets : ∀ state ∈ edge.targets, state < Limits.identifiers) : Edge.ofJson? edge.toJson = some edge := by
  change (do return (⟨← identifier? (.natural edge.symbol),← Value.list? identifier? (storedNaturals edge.targets)⟩ : Edge)) = some edge
  rw [identifier_written symbol,naturals_written targets]
  rfl

theorem Automaton.toJson_plain (automaton : Automaton) : automaton.toJson.Plain :=
  record_plain ⟨.natural _,naturals_plain _,naturals_plain _,plain_list fun _ _ => plain_list fun edge _ => edge.toJson_plain⟩

theorem Automaton.ofJson_toJson {automaton : Automaton} (wellFormed : automaton.WellFormed) (fits : automaton.Fits) :
    Automaton.ofJson? automaton.toJson = some automaton := by
  have below : ∀ state, state < automaton.stateCount → state < Limits.identifiers := fun _ inside => inside.trans fits.stateCount
  have rows : Value.list? (Value.list? Edge.ofJson?) (.array (automaton.rows.map fun row => .array (row.map Edge.toJson))) =
      some automaton.rows := by
    refine list_written ?_
    intro row stored
    refine list_written ?_
    intro edge listed
    have known : edge.symbol ∈ automaton.symbols := List.mem_map_of_mem (List.mem_flatten_of_mem stored listed)
    refine Edge.ofJson_toJson (fits.symbols _ known) ?_
    intro state target
    exact below state ((wellFormed.targets row stored edge listed).2 state target)
  change (do return (⟨← identifier? (.natural automaton.stateCount),← Value.list? identifier? (storedNaturals automaton.start),
    ← Value.list? identifier? (storedNaturals automaton.accept),← Value.list? (Value.list? Edge.ofJson?) _⟩ : Automaton)) = _
  rw [identifier_written fits.stateCount,naturals_written fun state member => below state (wellFormed.start.2 state member),
    naturals_written fun state member => below state (wellFormed.accept.2 state member),rows]
  rfl

theorem Production.toJson_plain (production : Production) : production.toJson.Plain :=
  record_plain ⟨production.automaton.toJson_plain,.bool _⟩

theorem Production.ofJson_toJson {production : Production} (wellFormed : production.automaton.WellFormed)
    (fits : production.automaton.Fits) : Production.ofJson? production.toJson = some production := by
  change (do return (⟨← Automaton.ofJson? production.automaton.toJson,production.greedy⟩ : Production)) = _
  rw [Automaton.ofJson_toJson wellFormed fits]
  rfl

theorem GrammarSymbol.toJson_plain (symbol : GrammarSymbol) : symbol.toJson.Plain := by
  obtain ⟨name,kind⟩ := symbol
  cases kind with
  | terminal terminal => exact record_plain ⟨.string _,record_plain terminal.toJson_plain⟩
  | production production => exact record_plain ⟨.string _,record_plain production.toJson_plain⟩

def GrammarSymbol.Fits (symbol : GrammarSymbol) : Prop :=
  ∀ production, symbol.kind = .production production → production.automaton.Fits

theorem GrammarSymbol.ofJson_toJson {symbol : GrammarSymbol}
    (wellFormed : ∀ production, symbol.kind = .production production → production.automaton.WellFormed) (fits : symbol.Fits) :
    GrammarSymbol.ofJson? symbol.toJson = some symbol := by
  obtain ⟨name,kind⟩ := symbol
  have read : SymbolKind.ofJson? kind.toJson = some kind := by
    cases kind with
    | terminal terminal =>
      change (do return SymbolKind.terminal (← Terminal.ofJson? terminal.toJson)) = _
      rw [terminal.ofJson_toJson]
      rfl
    | production production =>
      change (do return SymbolKind.production (← Production.ofJson? production.toJson)) = _
      rw [Production.ofJson_toJson (wellFormed production rfl) (fits production rfl)]
      rfl
  change (do return (⟨name,← SymbolKind.ofJson? kind.toJson⟩ : GrammarSymbol)) = _
  rw [read]
  rfl

theorem Grammar.toJson_plain (grammar : Grammar) : grammar.toJson.Plain :=
  record_plain (plain_list fun symbol _ => symbol.toJson_plain)

-- What is read has numbers of 32 bits, whatever the text.
theorem list_read {α : Type} {read : Value → Option α} {value : Value} {items : List α} {item : α}
    (accepted : Value.list? read value = some items) (member : item ∈ items) : ∃ part, read part = some item := by
  cases value with
  | array parts =>
    change parts.mapM read = some items at accepted
    induction parts generalizing items with
    | nil =>
      cases accepted
      cases member
    | cons part rest ih =>
      rw [List.mapM_cons] at accepted
      obtain ⟨first,found,others⟩ := Option.bind_eq_some_iff.mp accepted
      obtain ⟨more,read_more,same⟩ := Option.bind_eq_some_iff.mp others
      cases same
      rcases List.mem_cons.mp member with rfl | later
      · exact ⟨part,found⟩
      · exact ih later read_more
  | _ => cases accepted

theorem natural_read {bound number : Nat} {value : Value} (accepted : value.natural? bound = some number) : number < bound := by
  cases value with
  | natural given =>
    change (if given < bound then some given else none) = some number at accepted
    split at accepted
    · rename_i fits
      cases accepted
      exact fits
    · cases accepted
  | _ => cases accepted

theorem Edge.symbol_read {value : Value} {edge : Edge} (accepted : Edge.ofJson? value = some edge) :
    edge.symbol < Limits.identifiers := by
  obtain ⟨fields,_,rest⟩ := Option.bind_eq_some_iff.mp accepted
  split at rest
  · obtain ⟨symbol,known,more⟩ := Option.bind_eq_some_iff.mp rest
    obtain ⟨targets,_,same⟩ := Option.bind_eq_some_iff.mp more
    cases same
    exact natural_read known
  · cases rest

theorem Automaton.fits_read {value : Value} {automaton : Automaton} (accepted : Automaton.ofJson? value = some automaton) :
    automaton.Fits := by
  obtain ⟨fields,_,rest⟩ := Option.bind_eq_some_iff.mp accepted
  split at rest
  · obtain ⟨stateCount,counted,more⟩ := Option.bind_eq_some_iff.mp rest
    obtain ⟨start,_,more⟩ := Option.bind_eq_some_iff.mp more
    obtain ⟨accept,_,more⟩ := Option.bind_eq_some_iff.mp more
    obtain ⟨rows,listed,same⟩ := Option.bind_eq_some_iff.mp more
    cases same
    refine ⟨natural_read counted,?_⟩
    intro symbol member
    obtain ⟨edge,inside,rfl⟩ := List.mem_map.mp member
    obtain ⟨row,stored,entry⟩ := List.mem_flatten.mp inside
    obtain ⟨part,read⟩ := list_read listed stored
    obtain ⟨piece,found⟩ := list_read read entry
    exact Edge.symbol_read found
  · cases rest

theorem Production.fits_read {value : Value} {production : Production} (accepted : Production.ofJson? value = some production) :
    production.automaton.Fits := by
  obtain ⟨fields,_,rest⟩ := Option.bind_eq_some_iff.mp accepted
  split at rest
  · obtain ⟨automaton,known,more⟩ := Option.bind_eq_some_iff.mp rest
    obtain ⟨greedy,_,same⟩ := Option.bind_eq_some_iff.mp more
    cases same
    exact Automaton.fits_read known
  · cases rest

theorem SymbolKind.fits_read {value : Value} {production : Production}
    (accepted : SymbolKind.ofJson? value = some (.production production)) : production.automaton.Fits := by
  obtain ⟨choice,_,rest⟩ := Option.bind_eq_some_iff.mp accepted
  split at rest
  · obtain ⟨terminal,_,same⟩ := Option.bind_eq_some_iff.mp rest
    cases same
  · obtain ⟨body,known,same⟩ := Option.bind_eq_some_iff.mp rest
    cases same
    exact Production.fits_read known
  · cases rest

theorem GrammarSymbol.fits_read {value : Value} {symbol : GrammarSymbol} (accepted : GrammarSymbol.ofJson? value = some symbol) :
    symbol.Fits := by
  obtain ⟨fields,_,rest⟩ := Option.bind_eq_some_iff.mp accepted
  split at rest
  · obtain ⟨name,_,more⟩ := Option.bind_eq_some_iff.mp rest
    obtain ⟨kind,known,same⟩ := Option.bind_eq_some_iff.mp more
    cases same
    rintro production rfl
    exact SymbolKind.fits_read known
  · cases rest

theorem Grammar.fits_read {value : Value} {grammar : Grammar} (accepted : Grammar.ofJson? value = some grammar) :
    ∀ symbol ∈ grammar.symbols, symbol.Fits := by
  obtain ⟨fields,_,rest⟩ := Option.bind_eq_some_iff.mp accepted
  split at rest
  · obtain ⟨symbols,listed,same⟩ := Option.bind_eq_some_iff.mp rest
    cases same
    intro symbol member
    obtain ⟨part,read⟩ := list_read listed member
    exact GrammarSymbol.fits_read read
  · cases rest

theorem Automaton.Fits.canonical {automaton canonicalized : Automaton} (fits : automaton.Fits)
    (accepted : automaton.canonical = .ok canonicalized) : canonicalized.Fits := by
  obtain ⟨_,rfl⟩ := Automaton.canonical_iff.mp accepted
  refine ⟨fits.stateCount,?_⟩
  intro symbol member
  obtain ⟨edge,listed,rfl⟩ := List.mem_map.mp member
  obtain ⟨row,arranged,inside⟩ := List.mem_flatten.mp listed
  obtain ⟨edges,stored,rfl⟩ := List.mem_map.mp arranged
  obtain ⟨entry,kept,same⟩ := List.mem_map.mp (Automaton.canonicalRow_mem_symbols.mp (List.mem_map_of_mem inside))
  exact fits.symbols _ (same ▸ List.mem_map_of_mem (List.mem_flatten_of_mem stored kept))

section

variable [Regex.Library]

theorem Grammar.ofJson_toJson {grammar : Grammar} (wellFormed : grammar.WellFormed) (fits : ∀ symbol ∈ grammar.symbols, symbol.Fits) :
    Grammar.ofJson? grammar.toJson = some grammar := by
  have symbols : Value.list? GrammarSymbol.ofJson? (.array (grammar.symbols.map GrammarSymbol.toJson)) = some grammar.symbols :=
    list_written fun symbol member => GrammarSymbol.ofJson_toJson (wellFormed.automata symbol member) (fits symbol member)
  change (do return (⟨← Value.list? GrammarSymbol.ofJson? _⟩ : Grammar)) = _
  rw [symbols]
  rfl

-- A well-formed grammar is read back as it was written.
theorem Grammar.WellFormed.parse_render {grammar : Grammar} (wellFormed : grammar.WellFormed)
    (fits : ∀ symbol ∈ grammar.symbols, symbol.Fits) : Grammar.parse grammar.render = .ok grammar := by
  refine Grammar.parse_iff.mpr ⟨grammar,?_,wellFormed.ofStored_self⟩
  rw [Grammar.render,grammar.toJson_plain.parse_render]
  exact Grammar.ofJson_toJson wellFormed fits

theorem Grammar.parse_fits {text : String} {grammar : Grammar} (accepted : Grammar.parse text = .ok grammar) :
    grammar.WellFormed ∧ ∀ symbol ∈ grammar.symbols, symbol.Fits := by
  obtain ⟨stored,read,admitted⟩ := Grammar.parse_iff.mp accepted
  obtain ⟨value,_,decoded⟩ := Option.bind_eq_some_iff.mp read
  refine ⟨Grammar.ofStored_wellFormed admitted,?_⟩
  intro symbol member
  obtain ⟨before,listed,laid⟩ := exists_of_forall₂ (Grammar.ofStored_iff.mp admitted).1 member
  have fits := Grammar.fits_read decoded before listed
  cases laid with
  | terminal name terminal => exact fits
  | production name greedy accepted =>
    rintro production ⟨⟩
    exact (fits _ rfl).canonical accepted

theorem Draft.built_fits {commands : List Command} {grammar : Grammar} (fits : ∀ command ∈ commands, command.Fits)
    (built : (ofCommands commands).build = .ok grammar) : ∀ symbol ∈ grammar.symbols, symbol.Fits := by
  intro symbol member production kind
  obtain ⟨command,listed,gives⟩ := built_given built symbol member production kind
  exact (fits command listed).fits_automaton gives

-- Every grammar that can be had, by commands to a draft or by reading a text, is read back as it was written.
theorem grammar_round_trip {grammar : Grammar}
    (had : (∃ commands : List Draft.Command, (∀ command ∈ commands, command.Given ∧ command.Fits) ∧
      (Draft.ofCommands commands).build = .ok grammar) ∨ ∃ text, Grammar.parse text = .ok grammar) :
    Grammar.parse grammar.render = .ok grammar := by
  rcases had with ⟨commands,able,built⟩ | ⟨text,accepted⟩
  · have wellFormed := Draft.ofCommands_wellFormed (fun command listed => (able command listed).1) built
    exact wellFormed.parse_render (Draft.built_fits (fun command listed => (able command listed).2) built)
  · obtain ⟨wellFormed,fits⟩ := Grammar.parse_fits accepted
    exact wellFormed.parse_render fits

end

-- A small grammar with a quote in a name and all kinds of escapes in a literal.
def escapeAutomaton : Automaton := ⟨3,[0],[1,2],[[⟨0,[1]⟩],[⟨1,[2]⟩],[⟨1,[2]⟩]]⟩

def escapes : Grammar :=
  ⟨[⟨"\"",.terminal (.literal "é\n\x01\\\x7f")⟩,⟨"list",.production ⟨escapeAutomaton,true⟩⟩]⟩

def escaping : List Draft.Command :=
  [.terminal "\"" (.literal "é\n\x01\\\x7f"),.production "list" (.sequence [.symbol 0,.star (.symbol 1)]) true]

theorem escapes_round_trip : (∀ command ∈ escaping, command.Given ∧ command.Fits) ∧
    (Draft.ofCommands escaping).build = .ok escapes ∧ Grammar.parse escapes.render = .ok escapes := by
  have able : ∀ command ∈ escaping, command.Given ∧ command.Fits := by
    refine List.forall_mem_cons.mpr ⟨⟨trivial,trivial⟩,List.forall_mem_singleton.mpr ⟨trivial,?_⟩⟩
    exact ⟨by decide,by decide⟩
  have built : (Draft.ofCommands escaping).build = .ok escapes := rfl
  exact ⟨able,built,grammar_round_trip (.inl ⟨escaping,able,built⟩)⟩

end ParseForest
