import Mathlib
import ParseForest.Grammar.Json
import ParseForest.Proofs.Layout.Canonical

namespace ParseForest

namespace GrammarSymbol

variable {symbol laid : GrammarSymbol}

-- Bringing a symbol into canonical layout touches the automaton of a production only.
inductive Laid : GrammarSymbol → GrammarSymbol → Prop where
  | terminal (name : String) (terminal : Terminal) : Laid ⟨name,.terminal terminal⟩ ⟨name,.terminal terminal⟩
  | production (name : String) (greedy : Bool) {automaton canonicalized : Automaton}
      (accepted : automaton.canonical = .ok canonicalized) :
      Laid ⟨name,.production ⟨automaton,greedy⟩⟩ ⟨name,.production ⟨canonicalized,greedy⟩⟩

theorem canonical_iff : symbol.canonical = .ok laid ↔ Laid symbol laid := by
  constructor
  · intro accepted
    obtain ⟨name,kind⟩ := symbol
    cases kind with
    | terminal terminal =>
      cases accepted
      exact .terminal name terminal
    | production production =>
      simp only [canonical] at accepted
      cases layout : production.automaton.canonical with
      | error =>
        rw [layout] at accepted
        cases accepted
      | ok canonicalized =>
        rw [layout] at accepted
        cases accepted
        exact .production name production.greedy layout
  · rintro (⟨name,terminal⟩ | ⟨name,greedy,accepted⟩)
    · rfl
    · simp only [canonical,accepted]

variable [Regex.Library]

theorem flaw?_none_iff {symbolCount : Nat} : symbol.flaw? symbolCount = none ↔
    (∀ regex, symbol.kind = .terminal (.pattern regex) → Regex.isValid regex = true) ∧
      ∀ production, symbol.kind = .production production → ∀ id ∈ production.automaton.symbols, id < symbolCount := by
  obtain ⟨name,kind⟩ := symbol
  cases kind with
  | terminal terminal => cases terminal <;> simp [flaw?]
  | production production => simp [flaw?]

end GrammarSymbol

namespace Grammar

variable {stored grammar : Grammar}

-- Bringing a grammar into canonical layout does so for each of its symbols.
def Laid (stored laid : Grammar) : Prop := List.Forall₂ GrammarSymbol.Laid stored.symbols laid.symbols

theorem canonical_ok : stored.canonical = .ok grammar ↔ stored.Laid grammar := by
  have laid := @mapM_ok_iff _ _ _ GrammarSymbol.canonical stored.symbols grammar.symbols
  simp only [GrammarSymbol.canonical_iff] at laid
  unfold Laid canonical
  rw [← laid,bind_ok]
  constructor
  · rintro ⟨symbols,read,same⟩
    cases same
    exact read
  · exact fun read => ⟨_,read,rfl⟩

variable [Regex.Library]

theorem validate_iff : grammar.validate = .ok () ↔ ∀ symbol ∈ grammar.symbols, symbol.flaw? grammar.size = none := by
  unfold validate
  rw [← List.findSome?_eq_none_iff]
  split
  · rename_i flaw found
    simp [found]
  · rename_i none_found
    exact ⟨fun _ => none_found,fun _ => rfl⟩

-- Validation establishes all of well-formedness but the layout of automata.
theorem wellFormed_of_valid (valid : grammar.validate = .ok ()) (automata : ∀ symbol ∈ grammar.symbols, ∀ production,
    symbol.kind = .production production → production.automaton.WellFormed) : grammar.WellFormed := by
  have sound := fun symbol member => GrammarSymbol.flaw?_none_iff.mp (validate_iff.mp valid symbol member)
  exact ⟨fun symbol member => (sound symbol member).1,fun symbol member => (sound symbol member).2,automata⟩

theorem ofStored_iff : stored.ofStored = .ok grammar ↔ stored.Laid grammar ∧ grammar.validate = .ok () := by
  unfold ofStored
  rw [bind_ok]
  constructor
  · rintro ⟨arranged,done,checked⟩
    obtain ⟨valid,same⟩ := checked_ok.mp checked
    cases same
    exact ⟨canonical_ok.mp done,valid⟩
  · rintro ⟨laid,valid⟩
    exact ⟨grammar,canonical_ok.mpr laid,checked_ok.mpr ⟨valid,rfl⟩⟩

theorem ofStored_wellFormed (admitted : stored.ofStored = .ok grammar) : grammar.WellFormed := by
  obtain ⟨laid,valid⟩ := ofStored_iff.mp admitted
  refine wellFormed_of_valid valid ?_
  intro symbol member production kind
  obtain ⟨before,_,arranged⟩ := exists_of_forall₂ laid member
  cases arranged with
  | terminal => cases kind
  | production name greedy accepted =>
    cases kind
    exact Automaton.canonical_wellFormed accepted

-- A well-formed grammar is admitted as it is.
theorem WellFormed.ofStored_self (wellFormed : grammar.WellFormed) : grammar.ofStored = .ok grammar := by
  refine ofStored_iff.mpr ⟨?_,validate_iff.mpr ?_⟩
  · refine List.forall₂_same.mpr ?_
    intro symbol member
    have automata := wellFormed.automata symbol member
    obtain ⟨name,kind⟩ := symbol
    cases kind with
    | terminal terminal => exact .terminal name terminal
    | production production => exact .production name production.greedy (automata production rfl).canonical_self
  · intro symbol member
    exact GrammarSymbol.flaw?_none_iff.mpr ⟨wellFormed.patterns symbol member,wellFormed.edges symbol member⟩

theorem parse_iff {text : String} : parse text = .ok grammar ↔
    ∃ stored, (Json.Value.parse? text).bind ofJson? = some stored ∧ stored.ofStored = .ok grammar := by
  unfold parse
  cases (Json.Value.parse? text).bind ofJson? with
  | none => simp
  | some stored => simp

end Grammar

end ParseForest
