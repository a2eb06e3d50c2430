import Mathlib
import ParseForest.Proofs.Admission

namespace ParseForest

namespace Draft

-- A literal is introduced once.
def Command.introduces? (earlier : List Command) (command : Command) : Option DraftSymbol :=
  if command.text?.any (· ∈ earlier.filterMap Command.text?) then none else command.symbol?

-- The symbols in the order in which they are introduced, as they are then.
def introducedFrom (earlier : List Command) : List Command → List DraftSymbol
  | [] => []
  | command :: rest => (command.introduces? earlier).toList ++ introducedFrom (earlier ++ [command]) rest

def introduced (commands : List Command) : List DraftSymbol := introducedFrom [] commands

def Returned (commands : List Command) (id : SymbolId) : Prop :=
  ∃ before command after, commands = before ++ command :: after ∧ answer before command = .ok (some id)

-- The last body that a symbol got. A body for a number that was not returned yet does not count.
def Defined (commands : List Command) (id : SymbolId) (kind : Option SymbolKind) : Prop :=
  ∃ before command after, commands = before ++ command :: after ∧ Returned before id ∧ command.target? = some id ∧
    command.body? = kind ∧ ∀ later ∈ after, later.target? ≠ some id

def Untouched (commands : List Command) (id : SymbolId) : Prop :=
  ∀ before command after, commands = before ++ command :: after → command.target? = some id → ¬Returned before id

variable {draft : Draft} {command : Command} {commands : List Command} {id : SymbolId}

section Literals

variable {next : Draft} {result : Except Refusal (Option SymbolId)} {text : String}

theorem lookup_introduced (count : Nat) (literals : List (String × SymbolId)) :
    ((command.text?.map fun text => (text,count)).toList ++ literals).lookup text =
      if command.text? = some text then some count else literals.lookup text := by
  cases command.text? with
  | none => simp
  | some other =>
    simp only [Option.map_some,Option.toList_some,List.singleton_append,List.lookup_cons,Option.some.injEq]
    by_cases same : text = other
    · simp [same]
    · simp [beq_false_of_ne same,Ne.symm same]

-- The literals of a draft have numbers of symbols, no two the same.
structure Indexed (draft : Draft) : Prop where
  inside : ∀ text id, draft.literals.lookup text = some id → id < draft.symbols.length
  distinct : ∀ one two id, draft.literals.lookup one = some id → draft.literals.lookup two = some id → one = two

theorem Executed.indexed (step : Executed draft command result next) (indexed : draft.Indexed) : next.Indexed := by
  cases step with
  | introduced made unknown =>
    refine ⟨?_,?_⟩
    · intro text id found
      rw [lookup_introduced] at found
      rw [List.length_append,List.length_singleton]
      split at found
      · cases found
        exact Nat.lt_succ_self _
      · exact Nat.lt_succ_of_lt (indexed.inside text id found)
    · intro one two id first second
      rw [lookup_introduced] at first second
      split at first <;> split at second
      · rename_i here there
        exact Option.some.inj (here.symm.trans there)
      · cases first
        exact absurd (indexed.inside two _ second) (Nat.lt_irrefl _)
      · cases second
        exact absurd (indexed.inside one _ first) (Nat.lt_irrefl _)
      · exact indexed.distinct one two id first second
  | known same found => exact indexed
  | defined aimed inside =>
    refine ⟨?_,indexed.distinct⟩
    rw [List.length_modify]
    exact indexed.inside
  | refused aimed outside => exact indexed

theorem ofCommands_indexed (commands : List Command) : (ofCommands commands).Indexed := by
  induction commands using List.reverseRecOn with
  | nil => exact ⟨nofun,nofun⟩
  | append_singleton commands command ih => exact (executed commands command).indexed ih

theorem Executed.lookup (step : Executed draft command result next) (found : draft.literals.lookup text = some id) :
    next.literals.lookup text = some id := by
  cases step with
  | introduced made unknown =>
    rw [lookup_introduced,if_neg ?_,found]
    intro same
    cases found.symm.trans (unknown text same)
  | known => exact found
  | defined => exact found
  | refused => exact found

theorem lookup_append (before after : List Command) (found : (ofCommands before).literals.lookup text = some id) :
    (ofCommands (before ++ after)).literals.lookup text = some id := by
  induction after using List.reverseRecOn with
  | nil => rwa [List.append_nil]
  | append_singleton after command ih =>
    rw [← List.append_assoc]
    exact (executed (before ++ after) command).lookup ih

theorem Executed.lookup_none (step : Executed draft command result next) :
    next.literals.lookup text = none ↔ draft.literals.lookup text = none ∧ command.text? ≠ some text := by
  cases step with
  | introduced made unknown =>
    rw [lookup_introduced]
    split <;> simp [*]
  | known same found =>
    subst same
    refine ⟨fun missing => ⟨missing,?_⟩,And.left⟩
    rintro ⟨⟩
    cases found.symm.trans missing
  | defined aimed inside => simp [Command.text?_of_target aimed]
  | refused aimed outside => simp [Command.text?_of_target aimed]

-- A literal has a number when it came before.
theorem lookup_none : (ofCommands commands).literals.lookup text = none ↔ text ∉ commands.filterMap Command.text? := by
  induction commands using List.reverseRecOn with
  | nil => simp [ofCommands]
  | append_singleton commands command ih =>
    rw [(executed commands command).lookup_none,ih,List.filterMap_append,List.mem_append,not_or]
    simp

end Literals

section Numbers

variable {symbol : DraftSymbol}

theorem introduces_iff : command.introduces? commands = some symbol ↔ command.symbol? = some symbol ∧
    ∀ text, command.text? = some text → (ofCommands commands).literals.lookup text = none := by
  unfold Command.introduces?
  simp only [lookup_none]
  cases command.text? with
  | none => simp
  | some text => simp [and_comm]

theorem introduces_of_target (aimed : command.target? = some id) : command.introduces? commands = none := by
  unfold Command.introduces?
  rw [Command.symbol?_of_target aimed,ite_self]

theorem introduces_known {text : String} (found : (ofCommands commands).literals.lookup text = some id) :
    (Command.literal text).introduces? commands = none := by
  rw [Option.eq_none_iff_forall_ne_some]
  intro symbol made
  cases found.symm.trans ((introduces_iff.mp made).2 text rfl)

theorem introducedFrom_concat (earlier commands : List Command) (command : Command) :
    introducedFrom earlier (commands ++ [command]) =
      introducedFrom earlier commands ++ (command.introduces? (earlier ++ commands)).toList := by
  induction commands generalizing earlier with
  | nil => simp [introducedFrom]
  | cons first rest ih => simp [introducedFrom,ih]

theorem introduced_concat (commands : List Command) (command : Command) :
    introduced (commands ++ [command]) = introduced commands ++ (command.introduces? commands).toList :=
  introducedFrom_concat [] commands command

theorem length_symbols (commands : List Command) : (ofCommands commands).symbols.length = (introduced commands).length := by
  induction commands using List.reverseRecOn with
  | nil => rfl
  | append_singleton commands command ih =>
    have step := executed commands command
    rw [introduced_concat]
    generalize ofCommands (commands ++ [command]) = next at step ⊢
    generalize answer commands command = result at step
    cases step with
    | introduced made unknown => simp [ih,introduces_iff.mpr ⟨made,unknown⟩]
    | known same found =>
      subst same
      simp [ih,introduces_known found]
    | defined aimed inside => simp [ih,introduces_of_target aimed]
    | refused aimed outside => simp [ih,introduces_of_target aimed]

theorem returned_concat : Returned (commands ++ [command]) id ↔
    Returned commands id ∨ answer commands command = .ok (some id) := by
  constructor
  · rintro ⟨before,other,after,same,given⟩
    rcases concat_eq_split.mp same with ⟨earlier,rfl,rfl⟩ | ⟨rfl,rfl,rfl⟩
    · exact .inl ⟨before,other,earlier,rfl,given⟩
    · exact .inr given
  · rintro (⟨before,other,after,rfl,given⟩ | given)
    · exact ⟨before,other,after ++ [command],by simp,given⟩
    · exact ⟨commands,command,[],rfl,given⟩

-- The numbers that were returned are those of the symbols.
theorem returned_iff : Returned commands id ↔ id < (introduced commands).length := by
  rw [← length_symbols]
  induction commands using List.reverseRecOn with
  | nil =>
    refine ⟨?_,nofun⟩
    rintro ⟨before,command,after,same,_⟩
    cases before <;> cases same
  | append_singleton commands command ih =>
    have step := executed commands command
    rw [returned_concat,ih]
    generalize ofCommands (commands ++ [command]) = next at step ⊢
    generalize answer commands command = result at step ⊢
    cases step with
    | introduced made unknown =>
      rw [Except.ok.injEq,Option.some.injEq,List.length_append,List.length_singleton,Nat.lt_succ_iff_lt_or_eq,eq_comm]
    | @known text _ same found =>
      refine or_iff_left_of_imp ?_
      rintro ⟨⟩
      exact (ofCommands_indexed commands).inside text _ found
    | defined aimed inside => simp
    | refused aimed outside => simp

end Numbers

section Bodies

variable {kind : Option SymbolKind} {symbol : DraftSymbol}

theorem defined_concat : Defined (commands ++ [command]) id kind ↔
    Defined commands id kind ∧ command.target? ≠ some id ∨
      Returned commands id ∧ command.target? = some id ∧ command.body? = kind := by
  constructor
  · rintro ⟨before,other,after,same,returned,aimed,body,last⟩
    rcases concat_eq_split.mp same with ⟨earlier,rfl,rfl⟩ | ⟨rfl,rfl,rfl⟩
    · obtain ⟨last,other⟩ := List.forall_mem_append.mp last
      exact .inl ⟨⟨before,_,earlier,rfl,returned,aimed,body,last⟩,other command List.mem_cons_self⟩
    · exact .inr ⟨returned,aimed,body⟩
  · rintro (⟨⟨before,other,after,rfl,returned,aimed,body,last⟩,elsewhere⟩ | ⟨returned,aimed,body⟩)
    · refine ⟨before,other,after ++ [command],by simp,returned,aimed,body,?_⟩
      exact List.forall_mem_append.mpr ⟨last,List.forall_mem_singleton.mpr elsewhere⟩
    · exact ⟨commands,command,[],rfl,returned,aimed,body,nofun⟩

theorem untouched_concat : Untouched (commands ++ [command]) id ↔
    Untouched commands id ∧ (command.target? = some id → ¬Returned commands id) := by
  constructor
  · intro untouched
    refine ⟨?_,untouched commands command [] rfl⟩
    rintro before other after rfl
    exact untouched before other (after ++ [command]) (by simp)
  · rintro ⟨untouched,last⟩ before other after same
    rcases concat_eq_split.mp same with ⟨earlier,rfl,rfl⟩ | ⟨rfl,rfl,rfl⟩
    · exact untouched before other earlier rfl
    · exact last

theorem Returned.append (returned : Returned commands id) (more : List Command) : Returned (commands ++ more) id := by
  obtain ⟨before,command,after,rfl,given⟩ := returned
  exact ⟨before,command,after ++ more,by simp,given⟩

-- Nothing is given to a symbol before it is there.
theorem untouched_of_not_returned (fresh : ¬Returned commands id) : Untouched commands id := by
  rintro before command after rfl _ returned
  exact fresh (returned.append _)

-- What the commands make of a symbol that they introduced.
structure Resolves (commands : List Command) (id : SymbolId) (original current : DraftSymbol) : Prop where
  name : current.name = original.name
  kind : Defined commands id current.kind ∨ Untouched commands id ∧ current.kind = original.kind

theorem Resolves.elsewhere {original current : DraftSymbol} (resolves : Resolves commands id original current)
    (elsewhere : command.target? ≠ some id) : Resolves (commands ++ [command]) id original current := by
  refine ⟨resolves.name,?_⟩
  rcases resolves.kind with defined | ⟨untouched,same⟩
  · exact .inl (defined_concat.mpr (.inl ⟨defined,elsewhere⟩))
  · exact .inr ⟨untouched_concat.mpr ⟨untouched,fun aimed => absurd aimed elsewhere⟩,same⟩

theorem Resolves.redefined {original current : DraftSymbol} (resolves : Resolves commands id original current)
    (aimed : command.target? = some id) (returned : Returned commands id) :
    Resolves (commands ++ [command]) id original { current with kind := command.body? } :=
  ⟨resolves.name,.inl (defined_concat.mpr (.inr ⟨returned,aimed,rfl⟩))⟩

-- A symbol is at first what it was introduced as, whatever bodies its number was to get before.
theorem resolves_introduced (made : command.symbol? = some symbol) :
    Resolves (commands ++ [command]) (introduced commands).length symbol symbol := by
  have fresh : Untouched commands (introduced commands).length :=
    untouched_of_not_returned fun returned => Nat.lt_irrefl _ (returned_iff.mp returned)
  refine ⟨rfl,.inr ⟨untouched_concat.mpr ⟨fresh,?_⟩,rfl⟩⟩
  intro aimed
  cases made.symm.trans (Command.symbol?_of_target aimed)

theorem resolved {current : DraftSymbol} (found : (ofCommands commands).symbols[id]? = some current) :
    ∃ original, (introduced commands)[id]? = some original ∧ Resolves commands id original current := by
  induction commands using List.reverseRecOn generalizing current with
  | nil => cases found
  | append_singleton commands command ih =>
    have step := executed commands command
    have count := length_symbols commands
    rw [introduced_concat]
    generalize ofCommands (commands ++ [command]) = next at step found
    generalize answer commands command = result at step
    cases step with
    | introduced made unknown =>
      rw [introduces_iff.mpr ⟨made,unknown⟩]
      rcases concat_getElem?.mp found with before | ⟨rfl,rfl⟩
      · obtain ⟨original,first,resolves⟩ := ih before
        refine ⟨original,concat_getElem?.mpr (.inl first),resolves.elsewhere ?_⟩
        intro aimed
        cases made.symm.trans (Command.symbol?_of_target aimed)
      · exact ⟨_,concat_getElem?.mpr (.inr ⟨count,rfl⟩),count ▸ resolves_introduced made⟩
    | @known text _ same known =>
      subst same
      obtain ⟨original,first,resolves⟩ := ih found
      refine ⟨original,?_,resolves.elsewhere nofun⟩
      rwa [introduces_known known,Option.toList_none,List.append_nil]
    | @defined target aimed inside =>
      rw [introduces_of_target aimed,Option.toList_none,List.append_nil]
      by_cases here : target = id
      · subst here
        rw [List.getElem?_modify_eq,Option.map_eq_map] at found
        obtain ⟨old,before,rfl⟩ := Option.map_eq_some_iff.mp found
        obtain ⟨original,first,resolves⟩ := ih before
        exact ⟨original,first,resolves.redefined aimed (returned_iff.mpr (count ▸ inside))⟩
      · rw [List.getElem?_modify_ne _ _ here] at found
        obtain ⟨original,first,resolves⟩ := ih found
        refine ⟨original,first,resolves.elsewhere ?_⟩
        rw [aimed]
        exact fun same => here (Option.some.inj same)
    | @refused target aimed outside =>
      obtain ⟨original,first,resolves⟩ := ih found
      rw [introduces_of_target aimed,Option.toList_none,List.append_nil]
      refine ⟨original,first,resolves.elsewhere ?_⟩
      intro same
      cases aimed.symm.trans same
      exact absurd (List.getElem?_eq_some_iff.mp found).1 (Nat.not_lt.mpr outside)

end Bodies

section Answers

variable {refusal : Refusal}

theorem answer_introduced (new : (command.introduces? commands).isSome) :
    answer commands command = .ok (some (introduced commands).length) := by
  rw [← length_symbols]
  have step := executed commands command
  generalize ofCommands (commands ++ [command]) = next at step
  generalize answer commands command = result at step ⊢
  cases step with
  | introduced made unknown => rfl
  | known same found =>
    subst same
    rw [introduces_known found] at new
    cases new
  | defined aimed inside =>
    rw [introduces_of_target aimed] at new
    cases new
  | refused aimed outside =>
    rw [introduces_of_target aimed] at new
    cases new

-- A literal is returned with the number that it has from then on.
theorem answer_literal (commands : List Command) (text : String) : ∃ id, answer commands (.literal text) = .ok (some id) ∧
    (ofCommands (commands ++ [.literal text])).literals.lookup text = some id := by
  have step := executed commands (.literal text)
  generalize ofCommands (commands ++ [.literal text]) = next at step ⊢
  generalize answer commands (.literal text) = result at step ⊢
  cases step with
  | introduced made unknown => exact ⟨_,rfl,(lookup_introduced _ _).trans (if_pos rfl)⟩
  | known same found =>
    cases same
    exact ⟨_,rfl,found⟩
  | defined aimed inside => cases aimed
  | refused aimed outside => cases aimed

theorem answer_literal_eq (before middle : List Command) (one two : String) :
    answer (before ++ .literal one :: middle) (.literal two) = answer before (.literal one) ↔ two = one := by
  obtain ⟨first,answered,early⟩ := answer_literal before one
  obtain ⟨second,later,found⟩ := answer_literal (before ++ .literal one :: middle) two
  have kept := lookup_append _ (middle ++ [.literal two]) early
  simp only [List.append_assoc,List.cons_append] at kept found
  rw [answered,later]
  constructor
  · rintro ⟨⟩
    exact (ofCommands_indexed _).distinct two one _ found kept
  · rintro rfl
    rw [Option.some.inj (found.symm.trans kept)]

theorem answer_error : answer commands command = .error refusal ↔
    ∃ id, command.target? = some id ∧ ¬Returned commands id ∧ refusal = .unknownSymbol id := by
  simp only [returned_iff,← length_symbols]
  have step := executed commands command
  generalize ofCommands (commands ++ [command]) = next at step
  generalize answer commands command = result at step ⊢
  cases step with
  | introduced made unknown =>
    refine ⟨nofun,?_⟩
    rintro ⟨id,aimed,_⟩
    cases made.symm.trans (Command.symbol?_of_target aimed)
  | known same found =>
    subst same
    simp [Command.target?]
  | defined aimed inside => simp [aimed,inside]
  | refused aimed outside => simp [aimed,outside,eq_comm]

theorem refused_unchanged (refused : answer commands command = .error refusal) :
    ofCommands (commands ++ [command]) = ofCommands commands := by
  have step := executed commands command
  rw [refused] at step
  generalize ofCommands (commands ++ [command]) = next at step ⊢
  cases step with
  | refused aimed outside => rfl

end Answers

end Draft

theorem Grammar.findName?_some {grammar : Grammar} {name : String} {id : SymbolId} : grammar.findName? name = some id ↔
    IsLeast {id | ∃ symbol, grammar.symbol? id = some symbol ∧ symbol.name = name} id := by
  unfold findName?
  rw [List.findIdx?_eq_some_iff_getElem]
  constructor
  · rintro ⟨inside,same,first⟩
    refine ⟨⟨_,List.getElem?_eq_getElem inside,by simpa using same⟩,?_⟩
    rintro other ⟨symbol,found,rfl⟩
    obtain ⟨_,rfl⟩ := List.getElem?_eq_some_iff.mp found
    exact Nat.le_of_not_lt fun early => first other early (by simp)
  · rintro ⟨⟨symbol,found,rfl⟩,least⟩
    obtain ⟨inside,rfl⟩ := List.getElem?_eq_some_iff.mp found
    refine ⟨inside,by simp,?_⟩
    intro other early same
    exact absurd (least ⟨_,List.getElem?_eq_getElem (early.trans inside),by simpa using same⟩) (Nat.not_le.mpr early)

namespace Draft

-- Symbols get the numbers 0, 1, 2 and so on as they are introduced, an equal literal the number that it had. A body for
-- any other number is refused, and that changes nothing. In the grammar a symbol has the name that it was introduced
-- with, and the last body that it was given, or else what it was introduced as; a name stands for the first that has it.
theorem last_definition_counts [Regex.Library] (commands : List Command) :
    (∀ command, (command.introduces? commands).isSome → answer commands command = .ok (some (introduced commands).length)) ∧
    (∀ middle one two, answer (commands ++ .literal one :: middle) (.literal two) = answer commands (.literal one) ↔ two = one) ∧
    (∀ id, Returned commands id ↔ id < (introduced commands).length) ∧
    (∀ command refusal, answer commands command = .error refusal ↔
      ∃ id, command.target? = some id ∧ ¬Returned commands id ∧ refusal = .unknownSymbol id) ∧
    (∀ command refusal, answer commands command = .error refusal → ofCommands (commands ++ [command]) = ofCommands commands) ∧
    ∀ grammar, (ofCommands commands).build = .ok grammar → grammar.size = (introduced commands).length ∧
      (∀ id symbol, grammar.symbol? id = some symbol →
        ∃ original, (introduced commands)[id]? = some original ∧ Resolves commands id original symbol.drafted) ∧
      ∀ name id, grammar.findName? name = some id ↔
        IsLeast {id | ∃ symbol, grammar.symbol? id = some symbol ∧ symbol.name = name} id := by
  refine ⟨fun _ => answer_introduced,answer_literal_eq commands,fun _ => returned_iff,fun _ _ => answer_error,?_,?_⟩
  · exact fun command refusal => refused_unchanged
  · intro grammar built
    obtain ⟨same,_⟩ := build_ok.mp built
    refine ⟨?_,?_,fun _ _ => Grammar.findName?_some⟩
    · rw [← length_symbols,same,List.length_map]
      rfl
    · intro id symbol found
      refine resolved ?_
      rw [same,List.getElem?_map]
      exact congrArg (Option.map GrammarSymbol.drafted) found

-- A body before there is a symbol, a literal that comes twice and then gets a body, a production with two bodies, and
-- another one of its name.
def redefined : List Command := [.define 0 (.symbol 0) false,.literal "x",.declare "s",.literal "x",.define 1 (.symbol 1) false,
  .terminal "y" .any,.define 1 (.symbol 0) true,.define 0 (.symbol 2) false,.production "s" (.symbol 0) false]

def redefinition : Grammar := ⟨[⟨"\"x\"",.production ⟨⟨2,[0],[1],[[⟨2,[1]⟩],[]]⟩,false⟩⟩,
  ⟨"s",.production ⟨⟨2,[0],[1],[[⟨0,[1]⟩],[]]⟩,true⟩⟩,⟨"y",.terminal .any⟩,⟨"s",.production ⟨⟨2,[0],[1],[[⟨0,[1]⟩],[]]⟩,false⟩⟩]⟩

theorem redefined_resolved : ((Command.declare "t").introduces? redefined).isSome ∧
    answer redefined (.declare "t") = .ok (some 4) ∧ answer redefined (.define 4 .empty true) = .error (.unknownSymbol 4) ∧
    ofCommands (redefined ++ [.define 4 .empty true]) = ofCommands redefined ∧
    (ofCommands redefined).build = .ok redefinition ∧ redefinition.findName? "s" = some 1 ∧
    Resolves redefined 1 ⟨"s",none⟩ ⟨"s",some (.production ⟨⟨2,[0],[1],[[⟨0,[1]⟩],[]]⟩,true⟩)⟩ := by
  obtain ⟨fresh,_,returned,refused,unchanged,resolves⟩ := last_definition_counts redefined
  have symbols : introduced redefined = [⟨"\"x\"",some (.terminal (.literal "x"))⟩,⟨"s",none⟩,⟨"y",some (.terminal .any)⟩,
      ⟨"s",some (.production ⟨⟨2,[0],[1],[[⟨0,[1]⟩],[]]⟩,false⟩)⟩] := by decide +kernel
  have missing : answer redefined (.define 4 .empty true) = .error (.unknownSymbol 4) := by
    refine (refused _ _).mpr ⟨4,rfl,?_,rfl⟩
    rw [returned,symbols]
    exact Nat.lt_irrefl 4
  have new : ((Command.declare "t").introduces? redefined).isSome := rfl
  have built : (ofCommands redefined).build = .ok redefinition := by decide +kernel
  obtain ⟨_,each,names⟩ := resolves redefinition built
  obtain ⟨original,first,resolved⟩ := each 1 _ rfl
  rw [symbols] at first
  cases first
  refine ⟨new,?_,missing,unchanged _ _ missing,built,(names "s" 1).mpr ⟨⟨_,rfl,rfl⟩,?_⟩,resolved⟩
  · rw [fresh _ new,symbols]
    rfl
  · rintro id ⟨symbol,found,named⟩
    cases id with
    | zero =>
      cases found
      exact absurd named (by decide)
    | succ id => exact Nat.succ_pos id

end Draft

end ParseForest
