import Mathlib
import ParseForest.Proofs.Automaton
import ParseForest.Proofs.Pattern.Words

namespace ParseForest.Pattern

open scoped Computability

def Positions.Leads (positions : Positions) (position next : Nat) : Prop := next ∈ positions.follow.getD position []

-- A labelling of positions that agrees with the symbols met so far.
def Labels (read : Nat → SymbolId) (symbols : List SymbolId) : Prop :=
  ∀ position symbol, symbols[position]? = some symbol → read position = symbol

-- What the scan of a part has done. It has added the positions of the part behind those from before, which
-- follow each other as before, and the words over the new positions stand for the words of the part.
structure Scanned (before after : Positions) (ends : Ends) (symbols : List SymbolId) (language : Language SymbolId) : Prop where
  symbols : after.symbols = before.symbols ++ symbols
  sized : after.follow.length = after.symbols.length
  kept : ∀ position < before.symbols.length, ∀ next, after.Leads position next ↔ before.Leads position next
  part : Part (Set.Ico before.symbols.length after.symbols.length) ends after.Leads
  words : ∀ read, Labels read after.symbols → Language.map read (ends.words after.Leads) = language

section Connect

variable {positions : Positions} {sources targets : List Nat} {position next : Nat}

theorem leads_bound (leads : positions.Leads position next) : position < positions.follow.length := by
  by_contra outside
  simp [Positions.Leads,List.getD,List.getElem?_eq_none (Nat.le_of_not_lt outside)] at leads

theorem leads_connect : (positions.connect sources targets).Leads position next ↔
    positions.Leads position next ∨ position < positions.follow.length ∧ position ∈ sources ∧ next ∈ targets := by
  induction sources generalizing positions with
  | nil => simp [Positions.connect]
  | cons source rest ih =>
    have first : (positions.connect [source] targets).Leads position next ↔
        positions.Leads position next ∨ position < positions.follow.length ∧ position = source ∧ next ∈ targets := by
      simp only [Positions.Leads,Positions.connect,List.foldl_cons,List.foldl_nil,List.getD,List.getElem?_modify]
      by_cases inside : position < positions.follow.length
      · by_cases same : source = position
        · simp [inside,same,Sorted.mem_union]
        · simp [inside,same,Ne.symm same]
      · simp [inside]
    have length : (positions.connect [source] targets).follow.length = positions.follow.length := by
      simp [Positions.connect]
    have split : positions.connect (source :: rest) targets = (positions.connect [source] targets).connect rest targets := rfl
    rw [split,ih,first,length,List.mem_cons]
    tauto

@[simp] theorem connect_symbols : (positions.connect sources targets).symbols = positions.symbols := rfl

theorem connect_length : (positions.connect sources targets).follow.length = positions.follow.length := by
  induction sources generalizing positions with
  | nil => rfl
  | cons source rest ih =>
    have split : positions.connect (source :: rest) targets = (positions.connect [source] targets).connect rest targets := rfl
    rw [split,ih]
    simp [Positions.connect]

end Connect

section Parts

variable {base middle after : Positions} {ends next : Ends} {symbols more : List SymbolId} {language other : Language SymbolId}

theorem Labels.before {read : Nat → SymbolId} (labels : Labels read (symbols ++ more)) : Labels read symbols := by
  intro position symbol found
  have inside := (List.getElem?_eq_some_iff.mp found).1
  exact labels position symbol (by rw [List.getElem?_append_left inside,found])

theorem Scanned.length_le (scanned : Scanned base after ends symbols language) : base.symbols.length ≤ after.symbols.length := by
  rw [scanned.symbols,List.length_append]
  exact Nat.le_add_right _ _

theorem Scanned.empty (sized : base.follow.length = base.symbols.length) : Scanned base base .empty [] 1 := by
  refine ⟨by simp,sized,fun _ _ _ => Iff.rfl,⟨by simp [Ends.empty],by simp [Ends.empty],by simp⟩,fun read _ => ?_⟩
  have one : Ends.empty.words base.Leads = 1 := by
    ext word
    rw [Language.mem_one]
    cases word with
    | nil => simp [Ends.empty]
    | cons position rest => simp [Ends.empty]
  rw [one,map_one]

theorem Scanned.none (sized : base.follow.length = base.symbols.length) : Scanned base base .none [] 0 := by
  refine ⟨by simp,sized,fun _ _ _ => Iff.rfl,⟨by simp [Ends.none],by simp [Ends.none],by simp⟩,fun read _ => ?_⟩
  have zero : Ends.none.words base.Leads = 0 := by
    ext word
    refine iff_of_false ?_ (Language.notMem_zero word)
    cases word with
    | nil => simp [Ends.none]
    | cons position rest => simp [Ends.none]
  rw [zero,map_zero]

theorem Scanned.single (sized : base.follow.length = base.symbols.length) (id : SymbolId) :
    Scanned base (base.add id) (.single base.symbols.length) [id] {[id]} := by
  have lone : ∀ next, ¬(base.add id).Leads base.symbols.length next := by
    intro next leads
    simp [Positions.Leads,Positions.add,← sized] at leads
  refine ⟨rfl,by simp [Positions.add,sized],?_,⟨?_,?_,?_⟩,fun read labels => ?_⟩
  · intro position inside next
    have early : position < base.follow.length := sized ▸ inside
    simp [Positions.Leads,Positions.add,List.getD,List.getElem?_append_left early]
  · simp [Ends.single,Positions.add]
  · simp [Ends.single,Positions.add]
  · intro position member next leads
    obtain rfl : position = base.symbols.length := by
      have upper := member.2
      simp only [Positions.add,List.length_append,List.length_singleton] at upper
      have lower := member.1
      omega
    exact absurd leads (lone next)
  · have one : (Ends.single base.symbols.length).words (base.add id).Leads = {[base.symbols.length]} := by
      ext word
      cases word with
      | nil => exact iff_of_false Bool.false_ne_true (List.cons_ne_nil _ _).symm
      | cons position rest =>
        rw [cons_mem_words]
        constructor
        · rintro ⟨begins,track⟩
          obtain rfl : position = base.symbols.length := by simpa [Ends.single] using begins
          cases track with
          | stop => rfl
          | step leads => exact absurd leads (lone _)
        · intro same
          obtain ⟨rfl,rfl⟩ := List.cons.inj same
          exact ⟨List.mem_singleton_self _,.stop (List.mem_singleton_self _)⟩
    have label : read base.symbols.length = id := labels _ _ (by simp [Positions.add])
    calc Language.map read ((Ends.single base.symbols.length).words (base.add id).Leads)
        = Language.map read {[base.symbols.length]} := by rw [one]
      _ = {[read base.symbols.length]} := Set.image_singleton
      _ = {[id]} := by rw [label]

-- Two parts that are scanned one after the other share the span.
theorem span_cases {position : Nat} (member : position ∈ Set.Ico base.symbols.length after.symbols.length) :
    position ∈ Set.Ico base.symbols.length middle.symbols.length ∨ position ∈ Set.Ico middle.symbols.length after.symbols.length :=
  (Nat.lt_or_ge position middle.symbols.length).imp (fun early => ⟨member.1,early⟩) fun late => ⟨late,member.2⟩

theorem spans_apart : Disjoint (Set.Ico base.symbols.length middle.symbols.length)
    (Set.Ico middle.symbols.length after.symbols.length) :=
  Set.disjoint_left.mpr fun _ early late => Nat.not_lt.mpr late.1 early.2

theorem Scanned.before {position : Nat} (two : Scanned middle after next more other)
    (member : position ∈ Set.Ico base.symbols.length middle.symbols.length) :
    position ∈ Set.Ico base.symbols.length after.symbols.length :=
  ⟨member.1,member.2.trans_le two.length_le⟩

theorem Scanned.behind {position : Nat} (one : Scanned base middle ends symbols language)
    (member : position ∈ Set.Ico middle.symbols.length after.symbols.length) :
    position ∈ Set.Ico base.symbols.length after.symbols.length :=
  ⟨one.length_le.trans member.1,member.2⟩

theorem Scanned.labels {read : Nat → SymbolId} (two : Scanned middle after next more other) (labels : Labels read after.symbols) :
    Labels read middle.symbols := by
  rw [two.symbols] at labels
  exact labels.before

section Two

variable (one : Scanned base middle ends symbols language) (two : Scanned middle after next more other)

include one two

theorem Scanned.joined : after.symbols = base.symbols ++ (symbols ++ more) := by
  rw [two.symbols,one.symbols,List.append_assoc]

theorem Scanned.either : Scanned base after (ends.either next) (symbols ++ more) (language + other) := by
  have front := one.part
  have back := two.part
  refine ⟨one.joined two,two.sized,?_,⟨?_,?_,?_⟩,fun read labels => ?_⟩
  · intro position early following
    rw [two.kept position (early.trans_le one.length_le),one.kept position early]
  · intro position member
    rcases Sorted.mem_union.mp member with first | second
    · exact two.before (front.first position first)
    · exact one.behind (back.first position second)
  · intro position member
    rcases Sorted.mem_union.mp member with first | second
    · exact two.before (front.last position first)
    · exact one.behind (back.last position second)
  · intro position member following leads
    rcases @span_cases base middle after position member with early | late
    · exact two.before (front.follow position early following ((two.kept position early.2 following).mp leads))
    · exact one.behind (back.follow position late following leads)
  · rw [words_either spans_apart front back (fun position early => two.kept position early.2) fun _ _ _ => Iff.rfl,map_add,
      one.words read (two.labels labels),two.words read labels]

theorem Scanned.append :
    Scanned base (after.connect ends.last next.first) (ends.append next) (symbols ++ more) (language * other) := by
  have front := one.part
  have back := two.part
  -- The new edges begin in the front part.
  have lower : ∀ position ∈ Set.Ico base.symbols.length middle.symbols.length, ∀ following,
      (after.connect ends.last next.first).Leads position following ↔
        middle.Leads position following ∨ position ∈ ends.last ∧ following ∈ next.first := by
    intro position early following
    have inside : position < after.follow.length := two.sized ▸ early.2.trans_le two.length_le
    rw [leads_connect,two.kept position early.2,and_iff_right inside]
  have upper : ∀ position ∈ Set.Ico middle.symbols.length after.symbols.length, ∀ following,
      (after.connect ends.last next.first).Leads position following ↔ after.Leads position following := by
    intro position late following
    rw [leads_connect]
    exact or_iff_left fun ⟨_,ending,_⟩ => Nat.not_lt.mpr late.1 (front.last position ending).2
  refine ⟨connect_symbols.trans (one.joined two),connect_length.trans two.sized,?_,⟨?_,?_,?_⟩,fun read labels => ?_⟩
  · intro position early following
    rw [leads_connect,two.kept position (early.trans_le one.length_le),one.kept position early]
    exact or_iff_left fun ⟨_,ending,_⟩ => Nat.not_lt.mpr (front.last position ending).1 early
  · intro position member
    rcases mem_append_first.mp member with first | ⟨_,second⟩
    · exact two.before (front.first position first)
    · exact one.behind (back.first position second)
  · intro position member
    rcases mem_append_last.mp member with second | ⟨_,first⟩
    · exact one.behind (back.last position second)
    · exact two.before (front.last position first)
  · intro position member following leads
    rcases @span_cases base middle after position member with early | late
    · rcases (lower position early following).mp leads with before | ⟨_,begins⟩
      · exact two.before (front.follow position early following before)
      · exact one.behind (back.first following begins)
    · exact one.behind (back.follow position late following ((upper position late following).mp leads))
  · rw [words_append spans_apart front back lower upper,map_mul,one.words read (two.labels labels),two.words read labels]

end Two

theorem Scanned.optional (scanned : Scanned base after ends symbols language) :
    Scanned base after { ends with nullable := true } symbols (1 + language) := by
  refine ⟨scanned.symbols,scanned.sized,scanned.kept,⟨scanned.part.first,scanned.part.last,scanned.part.follow⟩,fun read labels => ?_⟩
  rw [words_optional,map_add,map_one,scanned.words read labels]

theorem Scanned.plus (scanned : Scanned base after ends symbols language) :
    Scanned base (after.connect ends.last ends.first) ends symbols (language * language∗) := by
  have part := scanned.part
  have loop : ∀ position ∈ Set.Ico base.symbols.length after.symbols.length, ∀ following,
      (after.connect ends.last ends.first).Leads position following ↔
        after.Leads position following ∨ position ∈ ends.last ∧ following ∈ ends.first := by
    intro position member following
    have inside : position < after.follow.length := scanned.sized ▸ member.2
    rw [leads_connect,and_iff_right inside]
  refine ⟨scanned.symbols,connect_length.trans scanned.sized,?_,⟨part.first,part.last,?_⟩,fun read labels => ?_⟩
  · intro position early following
    rw [leads_connect,scanned.kept position early]
    exact or_iff_left fun ⟨_,ending,_⟩ => Nat.not_lt.mpr (part.last position ending).1 early
  · intro position member following leads
    rcases (loop position member following).mp leads with before | ⟨_,begins⟩
    · exact part.follow position member following before
    · exact part.first following begins
  · rw [words_plus part loop,map_mul,Language.map_kstar,scanned.words read labels]

theorem Scanned.star (scanned : Scanned base after ends symbols language) :
    Scanned base (after.connect ends.last ends.first) { ends with nullable := true } symbols language∗ := by
  rw [← Language.one_add_self_mul_kstar_eq_kstar]
  exact scanned.plus.optional

end Parts

mutual
-- One case for each kind of pattern. The parts of a sequence or a choice are taken in turn, behind or beside
-- those before them.
theorem scan_scanned (pattern : Pattern) {positions : Positions} (sized : positions.follow.length = positions.symbols.length) :
    Scanned positions (pattern.scan positions).1 (pattern.scan positions).2 pattern.occurrences pattern.language := by
  cases pattern with
  | empty => exact .empty sized
  | symbol id => exact .single sized id
  | sequence parts =>
    have scanned := scanSequence_scanned parts (.empty sized)
    rw [one_mul] at scanned
    exact scanned
  | choice alternatives =>
    have scanned := scanChoice_scanned alternatives (.none sized)
    rw [zero_add] at scanned
    exact scanned
  | star inner => exact (scan_scanned inner sized).star
  | plus inner => exact (scan_scanned inner sized).plus
  | optional inner => exact (scan_scanned inner sized).optional

theorem scanSequence_scanned (parts : List Pattern) {base positions : Positions} {ends : Ends} {symbols : List SymbolId}
    {language : Language SymbolId} (scanned : Scanned base positions ends symbols language) :
    Scanned base (scanSequence parts positions ends).1 (scanSequence parts positions ends).2
      (symbols ++ listOccurrences parts) (language * sequenceLanguage parts) := by
  cases parts with
  | nil =>
    rw [listOccurrences,sequenceLanguage,List.append_nil,mul_one]
    exact scanned
  | cons part rest =>
    rw [listOccurrences,sequenceLanguage,← List.append_assoc,← mul_assoc]
    exact scanSequence_scanned rest (scanned.append (scan_scanned part scanned.sized))

theorem scanChoice_scanned (alternatives : List Pattern) {base positions : Positions} {ends : Ends} {symbols : List SymbolId}
    {language : Language SymbolId} (scanned : Scanned base positions ends symbols language) :
    Scanned base (scanChoice alternatives positions ends).1 (scanChoice alternatives positions ends).2
      (symbols ++ listOccurrences alternatives) (language + choiceLanguage alternatives) := by
  cases alternatives with
  | nil =>
    rw [listOccurrences,choiceLanguage,List.append_nil,add_zero]
    exact scanned
  | cons alternative rest =>
    rw [listOccurrences,choiceLanguage,← List.append_assoc,← add_assoc]
    exact scanChoice_scanned rest (scanned.either (scan_scanned alternative scanned.sized))
end

section Changes

variable {positions : Positions} {ends : Ends} {source target : StateId} {symbol : SymbolId}

def Positions.label (positions : Positions) (position : Nat) : SymbolId := positions.symbols.getD position 0

theorem start_mem_changes : .start source ∈ positions.changes ends ↔ source = 0 := by
  unfold Positions.changes
  cases ends.nullable <;> simp

theorem accept_mem_changes : .accept source ∈ positions.changes ends ↔ source = 0 ∧ ends.nullable = true ∨ source ∈ ends.last := by
  unfold Positions.changes
  cases ends.nullable <;> simp

theorem edge_mem_changes : .edge source symbol target ∈ positions.changes ends ↔
    symbol = positions.label target ∧ (source = 0 ∧ target ∈ ends.first ∨ positions.Leads source target) := by
  have following : (∃ index, ∃ inside : index < positions.follow.length, ∃ next ∈ positions.follow[index],
      index = source ∧ positions.label next = symbol ∧ next = target) ↔
        symbol = positions.label target ∧ positions.Leads source target := by
    constructor
    · rintro ⟨_,inside,_,member,rfl,rfl,rfl⟩
      refine ⟨rfl,?_⟩
      simpa [Positions.Leads,List.getD,List.getElem?_eq_getElem inside] using member
    · rintro ⟨rfl,leads⟩
      have inside := leads_bound leads
      refine ⟨source,inside,target,?_,rfl,rfl,rfl⟩
      simpa [Positions.Leads,List.getD,List.getElem?_eq_getElem inside] using leads
  have opening : (∃ next ∈ ends.first, 0 = source ∧ positions.label next = symbol ∧ next = target) ↔
      symbol = positions.label target ∧ source = 0 ∧ target ∈ ends.first := by
    constructor
    · rintro ⟨_,member,rfl,rfl,rfl⟩
      exact ⟨rfl,rfl,member⟩
    · rintro ⟨rfl,rfl,member⟩
      exact ⟨target,member,rfl,rfl,rfl⟩
  unfold Positions.changes
  rw [and_or_left,← opening,← following]
  cases ends.nullable <;> simp [Positions.label]

end Changes

-- An automaton whose states are positions, with what the scan has found about them.
structure Realizes (automaton : Automaton) (positions : Positions) (ends : Ends) : Prop where
  start : ∀ state, state ∈ automaton.start ↔ state = 0
  accept : ∀ state, state ∈ automaton.accept ↔ state = 0 ∧ ends.nullable = true ∨ state ∈ ends.last
  moves : ∀ source symbol target, automaton.Moves source symbol target ↔
    symbol = positions.label target ∧ (source = 0 ∧ target ∈ ends.first ∨ positions.Leads source target)

section Compiled

variable {automaton : Automaton} {positions : Positions} {ends : Ends} {symbols : List SymbolId} {language : Language SymbolId}

theorem Scanned.pos (scanned : Scanned .initial positions ends symbols language) {position : Nat}
    (member : position ∈ ends.first ∨ position ∈ ends.last) : 0 < position :=
  member.elim (fun begins => (scanned.part.first position begins).1) fun stops => (scanned.part.last position stops).1

theorem Scanned.leads_pos (scanned : Scanned .initial positions ends symbols language) {position next : Nat}
    (leads : positions.Leads position next) : position ∈ Set.Ico 1 positions.symbols.length := by
  refine ⟨Nat.pos_of_ne_zero ?_,scanned.sized ▸ leads_bound leads⟩
  rintro rfl
  have first := (scanned.kept 0 Nat.zero_lt_one next).mp leads
  simp [Positions.Leads,Positions.initial] at first

theorem Scanned.inside (scanned : Scanned .initial positions ends symbols language) :
    ∀ change ∈ positions.changes ends, change.Inside positions.symbols.length := by
  have zero : 0 < positions.symbols.length := scanned.length_le
  intro change member
  cases change with
  | start state =>
    obtain rfl := start_mem_changes.mp member
    exact zero
  | accept state =>
    rcases accept_mem_changes.mp member with ⟨rfl,_⟩ | stops
    · exact zero
    · exact (scanned.part.last state stops).2
  | edge source symbol target =>
    obtain ⟨_,⟨rfl,begins⟩ | leads⟩ := edge_mem_changes.mp member
    · exact ⟨zero,(scanned.part.first target begins).2⟩
    · have early := scanned.leads_pos leads
      exact ⟨early.2,(scanned.part.follow source early target leads).2⟩

theorem Scanned.build (scanned : Scanned .initial positions ends symbols language) :
    ∃ automaton, Automaton.build positions.symbols.length (positions.changes ends) = .ok automaton ∧
      automaton.stateCount = positions.symbols.length ∧ Realizes automaton positions ends := by
  obtain ⟨automaton,built,_,stateCount,start,accept,moves⟩ := Automaton.build_made scanned.inside
  refine ⟨automaton,built,stateCount,⟨?_,?_,?_⟩⟩
  · exact fun state => (start state).trans start_mem_changes
  · exact fun state => (accept state).trans accept_mem_changes
  · exact fun source symbol target => (moves source symbol target).trans edge_mem_changes

-- From a position on, the labels of a path are those of the positions that it passes.
theorem Realizes.path_iff (realizes : Realizes automaton positions ends) (scanned : Scanned .initial positions ends symbols language)
    {state : StateId} (later : 0 < state) {word : List SymbolId} :
    (∃ target ∈ automaton.accept, automaton.Path state word target) ↔
      ∃ track, Track positions.Leads ends.last state track ∧ track.map positions.label = word := by
  induction word generalizing state with
  | nil =>
    constructor
    · rintro ⟨target,accepting,path⟩
      cases path
      rcases (realizes.accept state).mp accepting with ⟨rfl,_⟩ | stops
      · exact absurd later (Nat.lt_irrefl 0)
      · exact ⟨[],.stop stops,rfl⟩
    · rintro ⟨track,walked,empty⟩
      obtain rfl := List.map_eq_nil_iff.mp empty
      exact ⟨state,(realizes.accept state).mpr (.inr (track_nil.mp walked)),.nil state⟩
  | cons symbol word ih =>
    constructor
    · rintro ⟨target,accepting,path⟩
      cases path with
      | @cons _ middle _ _ _ move path =>
        obtain ⟨rfl,⟨rfl,_⟩ | leads⟩ := (realizes.moves state symbol middle).mp move
        · exact absurd later (Nat.lt_irrefl 0)
        · have next := scanned.part.follow state (scanned.leads_pos leads) middle leads
          obtain ⟨track,walked,rfl⟩ := (ih next.1).mp ⟨target,accepting,path⟩
          exact ⟨middle :: track,.step leads walked,rfl⟩
    · rintro ⟨track,walked,labels⟩
      cases walked with
      | stop => cases labels
      | @step _ middle rest leads walked =>
        obtain ⟨rfl,rfl⟩ := List.cons.inj labels
        have next := scanned.part.follow state (scanned.leads_pos leads) middle leads
        obtain ⟨target,accepting,path⟩ := (ih next.1).mpr ⟨rest,walked,rfl⟩
        exact ⟨target,accepting,.cons ((realizes.moves state _ middle).mpr ⟨rfl,.inr leads⟩) path⟩

theorem Realizes.accepts_iff (realizes : Realizes automaton positions ends) (scanned : Scanned .initial positions ends symbols language)
    (word : List SymbolId) : automaton.Accepts word ↔ word ∈ language := by
  have labels : Labels positions.label positions.symbols := by
    intro position symbol found
    simp [Positions.label,List.getD,found]
  have never : ∀ next, ¬positions.Leads 0 next := fun next leads => Nat.not_lt_zero 0 (scanned.leads_pos leads).1
  rw [← scanned.words positions.label labels]
  change _ ↔ ∃ track ∈ ends.words positions.Leads, track.map positions.label = word
  constructor
  · rintro ⟨source,starting,target,accepting,path⟩
    obtain rfl := (realizes.start source).mp starting
    cases path with
    | nil =>
      rcases (realizes.accept 0).mp accepting with ⟨_,nullable⟩ | stops
      · exact ⟨[],nullable,rfl⟩
      · exact absurd (scanned.pos (.inr stops)) (Nat.lt_irrefl 0)
    | @cons _ middle _ symbol rest move path =>
      obtain ⟨rfl,⟨_,begins⟩ | leads⟩ := (realizes.moves 0 symbol middle).mp move
      · obtain ⟨track,walked,rfl⟩ := (realizes.path_iff scanned (scanned.pos (.inl begins))).mp ⟨target,accepting,path⟩
        exact ⟨middle :: track,⟨begins,walked⟩,rfl⟩
      · exact absurd leads (never middle)
  · rintro ⟨track,member,rfl⟩
    have starting := (realizes.start 0).mpr rfl
    cases track with
    | nil => exact ⟨0,starting,0,(realizes.accept 0).mpr (.inl ⟨rfl,member⟩),.nil 0⟩
    | cons position track =>
      have move := (realizes.moves 0 _ position).mpr ⟨rfl,.inl ⟨rfl,member.1⟩⟩
      obtain ⟨target,accepting,path⟩ := (realizes.path_iff scanned (scanned.pos (.inl member.1))).mpr ⟨track,member.2,rfl⟩
      exact ⟨0,starting,target,accepting,.cons move path⟩

-- An edge is labelled with the occurrence that it enters.
theorem Realizes.occurrence (realizes : Realizes automaton positions ends) (scanned : Scanned .initial positions ends symbols language)
    {source target : StateId} {symbol : SymbolId} (move : automaton.Moves source symbol target) :
    0 < target ∧ symbols[target-1]? = some symbol := by
  obtain ⟨rfl,how⟩ := (realizes.moves source symbol target).mp move
  have member : target ∈ Set.Ico 1 positions.symbols.length := by
    rcases how with ⟨_,begins⟩ | leads
    · exact scanned.part.first target begins
    · exact scanned.part.follow source (scanned.leads_pos leads) target leads
  have stored : positions.symbols[target]? = some (positions.label target) := by
    simp [Positions.label,List.getD,List.getElem?_eq_getElem member.2]
  rw [scanned.symbols,List.getElem?_append_right member.1] at stored
  exact ⟨member.1,stored⟩

end Compiled

-- Every pattern compiles. The automaton has a state for each occurrence of a symbol and one before them, every
-- edge carries the occurrence that it enters, and the words that it accepts are those of the pattern.
theorem compile_exact (pattern : Pattern) : ∃ automaton, pattern.compile = .ok automaton ∧
    automaton.stateCount = 1+pattern.occurrences.length ∧ (∀ word, automaton.Accepts word ↔ word ∈ pattern.language) ∧
    ∀ source symbol target, automaton.Moves source symbol target → 0 < target ∧ pattern.occurrences[target-1]? = some symbol := by
  have scanned : Scanned .initial (pattern.scan .initial).1 (pattern.scan .initial).2 pattern.occurrences pattern.language :=
    scan_scanned pattern rfl
  obtain ⟨automaton,built,stateCount,realizes⟩ := scanned.build
  refine ⟨automaton,built,?_,realizes.accepts_iff scanned,fun _ _ _ => realizes.occurrence scanned⟩
  rw [stateCount,scanned.symbols,List.length_append]
  rfl

end ParseForest.Pattern
