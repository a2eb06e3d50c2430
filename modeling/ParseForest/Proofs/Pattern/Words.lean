import Mathlib
import ParseForest.Pattern.Positions
import ParseForest.Proofs.Sorted

namespace ParseForest.Pattern

open scoped Computability

mutual
-- The words that a pattern stands for.
def language : Pattern → Language SymbolId
  | empty => 1
  | symbol id => {[id]}
  | sequence parts => sequenceLanguage parts
  | choice alternatives => choiceLanguage alternatives
  | star inner => (language inner)∗
  | plus inner => language inner * (language inner)∗
  | optional inner => 1 + language inner

def sequenceLanguage : List Pattern → Language SymbolId
  | [] => 1
  | part :: rest => language part * sequenceLanguage rest

def choiceLanguage : List Pattern → Language SymbolId
  | [] => 0
  | alternative :: rest => language alternative + choiceLanguage rest
end

mutual
-- The symbols of a pattern in reading order.
def occurrences : Pattern → List SymbolId
  | empty => []
  | symbol id => [id]
  | sequence parts => listOccurrences parts
  | choice alternatives => listOccurrences alternatives
  | star inner => occurrences inner
  | plus inner => occurrences inner
  | optional inner => occurrences inner

def listOccurrences : List Pattern → List SymbolId
  | [] => []
  | part :: rest => occurrences part ++ listOccurrences rest
end

-- From a position over further ones to one where a word may end.
inductive Track (follow : Nat → Nat → Prop) (last : List Nat) : Nat → List Nat → Prop where
  | stop {position : Nat} (ends : position ∈ last) : Track follow last position []
  | step {position next : Nat} {rest : List Nat} (leads : follow position next) (track : Track follow last next rest) :
      Track follow last position (next :: rest)

-- The words over positions that begin, go on and end as told.
def Ends.words (ends : Ends) (follow : Nat → Nat → Prop) : Language Nat :=
  {word | match word with
    | [] => ends.nullable = true
    | position :: rest => position ∈ ends.first ∧ Track follow ends.last position rest}

-- The positions of a part of a pattern lie in a span which no way through the part leaves.
structure Part (span : Set Nat) (ends : Ends) (follow : Nat → Nat → Prop) : Prop where
  first : ∀ position ∈ ends.first, position ∈ span
  last : ∀ position ∈ ends.last, position ∈ span
  follow : ∀ position ∈ span, ∀ next, follow position next → next ∈ span

section Words

variable {ends before after : Ends} {follow left right whole : Nat → Nat → Prop} {span one two : Set Nat} {last more : List Nat}
  {position : Nat} {word rest : List Nat}

@[simp] theorem nil_mem_words : [] ∈ ends.words follow ↔ ends.nullable = true := Iff.rfl

@[simp] theorem cons_mem_words : position :: rest ∈ ends.words follow ↔
    position ∈ ends.first ∧ Track follow ends.last position rest := Iff.rfl

@[simp] theorem track_nil : Track follow last position [] ↔ position ∈ last := by
  constructor
  · intro track
    cases track with
    | stop ends => exact ends
  · exact .stop

@[simp] theorem track_cons {next : Nat} : Track follow last position (next :: rest) ↔
    follow position next ∧ Track follow last next rest := by
  constructor
  · intro track
    cases track with
    | step leads track => exact ⟨leads,track⟩
  · exact fun ⟨leads,track⟩ => .step leads track

-- Inside a span that is not left only what holds there counts.
theorem track_congr (inside : ∀ position ∈ span, ∀ next, left position next → next ∈ span)
    (same : ∀ position ∈ span, ∀ next, whole position next ↔ left position next)
    (lasts : ∀ position ∈ span, (position ∈ more ↔ position ∈ last)) (member : position ∈ span) :
    Track whole more position rest ↔ Track left last position rest := by
  induction rest generalizing position with
  | nil => simpa using lasts position member
  | cons next rest ih =>
    rw [track_cons,track_cons,same position member]
    exact and_congr_right fun leads => ih (inside position member next leads)

theorem mem_append_first : position ∈ (before.append after).first ↔
    position ∈ before.first ∨ before.nullable = true ∧ position ∈ after.first := by
  unfold Ends.append
  cases before.nullable with
  | false => simp
  | true => simp [Sorted.mem_union]

theorem mem_append_last : position ∈ (before.append after).last ↔
    position ∈ after.last ∨ after.nullable = true ∧ position ∈ before.last := by
  unfold Ends.append
  cases after.nullable with
  | false => simp
  | true => simp [Sorted.mem_union]

section Append

variable (apart : Disjoint one two) (front : Part one before left) (back : Part two after right)
  (lower : ∀ position ∈ one, ∀ next, whole position next ↔ left position next ∨ position ∈ before.last ∧ next ∈ after.first)
  (upper : ∀ position ∈ two, ∀ next, whole position next ↔ right position next)

include apart front back upper

theorem track_behind (member : position ∈ two) :
    Track whole (before.append after).last position rest ↔ Track right after.last position rest := by
  refine track_congr back.follow upper ?_ member
  intro other inside
  rw [mem_append_last]
  refine or_iff_left ?_
  rintro ⟨_,early⟩
  exact Set.disjoint_left.mp apart (front.last other early) inside

include lower

-- A way that begins in the front part comes to an end of it and goes on as a word of the back part.
theorem track_append (member : position ∈ one) : Track whole (before.append after).last position rest ↔
    ∃ first second, first ++ second = rest ∧ Track left before.last position first ∧ second ∈ after.words right := by
  induction rest generalizing position with
  | nil =>
    have late : position ∉ after.last := fun ends => Set.disjoint_left.mp apart member (back.last position ends)
    simp only [track_nil,mem_append_last,late,false_or,List.append_eq_nil_iff]
    constructor
    · rintro ⟨nullable,ends⟩
      exact ⟨[],[],⟨rfl,rfl⟩,.stop ends,nullable⟩
    · rintro ⟨_,_,⟨rfl,rfl⟩,track,nullable⟩
      exact ⟨nullable,track_nil.mp track⟩
  | cons next rest ih =>
    rw [track_cons,lower position member]
    constructor
    · rintro ⟨leads | ⟨ends,begins⟩,track⟩
      · obtain ⟨first,second,rfl,front_track,word⟩ := (ih (front.follow position member next leads)).mp track
        exact ⟨next :: first,second,rfl,.step leads front_track,word⟩
      · have behind := (track_behind apart front back upper (back.first next begins)).mp track
        exact ⟨[],next :: rest,rfl,.stop ends,begins,behind⟩
    · rintro ⟨first,second,joined,track,word⟩
      cases track with
      | stop ends =>
        obtain rfl : second = next :: rest := joined
        exact ⟨.inr ⟨ends,word.1⟩,(track_behind apart front back upper (back.first next word.1)).mpr word.2⟩
      | step leads track =>
        obtain ⟨rfl,rfl⟩ := List.cons.inj joined
        exact ⟨.inl leads,(ih (front.follow position member _ leads)).mpr ⟨_,second,rfl,track,word⟩⟩

theorem words_append : (before.append after).words whole = before.words left * after.words right := by
  ext word
  rw [Language.mem_mul]
  cases word with
  | nil =>
    simp only [nil_mem_words,Ends.append,Bool.and_eq_true,List.append_eq_nil_iff]
    constructor
    · rintro ⟨first,second⟩
      exact ⟨[],first,[],second,rfl,rfl⟩
    · rintro ⟨_,first,_,second,rfl,rfl⟩
      exact ⟨first,second⟩
  | cons position rest =>
    rw [cons_mem_words,mem_append_first]
    constructor
    · rintro ⟨begins | ⟨nullable,begins⟩,track⟩
      · obtain ⟨first,second,rfl,front_track,word⟩ := (track_append apart front back lower upper (front.first position begins)).mp track
        exact ⟨position :: first,⟨begins,front_track⟩,second,word,rfl⟩
      · have behind := (track_behind apart front back upper (back.first position begins)).mp track
        exact ⟨[],nullable,position :: rest,⟨begins,behind⟩,rfl⟩
    · rintro ⟨first,front_word,second,word,joined⟩
      cases first with
      | nil =>
        obtain rfl : second = position :: rest := joined
        exact ⟨.inr ⟨front_word,word.1⟩,(track_behind apart front back upper (back.first position word.1)).mpr word.2⟩
      | cons head first =>
        obtain ⟨rfl,rfl⟩ := List.cons.inj joined
        refine ⟨.inl front_word.1,(track_append apart front back lower upper (front.first head front_word.1)).mpr ?_⟩
        exact ⟨first,second,rfl,front_word.2,word⟩

end Append

theorem words_either (apart : Disjoint one two) (front : Part one before left) (back : Part two after right)
    (lower : ∀ position ∈ one, ∀ next, whole position next ↔ left position next)
    (upper : ∀ position ∈ two, ∀ next, whole position next ↔ right position next) :
    (before.either after).words whole = before.words left + after.words right := by
  have front_track : ∀ {position rest}, position ∈ one →
      (Track whole (before.either after).last position rest ↔ Track left before.last position rest) := by
    refine track_congr front.follow lower fun other inside => ?_
    simp only [Ends.either,Sorted.mem_union]
    exact or_iff_left fun late => Set.disjoint_left.mp apart inside (back.last other late)
  have back_track : ∀ {position rest}, position ∈ two →
      (Track whole (before.either after).last position rest ↔ Track right after.last position rest) := by
    refine track_congr back.follow upper fun other inside => ?_
    simp only [Ends.either,Sorted.mem_union]
    exact or_iff_right fun early => Set.disjoint_left.mp apart (front.last other early) inside
  ext word
  rw [Language.mem_add]
  cases word with
  | nil => simp [Ends.either]
  | cons position rest =>
    simp only [cons_mem_words]
    constructor
    · rintro ⟨begins,track⟩
      rcases Sorted.mem_union.mp begins with early | late
      · exact .inl ⟨early,(front_track (front.first position early)).mp track⟩
      · exact .inr ⟨late,(back_track (back.first position late)).mp track⟩
    · rintro (⟨early,track⟩ | ⟨late,track⟩)
      · exact ⟨Sorted.mem_union.mpr (.inl early),(front_track (front.first position early)).mpr track⟩
      · exact ⟨Sorted.mem_union.mpr (.inr late),(back_track (back.first position late)).mpr track⟩

theorem words_optional : ({ ends with nullable := true } : Ends).words follow = 1 + ends.words follow := by
  ext word
  rw [Language.mem_add,Language.mem_one]
  cases word with
  | nil => simp
  | cons position rest => simp

section Loop

variable (part : Part span ends follow)
  (loop : ∀ position ∈ span, ∀ next, whole position next ↔ follow position next ∨ position ∈ ends.last ∧ next ∈ ends.first)

include part loop

-- A way through a loop passes the inner part once and goes on with words of it, one after the other.
theorem track_loop (member : position ∈ span) (track : Track whole ends.last position rest) :
    ∃ first second, first ++ second = rest ∧ Track follow ends.last position first ∧ second ∈ (ends.words follow)∗ := by
  induction track with
  | stop stops => exact ⟨[],[],rfl,.stop stops,Language.nil_mem_kstar _⟩
  | @step position next rest leads track ih =>
    rcases (loop position member next).mp leads with inner | ⟨stops,begins⟩
    · obtain ⟨first,second,rfl,inside,words⟩ := ih (part.follow position member next inner)
      exact ⟨next :: first,second,rfl,.step inner inside,words⟩
    · obtain ⟨first,second,rfl,inside,words⟩ := ih (part.first next begins)
      have word : next :: first ∈ ends.words follow := ⟨begins,inside⟩
      have joined : (next :: first) ++ second ∈ ends.words follow * (ends.words follow)∗ := Language.mem_mul.mpr ⟨_,word,_,words,rfl⟩
      refine ⟨[],next :: (first ++ second),rfl,.stop stops,?_⟩
      rw [← Language.one_add_self_mul_kstar_eq_kstar]
      exact .inr joined

theorem loop_track (words : List (List Nat)) (all : ∀ word ∈ words, word ∈ ends.words follow ∧ word ≠ []) {first : List Nat}
    (member : position ∈ span) (track : Track follow ends.last position first) :
    Track whole ends.last position (first ++ words.flatten) := by
  induction words generalizing position first with
  | nil =>
    induction track with
    | stop stops => exact .stop stops
    | @step position next rest leads track ih =>
      exact .step ((loop position member next).mpr (.inl leads)) (ih (part.follow position member next leads))
  | cons word words ih =>
    induction track with
    | @stop position stops =>
      obtain ⟨inner,filled⟩ := all word List.mem_cons_self
      cases word with
      | nil => exact absurd rfl filled
      | cons next rest =>
        refine .step ((loop position member next).mpr (.inr ⟨stops,inner.1⟩)) ?_
        exact ih (fun other later => all other (List.mem_cons_of_mem _ later)) (part.first next inner.1) inner.2
    | @step position next rest leads track again =>
      exact .step ((loop position member next).mpr (.inl leads)) (again (part.follow position member next leads))

theorem words_plus : ends.words whole = ends.words follow * (ends.words follow)∗ := by
  ext word
  rw [Language.mem_mul]
  constructor
  · intro member
    cases word with
    | nil => exact ⟨[],member,[],Language.nil_mem_kstar _,rfl⟩
    | cons position rest =>
      obtain ⟨first,second,rfl,track,words⟩ := track_loop part loop (part.first position member.1) member.2
      exact ⟨position :: first,⟨member.1,track⟩,second,words,rfl⟩
  · rintro ⟨first,inner,second,words,rfl⟩
    obtain ⟨pieces,rfl,all⟩ := Language.mem_kstar_iff_exists_nonempty.mp words
    cases first with
    | nil =>
      cases pieces with
      | nil => exact inner
      | cons piece pieces =>
        obtain ⟨front,filled⟩ := all piece List.mem_cons_self
        cases piece with
        | nil => exact absurd rfl filled
        | cons position rest =>
          refine ⟨front.1,loop_track part loop pieces ?_ (part.first position front.1) front.2⟩
          exact fun other later => all other (List.mem_cons_of_mem _ later)
    | cons position rest => exact ⟨inner.1,loop_track part loop pieces all (part.first position inner.1) inner.2⟩

end Loop

end Words

end ParseForest.Pattern
