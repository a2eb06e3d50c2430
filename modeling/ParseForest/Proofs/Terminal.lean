import Mathlib
import ParseForest.Regex.Standard
import ParseForest.Terminal

namespace ParseForest

namespace Text

variable {text other word : List Char} {position : Nat}

-- A word stands in a text behind as many characters as its position says. The empty word stands up to the end.
def StandsAt (text : List Char) (position : Nat) (word : List Char) : Prop :=
  ∃ before after, text = before ++ word ++ after ∧ before.length = position

theorem standsAt_iff : StandsAt text position word ↔ position ≤ text.length ∧ word <+: text.drop position := by
  constructor
  · intro stands
    obtain ⟨before,after,rfl,rfl⟩ := stands
    rw [List.append_assoc,List.drop_left,List.length_append]
    exact ⟨Nat.le_add_right _ _,List.prefix_append _ _⟩
  · intro found
    obtain ⟨inside,after,parts⟩ := found
    refine ⟨text.take position,after,?_,List.length_take_of_le inside⟩
    rw [List.append_assoc,parts,List.take_append_drop]

theorem StandsAt.stop_le (stands : StandsAt text position word) : position + word.length ≤ text.length := by
  obtain ⟨before,after,rfl,rfl⟩ := stands
  simp

-- Only the characters of the word are looked at.
theorem StandsAt.transfer (stands : StandsAt text position word) (room : position + word.length ≤ other.length)
    (agree : ∀ index, position ≤ index → index < position + word.length → other[index]? = text[index]?) :
    StandsAt other position word := by
  obtain ⟨_,front⟩ := standsAt_iff.mp stands
  refine standsAt_iff.mpr ⟨(Nat.le_add_right _ _).trans room,List.prefix_iff_getElem?.mpr ?_⟩
  intro index below
  have seen := List.prefix_iff_getElem?.mp front index below
  rw [List.getElem?_drop] at seen ⊢
  rw [agree _ (Nat.le_add_right _ _) (Nat.add_lt_add_left below _),seen]

end Text

namespace Terminal

section

variable [Regex.Library]

-- The words of a terminal: the text of a literal, and single characters for the other kinds. A pattern that cannot be
-- compiled has none.
inductive Spells : Terminal → List Char → Prop where
  | literal (text : String) : Spells (.literal text) text.toList
  | range {low high c : Char} (least : low ≤ c) (most : c ≤ high) : Spells (.range low high) [c]
  | set {members : String} {c : Char} (member : c ∈ members.toList) : Spells (.set members) [c]
  | any (c : Char) : Spells .any [c]
  | pattern {regex : String} {compiled : Regex.Library.Compiled} {c : Char} (found : Regex.compile? regex = some compiled)
      (accepted : Regex.Library.matchesChar compiled c = true) : Spells (.pattern regex) [c]

variable {terminal : Terminal} {text other word : List Char} {expected : String} {position length : Nat}

theorem Spells.length_eq (spells : terminal.Spells word) : word.length = terminal.length := by
  cases spells <;> rfl

theorem spells_literal : (literal expected).Spells word ↔ word = expected.toList := by
  constructor
  · intro spells
    cases spells
    rfl
  · intro same
    rw [same]
    exact .literal expected

theorem spells_single (single : ∀ expected, terminal ≠ .literal expected) :
    terminal.Spells word ↔ ∃ c, terminal.accepts c = true ∧ word = [c] := by
  constructor
  · intro spells
    cases spells with
    | literal text => exact absurd rfl (single text)
    | @range low high c least most => exact ⟨c,by simp [accepts,least,most],rfl⟩
    | @set members c member => exact ⟨c,by simpa [accepts] using member,rfl⟩
    | any c => exact ⟨c,rfl,rfl⟩
    | @pattern regex compiled c found accepted => exact ⟨c,by simp [accepts,Regex.matchesChar,found,accepted],rfl⟩
  · intro found
    obtain ⟨c,accepted,rfl⟩ := found
    cases terminal with
    | literal text => exact absurd rfl (single text)
    | range low high =>
      obtain ⟨least,most⟩ : low ≤ c ∧ c ≤ high := by simpa [accepts] using accepted
      exact .range least most
    | set members => exact .set (by simpa [accepts] using accepted)
    | any => exact .any c
    | pattern regex =>
      cases found : Regex.compile? regex with
      | none => simp [accepts,Regex.matchesChar,found] at accepted
      | some compiled => exact .pattern found (by simpa [accepts,Regex.matchesChar,found] using accepted)

theorem matchFront_iff : terminal.matchFront? text = some length ↔ ∃ word, terminal.Spells word ∧ word <+: text ∧ word.length = length := by
  unfold matchFront?
  split
  · rename_i expected
    simp [spells_literal]
  · rename_i single
    simp only [spells_single single]
    cases text with
    | nil => simp
    | cons c rest => simp

-- A terminal matches where one of its words stands.
theorem matches_iff : terminal.matches? text position = some length ↔
    ∃ word, terminal.Spells word ∧ Text.StandsAt text position word ∧ word.length = length := by
  unfold matches?
  simp only [Text.standsAt_iff]
  by_cases inside : position ≤ text.length
  · simp [inside,matchFront_iff]
  · simp [inside]

theorem matches_length (found : terminal.matches? text position = some length) : length = terminal.length := by
  obtain ⟨word,spells,_,rfl⟩ := matches_iff.mp found
  exact spells.length_eq

theorem matches_le (found : terminal.matches? text position = some length) : position + length ≤ text.length := by
  obtain ⟨word,_,stands,rfl⟩ := matches_iff.mp found
  exact stands.stop_le

-- Without text only a literal without characters matches.
theorem matches_zero (found : terminal.matches? text position = some 0) : terminal = .literal "" := by
  obtain ⟨word,spells,_,empty⟩ := matches_iff.mp found
  cases spells with
  | literal text => rw [String.toList_eq_nil_iff.mp (List.length_eq_zero_iff.mp empty)]
  | range | set | any | pattern => cases empty

theorem matches_literal : (literal expected).matches? text position = some length ↔
    Text.StandsAt text position expected.toList ∧ length = expected.toList.length := by
  rw [matches_iff]
  simp only [spells_literal]
  constructor
  · intro found
    obtain ⟨word,rfl,stands,rfl⟩ := found
    exact ⟨stands,rfl⟩
  · intro found
    obtain ⟨stands,rfl⟩ := found
    exact ⟨_,rfl,stands,rfl⟩

-- A terminal matches where one of its words stands, and all its words have its length, so a match is of that length and
-- ends with the text at the latest. A literal matches where its own text stands, the empty one up to the end. A match
-- stays one in every other text that has the same characters there, whatever stands before and behind them.
theorem matches_local (terminal : Terminal) (text : List Char) (position : Nat) :
    (∀ length, terminal.matches? text position = some length ↔
      ∃ word, terminal.Spells word ∧ Text.StandsAt text position word ∧ word.length = length) ∧
    (∀ length, terminal.matches? text position = some length → length = terminal.length ∧ position + length ≤ text.length) ∧
    (∀ expected length, (literal expected).matches? text position = some length ↔
      Text.StandsAt text position expected.toList ∧ length = expected.toList.length) ∧
    ((literal "").matches? text position = some 0 ↔ position ≤ text.length) ∧
    ∀ length other, terminal.matches? text position = some length → position + length ≤ other.length →
      (∀ index, position ≤ index → index < position + length → other[index]? = text[index]?) →
      terminal.matches? other position = some length := by
  refine ⟨fun _ => matches_iff,fun _ found => ⟨matches_length found,matches_le found⟩,fun _ _ => matches_literal,?_,?_⟩
  · simp [matches_literal,Text.standsAt_iff]
  · intro length other found room agree
    obtain ⟨word,spells,stands,rfl⟩ := matches_iff.mp found
    exact matches_iff.mpr ⟨word,spells,stands.transfer room agree,rfl⟩

end

-- Two characters of more than one byte each, in two texts that have nothing else in common.
theorem greeting_found : (literal "你好").matches? ['x','你','好','!'] 1 = some 2 ∧ (literal "你好").matches? ['好','你','好'] 1 = some 2 := by
  obtain ⟨_,_,found,_,elsewhere⟩ := matches_local (literal "你好") ['x','你','好','!'] 1
  have first : (literal "你好").matches? ['x','你','好','!'] 1 = some 2 := (found "你好" 2).mpr ⟨⟨['x'],['!'],rfl,rfl⟩,rfl⟩
  refine ⟨first,elsewhere 2 _ first (by decide) ?_⟩
  intro index least most
  obtain rfl | rfl : index = 1 ∨ index = 2 := by omega
  · rfl
  · rfl

end Terminal

end ParseForest
