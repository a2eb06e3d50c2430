import Mathlib
import ParseForest.Text.Document

namespace ParseForest.Text

-- The text before an offset ends with the beginning of a line, and the text behind it begins with what is left of that line.
def begun (before : List Char) : List Char := before.rtakeWhile (· ≠ '\n')

def remainder (behind : List Char) : List Char := behind.takeWhile (· ≠ '\n')

theorem begun_concat (before : List Char) (c : Char) : begun (before ++ [c]) = if c = '\n' then [] else begun before ++ [c] := by
  simp [begun,List.rtakeWhile_concat]

theorem begun_free (before : List Char) : '\n' ∉ begun before := by
  intro member
  simpa using List.mem_rtakeWhile_imp member

-- What comes before the line of an offset is nothing, or it ends with a line feed.
theorem begun_spec (before : List Char) : ∃ earlier, before = earlier ++ begun before ∧
    (earlier = [] ∨ ∃ lines, earlier = lines ++ ['\n']) := by
  induction before using List.reverseRecOn with
  | nil => exact ⟨[],rfl,.inl rfl⟩
  | append_singleton before c ih =>
    rw [begun_concat]
    split
    · rename_i feed
      exact ⟨before ++ [c],(List.append_nil _).symm,.inr ⟨before,by rw [feed]⟩⟩
    · obtain ⟨earlier,parts,closed⟩ := ih
      refine ⟨earlier,?_,closed⟩
      rw [← List.append_assoc,← parts]

theorem remainder_cons (c : Char) (behind : List Char) : remainder (c :: behind) = if c = '\n' then [] else c :: remainder behind := by
  by_cases feed : c = '\n'
  · simp [remainder,feed]
  · simp [remainder,feed]

theorem remainder_append {passed : List Char} (free : '\n' ∉ passed) (behind : List Char) :
    remainder (passed ++ behind) = passed ++ remainder behind := by
  refine List.takeWhile_append_of_pos fun c member => ?_
  have other : c ≠ '\n' := fun feed => free (feed ▸ member)
  simpa using other

theorem remainder_head {c : Char} {behind : List Char} (found : behind.head? = some c) (other : c ≠ '\n') :
    (remainder behind).head? = some c := by
  obtain ⟨rest,rfl⟩ := List.head?_eq_some_iff.mp found
  rw [remainder_cons,if_neg other,List.head?_cons]

theorem remainder_nil {behind : List Char} (feed : ∀ c, behind.head? = some c → c = '\n') : remainder behind = [] := by
  cases behind with
  | nil => rfl
  | cons c rest => rw [remainder_cons,if_pos (feed c rfl)]

section Pieces

theorem splitOn_head (text : List Char) : (text.splitOn '\n').head? = some (remainder text) := by
  induction text with
  | nil => rfl
  | cons c text ih =>
    rw [List.splitOn_cons_eq_if_modifyHead,remainder_cons]
    by_cases feed : c = '\n'
    · simp [feed]
    · simp [feed,ih]

theorem splitOn_length (text : List Char) : (text.splitOn '\n').length = text.count '\n' + 1 := by
  induction text with
  | nil => rfl
  | cons c text ih =>
    rw [List.splitOn_cons_eq_if_modifyHead]
    by_cases feed : c = '\n'
    · simp [feed,ih]
    · simp [feed,ih]

-- As many pieces come before the one at an offset as there are line feeds before the offset.
theorem splitOn_append (before behind : List Char) :
    ((before ++ behind).splitOn '\n')[before.count '\n']? = some (begun before ++ remainder behind) := by
  obtain ⟨earlier,parts,closed⟩ := begun_spec before
  have free := begun_free before
  rw [← remainder_append free]
  generalize begun before = passed at parts free
  subst parts
  rcases closed with rfl | ⟨lines,rfl⟩
  · rw [List.nil_append,List.count_eq_zero_of_not_mem free,← List.head?_eq_getElem?,splitOn_head]
  · have count : (lines ++ ['\n'] ++ passed).count '\n' = (lines.splitOn '\n').length := by
      rw [splitOn_length,List.count_append,List.count_append,List.count_eq_zero_of_not_mem free]
      rfl
    rw [count,List.append_assoc,List.append_assoc,List.singleton_append,List.splitOn_append_cons_self,
      List.getElem?_append_right (Nat.le_refl _),Nat.sub_self,← List.head?_eq_getElem?,splitOn_head]

end Pieces

section Places

variable {document : Document} {offset : Nat}

theorem position_eq (document : Document) (offset : Nat) : document.position offset =
    ⟨min offset document.length,1 + (document.chars.take offset).count '\n',1 + (begun (document.chars.take offset)).length⟩ := by
  have places : ∀ text : List Char, text.foldl Position.after Position.origin =
      ⟨text.length,1 + text.count '\n',1 + (begun text).length⟩ := by
    intro text
    induction text using List.reverseRecOn with
    | nil => rfl
    | append_singleton text c ih =>
      rw [List.foldl_concat,ih,Position.after,begun_concat]
      by_cases feed : c = '\n'
      · simp [feed,Nat.add_assoc]
      · simp [feed,Nat.add_assoc]
  rw [Document.position,places,List.length_take]
  rfl

theorem lineAt_eq (document : Document) (offset : Nat) : (document.lineAt offset).toList =
    begun (document.chars.take offset) ++ remainder (document.chars.drop offset) := String.toList_ofList

-- A place as it is read: by its line, and on one line by its column.
def Position.reading (here : Position) : ℕ ×ₗ ℕ := toLex (here.line,here.column)

theorem Position.reading_after (here : Position) (c : Char) : here.reading < (here.after c).reading := by
  rw [Position.reading,Position.reading,Prod.Lex.toLex_lt_toLex,Position.after]
  split
  · exact .inl (Nat.lt_succ_self _)
  · exact .inr ⟨rfl,Nat.lt_succ_self _⟩

theorem position_succ (inside : offset < document.length) :
    ∃ c, document.position (offset + 1) = (document.position offset).after c := by
  refine ⟨document.chars.get ⟨offset,inside⟩,?_⟩
  rw [Document.position,Document.position,List.take_succ_eq_append_getElem inside,List.foldl_concat]
  rfl

-- Every code point moves the place forward, so the places of a document are in order.
theorem reading_strictMonoOn (document : Document) :
    StrictMonoOn (fun offset => (document.position offset).reading) (Set.Iic document.length) := by
  apply strictMonoOn_Iic_of_lt_succ
  intro offset inside
  obtain ⟨c,next⟩ := position_succ inside
  change (document.position offset).reading < (document.position (offset + 1)).reading
  rw [next]
  exact (document.position offset).reading_after c

end Places

-- A place and the text of a line agree about an offset. The line is counted by the line feeds before the offset, the
-- column by the code points since the last of them. The text is the piece of that number, and the column points into it
-- at the code point of the offset, or behind its last one where a line or the document ends.
structure Locates (document : Document) (offset : Nat) (here : Position) (text : List Char) : Prop where
  clamped : here.offset = min offset document.length
  counted : here.line = 1 + (document.chars.take offset).count '\n'
  measured : ∃ earlier passed, document.chars.take offset = earlier ++ passed ∧ (earlier = [] ∨ ∃ lines, earlier = lines ++ ['\n']) ∧
    '\n' ∉ passed ∧ here.column = 1 + passed.length
  piece : (document.chars.splitOn '\n')[here.line - 1]? = some text
  within : here.column - 1 ≤ text.length
  pointed : ∀ c, document.chars[offset]? = some c → c ≠ '\n' → text[here.column - 1]? = some c
  ended : (∀ c, document.chars[offset]? = some c → c = '\n') → here.column - 1 = text.length

theorem locates (document : Document) (offset : Nat) :
    Locates document offset (document.position offset) (document.lineAt offset).toList := by
  rw [position_eq,lineAt_eq]
  constructor
  case clamped => rfl
  case counted => rfl
  case measured =>
    obtain ⟨earlier,parts,closed⟩ := begun_spec (document.chars.take offset)
    exact ⟨earlier,_,parts,closed,begun_free _,rfl⟩
  case piece => rw [Nat.add_sub_cancel_left,← splitOn_append,List.take_append_drop]
  case within =>
    rw [Nat.add_sub_cancel_left,List.length_append]
    exact Nat.le_add_right _ _
  case pointed =>
    intro c found other
    rw [← List.head?_drop] at found
    rw [Nat.add_sub_cancel_left,List.getElem?_append_right (Nat.le_refl _),Nat.sub_self,← List.head?_eq_getElem?]
    exact remainder_head found other
  case ended =>
    intro feed
    simp only [← List.head?_drop] at feed
    rw [Nat.add_sub_cancel_left,remainder_nil feed,List.append_nil]

-- Places come in the order of their offsets, no two offsets of a document have one place, and place and line agree at
-- every offset. An offset past the end stands for the end.
theorem places_agree (document : Document) :
    StrictMonoOn (fun offset => (document.position offset).reading) (Set.Iic document.length) ∧
    Set.InjOn (fun offset => ((document.position offset).line,(document.position offset).column)) (Set.Iic document.length) ∧
    ∀ offset, Locates document offset (document.position offset) (document.lineAt offset).toList ∧
      document.position offset = document.position (min offset document.length) ∧
      document.lineAt offset = document.lineAt (min offset document.length) := by
  have ordered := reading_strictMonoOn document
  refine ⟨ordered,ordered.injOn,?_⟩
  intro offset
  refine ⟨locates document offset,?_⟩
  rcases Nat.le_total offset document.length with inside | past
  · rw [Nat.min_eq_left inside]
    exact ⟨rfl,rfl⟩
  · rw [Nat.min_eq_right past]
    unfold Document.length at past ⊢
    constructor
    · rw [Document.position,Document.position,List.take_of_length_le past,List.take_length]
    · rw [Document.lineAt,Document.lineAt,List.take_of_length_le past,List.drop_of_length_le past,List.take_length,List.drop_length]

-- Behind a line feed that ends the document a new line begins, and the line feed itself ends the line before.
example : (⟨['a','\n']⟩ : Document).position 2 = ⟨2,2,1⟩ ∧ (⟨['a','\n']⟩ : Document).position 1 = ⟨1,1,2⟩ := by decide

end ParseForest.Text
