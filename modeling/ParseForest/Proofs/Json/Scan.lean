import Mathlib
import ParseForest.Json.Token
import ParseForest.Json.Value

namespace ParseForest.Json

namespace Scanner

variable {scanner next : Scanner} {tokens : List Token}

theorem run_append (one two : List Char) : scanner.run (one ++ two) = (scanner.run one).bind fun next => next.run two := by
  induction one generalizing scanner with
  | nil => rfl
  | cons c rest ih =>
    simp only [List.cons_append,run]
    cases scanner.step c with
    | none => rfl
    | some next => exact ih

theorem run_cons {c : Char} (stepped : scanner.step c = some next) (rest : List Char) : scanner.run (c :: rest) = next.run rest := by
  simp only [run,stepped]

theorem run_then {one : List Char} (ran : scanner.run one = some next) (two : List Char) : scanner.run (one ++ two) = next.run two := by
  rw [run_append,ran]
  rfl

-- A number is finished by what follows it. Up to then the scanner stands where it would stand with the
-- token in hand: at the end of the text, and before whatever may follow a value.
structure Rests (scanner : Scanner) (tokens : List Token) : Prop where
  step : ∀ c ∈ [',',']','\x7d'], scanner.step c = begin tokens c
  finish : scanner.finish = some tokens.reverse

theorem blank_rests : Rests ⟨.blank,tokens⟩ tokens := ⟨fun _ _ => rfl,rfl⟩

end Scanner

open Scanner

section Numbers

variable {tokens : List Token} {part : NumberPart}

theorem numberToken_digits (ends : part = .zero ∨ part = .whole) (value : Nat) :
    numberToken part (Nat.toDigits 10 value).reverse = .natural value := by
  have unsigned : (Nat.toDigits 10 value).head? ≠ some '-' := by
    intro head
    have digit := Nat.isDigit_of_mem_toDigits (by decide) (by decide) (List.mem_of_head? head)
    exact absurd digit (by decide)
  have spelled : (Nat.toDigits 10 value).foldl (fun value c => value * 10 + (c.toNat - '0'.toNat)) 0 = value := by
    conv_rhs => rw [← Nat.ofDigitChars_ten_toDigits (n := value),Nat.ofDigitChars_eq_foldl]
    simp only [Nat.mul_comm]
  unfold numberToken
  simp only [List.reverse_reverse,if_pos ends,if_neg unsigned,spelled]

theorem number_rests (ends : part = .zero ∨ part = .whole) (value : Nat) :
    Rests ⟨.number part (Nat.toDigits 10 value).reverse,tokens⟩ (.natural value :: tokens) := by
  have complete : part.isComplete = true := by
    rcases ends with rfl | rfl
    · rfl
    · rfl
  constructor
  · intro c follows
    have stops : part.next c = none := by
      simp only [List.mem_cons,List.not_mem_nil,or_false] at follows
      rcases ends with rfl | rfl <;> rcases follows with rfl | rfl | rfl <;> rfl
    simp only [step,stops,complete,if_true,numberToken_digits ends]
  · simp only [finish,complete,if_true,numberToken_digits ends]

theorem run_digits {value : Nat} (positive : 0 < value) : run ⟨.blank,tokens⟩ (Nat.toDigits 10 value) =
    some ⟨.number .whole (Nat.toDigits 10 value).reverse,tokens⟩ := by
  induction value using Nat.strongRecOn with
  | ind value ih =>
    rcases Nat.lt_or_ge value 10 with small | large
    · rw [Nat.toDigits_of_lt_base small]
      interval_cases value <;> rfl
    · have before := ih (value/10) (by omega) (by omega)
      have digit : (Nat.digitChar (value%10)).isDigit = true := by
        rw [Nat.isDigit_digitChar,decide_eq_true (Nat.mod_lt value (by decide))]
      rw [Nat.toDigits_of_base_le (by decide) large,run_then before,List.reverse_append]
      refine run_cons ?_ []
      simp only [step,NumberPart.next,digit,if_true]
      rfl

theorem run_natural (value : Nat) : ∃ scanner, run ⟨.blank,tokens⟩ (Nat.toDigits 10 value) = some scanner ∧
    Rests scanner (.natural value :: tokens) := by
  rcases Nat.eq_zero_or_pos value with rfl | positive
  · exact ⟨_,rfl,number_rests (.inl rfl) 0⟩
  · exact ⟨_,run_digits positive,number_rests (.inr rfl) value⟩

end Numbers

section Strings

variable {tokens : List Token} {chars : List Char}

theorem hexDigit_digitChar : ∀ digit < 16, Unicode.hexDigit? (Nat.digitChar digit) = some digit := by decide

-- A control is written by its number, everything else by one letter or by itself.
theorem run_control {c : Char} (control : c.toNat < 0x20) : run ⟨.string ⟨chars,none,true⟩,tokens⟩
    ['\\','u','0','0',Nat.digitChar (c.toNat/16),Nat.digitChar (c.toNat%16)] = some ⟨.string ⟨c :: chars,none,true⟩,tokens⟩ := by
  have high := hexDigit_digitChar (c.toNat/16) (by omega)
  have low := hexDigit_digitChar (c.toNat%16) (Nat.mod_lt _ (by decide))
  have spelled : c.toNat/16*16+c.toNat%16 = c.toNat := by omega
  have unit : Fragment.pushUnit ⟨chars,none,true⟩ c.toNat = ⟨c :: chars,none,true⟩ := by
    rw [Fragment.pushUnit,if_neg (by omega),if_neg (by omega),Fragment.push,Char.ofNat_toNat]
    rfl
  have begun : run ⟨.string ⟨chars,none,true⟩,tokens⟩ ['\\','u','0','0'] = some ⟨.unit ⟨chars,none,true⟩ 1 0,tokens⟩ := rfl
  refine (run_then begun _).trans ?_
  simp only [run,step,high,low,Nat.zero_mul,Nat.zero_add,spelled,unit]

theorem run_escapedChar (c : Char) : run ⟨.string ⟨chars,none,true⟩,tokens⟩ (Value.escapedChar c) =
    some ⟨.string ⟨c :: chars,none,true⟩,tokens⟩ := by
  unfold Value.escapedChar
  iterate 7
    split
    · subst c
      rfl
  split
  · rename_i control
    exact run_control control
  · rename_i quote backslash _ _ _ _ _ printed
    refine run_cons ?_ []
    simp only [step,if_neg quote,if_neg backslash,if_neg printed]
    rfl

theorem run_escaped (text : List Char) : run ⟨.string ⟨chars,none,true⟩,tokens⟩ (text.flatMap Value.escapedChar) =
    some ⟨.string ⟨text.reverse ++ chars,none,true⟩,tokens⟩ := by
  induction text generalizing chars with
  | nil => rfl
  | cons c rest ih => rw [List.flatMap_cons,run_then (run_escapedChar c),ih,List.reverse_cons,List.append_assoc,List.singleton_append]

theorem run_string (text : String) : run ⟨.blank,tokens⟩ (Value.writtenString text) = some ⟨.blank,.string (some text) :: tokens⟩ := by
  have begun : step ⟨.blank,tokens⟩ '"' = some ⟨.string ⟨[],none,true⟩,tokens⟩ := rfl
  unfold Value.writtenString
  rw [List.cons_append,run_cons begun,run_then (run_escaped text.toList),List.append_nil]
  simp [run,step,Fragment.token]

end Strings

namespace Value

mutual
-- The tokens of a written value, commas and colons included.
def tokens : Value → List Token
  | null => [.null]
  | bool value => [.bool value]
  | natural value => [.natural value]
  | number literal => [.number literal]
  | string text => [.string (some text)]
  | array items => .openArray :: itemTokens items ++ [.closeArray]
  | object members => .openObject :: memberTokens members ++ [.closeObject]
  | unreadable => [.null]

def itemTokens : List Value → List Token
  | [] => []
  | [item] => tokens item
  | item :: next :: rest => tokens item ++ .comma :: itemTokens (next :: rest)

def memberTokens : List (String × Value) → List Token
  | [] => []
  | [(name,value)] => .string (some name) :: .colon :: tokens value
  | (name,value) :: next :: rest => .string (some name) :: .colon :: tokens value ++ .comma :: memberTokens (next :: rest)
end

-- A value without the parts that are written by another text than they were read from.
inductive Plain : Value → Prop where
  | null : Plain .null
  | bool (value : Bool) : Plain (.bool value)
  | natural (value : Nat) : Plain (.natural value)
  | string (text : String) : Plain (.string text)
  | array {items : List Value} (plain : ∀ item ∈ items, Plain item) : Plain (.array items)
  | object {members : List (String × Value)} (plain : ∀ member ∈ members, Plain member.2) : Plain (.object members)

end Value

-- A text is scanned to tokens, with the last of them perhaps still to be finished.
def Scans (text : List Char) (found : List Token) : Prop :=
  ∀ tokens, ∃ scanner, run ⟨.blank,tokens⟩ text = some scanner ∧ Rests scanner (found.reverse ++ tokens)

-- A text is scanned to tokens that are all finished.
def Closes (text : List Char) (found : List Token) : Prop := ∀ tokens, run ⟨.blank,tokens⟩ text = some ⟨.blank,found.reverse ++ tokens⟩

section Texts

variable {text more : List Char} {found further : List Token}

theorem Closes.scans (closes : Closes text found) : Scans text found := fun tokens => ⟨_,closes tokens,blank_rests⟩

theorem Closes.append (closes : Closes text found) (scans : Scans more further) : Scans (text ++ more) (found ++ further) := by
  intro tokens
  obtain ⟨scanner,after,rests⟩ := scans (found.reverse ++ tokens)
  refine ⟨scanner,(run_then (closes tokens) more).trans after,?_⟩
  rw [List.reverse_append,List.append_assoc]
  exact rests

-- A comma or a closing bracket finishes the token before it.
theorem Scans.close (scans : Scans text found) {c : Char} {token : Token} (follows : c ∈ [',',']','\x7d'])
    (begun : ∀ tokens, begin tokens c = some ⟨.blank,token :: tokens⟩) : Closes (text ++ [c]) (found ++ [token]) := by
  intro tokens
  obtain ⟨scanner,ran,rests⟩ := scans tokens
  rw [run_then ran,List.reverse_append,List.append_assoc]
  exact run_cons ((rests.step c follows).trans (begun _)) []

end Texts

open Value

theorem items_scan {items : List Value} (each : ∀ item ∈ items, Scans item.written item.tokens) :
    Scans (writtenItems items) (itemTokens items) := by
  induction items with
  | nil => exact Closes.scans fun _ => rfl
  | cons item rest ih =>
    have first := each item List.mem_cons_self
    have others := ih fun other member => each other (List.mem_cons_of_mem _ member)
    cases rest with
    | nil => exact first
    | cons next rest =>
      have comma : Closes (item.written ++ [',']) (item.tokens ++ [.comma]) := first.close (by decide) fun _ => rfl
      rw [writtenItems,itemTokens,List.append_cons item.written,List.append_cons item.tokens]
      exact comma.append others

theorem member_scans (name : String) {value : Value} (scans : Scans value.written value.tokens) :
    Scans (writtenString name ++ ':' :: value.written) (.string (some name) :: .colon :: value.tokens) := by
  have named : Closes (writtenString name ++ [':']) [.string (some name),.colon] := by
    intro tokens
    rw [run_then (run_string name)]
    rfl
  rw [List.append_cons]
  exact named.append scans

theorem members_scan {members : List (String × Value)} (each : ∀ member ∈ members, Scans member.2.written member.2.tokens) :
    Scans (writtenMembers members) (memberTokens members) := by
  induction members with
  | nil => exact Closes.scans fun _ => rfl
  | cons member rest ih =>
    obtain ⟨name,value⟩ := member
    have first := member_scans name (each (name,value) List.mem_cons_self)
    have others := ih fun other listed => each other (List.mem_cons_of_mem _ listed)
    cases rest with
    | nil => exact first
    | cons next rest =>
      have comma : Closes (writtenString name ++ ':' :: value.written ++ [','])
          (.string (some name) :: .colon :: value.tokens ++ [.comma]) := first.close (by decide) fun _ => rfl
      rw [writtenMembers,memberTokens,List.append_cons (writtenString name ++ ':' :: value.written),
        List.append_cons (Token.string (some name) :: .colon :: value.tokens)]
      exact comma.append others

theorem Value.Plain.scans {value : Value} (plain : value.Plain) : Scans value.written value.tokens := by
  induction plain with
  | null => exact Closes.scans fun _ => rfl
  | bool value =>
    cases value with
    | false => exact Closes.scans fun _ => rfl
    | true => exact Closes.scans fun _ => rfl
  | natural value => exact fun _ => run_natural value
  | string text => exact Closes.scans fun _ => run_string text
  | array _ ih =>
    have opened : Closes ['['] [.openArray] := fun _ => rfl
    exact ((opened.append (items_scan ih)).close (by decide) fun _ => rfl).scans
  | object _ ih =>
    have opened : Closes ['\x7b'] [.openObject] := fun _ => rfl
    exact ((opened.append (members_scan ih)).close (by decide) fun _ => rfl).scans

-- A written value is scanned to its tokens.
theorem Value.Plain.scan_written {value : Value} (plain : value.Plain) : Token.scan value.written = some value.tokens := by
  obtain ⟨scanner,ran,rests⟩ := plain.scans []
  rw [Token.scan,ran]
  refine rests.finish.trans ?_
  rw [List.append_nil,List.reverse_reverse]

end ParseForest.Json
