import Mathlib
import ParseForest.Json.Reader
import ParseForest.Proofs.Json.Scan

namespace ParseForest.Json

open Value

namespace Reader

variable {reader next : Reader}

theorem run_append (one two : List Token) : reader.run (one ++ two) = (reader.run one).bind fun next => next.run two := by
  induction one generalizing reader with
  | nil => rfl
  | cons token rest ih =>
    simp only [List.cons_append,run]
    cases reader.step token with
    | none => rfl
    | some next => exact ih

theorem run_then {one : List Token} (ran : reader.run one = some next) (two : List Token) : reader.run (one ++ two) = next.run two := by
  rw [run_append,ran]
  rfl

-- The first item of an array is read like any other value; only the end of the array is told apart.
theorem wantsItem_step {stack : List Frame} {token : Token} (opens : token ≠ .closeArray) :
    step (.wantsItem stack) token = step (.wantsValue (.array [] :: stack)) token := by
  cases token with
  | closeArray => exact absurd rfl opens
  | _ => rfl

theorem close_named (members : List (String × Value)) :
    close (members.map fun member => (some member.1,member.2)).reverse = .object members := by
  have named : (members.map fun member => (some member.1,member.2)).mapM
      (fun member : Option String × Value => member.1.map fun name => (name,member.2)) = some members := by
    induction members with
    | nil => rfl
    | cons member rest ih => simp [ih]
  unfold close
  rw [List.reverse_reverse,named]

end Reader

open Reader

-- Where a value is wanted, its tokens are read to it.
def Reads (value : Value) : Prop := ∀ stack, (Reader.wantsValue stack).run value.tokens = some (.done value stack)

theorem tokens_head (value : Value) : ∃ token rest, value.tokens = token :: rest ∧ token ≠ .closeArray := by
  cases value with
  | array items => exact ⟨_,_,rfl,by decide⟩
  | object members => exact ⟨_,_,rfl,by decide⟩
  | _ => exact ⟨_,_,rfl,nofun⟩

theorem itemTokens_head (first : Value) (items : List Value) :
    ∃ token rest, itemTokens (first :: items) = token :: rest ∧ token ≠ .closeArray := by
  obtain ⟨token,rest,head,opens⟩ := tokens_head first
  cases items with
  | nil => exact ⟨token,rest,head,opens⟩
  | cons next items => exact ⟨token,_,by rw [itemTokens,head,List.cons_append],opens⟩

theorem items_read {first : Value} {items : List Value} (each : ∀ item ∈ first :: items, Reads item) (done : List Value)
    (stack : List Frame) : (Reader.wantsValue (.array done :: stack)).run (itemTokens (first :: items) ++ [.closeArray]) =
      some (.done (.array (done.reverse ++ first :: items)) stack) := by
  induction items generalizing first done with
  | nil =>
    have read := each first List.mem_cons_self (.array done :: stack)
    refine (run_then read [.closeArray]).trans ?_
    simp [run,step]
  | cons next rest ih =>
    have read := each first List.mem_cons_self (.array done :: stack)
    have others := ih (fun item member => each item (List.mem_cons_of_mem _ member)) (first :: done)
    rw [itemTokens,List.append_assoc,run_then read]
    refine others.trans ?_
    rw [List.reverse_cons,List.append_assoc,List.singleton_append]

theorem members_read {first : String × Value} {members : List (String × Value)}
    (each : ∀ member ∈ first :: members, Reads member.2) (done : List (Option String × Value)) (stack : List Frame) :
    (Reader.wantsName done stack).run (memberTokens (first :: members) ++ [.closeObject]) =
      some (.done (close (((first :: members).map fun member => (some member.1,member.2)).reverse ++ done)) stack) := by
  induction members generalizing first done with
  | nil =>
    obtain ⟨name,value⟩ := first
    have read := each (name,value) List.mem_cons_self (.object done (some name) :: stack)
    exact run_then read [.closeObject]
  | cons next rest ih =>
    obtain ⟨name,value⟩ := first
    have read := each (name,value) List.mem_cons_self (.object done (some name) :: stack)
    have others := ih (fun member listed => each member (List.mem_cons_of_mem _ listed)) ((some name,value) :: done)
    rw [memberTokens,List.append_assoc]
    refine (run_then read _).trans (others.trans ?_)
    simp

theorem Value.Plain.reads {value : Value} (plain : value.Plain) : Reads value := by
  induction plain with
  | null => exact fun _ => rfl
  | bool value => exact fun _ => rfl
  | natural value => exact fun _ => rfl
  | string text => exact fun _ => rfl
  | @array items _ ih =>
    intro stack
    cases items with
    | nil => rfl
    | cons first rest =>
      have read := items_read ih [] stack
      obtain ⟨token,others,head,opens⟩ := itemTokens_head first rest
      change (Reader.wantsItem stack).run (itemTokens (first :: rest) ++ [.closeArray]) = _
      rw [head,List.cons_append] at read ⊢
      unfold run at read ⊢
      rw [wantsItem_step opens]
      exact read
  | @object members _ ih =>
    intro stack
    cases members with
    | nil => rfl
    | cons first rest =>
      have read := members_read ih [] stack
      rw [List.append_nil,close_named] at read
      obtain ⟨name,value⟩ := first
      cases rest with
      | nil => exact read
      | cons next rest => exact read

-- Reading what was written gives the value back.
theorem Value.Plain.parse_render {value : Value} (plain : value.Plain) : Value.parse? value.render = some value := by
  rw [Value.parse?,Value.render,String.toList_ofList,plain.scan_written]
  change Value.ofTokens? value.tokens = some value
  rw [Value.ofTokens?,plain.reads []]

end ParseForest.Json
