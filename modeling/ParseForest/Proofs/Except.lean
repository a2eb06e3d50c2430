import Mathlib

namespace ParseForest

theorem bind_ok {ε α β : Type} {first : Except ε α} {rest : α → Except ε β} {result : β} :
    first >>= rest = .ok result ↔ ∃ value, first = .ok value ∧ rest value = .ok result := by
  cases first with
  | ok => simp [bind,Except.bind]
  | error => simp [bind,Except.bind]

theorem bind_error {ε α β : Type} {first : Except ε α} {rest : α → Except ε β} {fault : ε} :
    first >>= rest = .error fault ↔ first = .error fault ∨ ∃ value, first = .ok value ∧ rest value = .error fault := by
  cases first with
  | ok => simp [bind,Except.bind]
  | error => simp [bind,Except.bind]

-- A check that comes first lets the rest decide, or decides itself.
theorem checked_ok {ε α : Type} {check : Except ε Unit} {rest : Except ε α} {result : α} :
    (do check; rest) = .ok result ↔ check = .ok () ∧ rest = .ok result :=
  bind_ok.trans ⟨fun ⟨_,passed⟩ => passed,fun passed => ⟨(),passed⟩⟩

theorem toOption_some {ε α : Type} {result : Except ε α} {value : α} : result.toOption = some value ↔ result = .ok value := by
  cases result with
  | ok => simp [Except.toOption]
  | error => simp [Except.toOption]

theorem mapM_ok_iff {ε α β : Type} {read : α → Except ε β} {items : List α} {results : List β} :
    items.mapM read = .ok results ↔ List.Forall₂ (fun item result => read item = .ok result) items results := by
  induction items generalizing results with
  | nil =>
    rw [List.mapM_nil,List.forall₂_nil_left_iff]
    exact ⟨fun done => (Except.ok.inj done).symm,fun none_left => none_left ▸ rfl⟩
  | cons item rest ih =>
    rw [List.mapM_cons,List.forall₂_cons_left_iff]
    constructor
    · intro done
      obtain ⟨result,first,rest_done⟩ := bind_ok.mp done
      obtain ⟨more,others,same⟩ := bind_ok.mp rest_done
      exact ⟨result,more,first,ih.mp others,(Except.ok.inj same).symm⟩
    · rintro ⟨result,more,first,others,rfl⟩
      exact bind_ok.mpr ⟨result,first,bind_ok.mpr ⟨more,ih.mpr others,rfl⟩⟩

-- The fault of the first item that has one.
def FirstFault {α ε : Type} (faulty : α → ε → Prop) (items : List α) (fault : ε) : Prop :=
  ∃ before item after, items = before ++ item :: after ∧ (∀ other ∈ before, ∀ fault, ¬faulty other fault) ∧ faulty item fault

theorem firstFault_nil {α ε : Type} {faulty : α → ε → Prop} {fault : ε} : ¬FirstFault faulty [] fault := by
  rintro ⟨before,item,after,same,_⟩
  cases before <;> cases same

theorem firstFault_cons {α ε : Type} {faulty : α → ε → Prop} {item : α} {items : List α} {fault : ε} :
    FirstFault faulty (item :: items) fault ↔ faulty item fault ∨ (∀ fault, ¬faulty item fault) ∧ FirstFault faulty items fault := by
  constructor
  · rintro ⟨before,other,after,same,sound,flawed⟩
    cases before with
    | nil =>
      cases same
      exact .inl flawed
    | cons first rest =>
      cases same
      obtain ⟨here,later⟩ := List.forall_mem_cons.mp sound
      exact .inr ⟨here,rest,other,after,rfl,later,flawed⟩
  · rintro (flawed | ⟨here,before,other,after,rfl,later,flawed⟩)
    · exact ⟨[],item,items,rfl,nofun,flawed⟩
    · exact ⟨item :: before,other,after,rfl,List.forall_mem_cons.mpr ⟨here,later⟩,flawed⟩

theorem mapM_error {ε α β : Type} {read : α → Except ε β} {items : List α} {fault : ε} :
    items.mapM read = .error fault ↔ FirstFault (fun item fault => read item = .error fault) items fault := by
  induction items with
  | nil => exact ⟨nofun,fun found => absurd found firstFault_nil⟩
  | cons item rest ih =>
    rw [List.mapM_cons,firstFault_cons,bind_error]
    refine or_congr_right ?_
    cases read item with
    | error => simp
    | ok result => simp [bind_error,ih,pure,Except.pure]

end ParseForest
