import Mathlib
import ParseForest.Report

namespace ParseForest.Report

-- A report is part of itself, and the parts of its children are parts of it.
inductive Part : Report → Report → Prop where
  | top (report : Report) : Part report report
  | inner {part child report : Report} (listed : child ∈ report.children) (inside : Part part child) : Part part report

-- The offsets at which the spans of a tree start.
def starts (report : Report) : Set Nat := {offset | ∃ part, Part part report ∧ part.span.start.offset = offset}

theorem treeInduction {motive : Report → Prop}
    (step : ∀ report : Report, (∀ child ∈ report.children, motive child) → motive report) : ∀ report, motive report
  | node message span context children => by
    apply step
    intro child listed
    change child ∈ children at listed
    exact treeInduction step child
termination_by report => sizeOf report

variable {report child : Report} {reports before after : List Report} {offset : Nat}

theorem mem_starts : offset ∈ report.starts ↔ report.span.start.offset = offset ∨ ∃ child ∈ report.children, offset ∈ child.starts := by
  constructor
  · intro found
    obtain ⟨part,inside,same⟩ := found
    cases inside with
    | top => exact .inl same
    | inner listed inside => exact .inr ⟨_,listed,part,inside,same⟩
  · intro found
    rcases found with same | ⟨child,listed,part,inside,same⟩
    · exact ⟨report,.top report,same⟩
    · exact ⟨part,.inner listed inside,same⟩

-- The one of several reports whose answer counts: no answer starts after its own, and those behind it start before.
structure Decides (reports before : List Report) (child : Report) (after : List Report) : Prop where
  parts : reports = before ++ child :: after
  greatest : ∀ other ∈ reports, other.deepest.start.offset ≤ child.deepest.start.offset
  last : ∀ other ∈ after, other.deepest.start.offset < child.deepest.start.offset

theorem Decides.listed (decides : Decides reports before child after) : child ∈ reports := by
  simp [decides.parts]

-- The search is from the last report on, so an earlier one counts only if it starts after all of those behind it.
theorem deepestOf_decided (some_report : reports ≠ []) :
    ∃ before child after, Decides reports before child after ∧ deepestOf reports = some child.deepest := by
  induction reports with
  | nil => exact absurd rfl some_report
  | cons report rest ih =>
    cases rest with
    | nil => exact ⟨[],report,[],⟨rfl,by simp,nofun⟩,rfl⟩
    | cons next others =>
      obtain ⟨before,child,after,decides,answer⟩ := ih (List.cons_ne_nil _ _)
      rw [deepestOf,answer]
      by_cases reached : report.deepest.start.offset ≤ child.deepest.start.offset
      · refine ⟨report :: before,child,after,⟨congrArg (report :: ·) decides.parts,?_,decides.last⟩,if_pos reached⟩
        exact List.forall_mem_cons.mpr ⟨reached,decides.greatest⟩
      · have later : ∀ other ∈ next :: others, other.deepest.start.offset < report.deepest.start.offset :=
          fun other listed => Nat.lt_of_le_of_lt (decides.greatest other listed) (Nat.lt_of_not_le reached)
        refine ⟨[],report,next :: others,⟨rfl,?_,later⟩,if_neg reached⟩
        exact List.forall_mem_cons.mpr ⟨Nat.le_refl _,fun other listed => Nat.le_of_lt (later other listed)⟩

-- Either no child gets further than the top, or the one that decides does.
theorem deepest_cases (report : Report) :
    (report.deepest = report.span ∧ ∀ child ∈ report.children, child.deepest.start.offset ≤ report.span.start.offset) ∨
    ∃ before child after, Decides report.children before child after ∧
      report.span.start.offset < child.deepest.start.offset ∧ report.deepest = child.deepest := by
  cases report with
  | node message span context children =>
    cases children with
    | nil => exact .inl ⟨rfl,nofun⟩
    | cons first rest =>
      obtain ⟨before,child,after,decides,answer⟩ := deepestOf_decided (List.cons_ne_nil first rest)
      rw [deepest,answer]
      by_cases further : span.start.offset < child.deepest.start.offset
      · exact .inr ⟨before,child,after,decides,further,if_pos further⟩
      · refine .inl ⟨if_neg further,?_⟩
        intro other listed
        exact (decides.greatest other listed).trans (Nat.le_of_not_lt further)

theorem deepest_part (report : Report) : ∃ part, Part part report ∧ part.span = report.deepest := by
  induction report using treeInduction with
  | step report ih =>
    rcases deepest_cases report with ⟨own,_⟩ | ⟨before,child,after,decides,_,taken⟩
    · exact ⟨report,.top report,own.symm⟩
    · obtain ⟨part,inside,same⟩ := ih child decides.listed
      exact ⟨part,.inner decides.listed inside,same.trans taken.symm⟩

theorem deepest_mem_starts (report : Report) : report.deepest.start.offset ∈ report.starts := by
  obtain ⟨part,inside,same⟩ := deepest_part report
  exact ⟨part,inside,congrArg (·.start.offset) same⟩

-- Offsets need not grow towards the leaves, so the top and every child are compared with the answer.
theorem starts_le (report : Report) : ∀ offset ∈ report.starts, offset ≤ report.deepest.start.offset := by
  induction report using treeInduction with
  | step report ih =>
    have bounded : report.span.start.offset ≤ report.deepest.start.offset ∧
        ∀ child ∈ report.children, child.deepest.start.offset ≤ report.deepest.start.offset := by
      rcases deepest_cases report with ⟨own,most⟩ | ⟨before,child,after,decides,further,taken⟩
      · rw [own]
        exact ⟨Nat.le_refl _,most⟩
      · rw [taken]
        exact ⟨Nat.le_of_lt further,decides.greatest⟩
    intro offset found
    rcases mem_starts.mp found with rfl | ⟨child,listed,within⟩
    · exact bounded.1
    · exact (ih child listed offset within).trans (bounded.2 child listed)

-- The answer is the span of a part of the tree that starts last. It is the top's own span if no part starts later, and
-- else what the last of the children answers that have such a part.
theorem deepest_exact (report : Report) : ∃ greatest, IsGreatest report.starts greatest ∧
    (∃ part, Part part report ∧ part.span = report.deepest ∧ part.span.start.offset = greatest) ∧
    (report.span.start.offset = greatest → report.deepest = report.span) ∧
    (report.span.start.offset ≠ greatest → ∃ before child after, report.children = before ++ child :: after ∧
      greatest ∈ child.starts ∧ (∀ other ∈ after, greatest ∉ other.starts) ∧ report.deepest = child.deepest) := by
  refine ⟨report.deepest.start.offset,⟨deepest_mem_starts report,starts_le report⟩,?_,?_⟩
  · obtain ⟨part,inside,same⟩ := deepest_part report
    exact ⟨part,inside,same,congrArg (·.start.offset) same⟩
  · rcases deepest_cases report with ⟨own,_⟩ | ⟨before,child,after,decides,further,taken⟩
    · exact ⟨fun _ => own,fun missed => absurd (congrArg (·.start.offset) own.symm) missed⟩
    · rw [taken]
      refine ⟨fun reached => absurd reached (Nat.ne_of_lt further),fun _ => ?_⟩
      refine ⟨before,child,after,decides.parts,deepest_mem_starts child,?_,rfl⟩
      intro other behind found
      exact Nat.not_le_of_lt (decides.last other behind) (starts_le other _ found)

-- The second child ties with a part of the first and comes behind it. The third does not get that far.
example : (node "" (.point ⟨5,1,6⟩) none
    [node "" (.point ⟨2,1,3⟩) none [leaf "" (.point ⟨9,1,10⟩)],leaf "" ⟨⟨9,1,10⟩,⟨11,1,12⟩⟩,leaf "" (.point ⟨7,1,8⟩)]).deepest =
    ⟨⟨9,1,10⟩,⟨11,1,12⟩⟩ := by decide

end ParseForest.Report
