import Mathlib
import ParseForest.Proofs.Session.Received

namespace ParseForest.Session

-- What may become of an entry. New derivations and nodes come before the old ones, and once a goal is
-- closed its entry gets derivations only.
structure Entry.Leads (before after : Entry) : Prop where
  recorded : before.derivations <:+ after.derivations
  published : before.published <:+ after.published
  closed : before.status ≠ .unsettled → after = { before with derivations := after.derivations }

theorem Entry.Leads.refl {entry : Entry} : entry.Leads entry := ⟨List.suffix_rfl,List.suffix_rfl,fun _ => rfl⟩

theorem Entry.Leads.trans {one two three : Entry} (left : one.Leads two) (right : two.Leads three) : one.Leads three := by
  refine ⟨left.recorded.trans right.recorded,left.published.trans right.published,?_⟩
  intro closed
  have middle := left.closed closed
  have still : two.status ≠ .unsettled := by
    rw [middle]
    exact closed
  have last := right.closed still
  rw [middle] at last
  exact last

-- An entry that is still open may change in any way that keeps what it holds.
theorem Entry.Leads.of_unsettled {before after : Entry} (unsettled : before.status = .unsettled)
    (recorded : before.derivations <:+ after.derivations) (published : before.published <:+ after.published) :
    before.Leads after := ⟨recorded,published,fun closed => absurd unsettled closed⟩

namespace State

structure Precedes (s next : State) : Prop where
  asked : ∀ goal, goal ∈ s.entries → goal ∈ next.entries
  entries : ∀ goal, (s.entryAt goal).Leads (next.entryAt goal)

theorem Precedes.refl {s : State} : s.Precedes s := ⟨fun _ asked => asked,fun _ => .refl⟩

theorem Precedes.trans {s middle next : State} (left : s.Precedes middle) (right : middle.Precedes next) : s.Precedes next :=
  ⟨fun goal asked => right.asked goal (left.asked goal asked),fun goal => (left.entries goal).trans (right.entries goal)⟩

theorem Precedes.of_entries {s next : State} (same : next.entries = s.entries) : s.Precedes next := by
  have entryAt : next.entryAt = s.entryAt := by
    funext goal
    rw [State.entryAt,State.entryAt,same]
  exact ⟨fun goal asked => same ▸ asked,fun goal => entryAt ▸ .refl⟩

theorem Update.precedes {s next : State} {goal : Goal} {entry : Entry} {ids : List WalkId} {new : List Task}
    (update : Update s goal entry ids new next) (leads : (s.entryAt goal).Leads entry) : s.Precedes next := by
  refine ⟨fun other asked => (update.asked other).mpr asked,?_⟩
  intro other
  rw [update.entryAt]
  split
  · rename_i same
    exact same ▸ leads
  · exact .refl

variable {problem : Problem} {s : State}

theorem record_precedes (goal : Goal) (derivation : Derivation) : s.Precedes (s.record problem goal derivation) := by
  cases found : s.entries[goal]? with
  | none =>
    simp only [record,found]
    exact .of_entries rfl
  | some entry =>
    obtain ⟨known,rfl⟩ := entered found
    by_cases settled : (s.entryAt goal).status = .settled
    · rw [record_late found settled]
      let late := { s.entryAt goal with derivations := derivation :: (s.entryAt goal).derivations }
      have leads : (s.entryAt goal).Leads late := ⟨List.suffix_cons _ _,List.suffix_rfl,fun _ => rfl⟩
      exact ((setEntry_update known).precedes leads).trans (.of_entries rfl)
    · refine (record_update known settled).precedes ⟨List.suffix_cons _ _,List.suffix_append _ _,?_⟩
      intro closed
      have silent : news problem goal (s.entryAt goal) derivation = [] := if_neg fun shown => closed shown.1
      simp only [silent,List.nil_append]

theorem close_precedes (goal : Goal) (status : Status) : s.Precedes (s.close problem goal status) := by
  cases found : s.entries[goal]? with
  | none =>
    simp only [close,found]
    exact .of_entries rfl
  | some entry =>
    obtain ⟨known,rfl⟩ := entered found
    by_cases unsettled : (s.entryAt goal).status = .unsettled
    · obtain ⟨middle,update,closed⟩ := @close_update s goal problem status known unsettled
      rw [closed]
      exact (update.precedes (.of_unsettled unsettled List.suffix_rfl (List.suffix_append _ _))).trans (.of_entries closeGoal_entries)
    · simp only [close,found,if_neg unsettled]
      split
      · exact .refl
      · exact .of_entries rfl

theorem markExtended_entries (lineage : List WalkId) : (s.markExtended lineage).entries = s.entries := by
  induction lineage generalizing s with
  | nil => rfl
  | cons id rest ih =>
    unfold markExtended
    split
    · rfl
    · split
      · rfl
      · exact ih

theorem emit_precedes (walk : Walk) : s.Precedes (s.emit problem walk) :=
  (Precedes.of_entries (markExtended_entries walk.lineage)).trans (record_precedes _ _)

theorem emit_if_precedes (ends : Bool) (walk : Walk) : s.Precedes (if ends = true then s.emit problem walk else s) := by
  split
  · exact emit_precedes walk
  · exact .refl

theorem release_precedes (ids : List WalkId) : s.Precedes (s.release problem ids) := by
  induction ids generalizing s with
  | nil => exact .refl
  | cons id before ih =>
    unfold release
    split
    · exact .of_entries rfl
    · rename_i walk found
      have released : s.Precedes (s.modifyWalk id fun walk => { walk with pending := walk.pending-1 }) := .of_entries rfl
      split
      · exact .of_entries rfl
      · dsimp only
        split
        · exact released
        · have ended := fun ends => released.trans (@emit_if_precedes problem _ ends walk)
          cases before with
          | nil => exact (ended _).trans (close_precedes _ _)
          | cons next others => exact (ended _).trans ih

theorem await_precedes (id : WalkId) (goal : Goal) : s.Precedes (s.await id goal) := by
  cases found : s.entries[goal]? with
  | none =>
    simp only [await,found]
    exact .of_entries rfl
  | some entry =>
    obtain ⟨known,rfl⟩ := entered found
    refine (await_update known).precedes ?_
    split
    · rename_i unsettled
      exact .of_unsettled unsettled List.suffix_rfl List.suffix_rfl
    · exact .refl

theorem leave_entries : s.leave.entries = s.entries := by
  unfold leave
  split
  · rfl
  · rfl

theorem close_all_precedes (goals : List Goal) : s.Precedes (goals.foldl (fun s goal => s.close problem goal .forced) s) := by
  induction goals generalizing s with
  | nil => exact .refl
  | cons goal rest ih => exact (close_precedes goal .forced).trans ih

theorem force_precedes : s.Precedes (s.force problem) := by
  have raised : s.Precedes { s with held := s.held + 1,rounds := s.rounds + 1 } := .of_entries rfl
  have closed := raised.trans (@close_all_precedes problem _ s.deadlocked)
  unfold force
  dsimp only
  generalize s.deadlocked.foldl _ _ = last at closed ⊢
  refine Precedes.trans ?_ (.of_entries leave_entries)
  split
  · exact closed.trans (.of_entries rfl)
  · exact closed.trans (.of_entries rfl)

variable [Regex.Library]

theorem startGoal_precedes (goal : Goal) : s.Precedes (s.startGoal problem goal) := by
  unfold startGoal
  split
  · exact .of_entries rfl
  · split
    · dsimp only
      split
      · exact (record_precedes _ _).trans (close_precedes _ _)
      · exact close_precedes _ _
    · exact .of_entries rfl

theorem request_precedes (goal : Goal) : s.Precedes (s.request problem goal) := by
  unfold request
  split
  · exact .of_entries rfl
  · rename_i fresh
    rw [Bool.not_eq_true,Std.HashMap.contains_eq_false_iff_not_mem] at fresh
    refine Precedes.trans ?_ (startGoal_precedes goal)
    refine ⟨fun other asked => Std.HashMap.mem_insert.mpr (.inr asked),?_⟩
    intro other
    change (s.entryAt other).Leads ((s.setEntry goal {}).entryAt other)
    rw [setEntry_entryAt]
    split
    · rename_i same
      rw [same,entryAt_unasked fresh]
      exact .refl
    · exact .refl

theorem inquire_precedes (id : WalkId) (site : Site) :
    s.Precedes (site.foldl (fun s goal => (s.request problem goal).await id goal) s) := by
  induction site generalizing s with
  | nil => exact .refl
  | cons goal rest ih => exact ((request_precedes goal).trans (await_precedes id goal)).trans ih

theorem begin_precedes (walk : Walk) : s.Precedes (s.begin problem walk) := by
  let counted : Walk := { walk with pending := 1 + (problem.grammar.outgoing walk.owner.symbol walk.states).length }
  have added : s.Precedes { s with walks := s.walks.push counted } := .of_entries rfl
  have asked := fun ends => (added.trans (@emit_if_precedes problem _ ends walk)).trans
    (@inquire_precedes problem _ _ s.walks.size (walk.site problem.grammar))
  unfold begin
  refine Precedes.trans ?_ (release_precedes _)
  split
  · exact asked _
  · exact (asked _).trans (.of_entries rfl)

theorem act_precedes (task : Task) : s.Precedes (s.act problem task) := by
  cases task with
  | request goal => exact request_precedes goal
  | enter goal => exact begin_precedes _
  | deliver id node =>
    simp only [act,advance]
    split
    · exact .of_entries rfl
    · split
      · exact begin_precedes _
      · exact release_precedes _
  | exhausted id =>
    simp only [act]
    split
    · exact .of_entries rfl
    · exact release_precedes _

end State

variable [Regex.Library]

-- Whatever a step does, entries only move forward.
theorem Step.precedes {problem : Problem} {s next : State} (step : Step problem s next) : s.Precedes next := by
  cases step with
  | task before after task queued =>
    have taken : s.Precedes { s with tasks := before ++ after } := .of_entries rfl
    exact (taken.trans (State.act_precedes task)).trans (.of_entries State.leave_entries)
  | round idle stuck => exact State.force_precedes

theorem steps_precedes {problem : Problem} {s next : State} (steps : Steps problem s next) : s.Precedes next := by
  induction steps with
  | refl => exact .refl
  | tail _ step ih => exact ih.trans step.precedes

end ParseForest.Session
