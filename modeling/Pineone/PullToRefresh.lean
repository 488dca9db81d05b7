import Pineone.ActivityTable
import Pineone.Runs

/-!
# Pull to refresh

A release that starts refreshing sets the `animating` flag of the control, and
further releases are ignored until it is reset.  Only a `reloaded` block that runs
outside delete mode resets it.  The flag never stays set for good: as long as it
is set, a timer is pending whose reload will post a block, or such a block is
pending, or the table is in delete mode, which can only be left by a reload.
-/

namespace Activity

open Swift Runs

namespace CompactView

/-- What the set `animating` flag waits for: a timer, a block or the end of delete mode. -/
def RefreshEnds (view : CompactView) : Prop :=
  view.refreshControl.animating = true →
    0 < view.refreshControl.triggers ∨ 0 < view.tableView.reloadedBlocks ∨
      view.tableView.allowsMultipleSelection = true

/-- Outside delete mode, with no timer and no block pending, the control is at rest,
so that the next pull starts a timer when it is released. -/
def AcceptsPull (view : CompactView) : Prop :=
  view.tableView.allowsMultipleSelection = false → view.refreshControl.triggers = 0 →
    view.tableView.reloadedBlocks = 0 →
      view.refreshControl.animating = false ∧
        CustomRefreshControl.scrollViewDidEndDragging
            { view.refreshControl with isRefreshing := true } =
          { isRefreshing := true, animating := true, triggers := 1 }

/-- With nothing left that the flag waits for it is cleared, so that the next pull is
accepted. -/
theorem RefreshEnds.acceptsPull {view : CompactView} (h : view.RefreshEnds) :
    view.AcceptsPull := by
  intro hmode htriggers hblocks
  have hrest : view.refreshControl.animating = false := by
    cases hanimating : view.refreshControl.animating with
    | false => rfl
    | true =>
        rcases h hanimating with hpending | hpending | hdelete
        · omega
        · omega
        · rw [hmode] at hdelete
          cases hdelete
  refine ⟨hrest, ?_⟩
  simp [CustomRefreshControl.scrollViewDidEndDragging, hrest, htriggers]

variable {view after : CompactView}

/-- A block is pending after every reload of the table. -/
theorem refreshEnds_of_reload (h : 0 < after.tableView.reloadedBlocks) : after.RefreshEnds :=
  fun _ => Or.inr (Or.inl h)

/-- What leaves the control, its blocks and the mode alone. -/
theorem RefreshEnds.of_eq (hview : view.RefreshEnds)
    (hcontrol : after.refreshControl = view.refreshControl)
    (hblocks : after.tableView.reloadedBlocks = view.tableView.reloadedBlocks)
    (hmode : after.tableView.allowsMultipleSelection = view.tableView.allowsMultipleSelection) :
    after.RefreshEnds := by
  unfold RefreshEnds
  rw [hcontrol, hblocks, hmode]
  exact hview

/-- The check button changes the selection, the header and the bar only. -/
theorem RefreshEnds.toggleCheckButton (hview : view.RefreshEnds)
    (h : view.toggleCheckButton = .ok after) : after.RefreshEnds := by
  have hselectAll : ∀ isSelected, (view.selectAll isSelected).RefreshEnds := by
    intro isSelected
    cases isSelected <;> exact hview.of_eq rfl rfl rfl
  unfold CompactView.toggleCheckButton showSelection at h
  split at h
  · obtain ⟨indexPaths, _, rfl⟩ := Result.map_eq_ok.mp h
    exact (hselectAll _).of_eq rfl rfl rfl
  · obtain rfl := Except.ok.inj h
    exact (hselectAll _).of_eq rfl rfl rfl

/-- A release sets the flag and starts a timer in the same step. The end of the timer reloads
the table, and the block of the reload ends the refreshing. -/
theorem RefreshEnds.scrollViewDidEndDragging (hview : view.RefreshEnds) :
    RefreshEnds { view with
      refreshControl := view.refreshControl.scrollViewDidEndDragging } := by
  unfold CustomRefreshControl.scrollViewDidEndDragging
  split
  · exact fun _ => Or.inl (Nat.succ_pos _)
  · exact hview

/-- A block ends the refreshing, or finds the table in delete mode, whose end is waited for
then. -/
theorem RefreshEnds.reloaded (view : CompactView) : view.reloaded.RefreshEnds := by
  intro hanimating
  cases hmode : view.tableView.allowsMultipleSelection with
  | true => exact Or.inr (Or.inr hmode)
  | false => simp [CompactView.reloaded, hmode, CustomRefreshControl.endRefresh] at hanimating

end CompactView

namespace Screen

open CompactView

/-- **One event.** A set flag has a timer or a block on its way or waits for the end of
delete mode, and an event that takes one of these away leaves another or clears the flag. -/
theorem refreshEnds_viewStep {view after : CompactView} {e : ScreenEvent}
    (hview : view.RefreshEnds) (h : ViewStep view e after) : after.RefreshEnds := by
  cases h with
  | header h =>
      rename_i actionType
      cases actionType with
      | delete | cancel =>
          obtain rfl := Except.ok.inj h
          exact refreshEnds_of_reload (Nat.succ_pos _)
      | check => exact hview.toggleCheckButton h
      | text | share | dropdown =>
          obtain rfl := Except.ok.inj h
          exact hview
  | tapRow index =>
      unfold selectionChanged
      split <;> exact hview.of_eq rfl rfl rfl
  | confirmAlert | sort | refreshTrigger => exact refreshEnds_of_reload (Nat.succ_pos _)
  | endDragging => exact hview.scrollViewDidEndDragging
  | reloaded => exact RefreshEnds.reloaded view
  | tapPlay | tapBottomDelete | dismissAlert | dismissSheet | pull => exact hview

/-- The invariant in the state of a run; a run that has trapped is over. -/
def RunRefreshEnds : Result Screen → Prop
  | .ok s => s.view.RefreshEnds
  | .error _ => True

def RunAcceptsPull : Result Screen → Prop
  | .ok s => s.view.AcceptsPull
  | .error _ => True

/-- No event takes away what the flag waits for without clearing it, or without leaving
something else that will. -/
theorem runRefreshEnds_step {s t : Result Screen} {e : ScreenEvent} (hs : RunRefreshEnds s)
    (hstep : step s e = some t) : RunRefreshEnds t := by
  cases s with
  | error trap => cases hstep
  | ok s =>
      obtain ⟨henabled, hprocess⟩ := step_ok hstep
      cases t with
      | error trap => trivial
      | ok t => exact refreshEnds_viewStep hs (process_cases henabled hprocess).1

/-- At the launch the control has not been pulled. -/
theorem launch_runRefreshEnds (activityDetail : ActivityDetail) (backend : Backend) :
    RunRefreshEnds (launch activityDetail backend) := by
  cases hlaunch : launch activityDetail backend with
  | error trap => trivial
  | ok s =>
      obtain ⟨items, hview, _⟩ := load_view hlaunch
      show s.view.RefreshEnds
      rw [hview]
      exact refreshEnds_of_reload (Nat.succ_pos _)

end Screen

/-- **Pull to refresh never hangs.**  In every state of every run, outside delete mode
and with no timer and no reload block pending, the flag is reset and the next pull is
accepted. -/
theorem refresh_never_hangs (activityDetail : ActivityDetail) (backend : Backend)
    (es : List ScreenEvent) :
    Throughout Screen.step Screen.RunAcceptsPull (Screen.launch activityDetail backend) es := by
  have hends : Throughout Screen.step Screen.RunRefreshEnds
      (Screen.launch activityDetail backend) es :=
    throughout_of_step (fun _ _ _ => Screen.runRefreshEnds_step)
      (Screen.launch_runRefreshEnds activityDetail backend) es
  apply hends.mono (J := fun _ => True) (fun _ _ _ _ _ => trivial) _ trivial
  intro s _ hs
  cases s with
  | error trap => trivial
  | ok s => exact hs.acceptsPull

end Activity
