import Pineone.ActivityTable
import Pineone.Runs

/-!
# Delete mode, kept twice

The view model keeps `deleteMode`, the view the type of its header.  Taps on the
header change both; the completion of a deletion only resets the view.  So the
two agree along a run exactly as long as no deletion completes in delete mode.
-/

namespace Activity

open Swift Runs

namespace Screen

/-- The view shows the header of delete mode. -/
def ShowsDeleteMode (s : Screen) : Prop := s.view.topView.type = .checkAndButton

/-- The view model is in delete mode exactly when the view shows it, so that
`cellDetail` and `cellPlay` are ignored exactly then. -/
structure ModesAgree (s : Screen) : Prop where
  deleteMode : s.viewModel.deleteMode = true ↔ s.ShowsDeleteMode
  cellDetail : ∀ key, s.viewModel.cellDetail key = none ↔ s.ShowsDeleteMode
  cellPlay : ∀ key, s.viewModel.cellPlay key = none ↔ s.ShowsDeleteMode

/-- The two cells actions follow the flag: the view model ignores them exactly while
`deleteMode` is true, so the flag is all that is left of the law. -/
theorem modesAgree_iff {s : Screen} :
    s.ModesAgree ↔ (s.viewModel.deleteMode = true ↔ s.ShowsDeleteMode) := by
  constructor
  · exact ModesAgree.deleteMode
  · intro h
    refine ⟨h, fun key => ?_, fun key => ?_⟩
    · rw [← h, CompactViewModel.cellDetail]
      cases s.viewModel.deleteMode <;> simp
    · rw [← h, CompactViewModel.cellPlay]
      cases s.viewModel.deleteMode <;> simp

/-- The header the view shows after an event. -/
def headerAfter (view : CompactView) : ScreenEvent → ARTableViewHeaderShowType
  | .header .delete => .checkAndButton
  | .header .cancel => CompactView.normalHeader view.activityDetail
  | .answerAlert _ true => CompactView.normalHeader view.activityDetail
  | _ => view.topView.type

/-- The check button of the header changes the selection; the header stays the one of delete
mode. -/
theorem toggleCheckButton_type {view after : CompactView}
    (h : view.toggleCheckButton = .ok after) : after.topView.type = view.topView.type := by
  unfold CompactView.toggleCheckButton CompactView.showSelection at h
  split at h
  · obtain ⟨_, _, rfl⟩ := Result.map_eq_ok.mp h
    rfl
  · obtain rfl := Except.ok.inj h
    rfl

/-- A change of the selection updates the check button inside the header, not the kind of
header. -/
theorem selectionChanged_type (view : CompactView) :
    view.selectionChanged.topView.type = view.topView.type := by
  unfold CompactView.selectionChanged
  split <;> rfl

/-- Only the two mode actions and a completed deletion change the header. All other events
leave its buttons as they are. -/
theorem viewStep_type {view after : CompactView} {e : ScreenEvent}
    (h : ViewStep view e after) : after.topView.type = headerAfter view e := by
  cases h with
  | header h =>
      rename_i actionType
      cases actionType with
      | check => exact toggleCheckButton_type h
      | text | delete | share | cancel | dropdown =>
          obtain rfl := Except.ok.inj h
          rfl
  | tapRow index => exact selectionChanged_type _
  | confirmAlert alert items => rfl
  | tapPlay | tapBottomDelete | dismissAlert | dismissSheet | sort | pull | endDragging
  | refreshTrigger | reloaded => rfl

/-- An event that confirms a deletion. -/
def ConfirmsDeletion (e : ScreenEvent) : Prop := ∃ alert, e = .answerAlert alert true

/-- **One event.**  From agreeing modes, an event leads to agreeing modes unless
it completes a deletion in delete mode. -/
theorem modesAgree_process {s t : Screen} {e : ScreenEvent} (hs : s.ModesAgree)
    (henabled : s.Enabled e) (h : s.process e = .ok t) :
    t.ModesAgree ↔ (ConfirmsDeletion e → s.viewModel.deleteMode = false) := by
  obtain ⟨hview, hmode⟩ := process_cases henabled h
  have htype := viewStep_type hview
  have hnormal := CompactView.normalHeader_ne s.view.activityDetail
  have hagree := hs.deleteMode
  rw [modesAgree_iff]
  unfold ShowsDeleteMode at hagree ⊢
  rw [hmode, htype]
  by_cases hconfirms : ConfirmsDeletion e
  · obtain ⟨alert, rfl⟩ := hconfirms
    simp [ConfirmsDeletion, deleteModeAfter, headerAfter, hnormal]
  · have hkeeps : s.deleteModeAfter e = true ↔ headerAfter s.view e = .checkAndButton := by
      cases e with
      | header actionType =>
          cases actionType with
          | delete => simp [deleteModeAfter, headerAfter, CompactViewModel.topViewActionProcessor]
          | cancel =>
              simp [deleteModeAfter, headerAfter, CompactViewModel.topViewActionProcessor, hnormal]
          | text | share | check | dropdown => exact hagree
      | answerAlert alert done =>
          cases done with
          | false => exact hagree
          | true => exact absurd ⟨alert, rfl⟩ hconfirms
      | tapRow | tapPlay | tapBottomDelete | answerSheet | pull | endDragging
      | refreshTrigger | reloaded => exact hagree
    exact ⟨fun _ h => absurd h hconfirms, fun _ => hkeeps⟩

/-- The modes agree in the state of a run; a run that has trapped shows nothing
any more. -/
def RunModesAgree : Result Screen → Prop
  | .ok s => s.ModesAgree
  | .error _ => True

/-- The step completes no deletion while the view model is in delete mode. -/
def NoDeletionInDeleteMode (s : Result Screen) (e : ScreenEvent) (t : Result Screen) : Prop :=
  match s, t with
  | .ok s, .ok _ => ConfirmsDeletion e → s.viewModel.deleteMode = false
  | _, _ => True

/-- After the launch neither the view nor the view model is in delete mode. -/
theorem launch_modesAgree (activityDetail : ActivityDetail) (backend : Backend) :
    RunModesAgree (launch activityDetail backend) := by
  cases hlaunch : launch activityDetail backend with
  | error trap => trivial
  | ok s =>
      obtain ⟨items, hview, hviewModel⟩ := load_view hlaunch
      refine modesAgree_iff.mpr ?_
      unfold ShowsDeleteMode
      rw [hview, hviewModel]
      have hnormal := CompactView.normalHeader_ne activityDetail
      simpa [accept, CompactView.showItems, CompactView.start] using hnormal

end Screen

/-- **View and view model agree on delete mode** in every state of a run exactly
when the run completes no deletion while delete mode is on. -/
theorem modes_agree_iff (activityDetail : ActivityDetail) (backend : Backend)
    (es : List ScreenEvent) :
    Throughout Screen.step Screen.RunModesAgree (Screen.launch activityDetail backend) es ↔
      StepsMeet Screen.step Screen.NoDeletionInDeleteMode
        (Screen.launch activityDetail backend) es := by
  apply throughout_iff_stepsMeet (J := fun _ => True) (fun _ _ _ _ _ => trivial)
  · intro s e t _ hs hstep
    cases s with
    | error trap => cases hstep
    | ok s =>
        obtain ⟨henabled, hprocess⟩ := Screen.step_ok hstep
        cases t with
        | error trap => exact Iff.rfl
        | ok t => exact Screen.modesAgree_process hs henabled hprocess
  · trivial
  · exact Screen.launch_modesAgree activityDetail backend

/-- **A completed deletion leaves the view model in delete mode.**  Choose
delete, tap the first row, tap the delete bar and confirm. -/
theorem modes_disagree_after_deletion :
    ¬ ∀ es, Throughout Screen.step Screen.RunModesAgree
      (Screen.launch .recently { server := Server.demo 2 }) es := by
  intro hmodesAgree
  have hrun := hmodesAgree [.header .delete, .tapRow 0, .tapBottomDelete, .answerAlert 0 true]
  have hdelete := hrun.2 _ rfl
  have htap := hdelete.2 _ rfl
  have hbar := htap.2 _ rfl
  have hconfirm := hbar.2 _ rfl
  have hheader : ARTableViewHeaderShowType.rightOneButton = .checkAndButton :=
    hconfirm.head.deleteMode.mp rfl
  cases hheader

end Activity
