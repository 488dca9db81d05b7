import Pineone.ActivityTable
import Pineone.Runs

/-!
# The delete bar and the selection

The bar is shown and hidden by what the selection was when a selection event
last set it, and a tap on it force-unwraps the selection of that moment.  A
reload clears the selection and says nothing to the bar.  While it is visible,
the lists can be reloaded by a refresh timer started before delete mode, or by
a sort type chosen in a sheet opened before; nothing else reloads under it.
-/

namespace Activity

open Swift Runs

namespace UITableView

/-- Nothing is selected. -/
theorem selectedRows_eq_nil {tableView : UITableView} :
    tableView.selectedRows = [] ↔ ∀ row ∈ tableView.rows, row.isSelected = false := by
  unfold selectedRows
  rw [List.map_eq_nil_iff, List.filter_eq_nil_iff]
  constructor
  · intro h row hrow
    obtain ⟨i, hi⟩ := List.mem_iff_getElem?.mp hrow
    simpa using h (row, i) (List.mem_zipIdx_iff_getElem?.mpr hi)
  · rintro h ⟨row, i⟩ hrow
    have hmem := List.mem_of_getElem? (List.mem_zipIdx_iff_getElem?.mp hrow)
    simpa using h row hmem

/-- The optional list of UIKit is there exactly when a row is selected, and then it lists the
selected rows. -/
theorem indexPathsForSelectedRows_eq_some {tableView : UITableView} {indexPaths : List Nat} :
    tableView.indexPathsForSelectedRows = some indexPaths ↔
      tableView.selectedRows ≠ [] ∧ tableView.selectedRows = indexPaths := by
  unfold indexPathsForSelectedRows
  split <;> simp [*]

/-- It is nil exactly when nothing is selected; unwrapping it then is the trap the bar is
about. -/
theorem indexPathsForSelectedRows_eq_none {tableView : UITableView} :
    tableView.indexPathsForSelectedRows = none ↔ tableView.selectedRows = [] := by
  unfold indexPathsForSelectedRows
  split <;> simp [*]

/-- A reload clears the selection: the rows are made anew from the items, and none of them is
selected. -/
theorem selectedRows_reload (tableView : UITableView) (items : List CompactCellItem) :
    (tableView.reload items).selectedRows = [] := by
  rw [selectedRows_eq_nil]
  simp [reload]

/-- Selecting all rows selects some, if there are any. -/
theorem selectedRows_selectRowAll {tableView : UITableView} (h : tableView.rows ≠ []) :
    tableView.selectRowAll.selectedRows ≠ [] := by
  obtain ⟨row, hrow⟩ := List.exists_mem_of_ne_nil _ h
  rw [Ne, selectedRows_eq_nil]
  intro hnone
  have hselected := hnone { row with isSelected := true } (List.mem_map_of_mem hrow)
  cases hselected

end UITableView

namespace CompactView

/-- The delete button can be seen and tapped. -/
def BarVisible (view : CompactView) : Prop :=
  view.bottomViewIsHidden = false ∧ view.bottomDeleteButtonIsHidden = false

instance (view : CompactView) : Decidable view.BarVisible :=
  inferInstanceAs (Decidable (_ ∧ _))

/-- What holds of the view after every event: the header and the table are in
the same mode, and the header is hidden exactly over an empty table. -/
structure WellFormed (view : CompactView) : Prop where
  mode : view.topView.type = .checkAndButton ↔ view.tableView.allowsMultipleSelection = true
  header : view.topView.isHidden = view.tableView.rows.isEmpty

/-- While the delete button is visible, the table is in delete mode and has a
selected row. -/
structure BarSafe (view : CompactView) : Prop where
  deleteMode : view.BarVisible → view.topView.type = .checkAndButton ∧
    view.tableView.allowsMultipleSelection = true
  selected : view.BarVisible → view.tableView.selectedRows ≠ []

/-- A hidden bar is safe. -/
theorem barSafe_of_hidden {view : CompactView} (h : ¬ view.BarVisible) : view.BarSafe :=
  ⟨fun hvisible => absurd hvisible h, fun hvisible => absurd hvisible h⟩

/-- The bar that `showDeleteButton` leaves is visible only over a selection, namely the one
it was given and not the one of the table. -/
theorem barVisible_showDeleteButton {view : CompactView} {indexPaths : List Nat} :
    (view.showDeleteButton indexPaths).BarVisible ↔ indexPaths ≠ [] := by
  cases indexPaths <;> simp [BarVisible, showDeleteButton]

/-- Leaving delete mode hides the bar, whatever was selected. -/
theorem not_barVisible_leaveDeleteMode (view : CompactView) :
    ¬ view.leaveDeleteMode.BarVisible :=
  fun hvisible => barVisible_showDeleteButton.mp hvisible rfl

/-- Setting the bar by the present selection, in delete mode, makes it safe: the rows it was
given are selected in the table, so a visible bar has rows to delete. -/
theorem barSafe_showDeleteButton {view : CompactView} {indexPaths : List Nat}
    (htype : view.topView.type = .checkAndButton)
    (hmode : view.tableView.allowsMultipleSelection = true)
    (hselected : indexPaths ≠ [] → view.tableView.selectedRows ≠ []) :
    (view.showDeleteButton indexPaths).BarSafe where
  deleteMode := fun _ => ⟨htype, hmode⟩
  selected := fun hvisible => hselected (barVisible_showDeleteButton.mp hvisible)

variable {view after : CompactView}

/-- The check button selects all rows or none, and the bar is then shown for a selection that
the table really has. -/
theorem toggleCheckButton_cases (h : view.toggleCheckButton = .ok after) :
    ∃ isSelected indexPaths, after = (view.selectAll isSelected).showDeleteButton indexPaths ∧
      (indexPaths ≠ [] → (view.selectAll isSelected).tableView.selectedRows ≠ []) := by
  unfold toggleCheckButton showSelection at h
  split at h
  · obtain ⟨indexPaths, hunwrap, rfl⟩ := Result.map_eq_ok.mp h
    have hselected := UITableView.indexPathsForSelectedRows_eq_some.mp (unwrap_eq_ok.mp hunwrap)
    exact ⟨_, indexPaths, rfl, fun _ => hselected.1⟩
  · obtain rfl := Except.ok.inj h
    exact ⟨_, [], rfl, fun hne => absurd rfl hne⟩

/-- What makes a view well formed is its header, its mode and whether it has rows; an event
that leaves these alone keeps it so. -/
theorem WellFormed.of_eq (hview : view.WellFormed)
    (htype : after.topView.type = view.topView.type)
    (hmode : after.tableView.allowsMultipleSelection = view.tableView.allowsMultipleSelection)
    (hhidden : after.topView.isHidden = view.topView.isHidden)
    (hrows : after.tableView.rows.isEmpty = view.tableView.rows.isEmpty) :
    after.WellFormed where
  mode := by rw [htype, hmode, hview.mode]
  header := by rw [hhidden, hrows, hview.header]

/-- Entering delete mode sets header and table together, so that the one still tells the mode
of the other. -/
theorem WellFormed.enterDeleteMode (hview : view.WellFormed) :
    view.enterDeleteMode.WellFormed where
  mode := by simp [CompactView.enterDeleteMode]
  header := by
    simp [CompactView.enterDeleteMode, UITableView.reloadData, UITableView.reload, hview.header]

/-- So does leaving it: the header goes back to that of the tab, which is none of delete
mode. -/
theorem WellFormed.leaveDeleteMode (hview : view.WellFormed) :
    view.leaveDeleteMode.WellFormed where
  mode := by
    simp [CompactView.leaveDeleteMode, showDeleteButton, normalHeader_ne]
  header := by
    simp [CompactView.leaveDeleteMode, showDeleteButton, UITableView.reloadData,
      UITableView.reload, hview.header]

/-- A reload shows the header over rows and hides it over none; the mode stays. -/
theorem WellFormed.showItems (hview : view.WellFormed) (items : List CompactCellItem) :
    (view.showItems items).WellFormed where
  mode := hview.mode
  header := by simp [CompactView.showItems, UITableView.reload]

/-- Selecting all rows or none changes the check button and the selection only. -/
theorem WellFormed.selectAll (hview : view.WellFormed) (isSelected : Bool) :
    (view.selectAll isSelected).WellFormed := by
  cases isSelected with
  | true =>
      exact hview.of_eq rfl rfl rfl (by simp [CompactView.selectAll, UITableView.selectRowAll])
  | false =>
      exact hview.of_eq rfl rfl rfl (by simp [CompactView.selectAll, UITableView.deSelectRowAll])

/-- What follows a change of the selection are the check button and the bar, not the mode. -/
theorem WellFormed.selectionChanged (hview : view.WellFormed) :
    view.selectionChanged.WellFormed := by
  unfold CompactView.selectionChanged
  split <;> exact hview.of_eq rfl rfl rfl rfl

/-- A view with the same bar, header, mode and rows is as safe as the one before. The other
fields of the view are not read by the law. -/
theorem BarSafe.of_eq (hsafe : view.BarSafe)
    (hbottom : after.bottomViewIsHidden = view.bottomViewIsHidden)
    (hbutton : after.bottomDeleteButtonIsHidden = view.bottomDeleteButtonIsHidden)
    (htype : after.topView.type = view.topView.type)
    (hmode : after.tableView.allowsMultipleSelection = view.tableView.allowsMultipleSelection)
    (hrows : after.tableView.rows = view.tableView.rows) : after.BarSafe := by
  have hvisible : after.BarVisible ↔ view.BarVisible := by
    rw [BarVisible, BarVisible, hbottom, hbutton]
  refine ⟨fun h => ?_, fun h => ?_⟩
  · rw [htype, hmode]
    exact hsafe.deleteMode (hvisible.mp h)
  · rw [UITableView.selectedRows, hrows]
    exact hsafe.selected (hvisible.mp h)

/-- With nothing selected, the bar is safe only when it is hidden. That is the case after
every reload. -/
theorem barSafe_iff_of_nothing_selected (h : view.tableView.selectedRows = []) :
    view.BarSafe ↔ ¬ view.BarVisible :=
  ⟨fun hsafe hvisible => hsafe.selected hvisible h, barSafe_of_hidden⟩

/-- Selecting all rows or none leaves the mode of the table as it is. -/
theorem selectAll_mode (view : CompactView) (isSelected : Bool) :
    (view.selectAll isSelected).tableView.allowsMultipleSelection =
      view.tableView.allowsMultipleSelection := by
  cases isSelected <;> rfl

end CompactView

/-- The header buttons tell the mode: the check button is there in delete mode only, so a tap
on it is a tap in delete mode. -/
theorem type_of_check_mem {type : ARTableViewHeaderShowType} (h : .check ∈ type.buttons) :
    type = .checkAndButton := by
  cases type <;> simp [ARTableViewHeaderShowType.buttons] at h ⊢

/-- A header with a delete button is not that of delete mode: one enters it from outside
only. -/
theorem type_of_delete_mem {type : ARTableViewHeaderShowType} (h : .delete ∈ type.buttons) :
    type ≠ .checkAndButton := by
  cases type <;> simp [ARTableViewHeaderShowType.buttons] at h ⊢

namespace Screen

open CompactView

section Invariant

variable {view after : CompactView} {e : ScreenEvent}

/-- **The mode and the header of the view** stay in step through every event: both are set by
the same two actions, and no event sets one without the other. -/
theorem wellFormed_viewStep (hview : view.WellFormed) (h : ViewStep view e after) :
    after.WellFormed := by
  cases h with
  | header h =>
      rename_i actionType
      cases actionType with
      | delete =>
          obtain rfl := Except.ok.inj h
          exact hview.enterDeleteMode
      | check =>
          obtain ⟨isSelected, indexPaths, rfl, _⟩ := toggleCheckButton_cases h
          exact (hview.selectAll isSelected).of_eq rfl rfl rfl rfl
      | cancel =>
          obtain rfl := Except.ok.inj h
          exact hview.leaveDeleteMode
      | text | share | dropdown =>
          obtain rfl := Except.ok.inj h
          exact hview.of_eq rfl rfl rfl rfl
  | tapRow index =>
      refine WellFormed.selectionChanged (hview.of_eq rfl rfl rfl ?_)
      unfold UITableView.tapRow
      cases view.tableView.rows <;> simp
  | confirmAlert alert items =>
      apply WellFormed.showItems
      apply WellFormed.leaveDeleteMode
      exact hview.of_eq rfl rfl rfl rfl
  | sort sortType items =>
      have hitems :
          (CompactView.showItems { view with sheets := view.sheets - 1 } items).WellFormed := by
        apply WellFormed.showItems
        exact hview.of_eq rfl rfl rfl rfl
      refine hitems.of_eq rfl rfl rfl ?_
      simp [CompactView.sorted, UITableView.reloadData, UITableView.reload]
  | refreshTrigger items =>
      apply WellFormed.showItems
      exact hview.of_eq rfl rfl rfl rfl
  | tapPlay | tapBottomDelete | dismissAlert | dismissSheet | pull | endDragging | reloaded =>
      exact hview.of_eq rfl rfl rfl rfl

/-- The events that reload the list and leave the bar as it is. -/
def ReloadsUnderBar (e : ScreenEvent) : Prop :=
  e = .refreshTrigger ∨ ∃ sortType, e = .answerSheet (some sortType)

/-- The header buttons that are shown keep the bar safe. In delete mode these are the check
button and the one that leaves the mode; outside it the bar is hidden, and what is shown
there does not bring it. -/
theorem barSafe_header {actionType : ARTableViewHeaderActionType} (hview : view.WellFormed)
    (hsafe : view.BarSafe) (hshown : actionType ∈ view.topView.type.buttons)
    (h : view.topViewEventProcessor actionType = .ok after) : after.BarSafe := by
  cases actionType with
  | delete =>
      -- The trash button is shown outside delete mode only, so the bar is hidden.
      obtain rfl := Except.ok.inj h
      have hmode := type_of_delete_mem hshown
      exact barSafe_of_hidden fun hvisible => hmode (hsafe.deleteMode hvisible).1
  | check =>
      obtain ⟨isSelected, indexPaths, rfl, hselected⟩ := toggleCheckButton_cases h
      have htype := type_of_check_mem hshown
      have hmode := hview.mode.mp htype
      rw [← selectAll_mode view isSelected] at hmode
      exact barSafe_showDeleteButton htype hmode hselected
  | cancel =>
      obtain rfl := Except.ok.inj h
      exact barSafe_of_hidden (not_barVisible_leaveDeleteMode view)
  | text | share | dropdown =>
      obtain rfl := Except.ok.inj h
      exact hsafe.of_eq rfl rfl rfl rfl rfl

/-- In delete mode the bar follows the selection; outside it the bar is hidden. A tap changes
the selection first and the bar by it. -/
theorem barSafe_tapRow (hview : view.WellFormed) (hsafe : view.BarSafe) (index : ℕ) :
    (selectionChanged { view with tableView := view.tableView.tapRow index }).BarSafe := by
  unfold selectionChanged
  by_cases hmode : view.tableView.allowsMultipleSelection = true
  · have hbar : (showDeleteButton
          { view with tableView := view.tableView.tapRow index }
          (view.tableView.tapRow index).selectedRows).BarSafe :=
      barSafe_showDeleteButton (hview.mode.mpr hmode) hmode id
    have hsame : (view.tableView.tapRow index).allowsMultipleSelection = true := hmode
    simp only [hsame, if_true]
    exact hbar.of_eq rfl rfl rfl rfl rfl
  · have hsame : ¬ (view.tableView.tapRow index).allowsMultipleSelection = true := hmode
    simp only [hsame]
    exact barSafe_of_hidden fun hvisible => hmode (hsafe.deleteMode hvisible).2

/-- A reload clears the selection under the bar and leaves the bar as it is. If it was
visible it now stands over no selection. -/
theorem reloadsUnderBar_cleared (hreloads : ReloadsUnderBar e) (h : ViewStep view e after) :
    after.tableView.selectedRows = [] ∧ (after.BarVisible ↔ view.BarVisible) := by
  rcases hreloads with rfl | ⟨sortType, rfl⟩
  · cases h with
    | refreshTrigger items => exact ⟨UITableView.selectedRows_reload _ _, Iff.rfl⟩
  · cases h with
    | sort _ items => exact ⟨UITableView.selectedRows_reload _ _, Iff.rfl⟩

/-- **One event.**  A safe bar stays safe exactly when the list is not reloaded
under it. -/
theorem barSafe_viewStep {s : Screen} (hview : s.view.WellFormed)
    (hsafe : s.view.BarSafe) (henabled : s.Enabled e) (h : ViewStep s.view e after) :
    after.BarSafe ↔ (ReloadsUnderBar e → ¬ s.view.BarVisible) := by
  by_cases hreloads : ReloadsUnderBar e
  · obtain ⟨hcleared, hbar⟩ := reloadsUnderBar_cleared hreloads h
    rw [barSafe_iff_of_nothing_selected hcleared, hbar]
    exact ⟨fun hhidden _ => hhidden, fun hhidden => hhidden hreloads⟩
  · suffices hafter : after.BarSafe from ⟨fun _ h => absurd h hreloads, fun _ => hafter⟩
    cases h with
    | header h => exact barSafe_header hview hsafe henabled.2 h
    | tapRow index => exact barSafe_tapRow hview hsafe index
    | confirmAlert alert items =>
        exact barSafe_of_hidden (not_barVisible_leaveDeleteMode
          { s.view with alerts := s.view.alerts.eraseIdx alert })
    | sort sortType items => exact absurd (Or.inr ⟨sortType, rfl⟩) hreloads
    | refreshTrigger items => exact absurd (Or.inl rfl) hreloads
    | tapPlay | tapBottomDelete | dismissAlert | dismissSheet | pull | endDragging | reloaded =>
        exact hsafe.of_eq rfl rfl rfl rfl rfl

end Invariant

/-- A forced unwrap of the selection that met `nil`. -/
def selectionTrap : Trap := .unwrapNil "indexPathsForSelectedRows"

/-- Selecting all rows of a table with rows selects something to unwrap. The header is hidden
over a table without rows, so its check button is never tapped there. -/
theorem topViewEventProcessor_total {view : CompactView}
    {actionType : ARTableViewHeaderActionType} (hview : view.WellFormed)
    (hshown : view.topView.isHidden = false) (t : Trap) :
    view.topViewEventProcessor actionType ≠ .error t := by
  intro hprocessor
  cases actionType with
  | check =>
      simp only [topViewEventProcessor, toggleCheckButton, showSelection] at hprocessor
      split at hprocessor
      · next hall =>
          have hnone := (unwrap_eq_error.mp (Result.map_eq_error.mp hprocessor)).1
          have hempty := UITableView.indexPathsForSelectedRows_eq_none.mp hnone
          have hpressed : (!view.topView.checkButtonIsSelected) = true := hall
          have hrows : view.tableView.rows ≠ [] := by
            have hheader := hview.header
            rw [hshown] at hheader
            simpa using hheader.symm
          rw [hpressed] at hempty
          exact absurd hempty (UITableView.selectedRows_selectRowAll hrows)
      · cases hprocessor
  | text | delete | share | cancel | dropdown => cases hprocessor

/-- **The traps of one event.**  With a well-formed view and a safe bar the
selection is never unwrapped while nothing is selected. -/
theorem process_error {s : Screen} {e : ScreenEvent} {t : Trap}
    (hview : s.view.WellFormed) (hsafe : s.view.BarSafe) (henabled : s.Enabled e)
    (h : s.process e = .error t) : t ≠ selectionTrap := by
  have hload : ∀ {u : Screen} {activityDetail : ActivityDetail},
      u.load activityDetail = .error t → t ≠ selectionTrap := by
    intro u activityDetail hu
    rw [load_error hu]
    decide
  cases e with
  | header actionType =>
      exact absurd (Result.map_eq_error.mp h) (topViewEventProcessor_total hview henabled.1 t)
  | tapRow index =>
      simp only [process] at h
      split at h <;> cases h
  | tapPlay index =>
      simp only [process] at h
      split at h <;> cases h
  | tapBottomDelete =>
      have hnone := (unwrap_eq_error.mp (Result.map_eq_error.mp h)).1
      exact absurd (UITableView.indexPathsForSelectedRows_eq_none.mp hnone)
        (hsafe.selected henabled)
  | answerAlert alert done =>
      simp only [process] at h
      split at h
      · rcases Result.bind_eq_error.mp h with hdelete | ⟨backend, _, hreload⟩
        · rw [deleteItems_error hdelete]
          decide
        · exact hload hreload
      · cases h
  | answerSheet choice =>
      simp only [process] at h
      split at h
      · exact hload (Result.map_eq_error.mp h)
      · cases h
  | refreshTrigger => exact hload h
  | pull | endDragging | reloaded => cases h

/-- The delete bar is safe in the state of a run, and no trap of the run came
from unwrapping the selection. -/
def RunBarSafe : Result Screen → Prop
  | .ok s => s.view.BarSafe
  | .error t => t ≠ selectionTrap

/-- The views of a run are well formed. -/
def RunWellFormed : Result Screen → Prop
  | .ok s => s.view.WellFormed
  | .error _ => True

/-- The step completes no reload of the list under a visible bar, by a refresh
timer or a new sort type. -/
def NoReloadUnderBar (s : Result Screen) (e : ScreenEvent) (t : Result Screen) : Prop :=
  match s, t with
  | .ok s, .ok _ => ReloadsUnderBar e → ¬ s.view.BarVisible
  | _, _ => True

/-- The first load ends with a well formed view, over rows or over none. -/
theorem launch_runWellFormed (activityDetail : ActivityDetail) (backend : Backend) :
    RunWellFormed (launch activityDetail backend) := by
  cases hlaunch : launch activityDetail backend with
  | error trap => trivial
  | ok s =>
      obtain ⟨items, hview, _⟩ := load_view hlaunch
      have hstart : ((start activityDetail).showItems []).WellFormed :=
        ⟨by simp [CompactView.showItems, UITableView.reload, start, normalHeader_ne],
          by simp [CompactView.showItems, UITableView.reload]⟩
      show s.view.WellFormed
      rw [hview]
      exact hstart.showItems items

/-- At the launch the bar is hidden, and no selection was unwrapped. The first load takes
place outside delete mode. -/
theorem launch_runBarSafe (activityDetail : ActivityDetail) (backend : Backend) :
    RunBarSafe (launch activityDetail backend) := by
  cases hlaunch : launch activityDetail backend with
  | error trap =>
      show trap ≠ selectionTrap
      rw [load_error hlaunch]
      decide
  | ok s =>
      obtain ⟨items, hview, _⟩ := load_view hlaunch
      refine barSafe_of_hidden fun hvisible => ?_
      rw [hview] at hvisible
      cases hvisible.1

end Screen

/-- **The delete bar.**  Along a run, the bar is visible only in delete mode over
a selection and no tap unwraps an empty selection, exactly when the run completes
no reload of the list under a visible bar. -/
theorem delete_bar_safe_iff (activityDetail : ActivityDetail) (backend : Backend)
    (es : List ScreenEvent) :
    Throughout Screen.step Screen.RunBarSafe (Screen.launch activityDetail backend) es ↔
      StepsMeet Screen.step Screen.NoReloadUnderBar
        (Screen.launch activityDetail backend) es := by
  apply throughout_iff_stepsMeet (J := Screen.RunWellFormed)
  · intro s e t hs hstep
    cases s with
    | error trap => cases hstep
    | ok s =>
        obtain ⟨henabled, hprocess⟩ := Screen.step_ok hstep
        cases t with
        | error trap => trivial
        | ok t =>
            exact Screen.wellFormed_viewStep hs (Screen.process_cases henabled hprocess).1
  · intro s e t hview hsafe hstep
    cases s with
    | error trap => cases hstep
    | ok s =>
        obtain ⟨henabled, hprocess⟩ := Screen.step_ok hstep
        cases t with
        | error trap =>
            exact ⟨fun _ => trivial,
              fun _ => Screen.process_error hview hsafe henabled hprocess⟩
        | ok t =>
            exact Screen.barSafe_viewStep hview hsafe henabled
              (Screen.process_cases henabled hprocess).1
  · exact Screen.launch_runWellFormed activityDetail backend
  · exact Screen.launch_runBarSafe activityDetail backend

/-- **A refresh under the delete bar.**  Pull and release, enter delete mode
within the two seconds and select a row: when the timer fires the bar stays, the
selection goes, and the next tap on the bar traps. -/
theorem refresh_under_delete_bar :
    ¬ ∀ es, Throughout Screen.step Screen.RunBarSafe
      (Screen.launch .recently { server := Server.demo 2 }) es := by
  intro hbarSafe
  have hrun := hbarSafe [.pull, .endDragging, .header .delete, .tapRow 0, .refreshTrigger,
    .tapBottomDelete]
  have hpull := hrun.2 _ rfl
  have hrelease := hpull.2 _ rfl
  have hdelete := hrelease.2 _ rfl
  have htap := hdelete.2 _ rfl
  have htrigger := htap.2 _ rfl
  have hbar := htrigger.2 _ rfl
  exact hbar.head rfl

end Activity
