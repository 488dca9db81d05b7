import Pineone.DownloadTab
import Pineone.ServerDeletions

/-!
# The activity table screen

One screen of the activity list: `CompactViewModel` and `CompactView` with its
header, table, refresh control, delete bar, alerts and sheets, over the two
stores.  The user, the timers and the main queue act through `ScreenEvent`; each
event is processed to its end (`Screen.step`), as all the subscriptions deliver
synchronously on the main thread.

Of UIKit the model has what the code relies on: reloading a table clears its
selection without a callback and posts the `reloaded` block, selecting rows from
code sends no callback, and a tap on a row does.  Layout, colours and animation
are left out.
-/

namespace Activity

open Swift Rows

/-! ## Header, table and refresh control -/

inductive ARTableViewHeaderActionType
  | text
  | delete
  | share
  | check
  | cancel
  | dropdown
  deriving DecidableEq, Repr

inductive ARTableViewHeaderShowType
  | none
  | leftText
  | centerText
  | leftTextAndNumber
  | titleAndButton
  | rightOneButton
  | rightTwoButton
  | checkAndButton
  | dropdownAndButton
  deriving DecidableEq, Repr

/-- The buttons that `setupView` shows and that emit an action; the text button
has no tap binding. -/
def ARTableViewHeaderShowType.buttons :
    ARTableViewHeaderShowType → List ARTableViewHeaderActionType
  | .none | .leftText | .centerText | .leftTextAndNumber | .titleAndButton => []
  | .rightOneButton => [.delete]
  | .rightTwoButton => [.delete, .share]
  | .checkAndButton => [.check, .cancel]
  | .dropdownAndButton => [.dropdown, .delete]

structure ARTableViewHeaderView where
  type : ARTableViewHeaderShowType
  isHidden : Bool := false
  checkButtonIsSelected : Bool := false
  dropdownButtonIsSelected : Bool := false
  deriving DecidableEq, Repr

structure TableRow where
  item : CompactCellItem
  isSelected : Bool := false
  deriving DecidableEq, Repr

/-- The table: `refreshControl` says whether the control is attached, and
`reloadedBlocks` counts the blocks `rx.reloaded` has posted and the main queue
has not run. -/
structure UITableView where
  rows : List TableRow := []
  allowsMultipleSelection : Bool := false
  refreshControl : Bool := true
  contentInsetBottom : Nat := 0
  reloadedBlocks : Nat := 0
  deriving DecidableEq, Repr

namespace UITableView

/-- `reloadData()` after the data source has changed to `items`. -/
def reload (tableView : UITableView) (items : List CompactCellItem) : UITableView :=
  { tableView with
    rows := items.map fun item => { item := item }
    reloadedBlocks := tableView.reloadedBlocks + 1 }

/-- `reloadData()` -/
def reloadData (tableView : UITableView) : UITableView :=
  tableView.reload (tableView.rows.map TableRow.item)

def selectRowAll (tableView : UITableView) : UITableView :=
  { tableView with rows := tableView.rows.map fun row => { row with isSelected := true } }

def deSelectRowAll (tableView : UITableView) : UITableView :=
  { tableView with rows := tableView.rows.map fun row => { row with isSelected := false } }

/-- The selected rows, in order. -/
def selectedRows (tableView : UITableView) : List Nat :=
  (tableView.rows.zipIdx.filter fun p => p.1.isSelected).map Prod.snd

/-- `indexPathsForSelectedRows`, sorted: `nil` when nothing is selected. -/
def indexPathsForSelectedRows (tableView : UITableView) : Option (List Nat) :=
  if tableView.selectedRows = [] then none else some tableView.selectedRows

/-- The user taps the row `index`: with multiple selection the row is toggled,
otherwise it becomes the only selected row. -/
def tapRow (tableView : UITableView) (index : Nat) : UITableView :=
  { tableView with
    rows := tableView.rows.mapIdx fun i row =>
      if i = index then
        { row with isSelected := !tableView.allowsMultipleSelection || !row.isSelected }
      else { row with isSelected := tableView.allowsMultipleSelection && row.isSelected } }

end UITableView

/-- The pull-to-refresh control; `triggers` counts the two-second timers that
have not fired. -/
structure CustomRefreshControl where
  isRefreshing : Bool := false
  animating : Bool := false
  triggers : Nat := 0
  deriving DecidableEq, Repr

namespace CustomRefreshControl

def endRefresh (control : CustomRefreshControl) : CustomRefreshControl :=
  { control with isRefreshing := false, animating := false }

def scrollViewDidEndDragging (control : CustomRefreshControl) : CustomRefreshControl :=
  if control.isRefreshing && !control.animating then
    { control with animating := true, triggers := control.triggers + 1 }
  else control

end CustomRefreshControl

/-! ## The view model -/

structure CompactViewModel where
  activityDetail : ActivityDetail := .recently
  sortType : DownloadSortingType := .download
  deleteMode : Bool := false
  tableRelay : List CompactCellItem := []
  deriving DecidableEq, Repr

namespace CompactViewModel

def topViewActionProcessor (viewModel : CompactViewModel)
    (actionType : ARTableViewHeaderActionType) : CompactViewModel :=
  match actionType with
  | .delete => { viewModel with deleteMode := true }
  | .cancel => { viewModel with deleteMode := false }
  | _ => viewModel

/-- The toast `cellDetail` shows, if any. -/
def cellDetail (viewModel : CompactViewModel) (key : String) : Option String :=
  if viewModel.deleteMode then none
  else some ("상세보기. (key값 = " ++ key ++ ")")

/-- The toast `cellPlay` shows, if any. -/
def cellPlay (viewModel : CompactViewModel) (key : String) : Option String :=
  if viewModel.deleteMode then none
  else some ("콘텐츠 재생. (key값 = " ++ key ++ ")")

end CompactViewModel

/-- What the load action of a tab emits. -/
def loadDataAction (activityDetail : ActivityDetail) (sortType : DownloadSortingType)
    (backend : Backend) : Result (List CompactCellItem) :=
  match activityDetail with
  | .recently => .ok (backend.server.items .recently)
  | .download => loadDownloadDataAction sortType backend.localDB
  | .like => .ok (backend.server.items .like)
  | .reply => .ok (backend.server.items .reply)

/-! ## The view -/

/-- `alerts` are the delete popups on the screen, each with its index paths, and
`sheets` counts the open sort sheets. -/
structure CompactView where
  activityDetail : ActivityDetail
  topView : ARTableViewHeaderView
  tableView : UITableView := {}
  backgroundViewIsHidden : Bool := false
  refreshControl : CustomRefreshControl := {}
  bottomViewIsHidden : Bool := true
  bottomDeleteButtonIsHidden : Bool := true
  bottomDeleteButtonTitle : String := ""
  alerts : List (List Nat) := []
  sheets : Nat := 0
  deriving DecidableEq, Repr

namespace CompactView

/-- The header outside delete mode. -/
def normalHeader : ActivityDetail → ARTableViewHeaderShowType
  | .download => .dropdownAndButton
  | _ => .rightOneButton

/-- No tab shows the header of the delete mode outside of it, so that the header tells the
two modes apart. -/
theorem normalHeader_ne (activityDetail : ActivityDetail) :
    normalHeader activityDetail ≠ .checkAndButton := by
  cases activityDetail <;> decide

/-- `init(activityDetail:)` -/
def start (activityDetail : ActivityDetail) : CompactView where
  activityDetail := activityDetail
  topView := { type := normalHeader activityDetail }

def showDeleteButton (view : CompactView) (indexPaths : List Nat) : CompactView :=
  let isHidden := indexPaths.isEmpty
  { view with
    tableView := { view.tableView with contentInsetBottom := if isHidden then 0 else 110 }
    bottomViewIsHidden := isHidden
    bottomDeleteButtonIsHidden := isHidden
    bottomDeleteButtonTitle :=
      if isHidden then "" else "선택 항목 삭제 (" ++ toString indexPaths.length ++ ")" }

/-- `showCustomAlertViewController()` -/
def showCustomAlertViewController (view : CompactView) : CompactView :=
  { view with sheets := view.sheets + 1 }

def showAlert (view : CompactView) (indexPaths : List Nat) : CompactView :=
  { view with alerts := view.alerts ++ [indexPaths] }

/-- The `.delete` case of `topViewEventProcessor`. -/
def enterDeleteMode (view : CompactView) : CompactView :=
  { view with
    topView := { view.topView with type := .checkAndButton }
    tableView := { view.tableView.reloadData with
      allowsMultipleSelection := true
      refreshControl := false } }

/-- The check button set to `isSelected`, and all rows with it. -/
def selectAll (view : CompactView) (isSelected : Bool) : CompactView :=
  { view with
    topView := { view.topView with checkButtonIsSelected := isSelected }
    tableView :=
      if isSelected then view.tableView.selectRowAll else view.tableView.deSelectRowAll }

/-- The delete bar after a tap on the check button. -/
def showSelection (view : CompactView) : Result CompactView :=
  if view.topView.checkButtonIsSelected then
    (unwrap "indexPathsForSelectedRows" view.tableView.indexPathsForSelectedRows).map
      view.showDeleteButton
  else .ok (view.showDeleteButton [])

/-- The `.check` case of `topViewEventProcessor`. -/
def toggleCheckButton (view : CompactView) : Result CompactView :=
  (view.selectAll (!view.topView.checkButtonIsSelected)).showSelection

/-- The `.cancel` case of `topViewEventProcessor`. -/
def leaveDeleteMode (view : CompactView) : CompactView :=
  showDeleteButton
    { view with
      topView := { view.topView with
        type := normalHeader view.activityDetail
        checkButtonIsSelected := false }
      tableView := { view.tableView.reloadData with
        allowsMultipleSelection := false
        refreshControl := true } } []

def topViewEventProcessor (view : CompactView)
    (actionType : ARTableViewHeaderActionType) : Result CompactView :=
  match actionType with
  | .delete => .ok view.enterDeleteMode
  | .check => view.toggleCheckButton
  | .cancel => .ok view.leaveDeleteMode
  | .dropdown => .ok view.showCustomAlertViewController
  | _ => .ok view

/-- `setupDI(tableOv:)`: the table, the header and the background follow the
items the view model emits. -/
def showItems (view : CompactView) (items : List CompactCellItem) : CompactView :=
  { view with
    tableView := view.tableView.reload items
    topView := { view.topView with isHidden := items.isEmpty }
    backgroundViewIsHidden := !items.isEmpty }

/-- The redraw after a sort type was chosen. -/
def sorted (view : CompactView) (sortType : DownloadSortingType) : CompactView :=
  { view with
    topView := { view.topView with dropdownButtonIsSelected := sortType == .size }
    tableView := view.tableView.reloadData }

/-- `tableView.rx.reloaded` outside delete mode ends the refreshing. -/
def reloaded (view : CompactView) : CompactView :=
  { view with
    tableView := { view.tableView with reloadedBlocks := view.tableView.reloadedBlocks - 1 }
    refreshControl :=
      if view.tableView.allowsMultipleSelection then view.refreshControl
      else view.refreshControl.endRefresh }

/-- The observers of a selection or deselection by the user: the delete bar
follows it in delete mode, the check button always. -/
def selectionChanged (view : CompactView) : CompactView :=
  let selected := view.tableView.selectedRows
  let view :=
    if view.tableView.allowsMultipleSelection then view.showDeleteButton selected else view
  { view with topView := { view.topView with
      checkButtonIsSelected := selected.length == view.tableView.rows.length } }

end CompactView

/-! ## The screen -/

structure Screen where
  backend : Backend
  viewModel : CompactViewModel
  view : CompactView
  toasts : List String := []
  deriving DecidableEq, Repr

inductive ScreenEvent
  /-- A tap on a button of the header. -/
  | header (actionType : ARTableViewHeaderActionType)
  | tapRow (index : Nat)
  | tapPlay (index : Nat)
  | tapBottomDelete
  /-- The answer to one of the delete popups: `.done` or not. -/
  | answerAlert (alert : Nat) (done : Bool)
  /-- The answer to a sort sheet: a sort type, or nothing. -/
  | answerSheet (choice : Option DownloadSortingType)
  /-- The table is pulled down until the refresh control starts refreshing. -/
  | pull
  /-- The table is released. -/
  | endDragging
  /-- A two-second timer fires. -/
  | refreshTrigger
  /-- The main queue runs a block posted by `rx.reloaded`. -/
  | reloaded
  deriving DecidableEq, Repr

namespace Screen

def showToast (s : Screen) (toast : Option String) : Screen :=
  { s with toasts := s.toasts ++ toast.toList }

/-- `tableRelay.accept(items)` -/
def accept (s : Screen) (items : List CompactCellItem) : Screen :=
  { s with
    viewModel := { s.viewModel with tableRelay := items }
    view := s.view.showItems items }

/-- The load action of the tab `activityDetail`. -/
def load (s : Screen) (activityDetail : ActivityDetail) : Result Screen :=
  (loadDataAction activityDetail s.viewModel.sortType s.backend).map s.accept

def refreshData (s : Screen) : Result Screen :=
  s.load s.viewModel.activityDetail

/-- `viewDidLoad()` of a screen over the stores `backend`. -/
def launch (activityDetail : ActivityDetail) (backend : Backend) : Result Screen :=
  let screen : Screen :=
    { backend := backend
      viewModel := { activityDetail := activityDetail }
      view := CompactView.start activityDetail }
  (screen.accept []).refreshData

/-- `headerViewAction`: the view model is subscribed first, then the view. -/
def headerViewAction (s : Screen) (actionType : ARTableViewHeaderActionType) :
    Result Screen :=
  (s.view.topViewEventProcessor actionType).map fun view =>
    { s with viewModel := s.viewModel.topViewActionProcessor actionType, view := view }

/-- A tap on a row: `modelSelected` sends `cellDetail` when the tap selects the
row, then the observers of the selection run. -/
def tapRow (s : Screen) (index : Nat) (row : TableRow) : Screen :=
  let tableView := s.view.tableView.tapRow index
  let selects := !tableView.allowsMultipleSelection || !row.isSelected
  let toast := if selects then s.viewModel.cellDetail (row.item.key.getD "") else none
  { s with view := CompactView.selectionChanged { s.view with tableView := tableView } }.showToast
    toast

/-- `setupDI(deleteCompleteOv:)`: the view leaves delete mode. -/
def deleteComplete (s : Screen) : Screen :=
  { s with view := s.view.leaveDeleteMode }.showToast (some "삭제가 완료되었습니다.")

/-- `deleteItems`, then the completion signal, then the reload. -/
def deleteItems (s : Screen) (indexPaths : List Nat) : Result Screen := do
  let backend ← Activity.deleteItems s.viewModel.activityDetail indexPaths s.backend
  ({ s with backend := backend }.deleteComplete).refreshData

/-- The answer `sortType` of a sort sheet: `sortData` loads the downloads, then
the view updates the dropdown button and draws the table again. -/
def sortData (s : Screen) (sortType : DownloadSortingType) : Result Screen :=
  (load { s with viewModel := { s.viewModel with sortType := sortType } } .download).map fun s =>
    { s with view := s.view.sorted sortType }

/-- Whether the user, a timer or the main queue can act now: buttons must be
visible, rows, popups, sheets, timers and blocks must exist.  The play button of
a cell is hidden in delete mode, and the cells of the reply tab have none. -/
def Enabled (s : Screen) : ScreenEvent → Prop
  | .header actionType =>
      s.view.topView.isHidden = false ∧ actionType ∈ s.view.topView.type.buttons
  | .tapRow index => index < s.view.tableView.rows.length
  | .tapPlay index =>
      index < s.view.tableView.rows.length ∧ s.view.topView.type ≠ .checkAndButton ∧
        s.view.activityDetail ≠ .reply
  | .tapBottomDelete =>
      s.view.bottomViewIsHidden = false ∧ s.view.bottomDeleteButtonIsHidden = false
  | .answerAlert alert _ => alert < s.view.alerts.length
  | .answerSheet _ => 0 < s.view.sheets
  | .pull => s.view.tableView.refreshControl = true
  | .endDragging => True
  | .refreshTrigger => 0 < s.view.refreshControl.triggers
  | .reloaded => 0 < s.view.tableView.reloadedBlocks

instance (s : Screen) : DecidablePred s.Enabled
  | .header _ => inferInstanceAs (Decidable (_ ∧ _))
  | .tapRow _ => inferInstanceAs (Decidable (_ < _))
  | .tapPlay _ => inferInstanceAs (Decidable (_ ∧ _ ∧ _))
  | .tapBottomDelete => inferInstanceAs (Decidable (_ ∧ _))
  | .answerAlert _ _ => inferInstanceAs (Decidable (_ < _))
  | .answerSheet _ => inferInstanceAs (Decidable (_ < _))
  | .pull => inferInstanceAs (Decidable (_ = _))
  | .endDragging => inferInstanceAs (Decidable True)
  | .refreshTrigger => inferInstanceAs (Decidable (_ < _))
  | .reloaded => inferInstanceAs (Decidable (_ < _))

/-- How the screen processes an event. -/
def process (s : Screen) : ScreenEvent → Result Screen
  | .header actionType => s.headerViewAction actionType
  | .tapRow index =>
      match s.view.tableView.rows[index]? with
      | some row => .ok (s.tapRow index row)
      | none => .ok s
  | .tapPlay index =>
      match s.view.tableView.rows[index]? with
      | some row => .ok (s.showToast (s.viewModel.cellPlay (row.item.key.getD "")))
      | none => .ok s
  | .tapBottomDelete =>
      (unwrap "indexPathsForSelectedRows" s.view.tableView.indexPathsForSelectedRows).map
        fun indexPaths => { s with view := s.view.showAlert indexPaths }
  | .answerAlert alert done =>
      let answered := { s with view := { s.view with alerts := s.view.alerts.eraseIdx alert } }
      match s.view.alerts[alert]?, done with
      | some indexPaths, true => answered.deleteItems indexPaths
      | _, _ => .ok answered
  | .answerSheet choice =>
      let answered := { s with view := { s.view with sheets := s.view.sheets - 1 } }
      match choice with
      | some sortType => answered.sortData sortType
      | none => .ok answered
  | .pull =>
      .ok { s with view := { s.view with
        refreshControl := { s.view.refreshControl with isRefreshing := true } } }
  | .endDragging =>
      .ok { s with view := { s.view with
        refreshControl := s.view.refreshControl.scrollViewDidEndDragging } }
  | .refreshTrigger =>
      refreshData { s with view := { s.view with
        refreshControl := { s.view.refreshControl with
          triggers := s.view.refreshControl.triggers - 1 } } }
  | .reloaded => .ok { s with view := s.view.reloaded }

/-- One event; after a trap nothing happens any more. -/
def step : Result Screen → ScreenEvent → Option (Result Screen)
  | .error _, _ => none
  | .ok s, e => if s.Enabled e then some (s.process e) else none

/-- A step that is taken processes an enabled event. -/
theorem step_ok {s : Screen} {e : ScreenEvent} {t : Result Screen}
    (h : step (.ok s) e = some t) : s.Enabled e ∧ s.process e = t := by
  rw [step] at h
  split at h
  · next henabled => exact ⟨henabled, Option.some.inj h⟩
  · cases h

/-! ## What an event can do

Everything an event can make of the view, whatever the stores answer.  The
invariants of the screen are proved by cases on this relation. -/

inductive ViewStep (view : CompactView) : ScreenEvent → CompactView → Prop
  | header {actionType : ARTableViewHeaderActionType} {after : CompactView}
      (h : view.topViewEventProcessor actionType = .ok after) :
      ViewStep view (.header actionType) after
  | tapRow (index : Nat) :
      ViewStep view (.tapRow index)
        (CompactView.selectionChanged
          { view with tableView := view.tableView.tapRow index })
  | tapPlay (index : Nat) : ViewStep view (.tapPlay index) view
  | tapBottomDelete {indexPaths : List Nat}
      (h : view.tableView.indexPathsForSelectedRows = some indexPaths) :
      ViewStep view .tapBottomDelete (view.showAlert indexPaths)
  | dismissAlert (alert : Nat) :
      ViewStep view (.answerAlert alert false)
        { view with alerts := view.alerts.eraseIdx alert }
  | confirmAlert (alert : Nat) (items : List CompactCellItem) :
      ViewStep view (.answerAlert alert true)
        (CompactView.showItems (CompactView.leaveDeleteMode
          { view with alerts := view.alerts.eraseIdx alert }) items)
  | dismissSheet :
      ViewStep view (.answerSheet none) { view with sheets := view.sheets - 1 }
  | sort (sortType : DownloadSortingType) (items : List CompactCellItem) :
      ViewStep view (.answerSheet (some sortType))
        (CompactView.sorted
          (CompactView.showItems { view with sheets := view.sheets - 1 } items) sortType)
  | pull :
      ViewStep view .pull
        { view with refreshControl := { view.refreshControl with isRefreshing := true } }
  | endDragging :
      ViewStep view .endDragging
        { view with refreshControl := view.refreshControl.scrollViewDidEndDragging }
  | refreshTrigger (items : List CompactCellItem) :
      ViewStep view .refreshTrigger
        (CompactView.showItems { view with refreshControl :=
          { view.refreshControl with triggers := view.refreshControl.triggers - 1 } } items)
  | reloaded : ViewStep view .reloaded view.reloaded

/-- A load that succeeds shows what it has loaded, and keeps the same items in the relay of
the view model. -/
theorem load_view {s t : Screen} {activityDetail : ActivityDetail}
    (h : s.load activityDetail = .ok t) :
    ∃ items, t.view = s.view.showItems items ∧
      t.viewModel = { s.viewModel with tableRelay := items } := by
  obtain ⟨items, _, rfl⟩ := Result.map_eq_ok.mp h
  exact ⟨items, rfl, rfl⟩

/-- Loading fails on a missing date only, which the sort of the downloads unwraps. The two
lists of the server are shown as they come. -/
theorem load_error {s : Screen} {activityDetail : ActivityDetail} {t : Trap}
    (h : s.load activityDetail = .error t) : t = .unwrapNil "createDate" := by
  have hload := Result.map_eq_error.mp h
  cases activityDetail with
  | download =>
      have hsort := Result.map_eq_error.mp hload
      unfold sortedDownloads at hsort
      split at hsort
      · exact (Except.error.inj hsort).symm
      · cases hsort
  | recently | like | reply => cases hload

/-- A deletion that succeeds leads the view out of delete mode and reloads it with the items
that are left; the view model keeps its mode. -/
theorem deleteItems_view {s t : Screen} {indexPaths : List Nat}
    (h : s.deleteItems indexPaths = .ok t) :
    ∃ items, t.view = s.view.leaveDeleteMode.showItems items ∧
      t.viewModel = { s.viewModel with tableRelay := items } := by
  obtain ⟨backend, _, hload⟩ := Result.bind_eq_ok.mp h
  exact load_view hload

/-- Choosing an order loads the items in that order and writes it into the view model and
onto the sort button. -/
theorem sortData_view {s t : Screen} {sortType : DownloadSortingType}
    (h : s.sortData sortType = .ok t) :
    ∃ items, t.view = CompactView.sorted (s.view.showItems items) sortType ∧
      t.viewModel = { s.viewModel with sortType := sortType, tableRelay := items } := by
  obtain ⟨loaded, hload, rfl⟩ := Result.map_eq_ok.mp h
  obtain ⟨items, hview, hviewModel⟩ := load_view hload
  exact ⟨items, congrArg (CompactView.sorted · sortType) hview, hviewModel⟩

/-- The delete mode of the view model after an event: only the header sets it. -/
def deleteModeAfter (s : Screen) : ScreenEvent → Bool
  | .header actionType => (s.viewModel.topViewActionProcessor actionType).deleteMode
  | _ => s.viewModel.deleteMode

/-- **What an event can do** to the view and to the mode of the view model. Later invariants
are proved from these cases and do not unfold the event processors again. -/
theorem process_cases {s t : Screen} {e : ScreenEvent} (henabled : s.Enabled e)
    (h : s.process e = .ok t) :
    ViewStep s.view e t.view ∧ t.viewModel.deleteMode = s.deleteModeAfter e := by
  cases e with
  | header actionType =>
      obtain ⟨view, hview, rfl⟩ := Result.map_eq_ok.mp h
      exact ⟨.header hview, rfl⟩
  | tapRow index =>
      obtain ⟨row, hrow⟩ : ∃ row, s.view.tableView.rows[index]? = some row :=
        ⟨_, List.getElem?_eq_getElem henabled⟩
      simp only [process, hrow, Except.ok.injEq] at h
      subst h
      exact ⟨.tapRow index, rfl⟩
  | tapPlay index =>
      obtain ⟨row, hrow⟩ : ∃ row, s.view.tableView.rows[index]? = some row :=
        ⟨_, List.getElem?_eq_getElem henabled.1⟩
      simp only [process, hrow, Except.ok.injEq] at h
      subst h
      exact ⟨.tapPlay index, rfl⟩
  | tapBottomDelete =>
      obtain ⟨indexPaths, hunwrap, rfl⟩ := Result.map_eq_ok.mp h
      exact ⟨.tapBottomDelete (unwrap_eq_ok.mp hunwrap), rfl⟩
  | answerAlert alert done =>
      obtain ⟨indexPaths, halert⟩ : ∃ indexPaths, s.view.alerts[alert]? = some indexPaths :=
        ⟨_, List.getElem?_eq_getElem henabled⟩
      cases done with
      | false =>
          simp only [process, halert, Except.ok.injEq] at h
          subst h
          exact ⟨.dismissAlert alert, rfl⟩
      | true =>
          simp only [process, halert] at h
          obtain ⟨items, hview, hviewModel⟩ := deleteItems_view h
          rw [hview, hviewModel]
          exact ⟨.confirmAlert alert items, rfl⟩
  | answerSheet choice =>
      cases choice with
      | none =>
          obtain rfl := Except.ok.inj h
          exact ⟨.dismissSheet, rfl⟩
      | some sortType =>
          obtain ⟨items, hview, hviewModel⟩ := sortData_view h
          rw [hview, hviewModel]
          exact ⟨.sort sortType items, rfl⟩
  | pull =>
      obtain rfl := Except.ok.inj h
      exact ⟨.pull, rfl⟩
  | endDragging =>
      obtain rfl := Except.ok.inj h
      exact ⟨.endDragging, rfl⟩
  | refreshTrigger =>
      obtain ⟨items, hview, hviewModel⟩ := load_view h
      rw [hview, hviewModel]
      exact ⟨.refreshTrigger items, rfl⟩
  | reloaded =>
      obtain rfl := Except.ok.inj h
      exact ⟨.reloaded, rfl⟩

end Screen

end Activity
