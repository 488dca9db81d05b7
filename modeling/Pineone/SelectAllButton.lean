import Pineone.DeleteBar

/-!
# The check button of the header

The check button shows whether all rows are selected.  Every selection event sets
it, in normal mode too, and leaving delete mode resets it; entering delete mode
clears the selection and leaves the button as it is.  So the button is wrong
exactly when delete mode is entered while all rows are selected: the table has one
row, and it was tapped since the last reload (`not_allSelected_of_two_rows`).
-/

namespace Activity

open Swift Runs

namespace UITableView

/-- All rows of the table are selected. -/
def AllSelected (tableView : UITableView) : Prop :=
  ∀ row ∈ tableView.rows, row.isSelected = true

instance (tableView : UITableView) : Decidable tableView.AllSelected :=
  inferInstanceAs (Decidable (∀ row ∈ tableView.rows, row.isSelected = true))

/-- The selected rows are counted by their flags. -/
theorem length_selectedRows (tableView : UITableView) :
    tableView.selectedRows.length = tableView.rows.countP TableRow.isSelected := by
  have hcount : ∀ (rows : List TableRow) (n : Nat),
      ((rows.zipIdx n).filter fun p => p.1.isSelected).length =
        rows.countP TableRow.isSelected := by
    intro rows
    induction rows with
    | nil => exact fun _ => rfl
    | cons row rows ih =>
        intro n
        rw [List.zipIdx_cons, List.filter_cons, List.countP_cons]
        by_cases h : row.isSelected = true
        · rw [if_pos h, if_pos h, List.length_cons, ih]
        · rw [if_neg h, if_neg h, ih, Nat.add_zero]
  rw [selectedRows, List.length_map, hcount]

/-- Counting the selected rows tells whether all are. -/
theorem length_selectedRows_eq_iff (tableView : UITableView) :
    tableView.selectedRows.length = tableView.rows.length ↔ tableView.AllSelected := by
  rw [length_selectedRows, List.countP_eq_length]
  rfl

/-- A reload without new items keeps the number of rows. -/
theorem length_rows_reloadData (tableView : UITableView) :
    tableView.reloadData.rows.length = tableView.rows.length := by
  rw [reloadData, reload, List.length_map, List.length_map]

/-- After a reload of a nonempty table not all rows are selected. -/
theorem not_allSelected_reload {tableView : UITableView} {items : List CompactCellItem}
    (hitems : items ≠ []) : ¬ (tableView.reload items).AllSelected := by
  obtain ⟨item, hitem⟩ := List.exists_mem_of_ne_nil items hitems
  intro hall
  have hselected := hall { item := item } (List.mem_map_of_mem hitem)
  cases hselected

/-- Selecting all rows leaves none unselected. -/
theorem allSelected_selectRowAll (tableView : UITableView) :
    tableView.selectRowAll.AllSelected := by
  intro row hrow
  obtain ⟨_, _, rfl⟩ := List.mem_map.mp hrow
  rfl

/-- Deselecting them leaves all unselected, which is different if there are any. -/
theorem not_allSelected_deSelectRowAll {tableView : UITableView} (hrows : tableView.rows ≠ []) :
    ¬ tableView.deSelectRowAll.AllSelected := by
  obtain ⟨row, hrow⟩ := List.exists_mem_of_ne_nil _ hrows
  intro hall
  have hselected := hall { row with isSelected := false } (List.mem_map_of_mem hrow)
  cases hselected

end UITableView

/-! ## Selection events -/

/-- What the user does with the rows, the two modes and the check button; rows are
tapped in both modes. -/
inductive SelectionEvent
  | tapRow (index : Nat)
  | enterDeleteMode
  | leaveDeleteMode
  | tapCheckButton
  deriving DecidableEq, Repr

def SelectionEvent.screenEvent : SelectionEvent → ScreenEvent
  | tapRow index => .tapRow index
  | enterDeleteMode => .header .delete
  | leaveDeleteMode => .header .cancel
  | tapCheckButton => .header .check

namespace CompactView

/-- The check button is selected exactly when all rows are. -/
def ButtonRight (view : CompactView) : Prop :=
  view.topView.checkButtonIsSelected = true ↔ view.tableView.AllSelected

/-- A selection event changes neither the rows nor the mode. -/
theorem selectionChanged_table (view : CompactView) :
    view.selectionChanged.tableView.rows = view.tableView.rows ∧
      view.selectionChanged.tableView.allowsMultipleSelection =
        view.tableView.allowsMultipleSelection := by
  unfold selectionChanged
  dsimp only
  split <;> exact ⟨rfl, rfl⟩

/-- After a change of the selection the button is set by comparing the number of selected
rows with the number of rows. -/
theorem buttonRight_selectionChanged (view : CompactView) :
    view.selectionChanged.ButtonRight := by
  have hcount := view.tableView.length_selectedRows_eq_iff
  unfold ButtonRight selectionChanged
  split
  · exact beq_iff_eq.trans hcount
  · exact beq_iff_eq.trans hcount

variable {view : CompactView}

/-- The button itself selects all rows or none, and shows which. Over a table without rows
all are selected in either case. -/
theorem buttonRight_selectAll (hrows : view.tableView.rows ≠ []) (isSelected : Bool) :
    (view.selectAll isSelected).ButtonRight := by
  cases isSelected with
  | true => exact iff_of_true rfl (UITableView.allSelected_selectRowAll view.tableView)
  | false =>
      exact iff_of_false Bool.false_ne_true (UITableView.not_allSelected_deSelectRowAll hrows)

/-- So a table with rows has rows after a reload. -/
theorem rows_reloadData_ne_nil (hrows : view.tableView.rows ≠ []) :
    view.tableView.reloadData.rows ≠ [] :=
  mt List.map_eq_nil_iff.mp (mt List.map_eq_nil_iff.mp hrows)

/-- A reload clears the selection, and then not all rows are selected. -/
theorem not_allSelected_reloadData (hrows : view.tableView.rows ≠ []) :
    ¬ view.tableView.reloadData.AllSelected :=
  UITableView.not_allSelected_reload (mt List.map_eq_nil_iff.mp hrows)

/-- Leaving delete mode resets the button together with the selection, so that it is right
until the next tap. -/
theorem buttonRight_leaveDeleteMode (hrows : view.tableView.rows ≠ []) :
    view.leaveDeleteMode.ButtonRight :=
  iff_of_false Bool.false_ne_true (not_allSelected_reloadData hrows)

/-- Entering delete mode leaves the button and clears the selection. It is right afterwards
exactly if it was not marked before. -/
theorem buttonRight_enterDeleteMode (hrows : view.tableView.rows ≠ []) :
    view.enterDeleteMode.ButtonRight ↔ ¬ view.topView.checkButtonIsSelected = true := by
  have hcleared : ¬ view.enterDeleteMode.tableView.AllSelected := not_allSelected_reloadData hrows
  exact ⟨fun h hbutton => hcleared (h.mp hbutton), fun h => iff_of_false h hcleared⟩

/-- Over a table with rows a tap on the check button does not trap. -/
theorem toggleCheckButton_ok (hrows : view.tableView.rows ≠ []) :
    ∃ indexPaths, view.toggleCheckButton =
      .ok ((view.selectAll (!view.topView.checkButtonIsSelected)).showDeleteButton indexPaths) := by
  unfold toggleCheckButton showSelection
  cases view.topView.checkButtonIsSelected with
  | true => exact ⟨[], rfl⟩
  | false =>
      have hselected := UITableView.selectedRows_selectRowAll hrows
      have hsome := UITableView.indexPathsForSelectedRows_eq_some.mpr ⟨hselected, rfl⟩
      have hpressed : (view.selectAll !false).topView.checkButtonIsSelected = true := rfl
      refine ⟨view.tableView.selectRowAll.selectedRows, ?_⟩
      rw [if_pos hpressed]
      exact Result.map_eq_ok.mpr ⟨_, unwrap_eq_ok.mpr hsome, rfl⟩

end CompactView

namespace Screen

open CompactView

/-- A selection event on the screen. -/
def selectionStep (s : Result Screen) (e : SelectionEvent) : Option (Result Screen) :=
  step s e.screenEvent

/-- In delete mode the check button is right; no event has trapped. -/
def RunButtonRight : Result Screen → Prop
  | .ok s => s.view.topView.type = .checkAndButton → s.view.ButtonRight
  | .error _ => False

/-- Delete mode is not entered while all rows are selected. -/
def EntersUnselected (s : Result Screen) (e : SelectionEvent) (_ : Result Screen) : Prop :=
  match s, e with
  | .ok s, .enterDeleteMode => ¬ s.view.tableView.AllSelected
  | _, _ => True

/-- What holds along every run over a table with rows: outside delete mode the button
is right as well. -/
structure SelectionKept (view : CompactView) : Prop where
  rows : view.tableView.rows ≠ []
  normal : view.topView.type ≠ .checkAndButton → view.ButtonRight

def RunSelectionKept : Result Screen → Prop
  | .ok s => SelectionKept s.view
  | .error _ => False

/-- No selection event traps over a table with rows. The one that could is the check button,
which unwraps the selection. -/
theorem selection_process_ok {s : Screen} (hrows : s.view.tableView.rows ≠ [])
    (e : SelectionEvent) : ∃ t, s.process e.screenEvent = .ok t := by
  cases e with
  | tapRow index =>
      simp only [SelectionEvent.screenEvent, process]
      split <;> exact ⟨_, rfl⟩
  | enterDeleteMode | leaveDeleteMode => exact ⟨_, rfl⟩
  | tapCheckButton =>
      obtain ⟨indexPaths, htoggle⟩ := toggleCheckButton_ok hrows
      exact ⟨_, Result.map_eq_ok.mpr ⟨_, htoggle, rfl⟩⟩

/-- **One selection event.** -/
theorem selection_viewStep {s : Screen} {e : SelectionEvent} {after : CompactView}
    (hkept : SelectionKept s.view) (henabled : s.Enabled e.screenEvent)
    (h : ViewStep s.view e.screenEvent after) :
    SelectionKept after ∧
      ((after.topView.type = .checkAndButton → after.ButtonRight) ↔
        (e = .enterDeleteMode → ¬ s.view.tableView.AllSelected)) := by
  cases e with
  | tapRow index =>
      cases h with
      | tapRow =>
          have hright := buttonRight_selectionChanged
            { s.view with tableView := s.view.tableView.tapRow index }
          have hrows : (selectionChanged
              { s.view with tableView := s.view.tableView.tapRow index }).tableView.rows ≠ [] := by
            rw [(selectionChanged_table _).1]
            exact mt List.mapIdx_eq_nil_iff.mp hkept.rows
          exact ⟨⟨hrows, fun _ => hright⟩, iff_of_true (fun _ => hright) (fun h => nomatch h)⟩
  | enterDeleteMode =>
      cases h with
      | header h =>
          obtain rfl := Except.ok.inj h
          have hbutton := hkept.normal (type_of_delete_mem henabled.2)
          have hrows : s.view.enterDeleteMode.tableView.rows ≠ [] :=
            rows_reloadData_ne_nil hkept.rows
          refine ⟨⟨hrows, fun h => absurd rfl h⟩, ?_⟩
          have henter := buttonRight_enterDeleteMode hkept.rows
          unfold ButtonRight at hbutton
          rw [hbutton] at henter
          exact ⟨fun hright _ => henter.mp (hright rfl), fun hunselected _ =>
            henter.mpr (hunselected rfl)⟩
  | leaveDeleteMode =>
      cases h with
      | header h =>
          obtain rfl := Except.ok.inj h
          have hright := buttonRight_leaveDeleteMode hkept.rows
          have hrows : s.view.leaveDeleteMode.tableView.rows ≠ [] :=
            rows_reloadData_ne_nil hkept.rows
          exact ⟨⟨hrows, fun _ => hright⟩, iff_of_true (fun _ => hright) (fun h => nomatch h)⟩
  | tapCheckButton =>
      cases h with
      | header h =>
          obtain ⟨indexPaths, htoggle⟩ := toggleCheckButton_ok hkept.rows
          obtain rfl := Except.ok.inj (htoggle.symm.trans h)
          have hright : ((s.view.selectAll (!s.view.topView.checkButtonIsSelected)).showDeleteButton
              indexPaths).ButtonRight := buttonRight_selectAll hkept.rows _
          refine ⟨⟨?_, fun _ => hright⟩, iff_of_true (fun _ => hright) (fun h => nomatch h)⟩
          cases s.view.topView.checkButtonIsSelected with
          | true => exact mt List.map_eq_nil_iff.mp hkept.rows
          | false => exact mt List.map_eq_nil_iff.mp hkept.rows

/-- One case for each event. The button is reset on the way out of delete mode only, so that
on the way in it depends on what was selected before. -/
theorem runSelectionKept_step {s t : Result Screen} {e : SelectionEvent}
    (hs : RunSelectionKept s) (hstep : selectionStep s e = some t) :
    RunSelectionKept t ∧ (RunButtonRight t ↔ EntersUnselected s e t) := by
  cases s with
  | error trap => cases hstep
  | ok s =>
      obtain ⟨henabled, hprocess⟩ := step_ok hstep
      obtain ⟨u, hu⟩ := selection_process_ok hs.rows e
      obtain rfl : Except.ok u = t := hu.symm.trans hprocess
      obtain ⟨hkept, hright⟩ :=
        selection_viewStep hs henabled (process_cases henabled hprocess).1
      refine ⟨hkept, hright.trans ?_⟩
      cases e with
      | enterDeleteMode => exact ⟨fun h => h rfl, fun h _ => h⟩
      | tapRow | leaveDeleteMode | tapCheckButton =>
          exact iff_of_true (fun h => nomatch h) trivial

/-- The screen is launched over a table with rows: outside delete mode, nothing selected. -/
theorem launch_runSelectionKept {activityDetail : ActivityDetail} {backend : Backend} {s : Screen}
    (hlaunch : launch activityDetail backend = .ok s) (hrows : s.view.tableView.rows ≠ []) :
    SelectionKept s.view ∧ RunButtonRight (.ok s) := by
  obtain ⟨items, hview, _⟩ := load_view hlaunch
  rw [hview] at hrows
  have hitems : items ≠ [] := mt List.map_eq_nil_iff.mpr hrows
  have hright : s.view.ButtonRight := by
    rw [hview]
    exact iff_of_false (Bool.false_ne_true) (UITableView.not_allSelected_reload hitems)
  rw [← hview] at hrows
  exact ⟨⟨hrows, fun _ => hright⟩, fun _ => hright⟩

/-- The button along a run from a state over a table with rows: it is right throughout
exactly if delete mode is never entered with all rows selected. -/
theorem throughout_buttonRight_iff {s : Screen} (hkept : SelectionKept s.view)
    (hright : RunButtonRight (.ok s)) (es : List SelectionEvent) :
    Throughout selectionStep RunButtonRight (.ok s) es ↔
      StepsMeet selectionStep EntersUnselected (.ok s) es := by
  apply throughout_iff_stepsMeet (J := RunSelectionKept)
  · exact fun _ _ _ h hstep => (runSelectionKept_step h hstep).1
  · exact fun _ _ _ h _ hstep => (runSelectionKept_step h hstep).2
  · exact hkept
  · exact hright

end Screen

/-- **The check button.**  Over a table with rows, the check button is right in every
state of delete mode along a run exactly when the run never enters delete mode while
all rows are selected. -/
theorem check_button_right_iff {activityDetail : ActivityDetail} {backend : Backend}
    (hlaunch : ∃ s, Screen.launch activityDetail backend = .ok s ∧ s.view.tableView.rows ≠ [])
    (es : List SelectionEvent) :
    Throughout Screen.selectionStep Screen.RunButtonRight
        (Screen.launch activityDetail backend) es ↔
      StepsMeet Screen.selectionStep Screen.EntersUnselected
        (Screen.launch activityDetail backend) es := by
  obtain ⟨s, hs, hrows⟩ := hlaunch
  obtain ⟨hkept, hright⟩ := Screen.launch_runSelectionKept hs hrows
  rw [hs]
  exact Screen.throughout_buttonRight_iff hkept hright es

/-- Two rows, one of them tapped before delete mode is entered. -/
theorem check_button_right_iff_demo :
    (∃ s, Screen.launch .recently { server := Server.demo 2 } = .ok s ∧
        s.view.tableView.rows ≠ []) ∧
      (Throughout Screen.selectionStep Screen.RunButtonRight
          (Screen.launch .recently { server := Server.demo 2 }) [.tapRow 0, .enterDeleteMode] ↔
        StepsMeet Screen.selectionStep Screen.EntersUnselected
          (Screen.launch .recently { server := Server.demo 2 }) [.tapRow 0, .enterDeleteMode]) :=
  ⟨⟨_, rfl, List.cons_ne_nil _ _⟩,
    check_button_right_iff ⟨_, rfl, List.cons_ne_nil _ _⟩ [.tapRow 0, .enterDeleteMode]⟩

/-- **One row.**  Tap the only row in normal mode and enter delete mode: nothing is
selected, and the check button still is. -/
theorem check_button_wrong_for_one_row :
    ¬ ∀ es, Throughout Screen.selectionStep Screen.RunButtonRight
      (Screen.launch .recently { server := Server.demo 1 }) es := by
  intro hbuttonRight
  have hrun := hbuttonRight [.tapRow 0, .enterDeleteMode]
  have htap := hrun.2 _ rfl
  have henter := htap.2 _ rfl
  have hall := (henter.head rfl).mp rfl
  have hselected := hall _ List.mem_cons_self
  cases hselected

/-! ## Two rows or more -/

namespace UITableView

/-- No two rows are selected. -/
def OneSelected (tableView : UITableView) : Prop :=
  ∀ (i j : Nat) (row row' : TableRow), tableView.rows[i]? = some row →
    tableView.rows[j]? = some row' → row.isSelected = true → row'.isSelected = true → i = j

/-- After a reload no row is selected. -/
theorem oneSelected_reload (tableView : UITableView) (items : List CompactCellItem) :
    (tableView.reload items).OneSelected := by
  intro i j row row' hi _ hselected
  obtain ⟨item, _, rfl⟩ := List.mem_map.mp (List.mem_of_getElem? hi)
  cases hselected

/-- Without multiple selection the tapped row becomes the only selected one. -/
theorem oneSelected_tapRow {tableView : UITableView}
    (hmode : tableView.allowsMultipleSelection = false) (index : Nat) :
    (tableView.tapRow index).OneSelected := by
  have htapped : ∀ (i : Nat) (row : TableRow), (tableView.tapRow index).rows[i]? = some row →
      row.isSelected = true → i = index := by
    intro i row hi hselected
    rw [tapRow, List.getElem?_mapIdx, Option.map_eq_some_iff] at hi
    obtain ⟨before, _, rfl⟩ := hi
    by_contra hne
    simp [hne, hmode] at hselected
  intro i j row row' hi hj hselected hselected'
  rw [htapped i row hi hselected, htapped j row' hj hselected']

/-- With one row selected at most, two rows are not all selected. -/
theorem not_allSelected_of_two_rows {tableView : UITableView} (hone : tableView.OneSelected)
    (hrows : 2 ≤ tableView.rows.length) : ¬ tableView.AllSelected := by
  intro hall
  have hfirst : tableView.rows[0]? = some (tableView.rows[0]) := List.getElem?_eq_getElem _
  have hsecond : tableView.rows[1]? = some (tableView.rows[1]) := List.getElem?_eq_getElem _
  have h := hone 0 1 _ _ hfirst hsecond (hall _ (List.getElem_mem _)) (hall _ (List.getElem_mem _))
  omega

end UITableView

namespace Screen

open CompactView

/-- What holds along every run over two rows or more. -/
structure SingleSelection (view : CompactView) : Prop where
  wellFormed : view.WellFormed
  rows : 2 ≤ view.tableView.rows.length
  normal : view.tableView.allowsMultipleSelection = false → view.tableView.OneSelected

/-- Outside delete mode a tap replaces the selected row, and the way out of delete mode
clears the selection, so that at most one row is selected. -/
theorem singleSelection_viewStep {s : Screen} {e : SelectionEvent} {after : CompactView}
    (hview : SingleSelection s.view) (henabled : s.Enabled e.screenEvent)
    (h : ViewStep s.view e.screenEvent after) : SingleSelection after := by
  have hwellFormed := wellFormed_viewStep hview.wellFormed h
  have hrows := hview.rows
  cases e with
  | tapRow index =>
      cases h with
      | tapRow =>
          have hlength : (s.view.tableView.tapRow index).rows.length =
              s.view.tableView.rows.length := List.length_mapIdx
          obtain ⟨htable, hmode⟩ := selectionChanged_table
            { s.view with tableView := s.view.tableView.tapRow index }
          refine ⟨hwellFormed, by rw [htable, hlength]; exact hrows, fun hnormal => ?_⟩
          have hbefore : s.view.tableView.allowsMultipleSelection = false :=
            hmode.symm.trans hnormal
          unfold UITableView.OneSelected
          rw [htable]
          exact UITableView.oneSelected_tapRow hbefore index
  | enterDeleteMode | leaveDeleteMode =>
      cases h with
      | header h =>
          obtain rfl := Except.ok.inj h
          exact ⟨hwellFormed, (s.view.tableView.length_rows_reloadData).symm ▸ hrows,
            fun _ => UITableView.oneSelected_reload s.view.tableView
              (s.view.tableView.rows.map TableRow.item)⟩
  | tapCheckButton =>
      cases h with
      | header h =>
          obtain ⟨isSelected, indexPaths, rfl, _⟩ := toggleCheckButton_cases h
          have hlength : (s.view.selectAll isSelected).tableView.rows.length =
              s.view.tableView.rows.length := by
            cases isSelected <;> exact List.length_map _
          have hdelete := hview.wellFormed.mode.mp (type_of_check_mem henabled.2)
          rw [← selectAll_mode s.view isSelected] at hdelete
          exact ⟨hwellFormed, hlength.symm ▸ hrows,
            fun hnormal => absurd (hdelete.symm.trans hnormal) (by decide)⟩

def RunSingleSelection : Result Screen → Prop
  | .ok s => SingleSelection s.view
  | .error _ => False

/-- With two rows or more, then, delete mode is never entered with all rows selected: outside
of it the table selects one row at a time. -/
theorem runSingleSelection_step {s t : Result Screen} {e : SelectionEvent}
    (hs : RunSingleSelection s) (hstep : selectionStep s e = some t) :
    RunSingleSelection t ∧ EntersUnselected s e t := by
  cases s with
  | error trap => cases hstep
  | ok s =>
      obtain ⟨henabled, hprocess⟩ := step_ok hstep
      have hne : s.view.tableView.rows ≠ [] := by
        apply List.ne_nil_of_length_pos
        have := SingleSelection.rows hs
        omega
      obtain ⟨u, hu⟩ := selection_process_ok hne e
      obtain rfl : Except.ok u = t := hu.symm.trans hprocess
      refine ⟨singleSelection_viewStep hs henabled (process_cases henabled hprocess).1, ?_⟩
      cases e with
      | enterDeleteMode =>
          have htype := type_of_delete_mem henabled.2
          have hmode : s.view.tableView.allowsMultipleSelection = false := by
            rw [← Bool.not_eq_true]
            exact mt (SingleSelection.wellFormed hs).mode.mpr htype
          exact UITableView.not_allSelected_of_two_rows (SingleSelection.normal hs hmode)
            (SingleSelection.rows hs)
      | tapRow | leaveDeleteMode | tapCheckButton => trivial

end Screen

/-- **Two rows or more.** The button is always right, since the one row that can be selected
outside delete mode is not all of them. -/
theorem check_button_right_of_two_rows {activityDetail : ActivityDetail} {backend : Backend}
    (hlaunch : ∃ s, Screen.launch activityDetail backend = .ok s ∧
      2 ≤ s.view.tableView.rows.length) (es : List SelectionEvent) :
    Throughout Screen.selectionStep Screen.RunButtonRight
      (Screen.launch activityDetail backend) es := by
  obtain ⟨s, hs, hrows⟩ := hlaunch
  have hne : s.view.tableView.rows ≠ [] := List.ne_nil_of_length_pos (by omega)
  obtain ⟨hkept, hright⟩ := Screen.launch_runSelectionKept hs hne
  have hwellFormed := Screen.launch_runWellFormed activityDetail backend
  obtain ⟨items, hview, _⟩ := Screen.load_view hs
  rw [hs] at hwellFormed ⊢
  rw [Screen.throughout_buttonRight_iff hkept hright]
  apply stepsMeet_of_invariant (J := Screen.RunSingleSelection)
  · exact fun _ _ _ h hstep => (Screen.runSingleSelection_step h hstep).1
  · exact fun _ _ _ h hstep => (Screen.runSingleSelection_step h hstep).2
  · refine ⟨hwellFormed, hrows, fun _ => ?_⟩
    rw [hview]
    exact UITableView.oneSelected_reload _ _

end Activity
