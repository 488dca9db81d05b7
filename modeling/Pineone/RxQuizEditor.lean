import Pineone.Runs
import Pineone.SwiftText
import Mathlib.Data.List.Nodup

/-!
# The quiz editor of the RxSwift chapter

The screen that the editor with a view model was written after.  Its answers are a list of
the view controller; a cell reports its text through `distinctUntilChanged`, and the view
controller looks the row of the cell up when it is told.

A reload makes the text field being edited end editing, which sends its text once more while
the list under it has changed already.  Here `distinctUntilChanged` holds that text back.

* `answers_kept`: in every run nothing traps, every event changes the answers as it should,
  and the rows show the answers, numbered from 1.
-/

namespace RxQuizEditor

open Runs Swift

/-- A cell of the answer table.  `lastText` is the text that `distinctUntilChanged` let
through last; subscribing has let the empty text through. -/
structure TableCell where
  answerTextField : String := ""
  lastText : String := ""
  exampleNumber : Option ℕ := none
  hasDelegate : Bool := false
  deriving DecidableEq, Repr

/-- The text of the field passes `distinctUntilChanged`. -/
def TableCell.pass (cell : TableCell) : TableCell :=
  { cell with lastText := cell.answerTextField }

/-- The user changes the text of the field. -/
def TableCell.edit (cell : TableCell) (text : String) : TableCell :=
  { cell with answerTextField := text }

/-- A field that has sent its text lets it through no second time: `distinctUntilChanged`
compares with the text that was sent last. -/
theorem TableCell.pass_eq_self {cell : TableCell}
    (hlast : cell.answerTextField = cell.lastText) : cell.pass = cell := by
  cases cell
  simp only [TableCell.pass] at hlast ⊢
  rw [hlast]

inductive PickerKind
  | question
  | explanation
  deriving DecidableEq, Repr

/-- The view controller.  Cells have names, `cellForRow` lists the cells of the rows. -/
structure QuestionViewController (UIImage : Type) where
  answerList : List String := []
  questionImageRelay : List UIImage := []
  explanationImageRelay : List UIImage := []
  cells : ℕ → TableCell := fun _ => {}
  cellForRow : List ℕ := []
  firstResponder : Option ℕ := none
  presentedPicker : Option PickerKind := none

/-- What the user and the system do.  `reuse` are the cells the table takes for the rows of
a reload. -/
inductive EditorEvent (UIImage : Type)
  | beginEditing (cell : ℕ)
  | endEditing
  /-- The text of the field being edited becomes `text`. -/
  | editText (text : String)
  | tapPlusButton (reuse : List ℕ)
  | tapXButton (row : ℕ) (reuse : List ℕ)
  | tapCameraButton (kind : PickerKind)
  | didFinishPicking (img : UIImage)

namespace QuestionViewController

variable {UIImage : Type}

/-- `tableView.indexPath(for:)` -/
def indexPath (s : QuestionViewController UIImage) (cell : ℕ) : Option ℕ :=
  if cell ∈ s.cellForRow then some (s.cellForRow.idxOf cell) else none

/-- `tableView.indexPath(for: cell)!.row` -/
def row (s : QuestionViewController UIImage) (cell : ℕ) : Result ℕ :=
  match s.indexPath cell with
  | some row => .ok row
  | none => .error (.unwrapNil "tableView.indexPath(for: cell)")

def textFieldDidChangeSelection (s : QuestionViewController UIImage) (cell : ℕ) :
    Result (QuestionViewController UIImage) :=
  (s.row cell).map fun row =>
    if row < s.answerList.length then
      { s with answerList := s.answerList.set row (s.cells cell).answerTextField }
    else s

/-- An editing event of the field of a cell: its text goes through `distinctUntilChanged` to
the delegate. -/
def sendText (s : QuestionViewController UIImage) (cell : ℕ) :
    Result (QuestionViewController UIImage) :=
  if (s.cells cell).answerTextField = (s.cells cell).lastText then .ok s
  else
    let s := { s with cells := Function.update s.cells cell (s.cells cell).pass }
    if (s.cells cell).hasDelegate then s.textFieldDidChangeSelection cell else .ok s

/-- The field being edited ends editing. -/
def endEditing (s : QuestionViewController UIImage) : Result (QuestionViewController UIImage) :=
  match s.firstResponder with
  | none => .ok s
  | some cell => (s.sendText cell).map fun s => { s with firstResponder := none }

/-- The configuration of the cell of a row. -/
def configure (cell : TableCell) (index : ℕ) (data : String) : TableCell :=
  { cell with
    hasDelegate := true
    answerTextField := data
    exampleNumber := some (index + 1) }

/-- The rows are mapped to the cells `reuse`, in this order. -/
def mapRows (s : QuestionViewController UIImage) (answers : List String) (reuse : List ℕ) :
    QuestionViewController UIImage :=
  { s with
    cellForRow := reuse
    cells := fun cell =>
      if cell ∈ reuse then
        configure (s.cells cell) (reuse.idxOf cell) (answers.getD (reuse.idxOf cell) "")
      else s.cells cell }

/-- `answerRelay.accept(answerList)`: the table reloads. -/
def accept (s : QuestionViewController UIImage) (answers : List String) (reuse : List ℕ) :
    Result (QuestionViewController UIImage) :=
  s.endEditing.map fun s => s.mapRows answers reuse

def tapPlusButton (s : QuestionViewController UIImage) (reuse : List ℕ) :
    Result (QuestionViewController UIImage) :=
  let answerList := s.answerList ++ [""]
  accept { s with answerList := answerList } answerList reuse

def tapXButton (s : QuestionViewController UIImage) (cell : ℕ) (reuse : List ℕ) :
    Result (QuestionViewController UIImage) := do
  let row ← s.row cell
  if row < s.answerList.length then
    let answerList := s.answerList.eraseIdx row
    accept { s with answerList := answerList } answerList reuse
  else .error .indexOutOfRange

/-- A field takes the focus from the one being edited. -/
def beginEditing (s : QuestionViewController UIImage) (cell : ℕ) :
    Result (QuestionViewController UIImage) := do
  let s ← s.endEditing
  sendText { s with firstResponder := some cell } cell

def editText (s : QuestionViewController UIImage) (cell : ℕ) (text : String) :
    Result (QuestionViewController UIImage) :=
  sendText { s with cells := Function.update s.cells cell ((s.cells cell).edit text) } cell

def didFinishPicking (s : QuestionViewController UIImage) (kind : PickerKind) (img : UIImage) :
    QuestionViewController UIImage :=
  match kind with
  | .question =>
      { s with presentedPicker := none, questionImageRelay := s.questionImageRelay ++ [img] }
  | .explanation =>
      { s with
        presentedPicker := none
        explanationImageRelay := s.explanationImageRelay ++ [img] }

/-- The cells of a reload are different ones, one for each row. -/
def Fits (answers : List String) (reuse : List ℕ) : Prop :=
  reuse.Nodup ∧ reuse.length = answers.length

instance (answers : List String) (reuse : List ℕ) : Decidable (Fits answers reuse) :=
  inferInstanceAs (Decidable (_ ∧ _))

/-- One event, taken to its end; after a trap nothing happens any more.  Only a field of a row
gets the focus, and only a cell of a row is tapped. -/
def step : Result (QuestionViewController UIImage) → EditorEvent UIImage →
    Option (Result (QuestionViewController UIImage))
  | .error _, _ => none
  | .ok s, .beginEditing cell => if cell ∈ s.cellForRow then some (s.beginEditing cell) else none
  | .ok s, .endEditing => some s.endEditing
  | .ok s, .editText text =>
      match s.firstResponder with
      | none => none
      | some cell => some (s.editText cell text)
  | .ok s, .tapPlusButton reuse =>
      if Fits (s.answerList ++ [""]) reuse then some (s.tapPlusButton reuse) else none
  | .ok s, .tapXButton row reuse =>
      match s.cellForRow[row]? with
      | none => none
      | some cell =>
          if Fits (s.answerList.eraseIdx row) reuse then some (s.tapXButton cell reuse) else none
  | .ok s, .tapCameraButton kind => some (.ok { s with presentedPicker := some kind })
  | .ok s, .didFinishPicking img =>
      s.presentedPicker.map fun kind => .ok (s.didFinishPicking kind img)

/-- The texts of the rows and their numbers, as the table shows them. -/
def shownRows (s : QuestionViewController UIImage) : List (Option ℕ × String) :=
  s.cellForRow.map fun cell => ((s.cells cell).exampleNumber, (s.cells cell).answerTextField)

/-- The rows that the table should show. -/
def numberedAnswers (answerList : List String) : List (Option ℕ × String) :=
  answerList.mapIdx fun row answer => (some (row + 1), answer)

/-- The row whose text field is being edited. -/
def focusedRow (s : QuestionViewController UIImage) : Option ℕ :=
  s.firstResponder.bind s.indexPath

/-- The answers that an event should lead to. -/
def answersAfter (s : QuestionViewController UIImage) : EditorEvent UIImage → List String
  | .editText text =>
      match s.focusedRow with
      | some row => s.answerList.set row text
      | none => s.answerList
  | .tapPlusButton _ => s.answerList ++ [""]
  | .tapXButton row _ => s.answerList.eraseIdx row
  | _ => s.answerList

/-- An event has not trapped, has changed the answers as it should, and the table shows them. -/
def AnswersKept (before : Result (QuestionViewController UIImage)) (e : EditorEvent UIImage)
    (after : Result (QuestionViewController UIImage)) : Prop :=
  ∃ s t, before = .ok s ∧ after = .ok t ∧ t.answerList = s.answersAfter e ∧
    t.shownRows = numberedAnswers t.answerList

section Rows

variable {s t : QuestionViewController UIImage} {e : EditorEvent UIImage} {reuse : List ℕ}
  {position cell : ℕ}

/-- The rows show the answers, each by a cell of its own, and the text of the field being
edited is the one let through last. -/
structure InSync (s : QuestionViewController UIImage) : Prop where
  nodup : s.cellForRow.Nodup
  length : s.cellForRow.length = s.answerList.length
  delegate : ∀ cell ∈ s.cellForRow, (s.cells cell).hasDelegate = true
  number : ∀ position cell : ℕ, s.cellForRow[position]? = some cell →
    (s.cells cell).exampleNumber = some (position + 1)
  text : ∀ position cell : ℕ, s.cellForRow[position]? = some cell →
    s.answerList[position]? = some (s.cells cell).answerTextField
  focus : ∀ cell, s.firstResponder = some cell →
    cell ∈ s.cellForRow ∧ (s.cells cell).answerTextField = (s.cells cell).lastText

/-- Each row has a cell of its own, so that the cell finds its row, and that row is the one
it was tapped in. -/
theorem row_eq (hnodup : s.cellForRow.Nodup) (hcell : s.cellForRow[position]? = some cell) :
    s.indexPath cell = some position ∧ s.row cell = .ok position := by
  obtain ⟨hlt, rfl⟩ := List.getElem?_eq_some_iff.mp hcell
  have hpath : s.indexPath s.cellForRow[position] = some position := by
    unfold indexPath
    rw [if_pos (List.getElem_mem hlt), hnodup.idxOf_getElem position hlt]
  refine ⟨hpath, ?_⟩
  unfold row
  rw [hpath]

/-- The rows shown are the numbered answers. -/
theorem InSync.shownRows_eq (h : s.InSync) : s.shownRows = numberedAnswers s.answerList := by
  apply List.ext_getElem?
  intro position
  unfold shownRows numberedAnswers
  rw [List.getElem?_map, List.getElem?_mapIdx]
  cases hcell : s.cellForRow[position]? with
  | none =>
      have hlong := List.getElem?_eq_none_iff.mp hcell
      have hnone : s.answerList[position]? = none :=
        List.getElem?_eq_none_iff.mpr (h.length ▸ hlong)
      rw [hnone]
      rfl
  | some cell =>
      rw [h.text position cell hcell, Option.map_some, Option.map_some,
        h.number position cell hcell]

/-- What a text that is sent changes: it is written into the row of its cell, unless
`distinctUntilChanged` holds it back. -/
theorem sendText_eq (hnodup : s.cellForRow.Nodup)
    (hcell : s.cellForRow[position]? = some cell)
    (hdelegate : (s.cells cell).hasDelegate = true) :
    s.sendText cell = .ok { s with
      answerList :=
        if (s.cells cell).answerTextField = (s.cells cell).lastText then s.answerList
        else s.answerList.set position (s.cells cell).answerTextField
      cells := Function.update s.cells cell (s.cells cell).pass } := by
  unfold sendText
  by_cases hsame : (s.cells cell).answerTextField = (s.cells cell).lastText
  · rw [if_pos hsame, if_pos hsame, TableCell.pass_eq_self hsame, Function.update_eq_self]
  · rw [if_neg hsame, if_neg hsame]
    have hpass : (s.cells cell).pass.hasDelegate = true := hdelegate
    have hrow := (row_eq
      (s := { s with cells := Function.update s.cells cell (s.cells cell).pass }) hnodup hcell).2
    simp only [Function.update_self, hpass, if_true, textFieldDidChangeSelection, hrow,
      Except.map]
    split
    · rfl
    · next hlong =>
        rw [List.set_eq_of_length_le (Nat.not_lt.mp hlong)]

/-- A text that was let through already is not sent again at the end of editing. -/
theorem endEditing_eq (hfocus : ∀ cell, s.firstResponder = some cell →
    (s.cells cell).answerTextField = (s.cells cell).lastText) :
    s.endEditing = .ok { s with firstResponder := none } := by
  unfold endEditing
  split
  · next hnone => rw [← hnone]
  · next cell hcell =>
      unfold sendText
      rw [if_pos (hfocus cell hcell)]
      rfl

/-- At the end of editing the field has sent its text already, so the end of editing brings
nothing to the answers. -/
theorem InSync.endEditing (h : s.InSync) : InSync { s with firstResponder := none } :=
  ⟨h.nodup, h.length, h.delegate, h.number, h.text, fun _ hnone => by cases hnone⟩

/-- Changing one cell of a row and its answer keeps the others in step. -/
theorem InSync.update (h : s.InSync) (hcell : s.cellForRow[position]? = some cell)
    (text : String) :
    InSync { s with
      answerList := s.answerList.set position text
      cells := Function.update s.cells cell
        { s.cells cell with answerTextField := text, lastText := text }
      firstResponder := some cell } := by
  have hmem := List.mem_of_getElem? hcell
  have hother : ∀ position' cell' : ℕ, s.cellForRow[position']? = some cell' →
      position' ≠ position → cell' ≠ cell := by
    rintro position' cell' hcell' hne rfl
    obtain ⟨hlt, hget⟩ := List.getElem?_eq_some_iff.mp hcell
    obtain ⟨hlt', hget'⟩ := List.getElem?_eq_some_iff.mp hcell'
    exact hne (h.nodup.getElem_inj_iff.mp (hget'.trans hget.symm))
  refine ⟨h.nodup, ?_, ?_, ?_, ?_, ?_⟩
  · simpa using h.length
  · intro cell' hcell'
    by_cases hsame : cell' = cell
    · subst hsame
      simpa using h.delegate cell' hmem
    · simpa [Function.update_of_ne hsame] using h.delegate cell' hcell'
  · intro position' cell' hcell'
    by_cases hsame : cell' = cell
    · subst hsame
      simpa using h.number position' cell' hcell'
    · simpa [Function.update_of_ne hsame] using h.number position' cell' hcell'
  · intro position' cell' hcell'
    show (s.answerList.set position text)[position']? = _
    by_cases hsame : position' = position
    · subst hsame
      obtain rfl := Option.some.inj (hcell.symm.trans hcell')
      obtain ⟨hlt, -⟩ := List.getElem?_eq_some_iff.mp (h.text position' cell hcell)
      simp [hlt]
    · have hne := hother position' cell' hcell' hsame
      rw [List.getElem?_set_ne (Ne.symm hsame)]
      simpa [Function.update_of_ne hne] using h.text position' cell' hcell'
  · intro cell' hfocus
    obtain rfl := Option.some.inj hfocus
    exact ⟨hmem, by simp⟩

/-- After a reload the rows show the list that was accepted, each in the cell that was used
for it. -/
theorem inSync_mapRows (s : QuestionViewController UIImage) {answers : List String}
    (hfits : Fits answers reuse) :
    InSync (mapRows { s with answerList := answers, firstResponder := none } answers reuse) := by
  obtain ⟨hnodup, hlength⟩ := hfits
  have hcells : ∀ position cell : ℕ, reuse[position]? = some cell →
      (mapRows { s with answerList := answers, firstResponder := none } answers reuse).cells cell =
        configure (s.cells cell) position (answers.getD position "") := by
    intro position cell hcell
    obtain ⟨hlt, rfl⟩ := List.getElem?_eq_some_iff.mp hcell
    show (if _ then _ else _) = _
    rw [if_pos (List.getElem_mem hlt), hnodup.idxOf_getElem position hlt]
  refine ⟨hnodup, hlength, ?_, ?_, ?_, fun _ hnone => by cases hnone⟩
  · intro cell hmem
    obtain ⟨position, hcell⟩ := List.mem_iff_getElem?.mp hmem
    rw [hcells position cell hcell]
    rfl
  · intro position cell hcell
    rw [hcells position cell hcell]
    rfl
  · intro position cell hcell
    rw [hcells position cell hcell]
    obtain ⟨hlt, -⟩ := List.getElem?_eq_some_iff.mp hcell
    have hlt' : position < answers.length := hlength ▸ hlt
    show answers[position]? = some (answers.getD position "")
    rw [List.getElem?_eq_getElem hlt', List.getD_eq_getElem?_getD,
      List.getElem?_eq_getElem hlt', Option.getD_some]

/-- What an event leads to. -/
def Leads (s : QuestionViewController UIImage) (e : EditorEvent UIImage)
    (after : Result (QuestionViewController UIImage)) : Prop :=
  ∃ t, after = .ok t ∧ t.InSync ∧ t.answerList = s.answersAfter e

/-- A reload with new answers. -/
theorem InSync.accept (h : s.InSync) {answers : List String} (hfits : Fits answers reuse)
    (hafter : answers = s.answersAfter e) :
    Leads s e (QuestionViewController.accept { s with answerList := answers } answers reuse) := by
  unfold QuestionViewController.accept
  rw [endEditing_eq (s := { s with answerList := answers }) fun cell hcell =>
    (h.focus cell hcell).2]
  exact ⟨_, rfl, inSync_mapRows s hfits, hafter⟩

/-- A field that is tapped has the text of its answer, and sends nothing new. -/
theorem InSync.beginEditing (h : s.InSync) (hcell : cell ∈ s.cellForRow) :
    Leads s (.beginEditing cell) (s.beginEditing cell) := by
  obtain ⟨position, hposition⟩ := List.mem_iff_getElem?.mp hcell
  have htext := h.text position cell hposition
  obtain ⟨hlt, hget⟩ := List.getElem?_eq_some_iff.mp htext
  have hkept : s.answerList.set position (s.cells cell).answerTextField = s.answerList := by
    rw [← hget, List.set_getElem_self]
  unfold QuestionViewController.beginEditing
  rw [endEditing_eq fun cell hcell => (h.focus cell hcell).2]
  show Leads s _ (sendText { s with firstResponder := some cell } cell)
  rw [sendText_eq (s := { s with firstResponder := some cell }) h.nodup hposition
    (h.delegate cell hcell)]
  have hanswers : (if (s.cells cell).answerTextField = (s.cells cell).lastText then s.answerList
      else s.answerList.set position (s.cells cell).answerTextField) = s.answerList := by
    rw [hkept, ite_self]
  have hsync := h.update hposition (s.cells cell).answerTextField
  rw [hkept] at hsync
  refine ⟨_, rfl, ?_, ?_⟩
  · show InSync { s with answerList := _, cells := _, firstResponder := _ }
    rw [hanswers]
    exact hsync
  · exact hanswers

/-- A text typed into a row is let through to the answer of that row. The row is the one its
cell was mapped to, which in step is the row it is shown in. -/
theorem InSync.editText (h : s.InSync) (hfocus : s.firstResponder = some cell) (text : String) :
    Leads s (.editText text) (s.editText cell text) := by
  obtain ⟨hcell, hlast⟩ := h.focus cell hfocus
  obtain ⟨position, hposition⟩ := List.mem_iff_getElem?.mp hcell
  have hafter : s.answersAfter (.editText text) = s.answerList.set position text := by
    unfold answersAfter focusedRow
    rw [hfocus, Option.bind_some, (row_eq h.nodup hposition).1]
  have htext := h.text position cell hposition
  obtain ⟨hlt, hget⟩ := List.getElem?_eq_some_iff.mp htext
  unfold QuestionViewController.editText
  have hsent := sendText_eq
    (s := { s with cells := Function.update s.cells cell ((s.cells cell).edit text) }) h.nodup
    hposition (by simpa [TableCell.edit] using h.delegate cell hcell)
  rw [hsent]
  simp only [Function.update_self, Function.update_idem]
  have hanswers : (if ((s.cells cell).edit text).answerTextField =
      ((s.cells cell).edit text).lastText then s.answerList
      else s.answerList.set position ((s.cells cell).edit text).answerTextField) =
        s.answerList.set position text := by
    split
    · next hsame =>
        have hold : text = (s.cells cell).lastText := hsame
        rw [hold, ← hlast, ← hget, List.set_getElem_self]
    · rfl
  have hsync := h.update hposition text
  refine ⟨_, rfl, ?_, ?_⟩
  · rw [hanswers]
    rw [← hfocus] at hsync
    exact hsync
  · rw [hafter]
    exact hanswers

/-- The X takes out the answer of the row it is in, and the reload shows the others, whether
a field was being edited or not. -/
theorem InSync.tapXButton (h : s.InSync) (hcell : s.cellForRow[position]? = some cell)
    (hfits : Fits (s.answerList.eraseIdx position) reuse) :
    Leads s (.tapXButton position reuse) (s.tapXButton cell reuse) := by
  obtain ⟨hlt, -⟩ := List.getElem?_eq_some_iff.mp (h.text position cell hcell)
  unfold QuestionViewController.tapXButton
  rw [(row_eq h.nodup hcell).2]
  show Leads s _ (if position < s.answerList.length then _ else _)
  rw [if_pos hlt]
  exact h.accept hfits rfl

/-- One case for each event: none traps, and each does to the answers what it should. -/
theorem InSync.step (h : s.InSync) {after : Result (QuestionViewController UIImage)}
    (hstep : QuestionViewController.step (.ok s) e = some after) : Leads s e after := by
  cases e with
  | beginEditing cell =>
      simp only [QuestionViewController.step] at hstep
      split at hstep
      · next hcell =>
          obtain rfl := Option.some.inj hstep
          exact h.beginEditing hcell
      · cases hstep
  | endEditing =>
      obtain rfl := Option.some.inj hstep
      rw [endEditing_eq fun cell hcell => (h.focus cell hcell).2]
      exact ⟨_, rfl, h.endEditing, rfl⟩
  | editText text =>
      simp only [QuestionViewController.step] at hstep
      split at hstep
      · cases hstep
      · next cell hfocus =>
          obtain rfl := Option.some.inj hstep
          exact h.editText hfocus text
  | tapPlusButton reuse =>
      simp only [QuestionViewController.step] at hstep
      split at hstep
      · next hfits =>
          obtain rfl := Option.some.inj hstep
          exact h.accept hfits rfl
      · cases hstep
  | tapXButton position reuse =>
      simp only [QuestionViewController.step] at hstep
      split at hstep
      · cases hstep
      · next cell hcell =>
          split at hstep
          · next hfits =>
              obtain rfl := Option.some.inj hstep
              exact h.tapXButton hcell hfits
          · cases hstep
  | tapCameraButton kind =>
      obtain rfl := Option.some.inj hstep
      exact ⟨_, rfl, ⟨h.nodup, h.length, h.delegate, h.number, h.text, h.focus⟩, rfl⟩
  | didFinishPicking img =>
      obtain ⟨kind, -, rfl⟩ := Option.map_eq_some_iff.mp hstep
      refine ⟨_, rfl, ?_, ?_⟩
      · cases kind <;> exact ⟨h.nodup, h.length, h.delegate, h.number, h.text, h.focus⟩
      · cases kind <;> rfl

end Rows

/-- At the start there are neither rows nor answers. -/
theorem inSync_start : ({} : QuestionViewController UIImage).InSync := by
  refine ⟨List.nodup_nil, rfl, ?_, ?_, ?_, ?_⟩ <;> simp

/-- The rows of the state of a run are in step; nothing has trapped. -/
def RunInSync : Result (QuestionViewController UIImage) → Prop
  | .ok s => s.InSync
  | .error _ => False

/-- **The rows keep their answers** in every run, whatever field is being edited when the
table reloads: nothing traps, an edit changes the answer of its row, a tap on the X removes
its row, and the table shows the answers with their numbers. -/
theorem answers_kept (es : List (EditorEvent UIImage)) :
    StepsMeet step AnswersKept (.ok ({} : QuestionViewController UIImage)) es := by
  have hleads : ∀ (before : Result (QuestionViewController UIImage)) e after,
      RunInSync before → step before e = some after →
        RunInSync after ∧ AnswersKept before e after := by
    intro before e after hbefore hstep
    cases before with
    | error trap => cases hbefore
    | ok s =>
        have hsync : s.InSync := hbefore
        obtain ⟨t, rfl, ht, hanswers⟩ := hsync.step hstep
        exact ⟨ht, s, t, rfl, rfl, hanswers, ht.shownRows_eq⟩
  have hstart : RunInSync (.ok ({} : QuestionViewController UIImage)) := inSync_start
  exact stepsMeet_of_invariant
    (fun before e after hbefore hstep => (hleads before e after hbefore hstep).1)
    (fun before e after hbefore hstep => (hleads before e after hbefore hstep).2)
    hstart es

end QuestionViewController

end RxQuizEditor
