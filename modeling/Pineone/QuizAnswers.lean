import Pineone.QuizEditor
import Mathlib.Data.List.Nodup

/-!
# The answer rows of the quiz editor

What an event should do to the answers is `answersAfter`.  The text field being edited
belongs to a cell that still holds its row while the list under it has changed
already: the reload that follows sends the field's text to that row of the new list.

* `answer_rows_kept_iff`: the rows show the answers and every event changes them as it
  should, exactly as long as that text is what the new list has in its row.
-/

namespace QuizEditor

open Runs

namespace Editor

variable {UIImage : Type}

/-- The row whose text field is being edited. -/
def focusedRow (s : Editor UIImage) : Option ℕ :=
  match s.firstResponder with
  | some (.answerTextField c) => (s.cells c).index
  | _ => none

/-- The answers an event should lead to. -/
def answersAfter (s : Editor UIImage) : EditorEvent UIImage → List String
  | .editText text =>
      match s.focusedRow with
      | some row => s.nowSceneData.answerList.set row text
      | none => s.nowSceneData.answerList
  | .tapPlusButton _ => s.nowSceneData.answerList ++ [""]
  | .tapXButton row _ => s.nowSceneData.answerList.eraseIdx row
  | .viewWillAppear _ => s.mainRepository.answerList
  | _ => s.nowSceneData.answerList

/-- The event has changed the answers as it should, and the table shows them. -/
structure RowsKept (s : Editor UIImage) (e : EditorEvent UIImage) (t : Editor UIImage) :
    Prop where
  changed : t.nowSceneData.answerList = s.answersAfter e
  shown : t.shownAnswers = t.nowSceneData.answerList

/-- What the new list has in the row being edited is what is there already: after an X
tap the edited row lies above the tapped one, or the answer below it is the same. -/
def KeepsFocusedRow (s : Editor UIImage) (e : EditorEvent UIImage) (_ : Editor UIImage) :
    Prop :=
  match e with
  | .tapXButton row _ => ∀ j ∈ s.focusedRow, row ≤ j →
      ∀ next ∈ s.nowSceneData.answerList[j + 1]?, s.nowSceneData.answerList[j]? = some next
  | .viewWillAppear _ => ∀ j ∈ s.focusedRow,
      ∀ stored ∈ s.mainRepository.answerList[j]?, s.nowSceneData.answerList[j]? = some stored
  | _ => True

/-- Every row has a cell of its own, which holds that row and sends its actions; only
cells of rows are edited. -/
structure Mapped (s : Editor UIImage) : Prop where
  nodup : s.cellForRow.Nodup
  cell : ∀ row c, s.cellForRow[row]? = some c →
    (s.cells c).isSetupDI = true ∧ (s.cells c).index = some row
  editing : ∀ c, s.firstResponder = some (.answerTextField c) → c ∈ s.cellForRow

/-- The rows are mapped and show the answers. -/
structure InSync (s : Editor UIImage) : Prop where
  mapped : s.Mapped
  shown : s.shownAnswers = s.nowSceneData.answerList

variable {s t : Editor UIImage} {e : EditorEvent UIImage} {reuse : List ℕ} {row c : ℕ}

/-- Writing `a` into position `j` changes nothing exactly when `a` is there, or nothing. -/
theorem set_eq_self_iff {α : Type} {l : List α} {j : ℕ} {a : α} :
    l.set j a = l ↔ ∀ b ∈ l[j]?, a = b := by
  by_cases hj : j < l.length
  · constructor
    · intro h b hb
      rw [← h, List.getElem?_set_self hj] at hb
      exact Option.some.inj hb
    · intro h
      rw [h _ (List.getElem?_eq_getElem hj), List.set_getElem_self]
  · have hlong := Nat.not_lt.mp hj
    simp [List.set_eq_of_length_le hlong, hlong]

/-- The text of a cell goes to the row it holds, if there is one. -/
theorem Mapped.sendAnswerText_eq (h : s.Mapped) (hc : s.cellForRow[row]? = some c) :
    s.sendAnswerText c =
      s.setAnswerList (s.nowSceneData.answerList.set row (s.cells c).answerTextField) := by
  obtain ⟨hsetup, hindex⟩ := h.cell row c hc
  unfold sendAnswerText answerTextChange
  rw [if_pos hsetup, hindex, Option.getD_some]
  split
  · rfl
  · next hlong =>
      rw [List.set_eq_of_length_le (Nat.not_lt.mp hlong)]
      rfl

/-- The text of a row the table shows is in the answers. -/
theorem InSync.text_eq (h : s.InSync) (hc : s.cellForRow[row]? = some c) :
    s.nowSceneData.answerList[row]? = some (s.cells c).answerTextField := by
  rw [← h.shown, shownAnswers, List.getElem?_map, hc, Option.map_some]

/-- In step, sending the text of a row changes nothing. Only a field that shows another text
than the stored one could change the answers. -/
theorem InSync.sendAnswerText_eq_self (h : s.InSync) (hc : c ∈ s.cellForRow) :
    s.sendAnswerText c = s := by
  obtain ⟨row, hrow⟩ := List.mem_iff_getElem?.mp hc
  obtain ⟨hlt, hget⟩ := List.getElem?_eq_some_iff.mp (h.text_eq hrow)
  rw [h.mapped.sendAnswerText_eq hrow, ← hget, List.set_getElem_self]
  rfl

/-- In step, the end of editing sends the text that is stored already. -/
theorem InSync.endEditing_eq (h : s.InSync) :
    s.endEditing = { s with firstResponder := none } := by
  unfold endEditing
  split
  · next c hc => rw [h.sendAnswerText_eq_self (h.mapped.editing c hc)]
  · rfl

/-- After a reload the rows are mapped to the cells `reuse` and show `answerList`. Which
cells are used again does not matter, as each gets its row and text. -/
theorem mapRows_spec {answerList : List String} (hnodup : reuse.Nodup)
    (hlength : reuse.length = answerList.length)
    (hediting : ∀ c, s.firstResponder ≠ some (.answerTextField c)) :
    (s.mapRows answerList reuse).Mapped ∧
      (s.mapRows answerList reuse).shownAnswers = answerList := by
  have hcell : ∀ row c, reuse[row]? = some c →
      (s.mapRows answerList reuse).cells c =
        (s.cells c).setupDI.dataMapping (answerList.getD row "") row := by
    intro row c hc
    obtain ⟨hrow, rfl⟩ := List.getElem?_eq_some_iff.mp hc
    have hmem : reuse[row] ∈ reuse := List.getElem_mem hrow
    have hindex : reuse.idxOf reuse[row] = row := hnodup.idxOf_getElem row hrow
    simp only [mapRows, if_pos hmem, hindex]
  refine ⟨⟨hnodup, fun row c hc => ?_, fun c hc => absurd hc (hediting c)⟩, ?_⟩
  · rw [hcell row c hc]
    exact ⟨rfl, rfl⟩
  · refine List.ext_getElem? fun row => ?_
    rw [shownAnswers, List.getElem?_map]
    show Option.map _ reuse[row]? = _
    by_cases hrow : row < reuse.length
    · have hrow' : row < answerList.length := hlength ▸ hrow
      rw [List.getElem?_eq_getElem hrow, Option.map_some,
        hcell row _ (List.getElem?_eq_getElem hrow), List.getElem?_eq_getElem hrow']
      simp [MVVMTableCell.dataMapping, hrow']
    · have hrow' : ¬ row < answerList.length := hlength ▸ hrow
      simp [Nat.not_lt.mp hrow, Nat.not_lt.mp hrow']

/-- The row that ends editing before a reload is written into the answers, at the position it
was mapped to. The answers may have moved since. -/
theorem Mapped.endTableEditing_eq (h : s.Mapped) (hc : s.cellForRow[row]? = some c)
    (hediting : s.firstResponder = some (.answerTextField c)) :
    s.endTableEditing =
      { s.setAnswerList (s.nowSceneData.answerList.set row (s.cells c).answerTextField) with
        firstResponder := none } := by
  have hend : s.endTableEditing = { s.sendAnswerText c with firstResponder := none } := by
    unfold endTableEditing endEditing
    rw [hediting]
  rw [hend, h.sendAnswerText_eq hc]

/-- A reload leaves the editing of the two text views alone. -/
theorem endTableEditing_eq_self (h : ∀ c, s.firstResponder ≠ some (.answerTextField c)) :
    s.endTableEditing = s := by
  unfold endTableEditing
  split
  · next c hc => exact absurd hc (h c)
  · rfl

/-- Where no answer is edited there is no row that could be written to. -/
theorem focusedRow_eq_none (h : ∀ c, s.firstResponder ≠ some (.answerTextField c)) :
    s.focusedRow = none := by
  unfold focusedRow
  split
  · next c hc => exact absurd hc (h c)
  · rfl

/-- The row being edited is the one its cell was mapped to, whatever row the answer has moved
to in the list. -/
theorem Mapped.focusedRow_eq (h : s.Mapped) (hc : s.cellForRow[row]? = some c)
    (hediting : s.firstResponder = some (.answerTextField c)) : s.focusedRow = some row := by
  unfold focusedRow
  rw [hediting]
  exact (h.cell row c hc).2

/-- And the cell that holds it is the cell of that row. -/
theorem Mapped.focusedRow_cell (h : s.Mapped) (hrow : s.focusedRow = some row) :
    ∃ c, s.cellForRow[row]? = some c ∧ s.firstResponder = some (.answerTextField c) := by
  unfold focusedRow at hrow
  split at hrow
  · next c hediting =>
      obtain ⟨row', hc⟩ := List.mem_iff_getElem?.mp (h.editing c hediting)
      obtain rfl := Option.some.inj ((h.cell row' c hc).2.symm.trans hrow)
      exact ⟨c, hc, hediting⟩
  · cases hrow

/-- **A reload.**  The table shows the list it was given, and the answers stay that
list exactly when the row being edited has its text there already. -/
theorem Mapped.acceptAnswers_spec (h : s.Mapped) {answerList : List String}
    (hlist : s.nowSceneData.answerList = answerList)
    (haccept : s.acceptAnswers answerList reuse = some t) :
    t.Mapped ∧ t.shownAnswers = answerList ∧
      (t.nowSceneData.answerList = answerList ↔
        ∀ row ∈ s.focusedRow, ∀ c, s.cellForRow[row]? = some c →
          ∀ stored ∈ answerList[row]?, (s.cells c).answerTextField = stored) := by
  obtain ⟨⟨hnodup, hlength⟩, rfl⟩ := acceptAnswers_cases haccept
  by_cases hanswer : ∃ c, s.firstResponder = some (.answerTextField c)
  · obtain ⟨c, hediting⟩ := hanswer
    obtain ⟨row, hc⟩ := List.mem_iff_getElem?.mp (h.editing c hediting)
    have hend := h.endTableEditing_eq hc hediting
    obtain ⟨hmapped, hshown⟩ := mapRows_spec (s := s.endTableEditing) hnodup hlength
      (fun c hc => by rw [hend] at hc; cases hc)
    refine ⟨hmapped, hshown, ?_⟩
    have hanswers : (s.endTableEditing.mapRows answerList reuse).nowSceneData.answerList =
        answerList.set row (s.cells c).answerTextField := by
      rw [hend, ← hlist]
      rfl
    rw [hanswers, set_eq_self_iff, h.focusedRow_eq hc hediting]
    constructor
    · intro htext row' hrow' c' hc'
      obtain rfl := Option.some.inj hrow'
      obtain rfl := Option.some.inj (hc.symm.trans hc')
      exact htext
    · intro htext
      exact htext row rfl c hc
  · have hnone : ∀ c, s.firstResponder ≠ some (.answerTextField c) :=
      fun c hc => hanswer ⟨c, hc⟩
    have hend := endTableEditing_eq_self hnone
    obtain ⟨hmapped, hshown⟩ := mapRows_spec (s := s.endTableEditing) hnodup hlength
      (fun c hc => hnone c (by rwa [hend] at hc))
    refine ⟨hmapped, hshown, ?_⟩
    rw [hend, focusedRow_eq_none hnone]
    exact ⟨fun _ => nofun, fun _ => hlist⟩

/-- The same for a reload out of a state in step, whatever the new scene data are. -/
theorem InSync.acceptAnswers_spec (h : s.InSync) (scene : DataForScene UIImage)
    (haccept : acceptAnswers { s with nowSceneData := scene } scene.answerList reuse = some t) :
    t.Mapped ∧ t.shownAnswers = scene.answerList ∧
      (t.nowSceneData.answerList = scene.answerList ↔
        ∀ row ∈ s.focusedRow, ∀ stored ∈ scene.answerList[row]?,
          s.nowSceneData.answerList[row]? = some stored) := by
  have hmapped : Mapped { s with nowSceneData := scene } :=
    ⟨h.mapped.nodup, h.mapped.cell, h.mapped.editing⟩
  obtain ⟨ht, hshown, hkept⟩ := hmapped.acceptAnswers_spec rfl haccept
  refine ⟨ht, hshown, hkept.trans ?_⟩
  constructor
  · intro htext row hrow stored hstored
    obtain ⟨c, hc, -⟩ := h.mapped.focusedRow_cell hrow
    rw [h.text_eq hc, htext row hrow c hc stored hstored]
  · intro htext row hrow c hc stored hstored
    have hanswer := htext row hrow stored hstored
    rw [show s.nowSceneData.answerList[row]? = _ from h.text_eq hc] at hanswer
    exact Option.some.inj hanswer

section OneStep

/-- What a step out of a state in step leads to. -/
def KeptIff (s : Editor UIImage) (e : EditorEvent UIImage) (t : Editor UIImage) : Prop :=
  t.Mapped ∧ (RowsKept s e t ↔ KeepsFocusedRow s e t)

/-- An event without a reload. -/
theorem InSync.keptIff (ht : t.InSync) (hchanged : t.nowSceneData.answerList = s.answersAfter e)
    (hkeeps : KeepsFocusedRow s e t) : KeptIff s e t :=
  ⟨ht.mapped, fun _ => hkeeps, fun _ => ⟨hchanged, ht.shown⟩⟩

/-- An event with a reload. -/
theorem InSync.keptIff_reload (h : s.InSync) (scene : DataForScene UIImage)
    (haccept : acceptAnswers { s with nowSceneData := scene } scene.answerList reuse = some t)
    (hafter : scene.answerList = s.answersAfter e)
    (hkeeps : (∀ row ∈ s.focusedRow, ∀ stored ∈ scene.answerList[row]?,
      s.nowSceneData.answerList[row]? = some stored) ↔ KeepsFocusedRow s e t) :
    KeptIff s e t := by
  obtain ⟨hmapped, hshown, hanswers⟩ := h.acceptAnswers_spec scene haccept
  refine ⟨hmapped, Iff.trans ⟨fun hkept => ?_, fun heq => ?_⟩ (hanswers.trans hkeeps)⟩
  · rw [hkept.changed, hafter]
  · exact ⟨heq.trans hafter, hshown.trans heq.symm⟩

/-- An event that leaves rows, cells, focus and answers alone. -/
theorem InSync.keptIff_same (h : s.InSync) (hrows : t.cellForRow = s.cellForRow)
    (hcells : t.cells = s.cells) (hfocus : t.firstResponder = s.firstResponder)
    (hanswers : t.nowSceneData.answerList = s.nowSceneData.answerList)
    (hafter : s.answersAfter e = s.nowSceneData.answerList) (hkeeps : KeepsFocusedRow s e t) :
    KeptIff s e t := by
  refine InSync.keptIff ⟨⟨?_, ?_, ?_⟩, ?_⟩ (hanswers.trans hafter.symm) hkeeps
  · rw [hrows]
    exact h.mapped.nodup
  · rw [hrows, hcells]
    exact h.mapped.cell
  · rw [hrows, hfocus]
    exact h.mapped.editing
  · rw [shownAnswers, hrows, hcells, hanswers]
    exact h.shown

/-- The focus may go to the cell of any row. -/
theorem InSync.focus (h : s.InSync) (input : Option TextInput)
    (hinput : ∀ c, input = some (.answerTextField c) → c ∈ s.cellForRow) :
    InSync { s with firstResponder := input } :=
  ⟨⟨h.mapped.nodup, h.mapped.cell, hinput⟩, h.shown⟩

/-- The focus goes to no answer. -/
theorem InSync.focus_other (h : s.InSync) (input : Option TextInput)
    (hinput : ∀ c, input ≠ some (.answerTextField c)) :
    InSync { s with firstResponder := input } :=
  h.focus input fun c hc => absurd hc (hinput c)

/-- Typing into the field of a row changes the shown text of that row and its answer with it,
and no other one. -/
theorem InSync.editCell (h : s.InSync) (hc : s.cellForRow[row]? = some c) (text : String) :
    InSync (sendAnswerText { s with
        cells := Function.update s.cells c { s.cells c with answerTextField := text } } c) ∧
      (sendAnswerText { s with
        cells := Function.update s.cells c
          { s.cells c with answerTextField := text } } c).nowSceneData.answerList =
        s.nowSceneData.answerList.set row text := by
  have hmapped : Mapped { s with
      cells := Function.update s.cells c { s.cells c with answerTextField := text } } := by
    refine ⟨h.mapped.nodup, fun row' c' hc' => ?_, h.mapped.editing⟩
    by_cases heq : c' = c
    · subst heq
      simpa using h.mapped.cell row' c' hc'
    · simpa [Function.update_of_ne heq] using h.mapped.cell row' c' hc'
  have hsent := hmapped.sendAnswerText_eq hc
  simp only [Function.update_self] at hsent
  rw [hsent]
  refine ⟨⟨⟨hmapped.nodup, hmapped.cell, hmapped.editing⟩, ?_⟩, rfl⟩
  show s.cellForRow.map _ = s.nowSceneData.answerList.set row text
  rw [← h.shown]
  refine List.ext_getElem? fun row' => ?_
  rw [List.getElem?_map, List.getElem?_set, shownAnswers, List.length_map, List.getElem?_map]
  obtain ⟨hrow, hget⟩ := List.getElem?_eq_some_iff.mp hc
  by_cases heq : row = row'
  · subst heq
    rw [if_pos rfl, if_pos hrow, hc, Option.map_some]
    simp [setAnswerList]
  · rw [if_neg heq]
    refine Option.map_congr fun c' hc' => ?_
    have hne : c' ≠ c := by
      rintro rfl
      obtain ⟨hrow', hget'⟩ := List.getElem?_eq_some_iff.mp hc'
      exact heq (h.mapped.nodup.getElem_inj_iff.mp (hget.trans hget'.symm))
    simp [setAnswerList, Function.update_of_ne hne]

/-- The edited row's text in the list without row `row`. It is where it was if the edited row
is above, and else exactly if the answer that moves up is the same text. -/
theorem focused_eraseIdx_iff (answers : List String) (row : ℕ) (focused : Option ℕ) :
    (∀ j ∈ focused, ∀ stored ∈ (answers.eraseIdx row)[j]?, answers[j]? = some stored) ↔
      ∀ j ∈ focused, row ≤ j → ∀ next ∈ answers[j + 1]?, answers[j]? = some next := by
  refine forall₂_congr fun j _ => ?_
  rw [List.getElem?_eraseIdx]
  split
  · next hlt =>
      refine ⟨fun _ hle => absurd hlt (Nat.not_lt.mpr hle), fun _ stored hstored => hstored⟩
  · next hge => exact ⟨fun htext _ => htext, fun htext => htext (Nat.not_lt.mp hge)⟩

/-- The keyboard comes up for a view. -/
theorem InSync.keptIff_beginEditing (h : s.InSync) {input : TextInput}
    (hstep : step s (.beginEditing input) = some t) : KeptIff s (.beginEditing input) t := by
  cases input with
  | questionTextView =>
      obtain rfl := Option.some.inj hstep
      rw [h.endEditing_eq]
      exact (h.focus_other (some .questionTextView) (by simp)).keptIff rfl trivial
  | explanationTextView =>
      obtain rfl := Option.some.inj hstep
      rw [h.endEditing_eq]
      exact (h.focus_other (some .explanationTextView) (by simp)).keptIff rfl trivial
  | answerTextField c =>
      simp only [step] at hstep
      split at hstep
      · next hmem =>
          obtain rfl := Option.some.inj hstep
          rw [h.endEditing_eq]
          have hfocus : InSync { s with firstResponder := some (.answerTextField c) } :=
            h.focus _ fun c' hc' => by
              obtain rfl := TextInput.answerTextField.inj (Option.some.inj hc')
              exact hmem
          rw [hfocus.sendAnswerText_eq_self hmem]
          exact hfocus.keptIff rfl trivial
      · cases hstep

/-- The answer of the row being edited is the text typed. -/
theorem InSync.keptIff_editText (h : s.InSync) {text : String}
    (hstep : step s (.editText text) = some t) : KeptIff s (.editText text) t := by
  simp only [step] at hstep
  split at hstep
  · cases hstep
  · next hfocus =>
      obtain rfl := Option.some.inj hstep
      refine h.keptIff_same rfl rfl rfl rfl ?_ trivial
      rw [answersAfter, focusedRow, hfocus]
  · next hfocus =>
      obtain rfl := Option.some.inj hstep
      refine h.keptIff_same rfl rfl rfl rfl ?_ trivial
      rw [answersAfter, focusedRow, hfocus]
  · next c hfocus =>
      obtain rfl := Option.some.inj hstep
      obtain ⟨row, hc⟩ := List.mem_iff_getElem?.mp (h.mapped.editing c hfocus)
      obtain ⟨hsync, hanswers⟩ := h.editCell hc text
      refine hsync.keptIff ?_ trivial
      rw [hanswers, answersAfter, h.mapped.focusedRow_eq hc hfocus]

/-- A new answer comes after the row being edited, so that the text of this row is sent to
where it belongs. -/
theorem InSync.keptIff_tapPlusButton (h : s.InSync)
    (hstep : step s (.tapPlusButton reuse) = some t) : KeptIff s (.tapPlusButton reuse) t := by
  refine h.keptIff_reload
    { s.nowSceneData with answerList := s.nowSceneData.answerList ++ [""] } hstep rfl ?_
  refine iff_of_true (fun row hrow stored hstored => ?_) trivial
  obtain ⟨c, hc, -⟩ := h.mapped.focusedRow_cell hrow
  obtain ⟨hlt, -⟩ := List.getElem?_eq_some_iff.mp (h.text_eq hc)
  rwa [List.getElem?_append_left hlt] at hstored

/-- The rows below the removed one move up, the edited one with them. Its field still sends
to the row it was mapped to, where the next answer stands now. -/
theorem InSync.keptIff_tapXButton (h : s.InSync)
    (hstep : step s (.tapXButton row reuse) = some t) : KeptIff s (.tapXButton row reuse) t := by
  simp only [step] at hstep
  split at hstep
  · cases hstep
  · next c hc =>
      obtain ⟨hsetup, hindex⟩ := h.mapped.cell row c hc
      obtain ⟨hlt, -⟩ := List.getElem?_eq_some_iff.mp (h.text_eq hc)
      rw [if_pos hsetup, hindex] at hstep
      simp only [actionProcess, tapXButton, Option.getD_some, if_pos hlt] at hstep
      exact h.keptIff_reload
        { s.nowSceneData with answerList := s.nowSceneData.answerList.eraseIdx row } hstep rfl
        (focused_eraseIdx_iff s.nowSceneData.answerList row s.focusedRow)

/-- A block of the main queue brings the text of a text view, which is no answer. -/
theorem InSync.keptIff_runBlock (h : s.InSync) (hstep : step s .runBlock = some t) :
    KeptIff s .runBlock t := by
  simp only [step] at hstep
  split at hstep
  · cases hstep
  · next view mainQueue _ =>
      cases view with
      | questionTextView =>
          obtain rfl := Option.some.inj hstep
          exact h.keptIff_same rfl rfl rfl rfl rfl trivial
      | explanationTextView =>
          obtain rfl := Option.some.inj hstep
          exact h.keptIff_same rfl rfl rfl rfl rfl trivial

/-- One case for each event: what holds of the rows after it is `KeepsFocusedRow`, and
the rows stay mapped in any case. -/
theorem InSync.keptIff_step (h : s.InSync) (hstep : step s e = some t) : KeptIff s e t := by
  cases e with
  | beginEditing input => exact h.keptIff_beginEditing hstep
  | endEditing =>
      obtain rfl := Option.some.inj hstep
      rw [h.endEditing_eq]
      exact (h.focus_other none (by simp)).keptIff rfl trivial
  | editText text => exact h.keptIff_editText hstep
  | processEditing view =>
      obtain rfl := Option.some.inj hstep
      exact h.keptIff_same rfl rfl rfl rfl rfl trivial
  | runBlock => exact h.keptIff_runBlock hstep
  | tapPlusButton reuse => exact h.keptIff_tapPlusButton hstep
  | tapXButton row reuse => exact h.keptIff_tapXButton hstep
  | tapCameraButton type =>
      obtain rfl := Option.some.inj hstep
      exact h.keptIff_same rfl rfl rfl rfl rfl trivial
  | pickImage img =>
      simp only [step] at hstep
      split at hstep
      · obtain rfl := Option.some.inj hstep
        unfold imagePickerSelected
        split <;> exact h.keptIff_same rfl rfl rfl rfl rfl trivial
      · cases hstep
  | tapCompleteButton =>
      obtain rfl := Option.some.inj hstep
      exact h.keptIff_same rfl rfl rfl rfl rfl trivial
  | viewWillAppear reuse => exact h.keptIff_reload s.mainRepository hstep rfl Iff.rfl

end OneStep

/-- The first load shows the stored answers. -/
theorem inSync_firstLoad {repository : DataForScene UIImage}
    (hload : step (opened repository) (.viewWillAppear reuse) = some s) : s.InSync := by
  have hopened : (opened repository).Mapped := by
    refine ⟨List.nodup_nil, fun row c hc => ?_, fun c hc => ?_⟩
    · cases hc
    · cases hc
  have hmapped : Mapped { opened repository with nowSceneData := repository } :=
    ⟨hopened.nodup, hopened.cell, hopened.editing⟩
  obtain ⟨hs, hshown, hkept⟩ := hmapped.acceptAnswers_spec rfl hload
  exact ⟨hs, hshown.trans (hkept.mpr fun _ hrow => by cases hrow).symm⟩

/-- **The answer rows** show the answers after every event, and each event changes them
as it should, exactly as long as every reload finds the text of the row being edited
in that row of the new list. -/
theorem answer_rows_kept_iff {repository : DataForScene UIImage} {reuse : List ℕ}
    {s : Editor UIImage} (hload : step (opened repository) (.viewWillAppear reuse) = some s)
    (es : List (EditorEvent UIImage)) :
    StepsMeet step RowsKept s es ↔ StepsMeet step KeepsFocusedRow s es :=
  stepsMeet_iff_of_kept (J := InSync) (fun _ _ _ hs hstep => (hs.keptIff_step hstep).2)
    (fun _ _ _ hs hstep hkept => ⟨(hs.keptIff_step hstep).1, hkept.shown⟩)
    (inSync_firstLoad hload)

/-- Two answers, the first one being edited. -/
theorem answer_rows_kept_two_answers :
    StepsMeet step RowsKept
        (mapRows { opened ({ answerList := ["a", "b"] } : DataForScene ℕ) with
          nowSceneData := { answerList := ["a", "b"] } } ["a", "b"] [0, 1])
        [.beginEditing (.answerTextField 0), .editText "c", .tapXButton 1 [1]] ↔
      StepsMeet step KeepsFocusedRow
        (mapRows { opened ({ answerList := ["a", "b"] } : DataForScene ℕ) with
          nowSceneData := { answerList := ["a", "b"] } } ["a", "b"] [0, 1])
        [.beginEditing (.answerTextField 0), .editText "c", .tapXButton 1 [1]] :=
  @answer_rows_kept_iff ℕ { answerList := ["a", "b"] } [0, 1] _ rfl _

/-- The X of the row being edited: its text takes the place of the answer below it. The
reload makes the field end its editing after the row is removed. -/
theorem x_tap_overwrites_next_answer :
    ¬ ∀ (repository : DataForScene ℕ) (reuse : List ℕ) (s : Editor ℕ)
      (es : List (EditorEvent ℕ)), step (opened repository) (.viewWillAppear reuse) = some s →
        StepsMeet step RowsKept s es := by
  intro h
  have hrun := h { answerList := ["a", "b"] } [0, 1] _
    [.beginEditing (.answerTextField 0), .tapXButton 0 [0]] rfl
  have hlast := ((hrun _ rfl).2 _ rfl).1.changed
  exact absurd hlast (by decide)

end Editor

end QuizEditor
