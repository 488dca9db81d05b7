import Pineone.Runs
import Mathlib.Data.List.Basic

/-!
# The quiz editor

The editor of one quiz: two text views for the question and the explanation, and a
table of answer rows whose cells are reused.  Every input is sent as an action to the
view model, which keeps it in `nowSceneData`; the complete button stores that in the
repository, and every appearance of the screen loads it from there again.

A change of the answer list reloads the table.  The reload makes the text field being
edited end editing, which sends its text with the row its cell still holds, and only
then maps the rows to cells again.

The texts of the two text views take a longer way.  `UITextView.rx.text` listens to the
view's text storage and observes it on `MainScheduler.asyncInstance`: an edit only posts
a block to the main queue, and the block reads the text when it runs.  Between the two
the user may tap, and the screen may appear.

* `ShowsDelivered.runBlocks`: once the posted blocks have run, the views show the texts
  of the scene data;
* `saves_what_it_shows_iff`: when the editor saves the texts it shows, with the texts
  that are still to be delivered and without.
-/

namespace QuizEditor

open Runs

inductive ImagePickerType
  | question
  | explanation
  | error
  deriving DecidableEq, Repr

structure DataForScene (UIImage : Type) where
  question : Option String := none
  explanation : Option String := none
  answerList : List String := []
  questionImageList : List UIImage := []
  explanationImageList : List UIImage := []
  deriving DecidableEq, Repr

/-- The two text views, with the texts whose changes `rx.text` observes. -/
inductive UITextView
  | questionTextView
  | explanationTextView
  deriving DecidableEq, Repr

/-- The text of the scene data that a view is for. -/
def DataForScene.text {UIImage : Type} (scene : DataForScene UIImage) :
    UITextView → Option String
  | .questionTextView => scene.question
  | .explanationTextView => scene.explanation

/-- A cell of the answer table: the row it was mapped to last, the text of its
field, and whether its actions reach the view. -/
structure MVVMTableCell where
  index : Option ℕ := none
  answerTextField : String := ""
  isSetupDI : Bool := false
  deriving DecidableEq, Repr

/-- What can be edited; the text field of an answer is that of a cell. -/
inductive TextInput
  | questionTextView
  | explanationTextView
  | answerTextField (cell : ℕ)
  deriving DecidableEq, Repr

/-- The text view as what can be edited. -/
def UITextView.input : UITextView → TextInput
  | .questionTextView => .questionTextView
  | .explanationTextView => .explanationTextView

/-- The screen with its view model and the repository behind it.  Cells have names,
`cellForRow` lists the cells of the rows.  `mainQueue` are the blocks that the edits of
the text views have posted, the oldest one first, each with the view it will read. -/
structure Editor (UIImage : Type) where
  mainRepository : DataForScene UIImage := {}
  nowSceneData : DataForScene UIImage := {}
  questionTextView : String := ""
  explanationTextView : String := ""
  cells : ℕ → MVVMTableCell := fun _ => {}
  cellForRow : List ℕ := []
  firstResponder : Option TextInput := none
  imagePickerType : Option ImagePickerType := none
  pickerPresented : Bool := false
  mainQueue : List UITextView := []

/-- What the user and the system do.  `reuse` are the cells the table takes for the
rows of a reload. -/
inductive EditorEvent (UIImage : Type)
  | beginEditing (input : TextInput)
  | endEditing
  /-- The text of the input being edited becomes `text`. -/
  | editText (text : String)
  /-- The text storage of a view processes an edit that leaves its text as it is, such as
  one of its attributes. -/
  | processEditing (view : UITextView)
  /-- The oldest block of the main queue runs. -/
  | runBlock
  | tapPlusButton (reuse : List ℕ)
  | tapXButton (row : ℕ) (reuse : List ℕ)
  | tapCameraButton (type : ImagePickerType)
  | pickImage (img : UIImage)
  | tapCompleteButton
  | viewWillAppear (reuse : List ℕ)

inductive Action (UIImage : Type)
  | tapPlusButton
  | tapCompleteButton
  | imagePickerSelect (img : UIImage) (type : ImagePickerType)
  | questionTextChange (text : String)
  | explanationTextChange (text : String)
  | answerTextChange (text : String) (index : ℕ)
  | tapXButton (index : ℕ)
  | tapCameraButton (type : ImagePickerType)
  | dataLoadTrigger

/-- The action a text view sends for a text. -/
def UITextView.textChange {UIImage : Type} (text : String) : UITextView → Action UIImage
  | .questionTextView => .questionTextChange text
  | .explanationTextView => .explanationTextChange text

def MVVMTableCell.setupDI (cell : MVVMTableCell) : MVVMTableCell :=
  { cell with isSetupDI := true }

def MVVMTableCell.dataMapping (cell : MVVMTableCell) (text : String) (index : ℕ) :
    MVVMTableCell :=
  { cell with answerTextField := text, index := some index }

namespace Editor

variable {UIImage : Type}

/-- The text a view shows. -/
def text (s : Editor UIImage) : UITextView → String
  | .questionTextView => s.questionTextView
  | .explanationTextView => s.explanationTextView

/-- The texts of the rows, as the table shows them. -/
def shownAnswers (s : Editor UIImage) : List String :=
  s.cellForRow.map fun c => (s.cells c).answerTextField

def questionTextChange (s : Editor UIImage) (text : String) : Editor UIImage :=
  { s with nowSceneData := { s.nowSceneData with question := some text } }

def explanationTextChange (s : Editor UIImage) (text : String) : Editor UIImage :=
  { s with nowSceneData := { s.nowSceneData with explanation := some text } }

def setAnswerList (s : Editor UIImage) (answerList : List String) : Editor UIImage :=
  { s with nowSceneData := { s.nowSceneData with answerList := answerList } }

def answerTextChange (s : Editor UIImage) (text : String) (index : ℕ) : Editor UIImage :=
  if index < s.nowSceneData.answerList.length then
    s.setAnswerList (s.nowSceneData.answerList.set index text)
  else s

/-- An editing event of a cell's text field sends its text, once the cell is set up. -/
def sendAnswerText (s : Editor UIImage) (c : ℕ) : Editor UIImage :=
  if (s.cells c).isSetupDI then
    s.answerTextChange (s.cells c).answerTextField ((s.cells c).index.getD 0)
  else s

/-- The input being edited ends editing. -/
def endEditing (s : Editor UIImage) : Editor UIImage :=
  match s.firstResponder with
  | some (.answerTextField c) => { s.sendAnswerText c with firstResponder := none }
  | _ => { s with firstResponder := none }

/-- The rows are mapped to the cells `reuse`, in this order. -/
def mapRows (s : Editor UIImage) (answerList : List String) (reuse : List ℕ) :
    Editor UIImage :=
  { s with
    cellForRow := reuse
    cells := fun c =>
      if c ∈ reuse then
        (s.cells c).setupDI.dataMapping (answerList.getD (reuse.idxOf c) "") (reuse.idxOf c)
      else s.cells c }

/-- A field of the table that is being edited ends editing before the reload. -/
def endTableEditing (s : Editor UIImage) : Editor UIImage :=
  match s.firstResponder with
  | some (.answerTextField _) => s.endEditing
  | _ => s

/-- `answerRelay.accept(answerList)`: the table reloads, with one cell for each row. -/
def acceptAnswers (s : Editor UIImage) (answerList : List String) (reuse : List ℕ) :
    Option (Editor UIImage) :=
  if reuse.Nodup ∧ reuse.length = answerList.length then
    some (s.endTableEditing.mapRows answerList reuse)
  else none

def tapPlusButton (s : Editor UIImage) (reuse : List ℕ) : Option (Editor UIImage) :=
  let answerList := s.nowSceneData.answerList ++ [""]
  (s.setAnswerList answerList).acceptAnswers answerList reuse

def tapXButton (s : Editor UIImage) (index : ℕ) (reuse : List ℕ) : Option (Editor UIImage) :=
  if index < s.nowSceneData.answerList.length then
    let answerList := s.nowSceneData.answerList.eraseIdx index
    (s.setAnswerList answerList).acceptAnswers answerList reuse
  else some s

def tapCompleteButton (s : Editor UIImage) : Editor UIImage :=
  { s with mainRepository := s.nowSceneData }

def imagePickerSelected (s : Editor UIImage) (img : UIImage) (type : ImagePickerType) :
    Editor UIImage :=
  match type with
  | .question => { s with nowSceneData :=
      { s.nowSceneData with questionImageList := s.nowSceneData.questionImageList ++ [img] } }
  | .explanation => { s with nowSceneData :=
      { s.nowSceneData with
        explanationImageList := s.nowSceneData.explanationImageList ++ [img] } }
  | .error => s

/-- The view controller's answer to `tapCameraButton`. -/
def presentPicker (s : Editor UIImage) (kind : ImagePickerType) : Editor UIImage :=
  { s with
    imagePickerType := if kind = .error then s.imagePickerType else some kind
    pickerPresented := true }

def loadData (s : Editor UIImage) (reuse : List ℕ) : Option (Editor UIImage) :=
  acceptAnswers { s with nowSceneData := s.mainRepository } s.mainRepository.answerList reuse

def actionProcess (s : Editor UIImage) (reuse : List ℕ) :
    Action UIImage → Option (Editor UIImage)
  | .tapPlusButton => s.tapPlusButton reuse
  | .tapCompleteButton => some s.tapCompleteButton
  | .imagePickerSelect img type => some (s.imagePickerSelected img type)
  | .questionTextChange text => some (s.questionTextChange text)
  | .explanationTextChange text => some (s.explanationTextChange text)
  | .answerTextChange text index => some (s.answerTextChange text index)
  | .tapXButton index => s.tapXButton index reuse
  | .tapCameraButton type => some (s.presentPicker type)
  | .dataLoadTrigger => s.loadData reuse

/-- `didProcessEditing` of a view's text storage posts a block to the main queue. -/
def didProcessEditing (s : Editor UIImage) (view : UITextView) : Editor UIImage :=
  { s with mainQueue := s.mainQueue ++ [view] }

/-- An event is taken to its end, with the actions it sends and the reload they cause.
Only the input being edited is edited, only a row of the table is tapped, and an image
is picked from a presented picker.  A block sends the text its view shows when it runs. -/
def step (s : Editor UIImage) : EditorEvent UIImage → Option (Editor UIImage)
  | .beginEditing (.answerTextField c) =>
      if c ∈ s.cellForRow then
        some (sendAnswerText { s.endEditing with firstResponder := some (.answerTextField c) } c)
      else none
  | .beginEditing input => some { s.endEditing with firstResponder := some input }
  | .endEditing => some s.endEditing
  | .editText text =>
      match s.firstResponder with
      | none => none
      | some .questionTextView =>
          some (didProcessEditing { s with questionTextView := text } .questionTextView)
      | some .explanationTextView =>
          some (didProcessEditing { s with explanationTextView := text } .explanationTextView)
      | some (.answerTextField c) =>
          some (sendAnswerText { s with
            cells := Function.update s.cells c
              { s.cells c with answerTextField := text } } c)
  | .processEditing view => some (s.didProcessEditing view)
  | .runBlock =>
      match s.mainQueue with
      | [] => none
      | view :: mainQueue =>
          actionProcess { s with mainQueue := mainQueue } [] (view.textChange (s.text view))
  | .tapPlusButton reuse => s.actionProcess reuse .tapPlusButton
  | .tapXButton row reuse =>
      match s.cellForRow[row]? with
      | none => none
      | some c =>
          if (s.cells c).isSetupDI then
            s.actionProcess reuse (.tapXButton ((s.cells c).index.getD 0))
          else some s
  | .tapCameraButton type => s.actionProcess [] (.tapCameraButton type)
  | .pickImage img =>
      if s.pickerPresented then
        actionProcess { s with pickerPresented := false } []
          (.imagePickerSelect img (s.imagePickerType.getD .question))
      else none
  | .tapCompleteButton => s.actionProcess [] .tapCompleteButton
  | .viewWillAppear reuse => s.actionProcess reuse .dataLoadTrigger

/-- The editor before its first appearance.  The text views start with the texts in the
repository; these are set, and sent once on subscription, before anything listens. -/
def opened (repository : DataForScene UIImage) : Editor UIImage :=
  { mainRepository := repository
    questionTextView := repository.question.getD ""
    explanationTextView := repository.explanation.getD "" }

/-- The text views show the texts of `scene`; a missing text counts as empty. -/
def ShowsTexts (s : Editor UIImage) (scene : DataForScene UIImage) : Prop :=
  ∀ view, s.text view = (scene.text view).getD ""

/-- The shown texts are those of the scene data, whatever is still to be delivered. -/
def ShowsSceneData (s : Editor UIImage) : Prop :=
  s.ShowsTexts s.nowSceneData

/-- A view whose edits are all delivered shows the text of the scene data. -/
def ShowsDelivered (s : Editor UIImage) : Prop :=
  ∀ view, view ∉ s.mainQueue → s.text view = (s.nowSceneData.text view).getD ""

/-- The step leads to delivered texts that are those of the scene data, and a tap of the
complete button stores the texts shown. -/
structure SavesWhatItShows (s : Editor UIImage) (e : EditorEvent UIImage)
    (t : Editor UIImage) : Prop where
  shown : t.ShowsDelivered
  stored : e = .tapCompleteButton → t.ShowsTexts t.mainRepository

/-- An appearance of the screen finds the delivered texts in the repository, and a tap of
the complete button finds no block on its way with a text that is new to the scene data. -/
def FindsShownTexts (s : Editor UIImage) (e : EditorEvent UIImage) (_ : Editor UIImage) :
    Prop :=
  match e with
  | .viewWillAppear _ =>
      ∀ view, view ∉ s.mainQueue → s.text view = (s.mainRepository.text view).getD ""
  | .tapCompleteButton =>
      ∀ view ∈ s.mainQueue, s.text view = (s.nowSceneData.text view).getD ""
  | _ => True

/-- No edit of a text view changes its text, and an appearance of the screen finds the
shown texts in the repository. -/
def LeavesShownTexts (s : Editor UIImage) (e : EditorEvent UIImage) (_ : Editor UIImage) :
    Prop :=
  match e with
  | .editText text => ∀ view : UITextView, s.firstResponder = some view.input →
      text = s.text view
  | .viewWillAppear _ => s.ShowsTexts s.mainRepository
  | _ => True

section Texts

variable {s t u : Editor UIImage} {e : EditorEvent UIImage} {reuse : List ℕ}
  {view : UITextView}

/-- The texts of the views, their posted blocks and the texts of the scene data are the
same in both states. -/
structure TextsKept (s t : Editor UIImage) : Prop where
  text : ∀ view, t.text view = s.text view
  scene : ∀ view, t.nowSceneData.text view = s.nowSceneData.text view
  mainQueue : t.mainQueue = s.mainQueue

theorem TextsKept.refl (s : Editor UIImage) : TextsKept s s :=
  ⟨fun _ => rfl, fun _ => rfl, rfl⟩

theorem TextsKept.trans (hst : TextsKept s t) (htu : TextsKept t u) : TextsKept s u :=
  ⟨fun view => (htu.text view).trans (hst.text view),
    fun view => (htu.scene view).trans (hst.scene view), htu.mainQueue.trans hst.mainQueue⟩

/-- Five fields decide: the two views, the two texts of the scene data and the posted
blocks.  Whatever else a step writes is of no concern here. -/
theorem TextsKept.of_fields (hquestionView : t.questionTextView = s.questionTextView)
    (hexplanationView : t.explanationTextView = s.explanationTextView)
    (hquestion : t.nowSceneData.question = s.nowSceneData.question)
    (hexplanation : t.nowSceneData.explanation = s.nowSceneData.explanation)
    (hqueue : t.mainQueue = s.mainQueue) : TextsKept s t where
  text
    | .questionTextView => hquestionView
    | .explanationTextView => hexplanationView
  scene
    | .questionTextView => hquestion
    | .explanationTextView => hexplanation
  mainQueue := hqueue

/-- What holds of the texts goes over to every state with the same texts and the same
posted blocks. -/
theorem TextsKept.showsDelivered (hkept : TextsKept s t) (h : s.ShowsDelivered) :
    t.ShowsDelivered := by
  intro view hview
  rw [hkept.mainQueue] at hview
  rw [hkept.text, hkept.scene, h view hview]

/-- The same without a look at the blocks: the views of the later state show its scene
data where those of the earlier one did. -/
theorem TextsKept.showsSceneData (hkept : TextsKept s t) (h : s.ShowsSceneData) :
    t.ShowsSceneData := by
  intro view
  rw [hkept.text, hkept.scene, h view]

/-- The answers are no texts of the views: a new list leaves all of these alone. -/
theorem textsKept_setAnswerList (s : Editor UIImage) (answerList : List String) :
    TextsKept s (s.setAnswerList answerList) :=
  .of_fields rfl rfl rfl rfl rfl

/-- Moving the focus changes no text; the blocks of the view that had it stay posted. -/
theorem textsKept_focus (s : Editor UIImage) (input : Option TextInput) :
    TextsKept s { s with firstResponder := input } :=
  .of_fields rfl rfl rfl rfl rfl

/-- A cell of the table sends the text of an answer, to whatever row, or nothing if it
is not set up. -/
theorem textsKept_sendAnswerText (s : Editor UIImage) (c : ℕ) :
    TextsKept s (s.sendAnswerText c) := by
  unfold sendAnswerText answerTextChange
  split
  · split
    · exact textsKept_setAnswerList s _
    · exact .refl s
  · exact .refl s

/-- Only the text field of an answer sends its text at the end of editing; the text views
have sent theirs with the edits. -/
theorem textsKept_endEditing (s : Editor UIImage) : TextsKept s s.endEditing := by
  unfold endEditing
  split
  · next c _ => exact (textsKept_sendAnswerText s c).trans (textsKept_focus _ none)
  · exact textsKept_focus s none

/-- What a reload does: it takes a cell for each row, ends the editing of an answer and
then maps the rows. -/
theorem acceptAnswers_cases {answerList : List String}
    (h : s.acceptAnswers answerList reuse = some t) :
    (reuse.Nodup ∧ reuse.length = answerList.length) ∧
      t = s.endTableEditing.mapRows answerList reuse := by
  unfold acceptAnswers at h
  split at h
  · next hreuse => exact ⟨hreuse, (Option.some.inj h).symm⟩
  · cases h

/-- A reload of the table writes into cells and answers only. -/
theorem textsKept_acceptAnswers {answerList : List String}
    (h : s.acceptAnswers answerList reuse = some t) : TextsKept s t := by
  obtain ⟨-, rfl⟩ := acceptAnswers_cases h
  have hend : TextsKept s s.endTableEditing := by
    unfold endTableEditing
    split
    · exact textsKept_endEditing s
    · exact .refl s
  exact hend.trans (.of_fields rfl rfl rfl rfl rfl)

/-- A picked image goes into one of the two image lists, or nowhere. The texts of the scene
data and of the views are other fields. -/
theorem textsKept_imagePickerSelected (s : Editor UIImage) (img : UIImage)
    (type : ImagePickerType) : TextsKept s (s.imagePickerSelected img type) := by
  cases type with
  | question => exact .of_fields rfl rfl rfl rfl rfl
  | explanation => exact .of_fields rfl rfl rfl rfl rfl
  | error => exact .refl s

/-- The X of a row takes an answer out of the list, if the row is there, and reloads. The
reload may end the editing of a row, which sends an answer and no text of a view. -/
theorem textsKept_tapXButton {index : ℕ} (h : s.tapXButton index reuse = some t) :
    TextsKept s t := by
  unfold tapXButton at h
  split at h
  · exact (textsKept_setAnswerList s _).trans (textsKept_acceptAnswers h)
  · obtain rfl := Option.some.inj h
    exact .refl s

/-- **A load** puts the texts of the repository into the scene data.  It writes nothing
into the views and takes back none of their blocks. -/
theorem loadData_texts (h : s.loadData reuse = some t) :
    (∀ view, t.text view = s.text view) ∧
      (∀ view, t.nowSceneData.text view = s.mainRepository.text view) ∧
      t.mainQueue = s.mainQueue := by
  have hkept := textsKept_acceptAnswers h
  refine ⟨fun view => ?_, hkept.scene, hkept.mainQueue⟩
  rw [hkept.text view]
  cases view <;> rfl

/-- The focus goes to a view or to the field of a row, which sends its text at once: that is
an answer, and the text views send theirs by blocks only. -/
theorem textsKept_beginEditing {input : TextInput} (hstep : step s (.beginEditing input) = some t) :
    TextsKept s t := by
  have hend := textsKept_endEditing s
  cases input with
  | questionTextView =>
      obtain rfl := Option.some.inj hstep
      exact hend.trans (textsKept_focus _ _)
  | explanationTextView =>
      obtain rfl := Option.some.inj hstep
      exact hend.trans (textsKept_focus _ _)
  | answerTextField c =>
      simp only [step] at hstep
      split at hstep
      · obtain rfl := Option.some.inj hstep
        have hbegin := hend.trans (textsKept_focus s.endEditing (some (.answerTextField c)))
        exact hbegin.trans (textsKept_sendAnswerText _ c)
      · cases hstep

/-- **An edit** either goes to a text view, whose text changes and which posts a block,
or it leaves the texts of the views alone. -/
theorem editText_cases {text : String} (hstep : step s (.editText text) = some t) :
    (∃ view : UITextView, s.firstResponder = some view.input ∧ t.text view = text ∧
      (∀ other, other ≠ view → t.text other = s.text other) ∧
      t.nowSceneData = s.nowSceneData ∧ t.mainQueue = s.mainQueue ++ [view]) ∨
    ((∀ view : UITextView, s.firstResponder ≠ some view.input) ∧ TextsKept s t) := by
  simp only [step] at hstep
  split at hstep
  · cases hstep
  · next hfocus =>
      obtain rfl := Option.some.inj hstep
      refine .inl ⟨.questionTextView, hfocus, rfl, fun other hother => ?_, rfl, rfl⟩
      cases other with
      | questionTextView => exact absurd rfl hother
      | explanationTextView => rfl
  · next hfocus =>
      obtain rfl := Option.some.inj hstep
      refine .inl ⟨.explanationTextView, hfocus, rfl, fun other hother => ?_, rfl, rfl⟩
      cases other with
      | questionTextView => rfl
      | explanationTextView => exact absurd rfl hother
  · next c hfocus =>
      obtain rfl := Option.some.inj hstep
      have htyped : TextsKept s { s with
          cells := Function.update s.cells c
            { s.cells c with answerTextField := text } } :=
        .of_fields rfl rfl rfl rfl rfl
      refine .inr ⟨fun view => ?_, htyped.trans (textsKept_sendAnswerText _ c)⟩
      rw [hfocus]
      cases view <;> simp [UITextView.input]

/-- **A block** sends the text its view shows now.  With it the scene data have that text,
however old the edit is that posted the block. -/
theorem runBlock_cases (hstep : step s .runBlock = some t) :
    ∃ view, s.mainQueue = view :: t.mainQueue ∧ (∀ other, t.text other = s.text other) ∧
      t.nowSceneData.text view = some (s.text view) ∧
      (∀ other, other ≠ view → t.nowSceneData.text other = s.nowSceneData.text other) := by
  simp only [step] at hstep
  split at hstep
  · cases hstep
  · next view mainQueue hqueue =>
      refine ⟨view, ?_⟩
      rw [hqueue]
      cases view with
      | questionTextView =>
          obtain rfl := Option.some.inj hstep
          refine ⟨rfl, fun other => by cases other <;> rfl, rfl, fun other hother => ?_⟩
          cases other with
          | questionTextView => exact absurd rfl hother
          | explanationTextView => rfl
      | explanationTextView =>
          obtain rfl := Option.some.inj hstep
          refine ⟨rfl, fun other => by cases other <;> rfl, rfl, fun other hother => ?_⟩
          cases other with
          | questionTextView => rfl
          | explanationTextView => exact absurd rfl hother

/-- A tap on the X of a row sends the row its cell holds; it is about an answer in any case. -/
theorem textsKept_tapXButton_step {row : ℕ} (hstep : step s (.tapXButton row reuse) = some t) :
    TextsKept s t := by
  simp only [step] at hstep
  split at hstep
  · cases hstep
  · split at hstep
    · exact textsKept_tapXButton hstep
    · obtain rfl := Option.some.inj hstep
      exact .refl s

/-- The picker goes and the image is added. -/
theorem textsKept_pickImage {img : UIImage} (hstep : step s (.pickImage img) = some t) :
    TextsKept s t := by
  simp only [step] at hstep
  split at hstep
  · obtain rfl := Option.some.inj hstep
    have hdismiss : TextsKept s { s with pickerPresented := false } :=
      .of_fields rfl rfl rfl rfl rfl
    exact hdismiss.trans (textsKept_imagePickerSelected _ img _)
  · cases hstep

/-- The events that can change a text of the views or of the scene data, or post a block. -/
def MovesTexts : EditorEvent UIImage → Prop
  | .editText _ => True
  | .processEditing _ => True
  | .runBlock => True
  | .viewWillAppear _ => True
  | _ => False

/-- All other events leave the texts and the posted blocks as they are, the complete
button among them: it writes into the repository only. -/
theorem textsKept_step (hmoves : ¬ MovesTexts e) (hstep : step s e = some t) :
    TextsKept s t := by
  cases e with
  | beginEditing input => exact textsKept_beginEditing hstep
  | endEditing =>
      obtain rfl := Option.some.inj hstep
      exact textsKept_endEditing s
  | tapPlusButton reuse =>
      have hlist := textsKept_setAnswerList s (s.nowSceneData.answerList ++ [""])
      exact hlist.trans (textsKept_acceptAnswers hstep)
  | tapXButton row reuse => exact textsKept_tapXButton_step hstep
  | tapCameraButton type =>
      obtain rfl := Option.some.inj hstep
      exact .of_fields rfl rfl rfl rfl rfl
  | pickImage img => exact textsKept_pickImage hstep
  | tapCompleteButton =>
      obtain rfl := Option.some.inj hstep
      exact .of_fields rfl rfl rfl rfl rfl
  | editText _ => exact absurd trivial hmoves
  | processEditing _ => exact absurd trivial hmoves
  | runBlock => exact absurd trivial hmoves
  | viewWillAppear _ => exact absurd trivial hmoves

/-- The view of an edit has a block on its way; the other one shows what it showed. So no
view is added to those whose text has to be the one of the scene data. -/
theorem ShowsDelivered.editText (h : s.ShowsDelivered) {text : String}
    (hstep : step s (.editText text) = some t) : t.ShowsDelivered := by
  obtain ⟨edited, -, -, hothers, hscene, hqueue⟩ | ⟨-, hkept⟩ := editText_cases hstep
  · intro view hview
    rw [hqueue, List.mem_append, List.mem_singleton, not_or] at hview
    rw [hothers view hview.2, hscene, h view hview.1]
  · exact hkept.showsDelivered h

/-- A further block of a view asks less of the views: what it shows is on its way, so it need
not be in the scene data yet. -/
theorem ShowsDelivered.processEditing (h : s.ShowsDelivered) (edited : UITextView) :
    (s.didProcessEditing edited).ShowsDelivered := by
  intro view hview
  have hbefore : view ∉ s.mainQueue := fun hmem => hview (List.mem_append_left _ hmem)
  have hshown := h view hbefore
  cases view <;> exact hshown

/-- A block delivers the text of its view, whether or not it is the last one. It reads the
view when it runs, so an earlier block already delivers the text of a later edit. -/
theorem ShowsDelivered.runBlock (h : s.ShowsDelivered) (hstep : step s .runBlock = some t) :
    t.ShowsDelivered := by
  obtain ⟨sent, hqueue, htext, hsent, hothers⟩ := runBlock_cases hstep
  intro view hview
  by_cases heq : view = sent
  · subst heq
    rw [hsent, Option.getD_some, htext]
  · have hbefore : view ∉ s.mainQueue := by
      rw [hqueue, List.mem_cons, not_or]
      exact ⟨heq, hview⟩
    rw [htext, hothers view heq, h view hbefore]

/-- **Delivery.**  From a state whose delivered texts are shown, the posted blocks can all
run, one after the other, and then both views show the texts of the scene data. -/
theorem ShowsDelivered.runBlocks (h : s.ShowsDelivered) :
    ∃ t, runFrom step s (List.replicate s.mainQueue.length .runBlock) = some t ∧
      t.mainQueue = [] ∧ t.ShowsSceneData := by
  induction hn : s.mainQueue.length generalizing s with
  | zero =>
      have hempty := List.length_eq_zero_iff.mp hn
      exact ⟨s, rfl, hempty, fun view => h view (hempty ▸ List.not_mem_nil)⟩
  | succ n ih =>
      obtain ⟨view, rest, hqueue⟩ := List.exists_cons_of_length_eq_add_one hn
      obtain ⟨t, hstep⟩ : ∃ t, step s .runBlock = some t := by
        simp only [step, hqueue]
        cases view <;> exact ⟨_, rfl⟩
      obtain ⟨sent, hcons, -⟩ := runBlock_cases hstep
      have hlength : t.mainQueue.length = n := by
        rw [hcons, List.length_cons] at hn
        exact Nat.succ.inj hn
      obtain ⟨u, hrun, hdelivered⟩ := ih (h.runBlock hstep) hlength
      refine ⟨u, ?_, hdelivered⟩
      rw [List.replicate_succ, runFrom, hstep, Option.bind_some, hrun]

/-- The complete button stores the texts of the scene data, which are those of the views
up to the blocks on their way. -/
theorem ShowsDelivered.stored_iff (h : s.ShowsDelivered) :
    s.tapCompleteButton.ShowsTexts s.tapCompleteButton.mainRepository ↔
      ∀ view ∈ s.mainQueue, s.text view = (s.nowSceneData.text view).getD "" := by
  have htext : ∀ view, s.tapCompleteButton.text view = s.text view :=
    fun view => by cases view <;> rfl
  constructor
  · intro hstored view _
    rw [← htext, hstored view]
    rfl
  · intro hposted view
    rw [htext]
    by_cases hview : view ∈ s.mainQueue
    · exact hposted view hview
    · exact h view hview

/-- After a load the delivered texts are those of the scene data exactly where they are
those of the repository. -/
theorem showsDelivered_loadData (hload : s.loadData reuse = some t) :
    t.ShowsDelivered ↔
      ∀ view, view ∉ s.mainQueue → s.text view = (s.mainRepository.text view).getD "" := by
  obtain ⟨htext, hscene, hqueue⟩ := loadData_texts hload
  unfold ShowsDelivered
  simp only [htext, hscene, hqueue]

/-- The same for all texts, delivered or not. -/
theorem showsSceneData_loadData (hload : s.loadData reuse = some t) :
    t.ShowsSceneData ↔ s.ShowsTexts s.mainRepository := by
  obtain ⟨htext, hscene, -⟩ := loadData_texts hload
  unfold ShowsSceneData ShowsTexts
  simp only [htext, hscene]

/-- One case for each event.  Only a load can part a delivered text from the scene data,
and only a tap of the complete button can store a text that is not shown. -/
theorem savesWhatItShows_step_iff (h : s.ShowsDelivered) (hstep : step s e = some t) :
    SavesWhatItShows s e t ↔ FindsShownTexts s e t := by
  have hshown : t.ShowsDelivered → e ≠ .tapCompleteButton → FindsShownTexts s e t →
      (SavesWhatItShows s e t ↔ FindsShownTexts s e t) := fun ht hcomplete hfinds =>
    iff_of_true ⟨ht, fun hevent => absurd hevent hcomplete⟩ hfinds
  have hkept : ¬ MovesTexts e → t.ShowsDelivered :=
    fun hmoves => (textsKept_step hmoves hstep).showsDelivered h
  cases e with
  | beginEditing input => exact hshown (hkept id) nofun trivial
  | endEditing => exact hshown (hkept id) nofun trivial
  | editText text => exact hshown (h.editText hstep) nofun trivial
  | processEditing view =>
      obtain rfl := Option.some.inj hstep
      exact hshown (h.processEditing view) nofun trivial
  | runBlock => exact hshown (h.runBlock hstep) nofun trivial
  | tapPlusButton reuse => exact hshown (hkept id) nofun trivial
  | tapXButton row reuse => exact hshown (hkept id) nofun trivial
  | tapCameraButton type => exact hshown (hkept id) nofun trivial
  | pickImage img => exact hshown (hkept id) nofun trivial
  | tapCompleteButton =>
      have ht := hkept id
      obtain rfl := Option.some.inj hstep
      exact ⟨fun hsaves => h.stored_iff.mp (hsaves.stored rfl),
        fun hfinds => ⟨ht, fun _ => h.stored_iff.mpr hfinds⟩⟩
  | viewWillAppear reuse =>
      have hload := showsDelivered_loadData hstep
      exact ⟨fun hsaves => hload.mp hsaves.shown, fun hfinds => ⟨hload.mpr hfinds, nofun⟩⟩

/-- A text that is typed parts the view from the scene data until its block has run,
unless it is the text that was there. -/
theorem showsSceneData_editText (h : s.ShowsSceneData) {text : String}
    (hstep : step s (.editText text) = some t) :
    t.ShowsSceneData ↔
      ∀ view : UITextView, s.firstResponder = some view.input → text = s.text view := by
  obtain ⟨edited, hfocus, htext, hothers, hscene, -⟩ | ⟨hfocus, hkept⟩ := editText_cases hstep
  · have hinput : ∀ view : UITextView, s.firstResponder = some view.input → view = edited := by
      intro view hview
      have hsame := Option.some.inj (hview.symm.trans hfocus)
      cases view <;> cases edited <;> first | rfl | cases hsame
    constructor
    · intro ht view hview
      obtain rfl := hinput view hview
      rw [h view, ← hscene, ← ht view, htext]
    · intro hsame view
      rw [hscene]
      by_cases heq : view = edited
      · subst heq
        rw [htext, hsame view hfocus, h view]
      · rw [hothers view heq, h view]
  · exact iff_of_true (hkept.showsSceneData h) fun view hview => absurd hview (hfocus view)

/-- A block of a view that shows the text of the scene data sends what is there, and so
changes nothing. -/
theorem ShowsSceneData.runBlock (h : s.ShowsSceneData) (hstep : step s .runBlock = some t) :
    t.ShowsSceneData := by
  obtain ⟨sent, -, htext, hsent, hothers⟩ := runBlock_cases hstep
  intro view
  by_cases heq : view = sent
  · subst heq
    rw [hsent, Option.getD_some, htext]
  · rw [htext, hothers view heq, h view]

/-- One case for each event, without a look at the blocks: an edit parts the texts at
once, a load where the repository has another text. -/
theorem showsSceneData_step_iff (h : s.ShowsSceneData) (hstep : step s e = some t) :
    t.ShowsSceneData ↔ LeavesShownTexts s e t := by
  have hshown : t.ShowsSceneData → LeavesShownTexts s e t →
      (t.ShowsSceneData ↔ LeavesShownTexts s e t) := iff_of_true
  have hkept : ¬ MovesTexts e → t.ShowsSceneData :=
    fun hmoves => (textsKept_step hmoves hstep).showsSceneData h
  cases e with
  | beginEditing input => exact hshown (hkept id) trivial
  | endEditing => exact hshown (hkept id) trivial
  | editText text => exact showsSceneData_editText h hstep
  | processEditing edited =>
      obtain rfl := Option.some.inj hstep
      refine hshown (fun view => ?_) trivial
      have hview := h view
      cases view <;> exact hview
  | runBlock => exact hshown (h.runBlock hstep) trivial
  | tapPlusButton reuse => exact hshown (hkept id) trivial
  | tapXButton row reuse => exact hshown (hkept id) trivial
  | tapCameraButton type => exact hshown (hkept id) trivial
  | pickImage img => exact hshown (hkept id) trivial
  | tapCompleteButton => exact hshown (hkept id) trivial
  | viewWillAppear reuse => exact showsSceneData_loadData hstep

/-- The first load finds the texts that the views were filled with. -/
theorem showsTexts_opened (repository : DataForScene UIImage) :
    (opened repository).ShowsTexts repository := by
  intro view
  cases view <;> rfl

end Texts

/-- **The editor saves what it shows**, for every run after the first load.

With the texts on their way taken into account: the delivered texts are those of the
scene data and every tap of the complete button stores the texts shown, exactly as long as
every further appearance finds the delivered texts in the repository and no complete tap
comes before a block with a new text.

Without: the shown texts are those of the scene data in every state exactly as long as
no text is typed and every further appearance finds the shown texts in the repository. -/
theorem saves_what_it_shows_iff {repository : DataForScene UIImage} {reuse : List ℕ}
    {s : Editor UIImage} (hload : step (opened repository) (.viewWillAppear reuse) = some s)
    (es : List (EditorEvent UIImage)) :
    (StepsMeet step SavesWhatItShows s es ↔ StepsMeet step FindsShownTexts s es) ∧
      (Throughout step ShowsSceneData s es ↔ StepsMeet step LeavesShownTexts s es) := by
  have hopened := showsTexts_opened repository
  constructor
  · have hs : s.ShowsDelivered :=
      (showsDelivered_loadData hload).mpr fun view _ => hopened view
    exact stepsMeet_iff_of_kept (J := ShowsDelivered)
      (fun _ _ _ h hstep => savesWhatItShows_step_iff h hstep)
      (fun _ _ _ _ _ hsaves => hsaves.shown) hs
  · have hs : s.ShowsSceneData := (showsSceneData_loadData hload).mpr hopened
    exact throughout_iff_stepsMeet (J := fun _ => True) (fun _ _ _ _ _ => trivial)
      (fun _ _ _ _ h hstep => showsSceneData_step_iff h hstep) trivial hs

/-- A new quiz with nothing stored: the question is typed, its block runs, it is stored
and found again. -/
theorem saves_what_it_shows_new_quiz :
    (StepsMeet step SavesWhatItShows (mapRows (opened ({} : DataForScene ℕ)) [] [])
        [.beginEditing .questionTextView, .editText "1+1", .runBlock, .tapCompleteButton,
          .viewWillAppear []] ↔
      StepsMeet step FindsShownTexts (mapRows (opened ({} : DataForScene ℕ)) [] [])
        [.beginEditing .questionTextView, .editText "1+1", .runBlock, .tapCompleteButton,
          .viewWillAppear []]) ∧
    (Throughout step ShowsSceneData (mapRows (opened ({} : DataForScene ℕ)) [] [])
        [.beginEditing .questionTextView, .editText "1+1", .runBlock, .tapCompleteButton,
          .viewWillAppear []] ↔
      StepsMeet step LeavesShownTexts (mapRows (opened ({} : DataForScene ℕ)) [] [])
        [.beginEditing .questionTextView, .editText "1+1", .runBlock, .tapCompleteButton,
          .viewWillAppear []]) :=
  @saves_what_it_shows_iff ℕ {} [] _ rfl _

/-- A question that was typed and delivered but not yet stored is lost by the next
appearance, while the view goes on showing it; no block is on its way then. -/
theorem reappearance_loses_question :
    ¬ ∀ (repository : DataForScene ℕ) (reuse : List ℕ) (s : Editor ℕ)
      (es : List (EditorEvent ℕ)), step (opened repository) (.viewWillAppear reuse) = some s →
        StepsMeet step SavesWhatItShows s es := by
  intro hsaves
  have hrun := hsaves {} [] _
    [.beginEditing .questionTextView, .editText "1+1", .runBlock, .viewWillAppear []] rfl
  have hlast := ((((hrun _ rfl).2 _ rfl).2 _ rfl).2 _ rfl).1.shown
  exact absurd (hlast .questionTextView List.not_mem_nil) (by decide)

end Editor

end QuizEditor
