import Pineone.Runs
import Mathlib.Algebra.Order.Ring.Rat

/-!
# The follow button and its screen

`FollowButton` goes from not following to following and back through a loading
state that lasts until its owner calls `finishAnimating`.  Its width shrinks and
expands in animations whose completions lock and unlock the button; without a
measured width there is neither an animation nor a completion.
`ProfileViewController` answers each press from a timer.

* `shown_eq_followed`: what the button shows depends on the presses and the answers
  alone, whatever layout, animations and other touches come in between;
* `one_request_for_each_press`: on the profile screen one request is open exactly
  while the button loads, and the presses alternate;
* `endsEnabled_iff`: outside of loading the button always ends up enabled exactly
  when each answer finds no shrinking left and expands the button again;
* `press_stays_possible_iff`: presses stay possible on the profile screen exactly when
  all orders of the completions end with an enabled button.

Timers and animations end at any time: their durations are left open.
-/

namespace FollowScreen

open Runs

inductive FollowButtonState
  | notFollowing
  | following
  | loading
  deriving DecidableEq, Repr

/-- The colours of `FollowButtonColors` that the button uses, and white. -/
inductive ButtonColor
  | mediumBlue
  | offWhite
  | darkText
  | white
  deriving DecidableEq, Repr

structure FollowButtonOptions where
  labelText : String
  labelTextColor : ButtonColor
  labelBackgroundColor : ButtonColor
  showSpinner : Bool
  showLabel : Bool
  deriving DecidableEq, Repr

inductive FollowButtonTransition
  | followingToNotFollowing
  | notFollowingToFollowing
  deriving DecidableEq, Repr

/-- An animation of the width that was started and has not completed. -/
inductive WidthAnimation
  | shrink
  | expand
  deriving DecidableEq, Repr

/-- The label, the background and the spinner as they are on the screen. -/
structure ButtonFace where
  text : String := "F O L L O W"
  textColor : ButtonColor := .darkText
  backgroundColor : ButtonColor := .white
  labelAlpha : ℕ := 1
  spinnerAlpha : ℕ := 0
  deriving DecidableEq, Repr

/-- The button.  `mainQueue` counts the blocks that `layoutSubviews` has posted,
`animations` are the width animations under way, `isSpinning` says that the layer of
the spinner has its rotation, and `isTouched` that a finger went down on the button
and is still tracked by it. -/
structure FollowButton where
  minButtonWidth : Option ℚ := none
  transitionalState : FollowButtonTransition := .notFollowingToFollowing
  currentButtonState : FollowButtonState := .notFollowing
  face : ButtonFace := {}
  isUserInteractionEnabled : Bool := true
  isSpinning : Bool := false
  mainQueue : ℕ := 0
  animations : List WidthAnimation := []
  isTouched : Bool := false
  deriving DecidableEq, Repr

/-- What the user, the layout and the animations do to the button. -/
inductive FollowButtonEvent
  | layoutSubviews
  /-- The main queue runs a posted block; the frame has this height by then. -/
  | runBlock (height : ℚ)
  | touchDown
  | touchDrag (inside : Bool)
  | touchUp (inside : Bool)
  | touchCancel
  /-- The completion of one of the animations under way is called. -/
  | animationEnds (i : ℕ)

/-- What happens to the button, the calls of its owner included. -/
inductive OwnerEvent
  | button (e : FollowButtonEvent)
  | finishAnimating (success : Bool)

def notFollowingOptions : FollowButtonOptions :=
  { labelText := "F O L L O W", labelTextColor := .darkText, labelBackgroundColor := .offWhite
    showSpinner := false, showLabel := true }

def followingOptions : FollowButtonOptions :=
  { labelText := "F O L L O W I N G", labelTextColor := .offWhite
    labelBackgroundColor := .mediumBlue, showSpinner := false, showLabel := true }

def loadingOptions : FollowButtonOptions :=
  { labelText := "", labelTextColor := .darkText, labelBackgroundColor := .white
    showSpinner := true, showLabel := false }

namespace FollowButton

def updateButtonOptions (b : FollowButton) (options : FollowButtonOptions) : FollowButton :=
  { b with
    face :=
      { text := options.labelText
        textColor := options.labelTextColor
        backgroundColor := options.labelBackgroundColor
        labelAlpha := if options.showLabel then 1 else 0
        spinnerAlpha := if options.showSpinner then 1 else 0 } }

/-- The assignment of `currentButtonState` with its `willSet`. -/
def setCurrentButtonState (b : FollowButton) (newValue : FollowButtonState) : FollowButton :=
  match newValue with
  | .notFollowing =>
      { b.updateButtonOptions notFollowingOptions with currentButtonState := newValue }
  | .following =>
      { b.updateButtonOptions followingOptions with currentButtonState := newValue }
  | .loading =>
      { b.updateButtonOptions loadingOptions with currentButtonState := newValue }

/-- The guard of `shrinkButton` and `expandButton`. -/
def hasWidth (b : FollowButton) : Bool :=
  match b.minButtonWidth with
  | some minButtonWidth => decide (0 < minButtonWidth)
  | none => false

def shrinkButton (b : FollowButton) : FollowButton :=
  if b.hasWidth then { b with animations := b.animations ++ [.shrink] } else b

def expandButton (b : FollowButton) : FollowButton :=
  if b.hasWidth then { b with animations := b.animations ++ [.expand] } else b

def updateButtonToState (b : FollowButton) (state : FollowButtonState) : FollowButton :=
  match state with
  | .notFollowing => (b.setCurrentButtonState .notFollowing).expandButton
  | .following => (b.setCurrentButtonState .following).expandButton
  | .loading => (b.setCurrentButtonState .loading).shrinkButton

def transition (b : FollowButton) (fromState _toState : FollowButtonState) : FollowButton :=
  let b := b.updateButtonToState .loading
  if fromState = .notFollowing then { b with transitionalState := .notFollowingToFollowing }
  else if fromState = .following then { b with transitionalState := .followingToNotFollowing }
  else b

def finishTransition (b : FollowButton) (success : Bool) : FollowButton :=
  match success, b.transitionalState with
  | true, .notFollowingToFollowing => b.updateButtonToState .following
  | false, .followingToNotFollowing => b.updateButtonToState .following
  | true, .followingToNotFollowing => b.updateButtonToState .notFollowing
  | false, .notFollowingToFollowing => b.updateButtonToState .notFollowing

def finishAnimating (b : FollowButton) (success : Bool) : FollowButton :=
  b.finishTransition success

/-- The completion of the shrinking. -/
def animateSpinner (b : FollowButton) : FollowButton :=
  { b with isUserInteractionEnabled := false, isSpinning := true }

/-- The completion of the expanding. -/
def stopAnimatingSpinner (b : FollowButton) : FollowButton :=
  { b with isUserInteractionEnabled := true, isSpinning := false }

def followButtonHighlighted (b : FollowButton) : FollowButton :=
  if b.currentButtonState = .notFollowing then
    { b with face := { b.face with textColor := .mediumBlue } }
  else { b with face := { b.face with textColor := .darkText } }

def followButtonReleased (b : FollowButton) : FollowButton :=
  if b.currentButtonState = .following then
    { b with face := { b.face with textColor := .darkText } }
  else { b with face := { b.face with textColor := .mediumBlue } }

/-- The button after a tap, and the state that the delegate is told, if it is. -/
def followButtonTapped (b : FollowButton) : FollowButton × Option FollowButtonState :=
  match b.currentButtonState with
  | .notFollowing => (b.transition .notFollowing .following, some .notFollowing)
  | .following => (b.transition .following .notFollowing, some .following)
  | .loading => (b, none)

/-- `init(withState:)`: loading is not taken. -/
def withState (state : FollowButtonState) : FollowButton :=
  if state = .loading then {} else ({} : FollowButton).updateButtonToState state

/-- The completion of the animation `a`. -/
def complete (b : FollowButton) : WidthAnimation → FollowButton
  | .shrink => b.animateSpinner
  | .expand => b.stopAnimatingSpinner

/-- One event of the button, with what the delegate is told.  A touch begins only on an
enabled view, and is then tracked to its end. -/
def react (b : FollowButton) :
    FollowButtonEvent → Option (FollowButton × Option FollowButtonState)
  | .layoutSubviews => some ({ b with mainQueue := b.mainQueue + 1 }, none)
  | .runBlock height =>
      if b.mainQueue = 0 then none
      else some ({ b with mainQueue := b.mainQueue - 1, minButtonWidth := some height }, none)
  | .touchDown =>
      if b.isUserInteractionEnabled ∧ ¬ b.isTouched then
        some ({ b with isTouched := true }.followButtonHighlighted, none)
      else none
  | .touchDrag inside =>
      if b.isTouched then
        some (if inside then b.followButtonHighlighted else b.followButtonReleased, none)
      else none
  | .touchUp inside =>
      if b.isTouched then
        if inside then some { b with isTouched := false }.followButtonTapped
        else some ({ b with isTouched := false }, none)
      else none
  | .touchCancel =>
      if b.isTouched then some ({ b with isTouched := false }.followButtonReleased, none) else none
  | .animationEnds i =>
      match b.animations[i]? with
      | none => none
      | some a => some ({ b with animations := b.animations.eraseIdx i }.complete a, none)

def step (b : FollowButton) : OwnerEvent → Option FollowButton
  | .button e => (b.react e).map Prod.fst
  | .finishAnimating success => some (b.finishAnimating success)

end FollowButton

/-- The profile screen.  `requests` counts the timers of `didPressFollowButton` that have
not fired, and `told` records its calls. -/
structure ProfileViewController where
  followButton : FollowButton := .withState .notFollowing
  requests : ℕ := 0
  told : List FollowButtonState := []
  deriving DecidableEq, Repr

inductive ProfileEvent
  | button (e : FollowButtonEvent)
  /-- The timer of a press fires. -/
  | finishFakeNetworkRequest

namespace ProfileViewController

def didPressFollowButton (s : ProfileViewController) (currentState : FollowButtonState) :
    ProfileViewController :=
  if currentState = .following ∨ currentState = .notFollowing then
    { s with requests := s.requests + 1, told := s.told ++ [currentState] }
  else { s with told := s.told ++ [currentState] }

def step (s : ProfileViewController) : ProfileEvent → Option ProfileViewController
  | .button e =>
      match s.followButton.react e with
      | none => none
      | some (b, none) => some { s with followButton := b }
      | some (b, some state) => some ({ s with followButton := b }.didPressFollowButton state)
  | .finishFakeNetworkRequest =>
      if s.requests = 0 then none
      else
        some { s with
          requests := s.requests - 1
          followButton := s.followButton.finishAnimating true }

end ProfileViewController

section Spec

namespace FollowButton

variable {b t : FollowButton}

/-- The animation that the change to a state starts. -/
def widthAnimation : FollowButtonState → WidthAnimation
  | .loading => .shrink
  | _ => .expand

@[simp] theorem updateButtonToState_current (b : FollowButton) (state : FollowButtonState) :
    (b.updateButtonToState state).currentButtonState = state := by
  cases state <;> simp only [updateButtonToState, shrinkButton, expandButton] <;>
    split <;> rfl

@[simp] theorem updateButtonToState_transitional (b : FollowButton)
    (state : FollowButtonState) :
    (b.updateButtonToState state).transitionalState = b.transitionalState := by
  cases state <;> simp only [updateButtonToState, shrinkButton, expandButton] <;>
    split <;> rfl

@[simp] theorem updateButtonToState_enabled (b : FollowButton) (state : FollowButtonState) :
    (b.updateButtonToState state).isUserInteractionEnabled = b.isUserInteractionEnabled := by
  cases state <;> simp only [updateButtonToState, shrinkButton, expandButton] <;>
    split <;> rfl

/-- With a measured width the change of state starts its animation. Before the first layout
there is no width to animate to. -/
theorem updateButtonToState_animations (b : FollowButton) (state : FollowButtonState) :
    (b.updateButtonToState state).animations =
      if b.hasWidth then b.animations ++ [widthAnimation state] else b.animations := by
  cases state <;> simp only [updateButtonToState, shrinkButton, expandButton] <;>
    split <;> split <;> first | rfl | contradiction

@[simp] theorem transition_current (b : FollowButton) (fromState toState : FollowButtonState) :
    (b.transition fromState toState).currentButtonState = .loading := by
  have hloading := updateButtonToState_current b .loading
  unfold transition
  split
  · exact hloading
  · split <;> exact hloading

/-- The state that an answer leads to. -/
def answered (transitional : FollowButtonTransition) (success : Bool) : FollowButtonState :=
  match success, transitional with
  | true, .notFollowingToFollowing => .following
  | false, .followingToNotFollowing => .following
  | true, .followingToNotFollowing => .notFollowing
  | false, .notFollowingToFollowing => .notFollowing

/-- The answer shows the state it stands for; the button's lock is left to the animations
that this starts. -/
theorem finishAnimating_eq (b : FollowButton) (success : Bool) :
    b.finishAnimating success =
      b.updateButtonToState (answered b.transitionalState success) := by
  unfold finishAnimating finishTransition answered
  split <;> rfl

/-- An answer always leads out of loading, whether it was a success or not: it confirms the
transition or takes it back. -/
theorem answered_ne_loading (transitional : FollowButtonTransition) (success : Bool) :
    answered transitional success ≠ .loading := by
  cases success <;> cases transitional <;> decide

/-- A touch that enters or leaves the button only dresses it anew. -/
theorem followButtonHighlighted_eq (b : FollowButton) :
    ∃ face, b.followButtonHighlighted = { b with face := face } := by
  unfold followButtonHighlighted
  split <;> exact ⟨_, rfl⟩

/-- Releasing the button takes its highlight back and touches nothing else. -/
theorem followButtonReleased_eq (b : FollowButton) :
    ∃ face, b.followButtonReleased = { b with face := face } := by
  unfold followButtonReleased
  split <;> exact ⟨_, rfl⟩

/-- A finger goes down on an enabled button. -/
theorem react_touchDown (henabled : b.isUserInteractionEnabled = true)
    (huntouched : b.isTouched = false) :
    ∃ face, b.react .touchDown = some ({ b with isTouched := true, face := face }, none) := by
  obtain ⟨face, hface⟩ := followButtonHighlighted_eq { b with isTouched := true }
  refine ⟨face, ?_⟩
  have hallowed : b.isUserInteractionEnabled = true ∧ ¬ b.isTouched = true := by
    simp [henabled, huntouched]
  rw [react, if_pos hallowed, hface]

/-- **What an event does.**  Apart from the end of an animation and from a press it changes
neither the state nor the animations nor the lock. -/
theorem react_cases {e : FollowButtonEvent} {out : Option FollowButtonState}
    (h : b.react e = some (t, out)) :
    (out = none ∧ e ≠ .touchUp true ∧ t.currentButtonState = b.currentButtonState ∧
        t.transitionalState = b.transitionalState ∧ t.animations = b.animations ∧
        t.isUserInteractionEnabled = b.isUserInteractionEnabled ∧
        (t.isTouched = true → b.isTouched = true ∨ b.isUserInteractionEnabled = true)) ∨
      (∃ i a, e = .animationEnds i ∧ out = none ∧ b.animations[i]? = some a ∧
        t = { b with animations := b.animations.eraseIdx i }.complete a) ∨
      (e = .touchUp true ∧ b.isTouched = true ∧
        (t, out) = { b with isTouched := false }.followButtonTapped) := by
  cases e with
  | layoutSubviews =>
      cases h
      exact .inl ⟨rfl, by simp, rfl, rfl, rfl, rfl, .inl⟩
  | runBlock height =>
      simp only [react] at h
      split at h <;> cases h
      exact .inl ⟨rfl, by simp, rfl, rfl, rfl, rfl, .inl⟩
  | touchDown =>
      simp only [react] at h
      split at h
      · next henabled =>
          cases h
          obtain ⟨face, hface⟩ := followButtonHighlighted_eq { b with isTouched := true }
          rw [hface]
          exact .inl ⟨rfl, by simp, rfl, rfl, rfl, rfl, fun _ => .inr henabled.1⟩
      · cases h
  | touchDrag inside =>
      simp only [react] at h
      split at h
      · cases h
        have hframe : ∃ face, (if inside then b.followButtonHighlighted
            else b.followButtonReleased) = { b with face := face } := by
          split
          · exact followButtonHighlighted_eq b
          · exact followButtonReleased_eq b
        obtain ⟨face, hface⟩ := hframe
        rw [hface]
        exact .inl ⟨rfl, by simp, rfl, rfl, rfl, rfl, .inl⟩
      · cases h
  | touchUp inside =>
      simp only [react] at h
      split at h
      · next htouched =>
          cases inside with
          | true => exact .inr (.inr ⟨rfl, htouched, (Option.some.inj h).symm⟩)
          | false =>
              cases h
              exact .inl ⟨rfl, by simp, rfl, rfl, rfl, rfl, by simp⟩
      · cases h
  | touchCancel =>
      simp only [react] at h
      split at h
      · cases h
        obtain ⟨face, hface⟩ := followButtonReleased_eq { b with isTouched := false }
        rw [hface]
        exact .inl ⟨rfl, by simp, rfl, rfl, rfl, rfl, by simp⟩
      · cases h
  | animationEnds i =>
      simp only [react] at h
      split at h
      · cases h
      · next a ha =>
          cases h
          exact .inr (.inl ⟨i, a, rfl, rfl, ha, rfl⟩)

/-- A tap is ignored while the button loads; otherwise it is a press, which tells the owner
the state shown and starts the transition to the other one. -/
theorem followButtonTapped_cases {out : Option FollowButtonState}
    (h : (t, out) = b.followButtonTapped) :
    (b.currentButtonState = .loading ∧ t = b ∧ out = none) ∨
      (b.currentButtonState ≠ .loading ∧ out = some b.currentButtonState ∧
        ∃ toState, t = b.transition b.currentButtonState toState) := by
  unfold followButtonTapped at h
  split at h
  · next hstate =>
      obtain ⟨rfl, rfl⟩ := Prod.ext_iff.mp h
      exact .inr ⟨by simp [hstate], by rw [hstate], .following, by rw [hstate]⟩
  · next hstate =>
      obtain ⟨rfl, rfl⟩ := Prod.ext_iff.mp h
      exact .inr ⟨by simp [hstate], by rw [hstate], .notFollowing, by rw [hstate]⟩
  · next hstate =>
      obtain ⟨ht, hout⟩ := Prod.mk.inj h
      exact .inl ⟨hstate, ht, hout⟩

@[simp] theorem complete_current (b : FollowButton) (a : WidthAnimation) :
    (b.complete a).currentButtonState = b.currentButtonState := by
  cases a <;> rfl

@[simp] theorem complete_transitional (b : FollowButton) (a : WidthAnimation) :
    (b.complete a).transitionalState = b.transitionalState := by
  cases a <;> rfl

@[simp] theorem complete_animations (b : FollowButton) (a : WidthAnimation) :
    (b.complete a).animations = b.animations := by
  cases a <;> rfl

@[simp] theorem complete_isTouched (b : FollowButton) (a : WidthAnimation) :
    (b.complete a).isTouched = b.isTouched := by
  cases a <;> rfl

end FollowButton

end Spec

section Followed

/-- What the button stands for: whether the profile was followed when the button was
pressed last, and the answer to that press. -/
structure Followed where
  original : Bool
  answer : Option Bool

namespace Followed

def shows (a : Followed) : FollowButtonState :=
  match a.answer with
  | none => .loading
  | some success => if a.original = success then .notFollowing else .following

/-- A press asks for the other state, unless the last one is still unanswered. -/
def press (a : Followed) : Followed :=
  if a.answer = none then a
  else { original := decide (a.shows = .following), answer := none }

/-- Only presses and answers count. -/
def next (a : Followed) : OwnerEvent → Followed
  | .button (.touchUp true) => a.press
  | .button _ => a
  | .finishAnimating success => { a with answer := some success }

/-- What a new button stands for. -/
def start (state : FollowButtonState) : Followed :=
  { original := false, answer := some (decide (state = .following)) }

/-- The transition that the button keeps for the last press. -/
def transitional (a : Followed) : FollowButtonTransition :=
  if a.original then .followingToNotFollowing else .notFollowingToFollowing

/-- What the button does with an answer is what the abstract machine shows after it, also for
a second answer to the same press. -/
theorem answered_eq (a : Followed) (success : Bool) :
    FollowButton.answered a.transitional success =
      { a with answer := some success }.shows := by
  cases a with
  | mk original answer => cases original <;> cases success <;> rfl

/-- The machine shows the loading state exactly while its press has no answer. -/
theorem shows_eq_loading_iff (a : Followed) : a.shows = .loading ↔ a.answer = none := by
  unfold shows
  split
  · next hnone => simp [hnone]
  · next success hsome => split <;> simp [hsome]

end Followed

/-- The button shows what it stands for, and keeps its transition. -/
structure Stands (b : FollowButton) (a : Followed) : Prop where
  shows : b.currentButtonState = a.shows
  transitional : b.transitionalState = a.transitional

/-- A new button shows the state it was made with. -/
theorem stands_start (state : FollowButtonState) :
    Stands (.withState state) (.start state) := by
  cases state <;> exact ⟨rfl, rfl⟩

/-- A press keeps the transition from the state that it was made in, which an answer needs
later to know the state to go to. -/
theorem transition_transitional {b : FollowButton} (toState : FollowButtonState)
    (hstate : b.currentButtonState ≠ .loading) :
    (b.transition b.currentButtonState toState).transitionalState =
      if b.currentButtonState = .following then .followingToNotFollowing
      else .notFollowingToFollowing := by
  unfold FollowButton.transition
  cases hcurrent : b.currentButtonState with
  | notFollowing => rfl
  | following => rfl
  | loading => exact absurd hcurrent hstate

/-- One step of the button is one of what it stands for. The abstract machine takes presses
and answers only, and all other events leave it alone. -/
theorem Stands.step {b t : FollowButton} {a : Followed} {e : OwnerEvent} (h : Stands b a)
    (hstep : b.step e = some t) : Stands t (a.next e) := by
  cases e with
  | finishAnimating success =>
      obtain rfl := Option.some.inj hstep
      rw [FollowButton.finishAnimating_eq]
      refine ⟨?_, ?_⟩
      · rw [FollowButton.updateButtonToState_current, h.transitional, Followed.answered_eq]
        rfl
      · rw [FollowButton.updateButtonToState_transitional, h.transitional]
        rfl
  | button e =>
      obtain ⟨⟨t', out⟩, hreact, rfl⟩ := Option.map_eq_some_iff.mp hstep
      obtain ⟨-, hpress, hcurrent, htransitional, -⟩ | ⟨i, x, rfl, -, -, rfl⟩ |
        ⟨rfl, -, htapped⟩ := FollowButton.react_cases hreact
      · have hnext : a.next (.button e) = a := by
          unfold Followed.next
          split
          · next htouch => exact absurd (OwnerEvent.button.inj htouch) hpress
          · rfl
          · next hfinish => cases hfinish
        rw [hnext]
        exact ⟨hcurrent.trans h.shows, htransitional.trans h.transitional⟩
      · refine ⟨?_, ?_⟩
        · exact (FollowButton.complete_current _ x).trans h.shows
        · exact (FollowButton.complete_transitional _ x).trans h.transitional
      · show Stands t' a.press
        obtain ⟨hloading, rfl, -⟩ | ⟨hstate, -, toState, rfl⟩ :=
          FollowButton.followButtonTapped_cases htapped
        · have hopen : a.answer = none := by
            rw [← Followed.shows_eq_loading_iff, ← h.shows]
            exact hloading
          unfold Followed.press
          rw [if_pos hopen]
          exact ⟨h.shows, h.transitional⟩
        · have hanswered : a.answer ≠ none := by
            rw [ne_eq, ← Followed.shows_eq_loading_iff, ← h.shows]
            exact hstate
          unfold Followed.press
          rw [if_neg hanswered]
          refine ⟨FollowButton.transition_current _ _ _, ?_⟩
          rw [transition_transitional toState hstate]
          simp [Followed.transitional, ← h.shows]

/-- **The button shows what was asked for and answered.**  After any run, however layout,
animations and touches come between the presses and the answers, and whether or not an
answer belongs to a press, the button shows the outcome of the last press. -/
theorem shown_eq_followed (state : FollowButtonState) {es : List OwnerEvent}
    {t : FollowButton} (hrun : runFrom FollowButton.step (.withState state) es = some t) :
    t.currentButtonState = (es.foldl Followed.next (.start state)).shows :=
  (runFrom_refines (fun _ _ _ _ => Stands.step) (stands_start state) hrun).shows

/-- A press whose answer is taken back and given again ends as a confirmed one. The
transition is kept after the first answer. -/
theorem shown_after_two_answers :
    ∃ t, runFrom FollowButton.step (.withState .notFollowing)
        [.button .touchDown, .button (.touchUp true), .finishAnimating false,
          .finishAnimating true] = some t ∧
      t.currentButtonState = .following := by
  have hruns : ∃ t, runFrom FollowButton.step (.withState .notFollowing)
      [.button .touchDown, .button (.touchUp true), .finishAnimating false,
        .finishAnimating true] = some t := ⟨_, rfl⟩
  obtain ⟨t, hrun⟩ := hruns
  exact ⟨t, hrun, (shown_eq_followed .notFollowing hrun).trans rfl⟩

end Followed

section Requests

/-- The state in which the press number `k` is made, counted from 0. -/
def turn (k : ℕ) : FollowButtonState :=
  if k % 2 = 0 then .notFollowing else .following

/-- Whose turn it is never is the loading state. -/
theorem turn_ne_loading (k : ℕ) : turn k ≠ .loading := by
  unfold turn
  split <;> decide

/-- The answer to a press leads to the state of the next one: following and not following
take turns. -/
theorem answered_turn (k : ℕ) :
    FollowButton.answered
        (if turn k = .following then .followingToNotFollowing else .notFollowingToFollowing)
        true =
      turn (k + 1) := by
  unfold turn
  rcases Nat.mod_two_eq_zero_or_one k with heven | hodd
  · have hnext : (k + 1) % 2 = 1 := by omega
    simp [heven, hnext, FollowButton.answered]
  · have hnext : (k + 1) % 2 = 0 := by omega
    simp [hodd, hnext, FollowButton.answered]

/-- **The protocol of the profile screen.**  The presses are made in turn, a request is open
exactly while the button loads, and the button shows whose turn it is. -/
structure InTurn (s : ProfileViewController) : Prop where
  told : s.told = (List.range s.told.length).map turn
  requests : s.requests =
    if s.followButton.currentButtonState = .loading then 1 else 0
  rest : s.followButton.currentButtonState ≠ .loading →
    s.followButton.currentButtonState = turn s.told.length
  asked : s.followButton.currentButtonState = .loading →
    ∃ k, s.told.length = k + 1 ∧ s.followButton.transitionalState =
      if turn k = .following then .followingToNotFollowing else .notFollowingToFollowing

/-- Before the first press nothing was told, and the first turn is to follow. -/
theorem inTurn_start : InTurn {} :=
  ⟨rfl, rfl, fun _ => rfl, fun hloading => absurd hloading (by decide)⟩

/-- What the protocol says about the button are its two states. -/
theorem InTurn.frame {s : ProfileViewController} {b : FollowButton} (h : InTurn s)
    (hcurrent : b.currentButtonState = s.followButton.currentButtonState)
    (htransitional : b.transitionalState = s.followButton.transitionalState) :
    InTurn { s with followButton := b } := by
  refine ⟨h.told, ?_, ?_, ?_⟩
  · rw [hcurrent]
    exact h.requests
  · rw [hcurrent]
    exact h.rest
  · rw [hcurrent, htransitional]
    exact h.asked

/-- A press opens a request, and it is the turn of the state that the button showed. The next
turn comes with the answer. -/
theorem InTurn.press {s : ProfileViewController} {b : FollowButton} {state : FollowButtonState}
    (h : InTurn s) (hstate : s.followButton.currentButtonState = state)
    (hrest : state ≠ .loading) (hcurrent : b.currentButtonState = .loading)
    (htransitional : b.transitionalState =
      if state = .following then .followingToNotFollowing else .notFollowingToFollowing) :
    InTurn ({ s with followButton := b }.didPressFollowButton state) := by
  have hturn : state = turn s.told.length := by
    rw [← hstate] at hrest ⊢
    exact h.rest hrest
  have hrequests : s.requests = 0 := by
    rw [h.requests, hstate, if_neg hrest]
  have hpressed : state = .following ∨ state = .notFollowing := by
    cases state with
    | following => exact .inl rfl
    | notFollowing => exact .inr rfl
    | loading => exact absurd rfl hrest
  unfold ProfileViewController.didPressFollowButton
  rw [if_pos hpressed]
  refine ⟨?_, ?_, ?_, ?_⟩
  · show s.told ++ [state] = (List.range (s.told ++ [state]).length).map turn
    rw [List.length_append, List.length_singleton, List.range_succ, List.map_append,
      ← h.told, hturn]
    rfl
  · show s.requests + 1 = _
    rw [if_pos hcurrent, hrequests]
  · exact fun hother => absurd hcurrent hother
  · intro _
    refine ⟨s.told.length, ?_, ?_⟩
    · show (s.told ++ [state]).length = _
      rw [List.length_append, List.length_singleton]
    · rw [← hturn]
      exact htransitional

/-- The answer to the open request ends the turn, and the button shows the state in which the
next press is made. -/
theorem InTurn.answer {s : ProfileViewController} (h : InTurn s) (hopen : s.requests ≠ 0) :
    InTurn { s with
      requests := s.requests - 1
      followButton := s.followButton.finishAnimating true } := by
  have hloading : s.followButton.currentButtonState = .loading := by
    by_contra hother
    exact hopen (by rw [h.requests, if_neg hother])
  obtain ⟨k, hlength, htransitional⟩ := h.asked hloading
  have hfinished : s.followButton.finishAnimating true =
      s.followButton.updateButtonToState (turn s.told.length) := by
    rw [FollowButton.finishAnimating_eq, htransitional, answered_turn, hlength]
  have hcurrent : (s.followButton.finishAnimating true).currentButtonState =
      turn s.told.length := by
    rw [hfinished, FollowButton.updateButtonToState_current]
  have hrest := turn_ne_loading s.told.length
  refine ⟨h.told, ?_, fun _ => hcurrent, fun hstill => ?_⟩
  · show s.requests - 1 = _
    rw [if_neg (hcurrent ▸ hrest), h.requests, if_pos hloading]
  · exact absurd (hcurrent.symm.trans hstill) hrest

/-- Every event of the screen keeps the turns: a press opens a request and its answer closes
it, and nothing else does either. -/
theorem InTurn.step {s t : ProfileViewController} {e : ProfileEvent} (h : InTurn s)
    (hstep : s.step e = some t) : InTurn t := by
  cases e with
  | finishFakeNetworkRequest =>
      simp only [ProfileViewController.step] at hstep
      split at hstep
      · cases hstep
      · next hopen =>
          obtain rfl := Option.some.inj hstep
          exact h.answer hopen
  | button e =>
      simp only [ProfileViewController.step] at hstep
      split at hstep
      · cases hstep
      · next b hreact =>
          obtain rfl := Option.some.inj hstep
          obtain ⟨-, -, hcurrent, htransitional, -⟩ | ⟨i, a, -, -, -, rfl⟩ |
            ⟨-, -, htapped⟩ := FollowButton.react_cases hreact
          · exact h.frame hcurrent htransitional
          · exact h.frame (FollowButton.complete_current _ a)
              (FollowButton.complete_transitional _ a)
          · obtain ⟨-, rfl, -⟩ | ⟨-, hout, -⟩ := FollowButton.followButtonTapped_cases htapped
            · exact h.frame rfl rfl
            · cases hout
      · next b state hreact =>
          obtain rfl := Option.some.inj hstep
          obtain ⟨hout, -⟩ | ⟨i, a, -, hout, -⟩ | ⟨-, -, htapped⟩ :=
            FollowButton.react_cases hreact
          · cases hout
          · cases hout
          · obtain ⟨-, -, hout⟩ | ⟨hrest, hout, toState, rfl⟩ :=
              FollowButton.followButtonTapped_cases htapped
            · cases hout
            · obtain rfl := Option.some.inj hout
              exact h.press rfl hrest (FollowButton.transition_current _ _ _)
                (transition_transitional toState hrest)

/-- **Each press is one request and is answered once.**  In every run of the profile screen
at most one request is open, and exactly while the button loads; the presses alternate
between the two states, beginning with not following; and outside of loading the button
shows the state whose turn it is. -/
theorem one_request_for_each_press (es : List ProfileEvent) :
    Throughout ProfileViewController.step InTurn {} es :=
  throughout_of_step (fun _ _ _ => InTurn.step) inTurn_start es

end Requests

section Lock

/-- The completions of the animations with these indices, one after the other. -/
def completions (is : List ℕ) : List OwnerEvent :=
  is.map fun i => .button (.animationEnds i)

/-- Outside of loading, every order in which the animations under way can complete leaves
the button enabled. -/
def EndsEnabled (b : FollowButton) : Prop :=
  b.currentButtonState ≠ .loading → ∀ is t,
    runFrom FollowButton.step b (completions is) = some t → t.animations = [] →
      t.isUserInteractionEnabled = true

/-- An answer finds no shrinking under way, and starts to expand the button unless it is
enabled or going to be. -/
def AnswerReopens (b : FollowButton) (e : OwnerEvent) (_ : FollowButton) : Prop :=
  match e with
  | .finishAnimating _ =>
      .shrink ∉ b.animations ∧
        (b.hasWidth = true ∨ b.isUserInteractionEnabled = true ∨ .expand ∈ b.animations)
  | .button _ => True

/-- What `EndsEnabled` says about the animations under way. -/
def Reopens (b : FollowButton) : Prop :=
  b.currentButtonState ≠ .loading →
    .shrink ∉ b.animations ∧ (b.isUserInteractionEnabled = true ∨ .expand ∈ b.animations)

/-- A completion of the shrinking is gone with it; one of the expanding enables the button.
So the button is still enabled or going to be. -/
theorem Reopens.complete {b : FollowButton} {i : ℕ} {a : WidthAnimation} (h : Reopens b)
    (ha : b.animations[i]? = some a) :
    Reopens ({ b with animations := b.animations.eraseIdx i }.complete a) := by
  intro hrest
  rw [FollowButton.complete_current] at hrest
  obtain ⟨hshrink, -⟩ := h hrest
  rw [FollowButton.complete_animations]
  refine ⟨fun hmem => hshrink (List.mem_of_mem_eraseIdx hmem), .inl ?_⟩
  cases a with
  | shrink => exact absurd (List.mem_of_getElem? ha) hshrink
  | expand => rfl

/-- Only an answer can leave the loading state, and it keeps the button going to be enabled
exactly if it meets the condition. -/
theorem reopens_step_iff {b t : FollowButton} {e : OwnerEvent} (h : Reopens b)
    (hstep : b.step e = some t) : Reopens t ↔ AnswerReopens b e t := by
  cases e with
  | finishAnimating success =>
      obtain rfl := Option.some.inj hstep
      have hrest := FollowButton.answered_ne_loading b.transitionalState success
      rw [FollowButton.finishAnimating_eq]
      unfold Reopens AnswerReopens
      rw [FollowButton.updateButtonToState_current, FollowButton.updateButtonToState_enabled,
        FollowButton.updateButtonToState_animations]
      have hexpand : FollowButton.widthAnimation
          (FollowButton.answered b.transitionalState success) = .expand := by
        revert hrest
        cases FollowButton.answered b.transitionalState success with
        | loading => exact fun hloading => absurd rfl hloading
        | following => exact fun _ => rfl
        | notFollowing => exact fun _ => rfl
      rw [hexpand]
      cases hwidth : b.hasWidth with
      | true => simp [hrest]
      | false => simp [hrest]
  | button e =>
      refine iff_of_true ?_ trivial
      obtain ⟨⟨t', out⟩, hreact, rfl⟩ := Option.map_eq_some_iff.mp hstep
      obtain ⟨-, -, hcurrent, -, hanimations, henabled, -⟩ | ⟨i, a, -, -, ha, rfl⟩ |
        ⟨-, -, htapped⟩ := FollowButton.react_cases hreact
      · unfold Reopens
        rw [hcurrent, hanimations, henabled]
        exact h
      · exact h.complete ha
      · obtain ⟨-, rfl, -⟩ | ⟨-, -, toState, rfl⟩ :=
          FollowButton.followButtonTapped_cases htapped
        · exact h
        · have hloading := FollowButton.transition_current { b with isTouched := false }
            b.currentButtonState toState
          exact fun hrest => absurd hloading hrest

/-- The end of one animation as a step of the button. -/
theorem step_animationEnds {b : FollowButton} {i : ℕ} {a : WidthAnimation}
    (ha : b.animations[i]? = some a) :
    b.step (.button (.animationEnds i)) =
      some ({ b with animations := b.animations.eraseIdx i }.complete a) := by
  simp [FollowButton.step, FollowButton.react, ha]

/-- All animations but one can complete first, by induction on those before it and after it.
Only the completion of the last one decides whether the button is enabled. -/
theorem completions_but_one (a : WidthAnimation) (before after : List WidthAnimation)
    {b : FollowButton} (hanimations : b.animations = before ++ a :: after) :
    ∃ is t, runFrom FollowButton.step b (completions is) = some t ∧ t.animations = [a] ∧
      t.currentButtonState = b.currentButtonState ∧ t.isTouched = b.isTouched := by
  induction before generalizing b with
  | cons first before ih =>
      have hfirst : b.animations[0]? = some first := by simp [hanimations]
      obtain ⟨is, t, hrun, hlast, hcurrent, htouched⟩ := ih
        (b := { b with animations := b.animations.eraseIdx 0 }.complete first)
        (by simp [hanimations])
      refine ⟨0 :: is, t, ?_, hlast, ?_, ?_⟩
      · show (b.step _).bind _ = _
        rw [step_animationEnds hfirst]
        exact hrun
      · rw [hcurrent, FollowButton.complete_current]
      · rw [htouched, FollowButton.complete_isTouched]
  | nil =>
      induction after generalizing b with
      | nil => exact ⟨[], b, rfl, hanimations, rfl, rfl⟩
      | cons second after ih =>
          have hsecond : b.animations[1]? = some second := by simp [hanimations]
          obtain ⟨is, t, hrun, hlast, hcurrent, htouched⟩ := ih
            (b := { b with animations := b.animations.eraseIdx 1 }.complete second)
            (by simp [hanimations])
          refine ⟨1 :: is, t, ?_, hlast, ?_, ?_⟩
          · show (b.step _).bind _ = _
            rw [step_animationEnds hsecond]
            exact hrun
          · rw [hcurrent, FollowButton.complete_current]
          · rw [htouched, FollowButton.complete_isTouched]

/-- Any of the animations under way can be the last one to complete, as UIKit promises no
order among them. -/
theorem completions_ending_with {b : FollowButton} {a : WidthAnimation}
    (ha : a ∈ b.animations) :
    ∃ is t, runFrom FollowButton.step b (completions is) = some t ∧ t.animations = [] ∧
      t.currentButtonState = b.currentButtonState ∧ t.isTouched = b.isTouched ∧
      t.isUserInteractionEnabled = decide (a = .expand) := by
  obtain ⟨before, after, hanimations⟩ := List.append_of_mem ha
  obtain ⟨is, t, hrun, hlast, hcurrent, htouched⟩ :=
    completions_but_one a before after hanimations
  have hend : t.animations[0]? = some a := by simp [hlast]
  refine ⟨is ++ [0], { t with animations := t.animations.eraseIdx 0 }.complete a, ?_, ?_, ?_,
    ?_, ?_⟩
  · have hsplit : completions (is ++ [0]) = completions is ++ completions [0] := List.map_append
    rw [hsplit, runFrom_append hrun]
    show (t.step _).bind _ = _
    rw [step_animationEnds hend]
    rfl
  · simp [hlast]
  · rw [FollowButton.complete_current]
    exact hcurrent
  · rw [FollowButton.complete_isTouched]
    exact htouched
  · cases a <;> rfl

/-- Completions neither change the state that the button shows nor touch it. They are about
the spinner and about whether the button is enabled. -/
theorem completions_frame {b t : FollowButton} {is : List ℕ}
    (hrun : runFrom FollowButton.step b (completions is) = some t) :
    t.currentButtonState = b.currentButtonState ∧ t.isTouched = b.isTouched := by
  induction is generalizing b with
  | nil =>
      obtain rfl := Option.some.inj hrun
      exact ⟨rfl, rfl⟩
  | cons i is ih =>
      obtain ⟨u, hu, hrest⟩ := runFrom_cons hrun
      obtain ⟨hcurrent, htouched⟩ := ih hrest
      simp only [FollowButton.step, FollowButton.react] at hu
      split at hu
      · cases hu
      · obtain rfl := Option.some.inj hu
        exact ⟨hcurrent.trans (FollowButton.complete_current _ _),
          htouched.trans (FollowButton.complete_isTouched _ _)⟩

/-- Completions keep that the button reopens, by induction on the list of them. -/
theorem Reopens.completions {b t : FollowButton} {is : List ℕ} (h : Reopens b)
    (hrun : runFrom FollowButton.step b (completions is) = some t) : Reopens t := by
  induction is generalizing b with
  | nil =>
      obtain rfl := Option.some.inj hrun
      exact h
  | cons i is ih =>
      obtain ⟨u, hu, hrest⟩ := runFrom_cons hrun
      exact ih ((reopens_step_iff h hu).mpr trivial) hrest

/-- Every order of the completions leaves the button enabled exactly when no shrinking is
under way and the button is enabled or expanding. -/
theorem endsEnabled_iff_reopens (b : FollowButton) : EndsEnabled b ↔ Reopens b := by
  constructor
  · intro h hrest
    have hshrink : .shrink ∉ b.animations := by
      intro hmem
      obtain ⟨is, t, hrun, hnone, -, -, hlocked⟩ := completions_ending_with hmem
      have henabled := h hrest is t hrun hnone
      rw [hlocked] at henabled
      cases henabled
    refine ⟨hshrink, ?_⟩
    cases hanimations : b.animations with
    | nil => exact .inl (h hrest [] b rfl hanimations)
    | cons a after =>
        cases a with
        | shrink => exact absurd (by simp [hanimations]) hshrink
        | expand => exact .inr List.mem_cons_self
  · intro h hrest is t hrun hnone
    obtain ⟨hcurrent, -⟩ := completions_frame hrun
    obtain ⟨-, henabled | hexpand⟩ := h.completions hrun (hcurrent ▸ hrest)
    · exact henabled
    · rw [hnone] at hexpand
      cases hexpand

/-- A new button is enabled, with no animation under way. -/
theorem reopens_start (state : FollowButtonState) : Reopens (.withState state) := by
  cases state <;> exact fun _ => ⟨by decide, .inl rfl⟩

/-- **The button is not locked for good.**  In a run of the button and its owner, the
animations under way always end with an enabled button outside of loading, in whatever
order they complete, exactly when each answer finds no shrinking under way and expands the
button, unless it is enabled or going to be. -/
theorem endsEnabled_iff (state : FollowButtonState) (es : List OwnerEvent) :
    Throughout FollowButton.step EndsEnabled (.withState state) es ↔
      StepsMeet FollowButton.step AnswerReopens (.withState state) es := by
  have hsame : EndsEnabled = Reopens := funext fun b => propext (endsEnabled_iff_reopens b)
  rw [hsame]
  exact throughout_iff_stepsMeet (J := fun _ => True) (fun _ _ _ _ _ => trivial)
    (fun _ e _ _ h hstep => reopens_step_iff (e := e) h hstep) trivial (reopens_start state)

end Lock

section Screen

/-- The completions as events of the screen. -/
def screenCompletions (is : List ℕ) : List ProfileEvent :=
  is.map fun i => .button (.animationEnds i)

/-- A screen whose button does not react any more. -/
structure Locked (s : ProfileViewController) : Prop where
  rest : s.followButton.currentButtonState ≠ .loading
  noRequest : s.requests = 0
  disabled : s.followButton.isUserInteractionEnabled = false
  untouched : s.followButton.isTouched = false
  noExpand : .expand ∉ s.followButton.animations

/-- The end of one animation as a step of the screen. -/
theorem screen_step_animationEnds (s : ProfileViewController) (i : ℕ) :
    s.step (.button (.animationEnds i)) =
      (s.followButton.step (.button (.animationEnds i))).map
        fun b => { s with followButton := b } := by
  simp only [ProfileViewController.step, FollowButton.step, FollowButton.react]
  cases s.followButton.animations[i]? <;> rfl

/-- Completions change nothing but the button: the screen around it has no part in them and
tells nobody. -/
theorem screen_completions (s : ProfileViewController) (is : List ℕ) :
    runFrom ProfileViewController.step s (screenCompletions is) =
      (runFrom FollowButton.step s.followButton (completions is)).map
        fun b => { s with followButton := b } := by
  induction is generalizing s with
  | nil => rfl
  | cons i is ih =>
      show (s.step (.button (.animationEnds i))).bind _ =
        ((s.followButton.step (.button (.animationEnds i))).bind _).map _
      rw [screen_step_animationEnds]
      cases s.followButton.step (.button (.animationEnds i)) with
      | none => rfl
      | some b => exact ih { s with followButton := b }

/-- A locked button hears no touch, has no request to be answered and expands no more: every
event leaves it locked, and nothing is told. -/
theorem Locked.step {s t : ProfileViewController} {e : ProfileEvent} (h : Locked s)
    (hstep : s.step e = some t) : Locked t ∧ t.told = s.told := by
  cases e with
  | finishFakeNetworkRequest =>
      simp [ProfileViewController.step, h.noRequest] at hstep
  | button e =>
      simp only [ProfileViewController.step] at hstep
      split at hstep
      · cases hstep
      · next b hreact =>
          obtain rfl := Option.some.inj hstep
          refine ⟨?_, rfl⟩
          obtain ⟨-, -, hcurrent, -, hanimations, henabled, htouch⟩ | ⟨i, a, -, -, ha, rfl⟩ |
            ⟨-, htouched, -⟩ := FollowButton.react_cases hreact
          · refine ⟨hcurrent ▸ h.rest, h.noRequest, henabled ▸ h.disabled, ?_,
              hanimations ▸ h.noExpand⟩
            by_contra htouched
            rcases htouch (by simpa using htouched) with hwas | hwas
            · rw [h.untouched] at hwas
              cases hwas
            · rw [h.disabled] at hwas
              cases hwas
          · have hmem := List.mem_of_getElem? ha
            refine ⟨?_, h.noRequest, ?_, ?_, ?_⟩
            · exact (FollowButton.complete_current _ a).symm ▸ h.rest
            · cases a with
              | shrink => rfl
              | expand => exact absurd hmem h.noExpand
            · exact (FollowButton.complete_isTouched _ a).trans h.untouched
            · show .expand ∉ (FollowButton.complete _ a).animations
              rw [FollowButton.complete_animations]
              exact fun hexpand => h.noExpand (List.mem_of_mem_eraseIdx hexpand)
          · rw [h.untouched] at htouched
            cases htouched
      · next b state hreact =>
          obtain ⟨hout, -⟩ | ⟨i, a, -, hout, -⟩ | ⟨-, htouched, -⟩ :=
            FollowButton.react_cases hreact
          · cases hout
          · cases hout
          · rw [h.untouched] at htouched
            cases htouched

/-- A locked screen stays locked, and nobody is told of a press again. A press needs an
enabled button, and nothing is under way that would enable it. -/
theorem locked_hears_no_press {s t : ProfileViewController} {es : List ProfileEvent}
    (h : Locked s) (hrun : runFrom ProfileViewController.step s es = some t) :
    Locked t ∧ t.told = s.told := by
  have hkept : ∀ u e v, (Locked u ∧ u.told = s.told) → u.step e = some v →
      Locked v ∧ v.told = s.told := by
    intro u e v hu hstep
    obtain ⟨hlocked, htold⟩ := hu.1.step hstep
    exact ⟨hlocked, htold.trans hu.2⟩
  exact runFrom_of_step hkept ⟨h, rfl⟩ hrun

/-- An enabled button that nobody touches and that does not load can be pressed: the finger
goes down and up on it. -/
theorem press_of_enabled {s : ProfileViewController}
    (hrest : s.followButton.currentButtonState ≠ .loading)
    (henabled : s.followButton.isUserInteractionEnabled = true)
    (huntouched : s.followButton.isTouched = false) :
    ∃ t, runFrom ProfileViewController.step s [.button .touchDown, .button (.touchUp true)] =
        some t ∧ s.told.length < t.told.length := by
  obtain ⟨face, hface⟩ := FollowButton.react_touchDown henabled huntouched
  have hdown : s.step (.button .touchDown) =
      some { s with followButton := { s.followButton with isTouched := true, face := face } } := by
    simp only [ProfileViewController.step, hface]
  have hup : ∃ t, ProfileViewController.step
      { s with followButton := { s.followButton with isTouched := true, face := face } }
      (.button (.touchUp true)) = some t ∧ s.told.length < t.told.length := by
    simp only [ProfileViewController.step, FollowButton.react, FollowButton.followButtonTapped,
      if_true]
    cases hcurrent : s.followButton.currentButtonState with
    | loading => exact absurd hcurrent hrest
    | following => exact ⟨_, rfl, by simp [ProfileViewController.didPressFollowButton]⟩
    | notFollowing => exact ⟨_, rfl, by simp [ProfileViewController.didPressFollowButton]⟩
  obtain ⟨t, ht, htold⟩ := hup
  refine ⟨t, ?_, htold⟩
  simp [runFrom, hdown, ht]

/-- Where all orders of the completions end with an enabled button, it can be pressed again
after any of them. -/
theorem press_of_reopens {s : ProfileViewController} (h : Reopens s.followButton)
    (hrest : s.followButton.currentButtonState ≠ .loading)
    (huntouched : s.followButton.isTouched = false) :
    ∃ fs u, runFrom ProfileViewController.step s fs = some u ∧
      s.told.length < u.told.length := by
  obtain ⟨-, henabled | hexpand⟩ := h hrest
  · obtain ⟨u, hu, htold⟩ := press_of_enabled hrest henabled huntouched
    exact ⟨_, u, hu, htold⟩
  · obtain ⟨is, b, hrun, -, hcurrent, htouched, henabled⟩ := completions_ending_with hexpand
    have hlift := screen_completions s is
    rw [hrun] at hlift
    obtain ⟨u, hu, htold⟩ := press_of_enabled (s := { s with followButton := b })
      (hcurrent ▸ hrest) henabled (htouched.trans huntouched)
    exact ⟨_, u, (runFrom_append hlift).trans hu, htold⟩

/-- Without a request open, a button that some order of its completions leaves disabled
outside of loading is locked by that order. -/
theorem locked_of_not_reopens {s : ProfileViewController} (h : ¬ Reopens s.followButton)
    (hrest : s.followButton.currentButtonState ≠ .loading) (hrequests : s.requests = 0)
    (huntouched : s.followButton.isTouched = false) :
    ∃ is t, runFrom ProfileViewController.step s (screenCompletions is) = some t ∧
      Locked t := by
  by_cases hshrink : .shrink ∈ s.followButton.animations
  · obtain ⟨is, b, hrun, hnone, hcurrent, htouched, hlocked⟩ := completions_ending_with hshrink
    refine ⟨is, { s with followButton := b }, ?_, ?_⟩
    · rw [screen_completions, hrun]
      rfl
    · refine ⟨hcurrent ▸ hrest, hrequests, hlocked, htouched.trans huntouched, ?_⟩
      simp [hnone]
  · refine ⟨[], s, rfl, hrest, hrequests, ?_, huntouched, fun hexpand => ?_⟩
    · by_contra henabled
      exact h fun _ => ⟨hshrink, .inl (by simpa using henabled)⟩
    · exact h fun _ => ⟨hshrink, .inr hexpand⟩

/-- **Presses stay possible** on the profile screen, from a state outside of loading that no
finger holds and however its animations complete, exactly when all of their orders end with
an enabled button.  The durations are left open: an answer may come, and an animation may
complete, at any time. -/
theorem press_stays_possible_iff {es : List ProfileEvent} {s : ProfileViewController}
    (hrun : runFrom ProfileViewController.step {} es = some s)
    (hrest : s.followButton.currentButtonState ≠ .loading)
    (huntouched : s.followButton.isTouched = false) :
    (∀ is t, runFrom ProfileViewController.step s (screenCompletions is) = some t →
        ∃ fs u, runFrom ProfileViewController.step t fs = some u ∧
          t.told.length < u.told.length) ↔
      EndsEnabled s.followButton := by
  rw [endsEnabled_iff_reopens]
  constructor
  · intro h
    by_contra hlocks
    have hturn : InTurn s := runFrom_of_step (fun _ _ _ => InTurn.step) inTurn_start hrun
    have hrequests : s.requests = 0 := by rw [hturn.requests, if_neg hrest]
    obtain ⟨is, t, ht, hlocked⟩ := locked_of_not_reopens hlocks hrest hrequests huntouched
    obtain ⟨fs, u, hu, htold⟩ := h is t ht
    obtain ⟨-, hsame⟩ := locked_hears_no_press hlocked hu
    rw [hsame] at htold
    omega
  · intro h is t ht
    rw [screen_completions] at ht
    obtain ⟨b, hb, rfl⟩ := Option.map_eq_some_iff.mp ht
    obtain ⟨hcurrent, htouched⟩ := completions_frame hb
    exact press_of_reopens (h.completions hb) (hcurrent ▸ hrest) (htouched.trans huntouched)

/-- A request answered before the shrinking has completed can leave the button disabled for
good: the shrinking may complete after the expanding.  The screen's own timer answers after
3 s, long after the shrinking; this is what an earlier answer would do. -/
theorem no_press_after_early_answer :
    ∃ s, runFrom ProfileViewController.step {}
        [.button .layoutSubviews, .button (.runBlock 50), .button .touchDown,
          .button (.touchUp true), .finishFakeNetworkRequest] = some s ∧
      ¬ ∀ is t, runFrom ProfileViewController.step s (screenCompletions is) = some t →
        ∃ fs u, runFrom ProfileViewController.step t fs = some u ∧
          t.told.length < u.told.length := by
  have hruns : ∃ s, runFrom ProfileViewController.step {}
      [.button .layoutSubviews, .button (.runBlock 50), .button .touchDown,
        .button (.touchUp true), .finishFakeNetworkRequest] = some s ∧
      s.followButton.currentButtonState ≠ .loading ∧ s.followButton.isTouched = false ∧
      ∃ t, runFrom FollowButton.step s.followButton (completions [1, 0]) = some t ∧
        t.animations = [] ∧ t.isUserInteractionEnabled = false :=
    ⟨_, rfl, by decide, rfl, _, rfl, rfl, rfl⟩
  obtain ⟨s, hrun, hrest, huntouched, t, ht, hnone, hdisabled⟩ := hruns
  refine ⟨s, hrun, fun hpress => ?_⟩
  have hends := (press_stays_possible_iff hrun hrest huntouched).mp hpress
  have henabled := hends hrest [1, 0] t ht hnone
  rw [hdisabled] at henabled
  cases henabled

end Screen

end FollowScreen
