import Pineone.HitTesting
import Pineone.SliderReach
import Mathlib

/-!
# The controls of the player

A `PlayerSliderView` is a range slider between three buttons, which are shown for all types of
the slider but `small`.  `setupSlider` sets their `alpha` at once and `isHidden`, when it hides
them, in the completion of an animation.  A tap reaches them twelve points around their bounds.
Points are in the coordinates of the view, whichever way it is turned.

* `tapped_at_rest`: in every run, while no animation is under way, the width, the type of the
  slider and the place of a tap tell which control takes it.
-/

namespace PlayerControls

open HitTesting Sliders Runs

/-- The views of a `PlayerSliderView`, and the view itself. -/
inductive PlayerControl
  | container
  | playButton
  | sliderView
  | speedButton
  | repeatButton
  deriving DecidableEq, Repr

/-- An animation of `setupSlider`, with the type that its completion reads. -/
structure Fade where
  type : SliderType
  changesAlpha : Bool
  deriving DecidableEq, Repr

/-- `isHidden` and `alpha` are those of the three buttons; `animations` are under way, in the
order they were begun in. -/
structure PlayerSliderView where
  sliderView : RangeSlider
  isHidden : Bool := false
  alpha : ℚ := 1
  animations : List Fade := []
  deriving DecidableEq, Repr

inductive PlayerEvent
  /-- One of the buttons for a type is tapped. -/
  | sliderTypeChange (type : SliderType)
  /-- The animation with this index ends. -/
  | animationEnds (i : ℕ)
  | sliderCurrentValueChange (current : ℚ)
  /-- The device is turned, which gives the view another width. -/
  | rotateView (width : ℚ)
  | touchesBegan (point : CGPoint)
  | touchesMoved (point : CGPoint)
  | touchesEnded
  | touchesCancelled
  deriving DecidableEq, Repr

/-- A button of the view. -/
def button (name : PlayerControl) (x : ℚ) (isHidden : Bool) (alpha : ℚ) : View PlayerControl :=
  .node { name := name, kind := .uiButton, origin := ⟨x, 0⟩, bounds := ⟨0, 0, 38, 38⟩,
          isHidden := isHidden, alpha := alpha } []

/-- The range slider between the play button and the speed button. -/
def slider (width : ℚ) : View PlayerControl :=
  .node { name := .sliderView, origin := ⟨48, 0⟩, bounds := ⟨0, 0, width - 143, 38⟩ } []

/-- `setupLayout` in a view of this width and a height of 38. -/
def setupLayout (width : ℚ) (isHidden : Bool) (alpha : ℚ) : View PlayerControl :=
  .node { name := .container, origin := ⟨0, 0⟩, bounds := ⟨0, 0, width, 38⟩ }
    [ button .playButton 0 isHidden alpha,
      slider width,
      button .speedButton (width - 83) isHidden alpha,
      button .repeatButton (width - 38) isHidden alpha ]

namespace PlayerSliderView

/-- The width that leaves the slider its own one. -/
def width (s : PlayerSliderView) : ℚ := s.sliderView.bounds.width + 143

/-- The control that takes a tap. -/
def tapped (s : PlayerSliderView) (point : CGPoint) : Option PlayerControl :=
  (setupLayout s.width s.isHidden s.alpha).hitTest point

def setupSlider (s : PlayerSliderView) (type : SliderType) : PlayerSliderView :=
  let alpha := if type = .small then 0 else 1
  { sliderView := s.sliderView.setType type
    isHidden := if type = .small then s.isHidden else false
    alpha := alpha
    animations := s.animations ++ [{ type := type, changesAlpha := decide (alpha ≠ s.alpha) }] }

/-- The completion of an animation.  All last equally long, so that they end in their order, but
for those that change nothing, which end at once. -/
def complete (s : PlayerSliderView) (i : ℕ) : Option PlayerSliderView :=
  (s.animations[i]?).bind fun fade =>
    if i = 0 ∨ fade.changesAlpha = false then
      some { s with
        isHidden := decide (fade.type = .small)
        animations := s.animations.eraseIdx i }
    else none

def withSlider (s : PlayerSliderView) (e : SliderEvent) : Option PlayerSliderView :=
  (s.sliderView.step e).map fun sliderView => { s with sliderView := sliderView }

/-- A point in the coordinates of the slider. -/
def sliderLocation (point : CGPoint) : CGPoint := { x := point.x - 48, y := point.y }

def step (s : PlayerSliderView) : PlayerEvent → Option PlayerSliderView
  | .sliderTypeChange type => some (s.setupSlider type)
  | .animationEnds i => s.complete i
  | .sliderCurrentValueChange current => s.withSlider (.setCurrentValue current)
  | .rotateView width => s.withSlider (.layout { width := width - 143, height := 38 })
  | .touchesBegan point =>
      if s.tapped point = some .sliderView then
        s.withSlider (.beginTracking (sliderLocation point))
      else some s
  | .touchesMoved point => s.withSlider (.continueTracking (sliderLocation point))
  | .touchesEnded => s.withSlider .endTracking
  | .touchesCancelled => s.withSlider .cancelTracking

/-- The view once it is laid out. -/
def initial (width : ℚ) : PlayerSliderView :=
  { sliderView := .initial { width := width - 143, height := 38 } }

end PlayerSliderView

/-- Where the controls are for a type of the slider.  The margins of the buttons cover the gaps
between them; where two of them meet, the button further right is in front. -/
def controlAt (width : ℚ) (type : SliderType) (point : CGPoint) : Option PlayerControl :=
  if (0 ≤ point.y ∧ point.y < 38) ∧ 0 ≤ point.x ∧ point.x < width then
    if type = .small then
      if 48 ≤ point.x ∧ point.x < width - 95 then some .sliderView else some .container
    else if point.x < 48 then some .playButton
    else if point.x < width - 95 then some .sliderView
    else if point.x < width - 50 then some .speedButton
    else some .repeatButton
  else none

section Layout

variable {width alpha : ℚ} {isHidden : Bool} {point : CGPoint}

/-- The area of a button within the height of the view. -/
theorem hitTest_button (name : PlayerControl) (x : ℚ) (hy : 0 ≤ point.y) (hy' : point.y < 38) :
    (button name x isHidden alpha).hitTest
        ((button name x isHidden alpha).layer.convertFrom point) =
      if (isHidden = false ∧ 1 / 100 < alpha) ∧ x - 12 ≤ point.x ∧ point.x < x + 50 then
        some name
      else none := by
  unfold button
  rw [View.hitTest_leaf]
  refine if_congr ?_ rfl rfl
  simp only [Layer.takes, Layer.takesWithin, contains_iff, CGRect.grownBy, Layer.convertFrom,
    View.layer, true_and]
  constructor
  · rintro ⟨hshown, halpha, hleft, hright, -, -⟩
    exact ⟨⟨hshown, halpha⟩, by linarith, by linarith⟩
  · rintro ⟨⟨hshown, halpha⟩, hleft, hright⟩
    exact ⟨hshown, halpha, by linarith, by linarith, by linarith, by linarith⟩

/-- Inside the control bar a touch hits the slider between the two margins of its frame, as
far as the bar is wide enough to have any room between them. -/
theorem hitTest_slider (hy : 0 ≤ point.y) (hy' : point.y < 38) :
    (slider width).hitTest ((slider width).layer.convertFrom point) =
      if 48 ≤ point.x ∧ point.x < width - 95 then some .sliderView else none := by
  unfold slider
  rw [View.hitTest_leaf]
  refine if_congr ?_ rfl rfl
  simp only [Layer.takes, contains_iff, Layer.convertFrom, View.layer, true_and]
  constructor
  · rintro ⟨-, hleft, hright, -, -⟩
    exact ⟨by linarith, by linarith⟩
  · rintro ⟨hleft, hright⟩
    exact ⟨by norm_num, by linarith, by linarith, by linarith, by linarith⟩

/-- The view takes the touches inside its bounds, also while its buttons are hidden: what
fades is in it, and the view itself is not hidden. -/
theorem setupLayout_takes_iff :
    (setupLayout width isHidden alpha).layer.takes point ↔
      (0 ≤ point.y ∧ point.y < 38) ∧ 0 ≤ point.x ∧ point.x < width := by
  simp only [setupLayout, View.layer, Layer.takes, contains_iff, zero_add, true_and]
  constructor
  · rintro ⟨-, hleft, hright, htop, hbottom⟩
    exact ⟨⟨htop, hbottom⟩, hleft, hright⟩
  · rintro ⟨⟨htop, hbottom⟩, hleft, hright⟩
    exact ⟨by norm_num, hleft, hright, htop, hbottom⟩

/-- Buttons that are shown exactly for the types other than `small` are where `controlAt` has
them, in a view that is wide enough for its constraints. -/
theorem hitTest_setupLayout (hwidth : 143 ≤ width) {type : SliderType}
    (htype : (isHidden = false ∧ 1 / 100 < alpha) ↔ type ≠ .small) :
    (setupLayout width isHidden alpha).hitTest point = controlAt width type point := by
  unfold controlAt
  by_cases hinside : (0 ≤ point.y ∧ point.y < 38) ∧ 0 ≤ point.x ∧ point.x < width
  · rw [View.hitTest_of_takes (setupLayout_takes_iff.mpr hinside), if_pos hinside]
    obtain ⟨⟨hy, hy'⟩, hx, hx'⟩ := hinside
    have hname : (setupLayout width isHidden alpha).layer.name = .container := rfl
    have hsubviews : (setupLayout width isHidden alpha).subviews =
      [button .playButton 0 isHidden alpha, slider width,
        button .speedButton (width - 83) isHidden alpha,
        button .repeatButton (width - 38) isHidden alpha] := rfl
    rw [hname, hsubviews]
    simp only [View.hitSubviews, hitTest_button _ _ hy hy', hitTest_slider hy hy', htype]
    by_cases hsmall : type = .small
    · simp only [hsmall, ne_eq, not_true_eq_false, false_and, if_false, if_true]
      split_ifs <;> rfl
    · have hrepeat : width - 38 - 12 ≤ point.x ∧ point.x < width - 38 + 50 ↔
          ¬ point.x < width - 50 := by
        constructor
        · rintro ⟨hleft, -⟩
          linarith
        · intro hright
          exact ⟨by linarith, by linarith⟩
      have hspeed : width - 83 - 12 ≤ point.x ∧ point.x < width - 83 + 50 ↔
          ¬ point.x < width - 95 ∧ point.x < width - 33 := by
        constructor
        · rintro ⟨hleft, hright⟩
          exact ⟨by linarith, by linarith⟩
        · rintro ⟨hleft, hright⟩
          exact ⟨by linarith, by linarith⟩
      have hplay : (0 : ℚ) - 12 ≤ point.x ∧ point.x < 0 + 50 ↔ point.x < 50 := by
        constructor
        · rintro ⟨-, hright⟩
          linarith
        · intro hright
          exact ⟨by linarith, by linarith⟩
      simp only [hsmall, ne_eq, not_false_eq_true, true_and, hrepeat, hspeed, hplay, if_false]
      split_ifs <;> first | rfl | (exfalso; grind)
  · rw [View.hitTest_of_not_takes (mt setupLayout_takes_iff.mp hinside), if_neg hinside]

end Layout

section Fades

/-- The fade under way at `k - 1` is the last one that changes `alpha`, or there is none and `k`
is zero.  It leads to buttons that are hidden exactly for the type `small`, which `isSmall` tells,
and the later ones leave them so. -/
structure LeadsTo (animations : List Fade) (isHidden isSmall : Bool) (k : ℕ) : Prop where
  le : k ≤ animations.length
  last : ∀ i fade, animations[i]? = some fade → i + 1 = k →
    fade.changesAlpha = true ∧ decide (fade.type = .small) = isSmall
  later : ∀ i fade, animations[i]? = some fade → k ≤ i →
    fade.changesAlpha = false ∧ decide (fade.type = .small) = isSmall
  settled : k = 0 → isHidden = isSmall

variable {animations : List Fade} {isHidden isSmall : Bool} {k i : ℕ} {fade : Fade}

/-- A fade that changes nothing is begun. Its completion can come before those of the fades
that were begun earlier, and sets the same at the end. -/
theorem LeadsTo.begin_same (h : LeadsTo animations isHidden isSmall k)
    (hchanges : fade.changesAlpha = false) (hsmall : decide (fade.type = .small) = isSmall) :
    LeadsTo (animations ++ [fade]) isHidden isSmall k := by
  refine ⟨?_, ?_, ?_, h.settled⟩
  · rw [List.length_append]
    exact h.le.trans (Nat.le_add_right _ _)
  · intro j other hother hj
    rw [List.getElem?_append_left (by have := h.le; omega)] at hother
    exact h.last j other hother hj
  · intro j other hother hj
    rcases Nat.lt_or_ge j animations.length with hlt | hge
    · rw [List.getElem?_append_left hlt] at hother
      exact h.later j other hother hj
    · rw [List.getElem?_append_right hge, List.getElem?_singleton] at hother
      split at hother
      · obtain rfl := Option.some.inj hother
        exact ⟨hchanges, hsmall⟩
      · cases hother

/-- A fade that changes `alpha` is begun, and decides. -/
theorem leadsTo_begin (animations : List Fade) (isHidden : Bool)
    (hchanges : fade.changesAlpha = true) (hsmall : decide (fade.type = .small) = isSmall) :
    LeadsTo (animations ++ [fade]) isHidden isSmall (animations.length + 1) := by
  refine ⟨by simp, ?_, ?_, ?_⟩
  · intro j other hother hj
    obtain rfl : j = animations.length := by omega
    rw [List.getElem?_concat_length] at hother
    obtain rfl := Option.some.inj hother
    exact ⟨hchanges, hsmall⟩
  · intro j other hother hj
    have hlt : j < (animations ++ [fade]).length := (List.getElem?_eq_some_iff.mp hother).1
    rw [List.length_append, List.length_singleton] at hlt
    omega
  · intro hzero
    omega

/-- A fade ends: the first one, or one that changes nothing. What the fades lead to is the
same before and after. -/
theorem LeadsTo.complete (h : LeadsTo animations isHidden isSmall k)
    (hfade : animations[i]? = some fade) (hends : i = 0 ∨ fade.changesAlpha = false) :
    LeadsTo (animations.eraseIdx i) (decide (fade.type = .small)) isSmall
      (if i < k then k - 1 else k) := by
  have hlt : i < animations.length := (List.getElem?_eq_some_iff.mp hfade).1
  have hle := h.le
  -- only the first fade can be the last one that changes `alpha` and end
  have hlast : i + 1 = k → i = 0 := by
    intro hik
    rcases hends with hzero | hsame
    · exact hzero
    · have hchanges := (h.last i fade hfade hik).1
      rw [hsame] at hchanges
      cases hchanges
  refine ⟨?_, ?_, ?_, ?_⟩
  · rw [List.length_eraseIdx_of_lt hlt]
    split <;> omega
  · intro j other hother hj
    rw [List.getElem?_eraseIdx] at hother
    split at hj <;> split at hother
    · omega
    · exact h.last (j + 1) other hother (by omega)
    · exact h.last j other hother hj
    · omega
  · intro j other hother hj
    rw [List.getElem?_eraseIdx] at hother
    split at hj <;> split at hother
    · omega
    · exact h.later (j + 1) other hother (by omega)
    · exact h.later j other hother hj
    · exact h.later (j + 1) other hother (by omega)
  · intro hzero
    split at hzero
    · exact (h.last i fade hfade (by omega)).2
    · exact (h.later i fade hfade (by omega)).2

end Fades

section Runs

variable {s t : PlayerSliderView} {e : PlayerEvent} {type : SliderType}

/-- What holds in every run. -/
structure PlayerSliderView.Settles (s : PlayerSliderView) : Prop where
  wide : 0 ≤ s.sliderView.bounds.width
  alpha : s.alpha = if s.sliderView.type = .small then 0 else 1
  leads : ∃ k, LeadsTo s.animations s.isHidden (decide (s.sliderView.type = .small)) k

namespace PlayerSliderView

/-- What the flow of time and a new width leave as it is. -/
theorem setCurrentValue_frame (slider : RangeSlider) (current : ℚ) :
    (slider.setCurrentValue current).type = slider.type ∧
      (slider.setCurrentValue current).bounds = slider.bounds :=
  RangeSlider.updateLayerFrames_frame _

/-- Laying the slider out changes its bounds and not its type. -/
theorem layout_frame (slider : RangeSlider) (bounds : CGSize) :
    (slider.layout bounds).type = slider.type ∧ (slider.layout bounds).bounds = bounds :=
  RangeSlider.updateLayerFrames_frame _

/-- Switching the type changes no bounds. -/
theorem setType_frame (slider : RangeSlider) (type : SliderType) :
    (slider.setType type).type = type ∧ (slider.setType type).bounds = slider.bounds := by
  unfold RangeSlider.setType
  dsimp only
  rw [(RangeSlider.updateLayerFrames_frame _).1, (RangeSlider.updateLayerFrames_frame _).2]
  split <;> exact ⟨rfl, rfl⟩

/-- A new type starts its fade, which is the last one to change `alpha` unless that has its
value already. -/
theorem Settles.setupSlider (h : s.Settles) (type : SliderType) : (s.setupSlider type).Settles := by
  obtain ⟨k, hk⟩ := h.leads
  obtain ⟨htype, hbounds⟩ := setType_frame s.sliderView type
  have halpha : (s.setupSlider type).alpha =
      if (s.setupSlider type).sliderView.type = .small then 0 else 1 := by
    show _ = if (s.sliderView.setType type).type = .small then (0 : ℚ) else 1
    rw [htype]
    rfl
  refine ⟨?_, halpha, ?_⟩
  · show 0 ≤ (s.sliderView.setType type).bounds.width
    rw [hbounds]
    exact h.wide
  · show ∃ k, LeadsTo _ _ (decide ((s.sliderView.setType type).type = .small)) k
    rw [htype]
    by_cases hsame : decide (s.sliderView.type = .small) = decide (type = .small)
    · have hiff : s.sliderView.type = .small ↔ type = .small := decide_eq_decide.mp hsame
      refine ⟨k, LeadsTo.begin_same ?_ ?_ rfl⟩
      · refine ⟨hk.le, hsame ▸ hk.last, hsame ▸ hk.later, fun hzero => ?_⟩
        have hhidden := hk.settled hzero
        dsimp only [PlayerSliderView.setupSlider]
        split
        · next hsmall => rw [hhidden, hsame]
        · next hsmall => exact (decide_eq_false hsmall).symm
      · have hunchanged : (if type = .small then (0 : ℚ) else 1) = s.alpha := by
          rw [h.alpha]
          exact if_congr hiff.symm rfl rfl
        simp [hunchanged]
    · have hniff : ¬ (s.sliderView.type = .small ↔ type = .small) :=
        fun hiff => hsame (decide_eq_decide.mpr hiff)
      refine ⟨_, leadsTo_begin _ _ ?_ rfl⟩
      have hchanged : (if type = .small then (0 : ℚ) else 1) ≠ s.alpha := by
        rw [h.alpha]
        split_ifs with hsmall hbefore hbefore
        · exact absurd (iff_of_true hbefore hsmall) hniff
        · norm_num
        · norm_num
        · exact absurd (iff_of_false hbefore hsmall) hniff
      exact decide_eq_true hchanged

/-- A completion hides the buttons or leaves them as they are, and those of the later fades
leave them so. -/
theorem Settles.complete {i : ℕ} (h : s.Settles) (hstep : s.complete i = some t) : t.Settles := by
  obtain ⟨k, hk⟩ := h.leads
  obtain ⟨fade, hfade, hends⟩ := Option.bind_eq_some_iff.mp hstep
  split at hends
  · next hcan =>
      obtain rfl := Option.some.inj hends
      exact ⟨h.wide, h.alpha, _, hk.complete hfade hcan⟩
  · cases hends

/-- What keeps the type of the slider and leaves it a width changes nothing else. -/
theorem Settles.withSlider {e : SliderEvent} (h : s.Settles) (hstep : s.withSlider e = some t)
    (hkeeps : ∀ slider, s.sliderView.step e = some slider →
      slider.type = s.sliderView.type ∧ 0 ≤ slider.bounds.width) : t.Settles := by
  obtain ⟨slider, hslider, rfl⟩ := Option.map_eq_some_iff.mp hstep
  obtain ⟨htype, hwide⟩ := hkeeps slider hslider
  refine ⟨hwide, ?_, ?_⟩
  · show s.alpha = if slider.type = .small then 0 else 1
    rw [htype]
    exact h.alpha
  · show ∃ k, LeadsTo _ _ (decide (slider.type = .small)) k
    rw [htype]
    exact h.leads

/-- A drag moves a thumb; it has nothing to do with the fades, and the slider keeps its type
and width. -/
theorem Settles.drag {e : SliderEvent} (h : s.Settles) (hdrag : e.IsDrag)
    (hstep : s.withSlider e = some t) : t.Settles := by
  refine h.withSlider hstep fun slider hslider => ?_
  obtain ⟨htype, hbounds⟩ := RangeSlider.drag_frame hslider hdrag
  exact ⟨htype, hbounds ▸ h.wide⟩

/-- Every event keeps where the fades lead to, in whatever order they complete. The last fade
that changes `alpha` decides. -/
theorem Settles.step (h : s.Settles) (hstep : PlayerSliderView.step s e = some t) :
    t.Settles := by
  cases e with
  | sliderTypeChange type =>
      obtain rfl := Option.some.inj hstep
      exact h.setupSlider type
  | animationEnds i => exact h.complete hstep
  | sliderCurrentValueChange current =>
      refine h.withSlider hstep fun slider hslider => ?_
      simp only [RangeSlider.step, Option.ite_none_right_eq_some, Option.some.injEq] at hslider
      obtain ⟨-, rfl⟩ := hslider
      obtain ⟨htype, hbounds⟩ := setCurrentValue_frame s.sliderView current
      exact ⟨htype, hbounds ▸ h.wide⟩
  | rotateView width =>
      refine h.withSlider hstep fun slider hslider => ?_
      simp only [RangeSlider.step, Option.ite_none_right_eq_some, Option.some.injEq] at hslider
      obtain ⟨hwide, rfl⟩ := hslider
      obtain ⟨htype, hbounds⟩ := layout_frame s.sliderView { width := width - 143, height := 38 }
      rw [hbounds]
      exact ⟨htype, le_trans (by norm_num [thumbWidth]) hwide.le⟩
  | touchesBegan point =>
      simp only [PlayerSliderView.step] at hstep
      split at hstep
      · exact h.drag (e := .beginTracking _) trivial hstep
      · obtain rfl := Option.some.inj hstep
        exact h
  | touchesMoved point => exact h.drag (e := .continueTracking _) trivial hstep
  | touchesEnded => exact h.drag (e := .endTracking) trivial hstep
  | touchesCancelled => exact h.drag (e := .cancelTracking) trivial hstep

/-- The view starts with its buttons shown, for the type it was made with. -/
theorem settles_initial {width : ℚ} (hwidth : 143 ≤ width) : (initial width).Settles := by
  refine ⟨?_, rfl, 0, ⟨Nat.zero_le _, ?_, ?_, fun _ => rfl⟩⟩
  · show 0 ≤ width - 143
    linarith
  · intro i fade hfade
    cases hfade
  · intro i fade hfade
    cases hfade

/-- With all fades completed, the buttons are hidden exactly for the type `small`, so that
the type tells what a tap hits. -/
theorem Settles.tapped (h : s.Settles) (hrest : s.animations = []) (point : CGPoint) :
    s.tapped point = controlAt s.width s.sliderView.type point := by
  obtain ⟨k, hk⟩ := h.leads
  have hzero : k = 0 := by
    have hle := hk.le
    rw [hrest] at hle
    exact Nat.le_zero.mp hle
  have hhidden := hk.settled hzero
  have hwide := h.wide
  apply hitTest_setupLayout
  · unfold PlayerSliderView.width
    linarith
  · rw [hhidden, h.alpha]
    by_cases hsmall : s.sliderView.type = .small
    · simp [hsmall]
    · simp only [hsmall, decide_false, if_false, true_and, ne_eq, not_false_eq_true, iff_true]
      norm_num

/-- **Taps reach what is shown.**  In every run of the player's controls, however types are
changed while animations are under way, once these have ended a tap is taken by the control that
the type of the slider has at its place: no button takes one while the type is `small`, and all
of them do for the other types. -/
theorem tapped_at_rest {width : ℚ} (hwidth : 143 ≤ width) (es : List PlayerEvent) :
    Throughout PlayerSliderView.step (fun s => s.animations = [] →
      ∀ point, s.tapped point = controlAt s.width s.sliderView.type point) (initial width) es :=
  (throughout_of_step (fun _ _ _ => Settles.step) (settles_initial hwidth) es).mono
    (J := fun _ => True) (fun _ _ _ _ _ => trivial) (fun _ _ h => h.tapped) trivial

/-- The buttons are hidden and, before that has ended, shown again: the last points of the speed
button belong to the repeat button. -/
theorem tapped_after_two_fades :
    ∃ s, runFrom PlayerSliderView.step (initial 275)
        [.sliderTypeChange .small, .sliderTypeChange .range, .animationEnds 0, .animationEnds 0] =
          some s ∧
      s.tapped ⟨227, 19⟩ = some .repeatButton := by
  have hwidth : (143 : ℚ) ≤ 275 := by norm_num
  have hruns := tapped_at_rest hwidth
    [.sliderTypeChange .small, .sliderTypeChange .range, .animationEnds 0, .animationEnds 0]
  refine ⟨_, rfl, ?_⟩
  rw [hruns.last rfl rfl]
  norm_num [controlAt, width, setupSlider, RangeSlider.setType, RangeSlider.updateLayerFrames,
    initial, RangeSlider.initial]
  intro hsmall
  cases hsmall

end PlayerSliderView

end Runs

end PlayerControls
