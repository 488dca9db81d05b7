import Pineone.SliderDrags
import Mathlib.Logic.Relation
import Mathlib.Tactic.FieldSimp
import Mathlib.Tactic.Linarith

/-!
# Which ranges a range slider can be dragged to

A touch takes hold of the lower thumb wherever the two thumbs overlap, and each thumb is
clamped by the other.  With both thumbs at the minimum, only the lower one can be taken
hold of, and it cannot move.

* `reaches_iff`: in range mode, completed drags lead from a slider to a range exactly if
  its upper thumb is not at the minimum, or both thumbs are to stay there.
-/

namespace Sliders

open Runs Relation

/-- The width of the touch area of a thumb. -/
def touchWidth : ℚ := thumbWidth + 2 * 20

namespace RangeSlider

/-- A drag goes on. -/
def Moves (s t : RangeSlider) : Prop :=
  ∃ location, step s (.continueTracking location) = some t

/-- A completed drag. -/
def Drags (s t : RangeSlider) : Prop :=
  ∃ location u v, step s (.beginTracking location) = some u ∧ ReflTransGen Moves u v ∧
    step v .endTracking = some t

/-- The thumbs of the range are drawn at their values. -/
structure Framed (s : RangeSlider) : Prop where
  lower : s.lowerThumbLayer.frame = s.thumbFrame s.lowerValue
  upper : s.upperThumbLayer.frame = s.thumbFrame s.upperValue

/-- What holds along the runs without a cancelled drag. -/
structure Sound (s : RangeSlider) : Prop where
  limits : s.UnitLimits
  ordered : s.Ordered
  framed : s.type = .range → s.Framed
  calm : s.isTracking = false → ∀ thumb, (s.layer thumb).highlighted = false

/-- Between drags in range mode, in a view with room for two touch areas. -/
structure Ready (s : RangeSlider) : Prop extends s.Sound where
  type : s.type = .range
  idle : s.isTracking = false
  wide : 2 * touchWidth < s.bounds.width

variable {s t u v : RangeSlider} {e : SliderEvent} {thumb : Thumb} {location : CGPoint}

/-- Laying the thumbs out changes neither the type nor the bounds. -/
theorem updateLayerFrames_frame (s : RangeSlider) :
    s.updateLayerFrames.type = s.type ∧ s.updateLayerFrames.bounds = s.bounds := by
  unfold updateLayerFrames
  split <;> exact ⟨rfl, rfl⟩

/-- In range mode both thumbs are then drawn at their values. -/
theorem framed_updateLayerFrames (s : RangeSlider) :
    s.updateLayerFrames.type = .range → s.updateLayerFrames.Framed := by
  intro htype
  rw [(updateLayerFrames_frame s).1] at htype
  unfold updateLayerFrames
  rw [htype]
  exact ⟨rfl, rfl⟩

/-- The beginning of a drag moves no thumb. -/
theorem beginTracking_frame (s : RangeSlider) (location : CGPoint) :
    (s.beginTracking location).1.type = s.type ∧
      (s.beginTracking location).1.bounds = s.bounds ∧
      (s.beginTracking location).1.lowerThumbLayer.frame = s.lowerThumbLayer.frame ∧
      (s.beginTracking location).1.upperThumbLayer.frame = s.upperThumbLayer.frame := by
  unfold beginTracking
  dsimp only
  split_ifs <;> exact ⟨rfl, rfl, rfl, rfl⟩

/-- Drags leave the type and the size as they are. -/
theorem drag_frame (hstep : step s e = some t) (hdrag : e.IsDrag) :
    t.type = s.type ∧ t.bounds = s.bounds := by
  rcases step_cases hstep with ⟨type, rfl, -⟩ | ⟨current, rfl, -⟩ | ⟨bounds, rfl, -⟩ |
    ⟨location, -, -, rfl⟩ | ⟨location, -, -, rfl⟩ | ⟨-, -, rfl⟩ | ⟨-, -, rfl⟩
  · cases hdrag
  · cases hdrag
  · cases hdrag
  · obtain ⟨htype, hbounds, -⟩ := beginTracking_frame s location
    exact ⟨htype, hbounds⟩
  · unfold continueTracking
    dsimp only
    rw [(updateLayerFrames_frame _).1, (updateLayerFrames_frame _).2]
    split
    · split_ifs <;> exact ⟨rfl, rfl⟩
    · split_ifs <;> exact ⟨rfl, rfl⟩
    · exact ⟨rfl, rfl⟩
  · exact ⟨rfl, rfl⟩
  · exact ⟨rfl, rfl⟩

/-- Every event that changes a value or the bounds lays the thumbs out again; the others
leave values and frames alone. -/
theorem framed_step (h : s.type = .range → s.Framed) (hstep : step s e = some t) :
    t.type = .range → t.Framed := by
  rcases step_cases hstep with ⟨type, -, rfl⟩ | ⟨current, -, -, rfl⟩ | ⟨bounds, -, -, rfl⟩ |
    ⟨location, -, -, rfl⟩ | ⟨location, -, -, rfl⟩ | ⟨-, -, rfl⟩ | ⟨-, -, rfl⟩
  · exact framed_updateLayerFrames _
  · exact framed_updateLayerFrames _
  · exact framed_updateLayerFrames _
  · intro htype
    obtain ⟨htypes, hbounds, hlower, hupper⟩ := beginTracking_frame s location
    have hvalues := values_eq (beginTracking_values s location)
    obtain ⟨hlowerFrame, hupperFrame⟩ := h (htypes.symm.trans htype)
    constructor
    · simp [hlower, hlowerFrame, thumbFrame, positionForValue, hbounds, hvalues]
    · simp [hupper, hupperFrame, thumbFrame, positionForValue, hbounds, hvalues]
  · exact framed_updateLayerFrames _
  · exact fun htype => ⟨(h htype).lower, (h htype).upper⟩
  · exact fun htype => ⟨(h htype).lower, (h htype).upper⟩

/-- The end of a drag takes the highlight off its thumb, so that between drags none is
highlighted; only a cancellation would leave one. -/
theorem calm_step (h : s.isTracking = false → ∀ thumb, (s.layer thumb).highlighted = false)
    (hstep : step s e = some t) (hcancel : e ≠ .cancelTracking) :
    t.isTracking = false → ∀ thumb, (t.layer thumb).highlighted = false := by
  intro hidle thumb
  have hkept : ∀ {u : RangeSlider},
      (u.layer thumb).highlighted = (s.layer thumb).highlighted ∧ u.isTracking = s.isTracking →
        u.isTracking = false → (u.layer thumb).highlighted = false := by
    rintro u ⟨hhighlighted, htracking⟩ hidle
    rw [hhighlighted]
    exact h (htracking.symm.trans hidle) thumb
  rcases step_cases hstep with ⟨type, -, rfl⟩ | ⟨current, -, -, rfl⟩ | ⟨bounds, -, -, rfl⟩ |
    ⟨location, -, hbefore, rfl⟩ | ⟨location, -, hbefore, rfl⟩ | ⟨-, -, rfl⟩ | ⟨rfl, -, -⟩
  · exact hkept (setType_highlighted s thumb type) hidle
  · exact hkept (setCurrentValue_highlighted s thumb current) hidle
  · exact hkept (layout_highlighted s thumb bounds) hidle
  · obtain ⟨htaken, hhighlighted⟩ := beginTracking_spec (h hbefore) location
    have hnone : s.thumbAt location = none := by
      by_contra hsome
      rw [htaken.mpr hsome] at hidle
      cases hidle
    have hoff := hhighlighted thumb
    rw [hnone] at hoff
    cases thumb <;> simpa [layer] using hoff
  · rw [(continueTracking_spec s thumb location).2.1, hbefore] at hidle
    cases hidle
  · cases thumb <;> rfl
  · exact absurd rfl hcancel

/-- Every event but a cancellation keeps limits, order, frames and highlights. -/
theorem Sound.step (h : s.Sound) (hstep : RangeSlider.step s e = some t)
    (hcancel : e ≠ .cancelTracking) : t.Sound where
  limits := h.limits.step hstep
  ordered := h.ordered.step h.limits.2 hstep
  framed := framed_step h.framed hstep
  calm := calm_step h.calm hstep hcancel

/-- A run without a cancelled drag. -/
theorem Sound.run (h : s.Sound) {es : List SliderEvent}
    (hcancel : ∀ e ∈ es, e ≠ .cancelTracking) (hrun : runFrom RangeSlider.step s es = some t) :
    t.Sound :=
  runFrom_of_events (fun _ _ _ hs hcancel hstep => hs.step hstep hcancel) h hcancel hrun

/-- The slider starts with its values in order, nothing highlighted, and not in range mode. -/
theorem sound_initial (bounds : CGSize) : (initial bounds).Sound where
  limits := ⟨rfl, rfl⟩
  ordered := ordered_initial bounds
  framed := nofun
  calm := fun _ thumb => by cases thumb <;> rfl

/-- The end of a drag takes all highlights off. -/
theorem step_endTracking (hstep : step s .endTracking = some t) :
    t = { s.endTracking with isTracking := false } := by
  simp only [step, Option.ite_none_right_eq_some, Option.some.injEq] at hstep
  exact hstep.2.symm

/-- What a movement keeps holds until the end of the drag. -/
theorem moves_kept {P : RangeSlider → Prop}
    (hP : ∀ u v location, P u → step u (.continueTracking location) = some v → P v)
    (h : P u) (hmoves : ReflTransGen Moves u v) : P v := by
  induction hmoves with
  | refl => exact h
  | tail hmoves hlast ih =>
      obtain ⟨location, hlast⟩ := hlast
      exact hP _ _ location ih hlast

/-- A completed drag leads from a slider ready for drags to another one. -/
theorem Ready.drags (h : s.Ready) (hdrag : Drags s t) : t.Ready := by
  obtain ⟨location, u, v, hbegin, hmoves, hend⟩ := hdrag
  obtain ⟨htypeU, hboundsU⟩ := drag_frame hbegin trivial
  have hv : v.Sound ∧ v.type = s.type ∧ v.bounds = s.bounds := by
    refine moves_kept (P := fun v => v.Sound ∧ v.type = s.type ∧ v.bounds = s.bounds) ?_
      ⟨h.toSound.step hbegin nofun, htypeU, hboundsU⟩ hmoves
    rintro u v location ⟨hsound, htype, hbounds⟩ hstep
    obtain ⟨htypeV, hboundsV⟩ := drag_frame hstep trivial
    exact ⟨hsound.step hstep nofun, htypeV.trans htype, hboundsV.trans hbounds⟩
  obtain ⟨hsound, htype, hbounds⟩ := hv
  obtain ⟨htypeT, hboundsT⟩ := drag_frame hend trivial
  refine ⟨hsound.step hend nofun, htypeT.trans (htype.trans h.type), ?_, ?_⟩
  · obtain rfl := step_endTracking hend
    rfl
  · rw [hboundsT, hbounds]
    exact h.wide

/-- A touch on a thumb begins a drag of that thumb alone. -/
theorem Ready.begin_on (h : s.Ready) (hthumb : s.thumbAt location = some thumb) :
    ∃ u, step s (.beginTracking location) = some u ∧ u.isTracking = true ∧
      (∀ other, (u.layer other).highlighted = true ↔ other = thumb) ∧
      u.values = s.values := by
  obtain ⟨htaken, hhighlighted⟩ := beginTracking_spec (h.calm h.idle) location
  refine ⟨{ (s.beginTracking location).1 with isTracking := (s.beginTracking location).2 },
    ?_, ?_, ?_, beginTracking_values s location⟩
  · simp [step, h.idle]
  · apply htaken.mpr
    rw [hthumb]
    exact Option.some_ne_none thumb
  · intro other
    have hother := hhighlighted other
    rw [hthumb, Option.some.injEq] at hother
    cases other <;> exact hother.trans eq_comm

/-- In range mode a movement of the lower thumb is clamped by the upper one. -/
theorem continueTracking_lower (htype : s.type = .range)
    (hon : s.lowerThumbLayer.highlighted = true) (location : CGPoint) :
    (s.continueTracking location).value .lower =
        boundValue (s.lowerValue + s.deltaValue location) s.minimumValue s.upperValue ∧
      (s.continueTracking location).value .upper = s.upperValue := by
  unfold continueTracking
  dsimp only
  rw [updateLayerFrames_value, updateLayerFrames_value, htype]
  simp [hon, value]

/-- And one of the upper thumb by the lower one. -/
theorem continueTracking_upper (htype : s.type = .range)
    (hoff : s.lowerThumbLayer.highlighted = false)
    (hon : s.upperThumbLayer.highlighted = true) (location : CGPoint) :
    (s.continueTracking location).value .lower = s.lowerValue ∧
      (s.continueTracking location).value .upper =
        boundValue (s.upperValue + s.deltaValue location) s.lowerValue s.maximumValue := by
  unfold continueTracking
  dsimp only
  rw [updateLayerFrames_value, updateLayerFrames_value, htype]
  simp [hoff, hon, value]

/-- The touch that moves a value by `d`. -/
theorem deltaValue_of_distance (hlimits : s.UnitLimits) (hwide : thumbWidth < s.bounds.width)
    (d y : ℚ) :
    s.deltaValue { x := s.previousLocation.x + d * (s.bounds.width - thumbWidth), y := y } = d := by
  have hpos : s.bounds.width - thumbWidth ≠ 0 := (sub_pos.mpr hwide).ne'
  unfold deltaValue
  rw [hlimits.1, hlimits.2, add_sub_cancel_left, sub_zero, one_mul, mul_div_assoc,
    div_self hpos, mul_one]

/-- A value between the bounds is not changed by them. -/
theorem boundValue_eq {value lowerValue upperValue : ℚ} (hlower : lowerValue ≤ value)
    (hupper : value ≤ upperValue) : boundValue value lowerValue upperValue = value := by
  rw [boundValue, max_eq_left hlower, min_eq_left hupper]

/-- A begun drag can be moved anywhere and ended there. -/
theorem ends_at (htracking : s.isTracking = true) (location : CGPoint) :
    ∃ t, ReflTransGen Moves s (s.continueTracking location) ∧
      step (s.continueTracking location) .endTracking = some t ∧
      ∀ thumb, t.value thumb = (s.continueTracking location).value thumb := by
  have hmoved : (s.continueTracking location).isTracking = true :=
    (continueTracking_spec s .player location).2.1.trans htracking
  refine ⟨{ (s.continueTracking location).endTracking with isTracking := false },
    ReflTransGen.single ⟨location, ?_⟩, ?_, ?_⟩
  · simp [step, htracking]
  · exact if_pos hmoved
  · intro thumb
    cases thumb <;> rfl

/-- A view with room for two touch areas is wider than a thumb. -/
theorem Ready.wider (h : s.Ready) : thumbWidth < s.bounds.width := by
  have hwide := h.wide
  norm_num [touchWidth, thumbWidth] at hwide ⊢
  linarith

/-- A touched thumb can be dragged by any value `d`: such a drag ends with the values of
its one movement, out of a state `u` in which that thumb alone is highlighted. -/
theorem Ready.drag_by (h : s.Ready) (hthumb : s.thumbAt location = some thumb) (d : ℚ) :
    ∃ (u : RangeSlider) (moved : CGPoint) (t : RangeSlider), Drags s t ∧ u.type = .range ∧
      u.values = s.values ∧
      (∀ other, (u.layer other).highlighted = true ↔ other = thumb) ∧
      u.deltaValue moved = d ∧
      ∀ other, t.value other = (u.continueTracking moved).value other := by
  obtain ⟨u, hbegin, htracking, hlayers, hvalues⟩ := h.begin_on hthumb
  obtain ⟨htype, hbounds⟩ := drag_frame hbegin trivial
  have hwide : thumbWidth < u.bounds.width := hbounds ▸ h.wider
  have hdelta := deltaValue_of_distance (h.limits.step hbegin) hwide d location.y
  obtain ⟨t, hmoves, hend, ht⟩ := ends_at htracking
    { x := u.previousLocation.x + d * (u.bounds.width - thumbWidth), y := location.y }
  exact ⟨u, _, t, ⟨location, u, _, hbegin, hmoves, hend⟩, htype.trans h.type, hvalues, hlayers,
    hdelta, ht⟩

/-- The lower thumb, once touched, can be moved anywhere below the upper one. -/
theorem Ready.drag_lower (h : s.Ready) (hthumb : s.thumbAt location = some .lower) {l : ℚ}
    (hl : s.minimumValue ≤ l) (hlu : l ≤ s.upperValue) :
    ∃ t, Drags s t ∧ t.lowerValue = l ∧ t.upperValue = s.upperValue := by
  obtain ⟨u, moved, t, hdrag, htype, hvalues, hlayers, hdelta, ht⟩ :=
    h.drag_by hthumb (l - s.lowerValue)
  obtain ⟨hmin, -, hlower, hupper, -⟩ := values_eq hvalues
  obtain ⟨hmoved, hkept⟩ := continueTracking_lower htype ((hlayers .lower).mpr rfl) moved
  refine ⟨t, hdrag, (ht .lower).trans ?_, (ht .upper).trans (hkept.trans hupper)⟩
  rw [hmoved, hdelta, hlower, hmin, hupper, add_sub_cancel, boundValue_eq hl hlu]

/-- The upper thumb, once touched, can be moved anywhere above the lower one. -/
theorem Ready.drag_upper (h : s.Ready) (hthumb : s.thumbAt location = some .upper) {u : ℚ}
    (hlu : s.lowerValue ≤ u) (hu : u ≤ s.maximumValue) :
    ∃ t, Drags s t ∧ t.lowerValue = s.lowerValue ∧ t.upperValue = u := by
  obtain ⟨v, moved, t, hdrag, htype, hvalues, hlayers, hdelta, ht⟩ :=
    h.drag_by hthumb (u - s.upperValue)
  obtain ⟨-, hmax, hlower, hupper, -⟩ := values_eq hvalues
  have hoff : v.lowerThumbLayer.highlighted = false := by
    apply Bool.eq_false_iff.mpr
    intro hon
    exact absurd ((hlayers .lower).mp hon) nofun
  obtain ⟨hkept, hmoved⟩ := continueTracking_upper htype hoff ((hlayers .upper).mpr rfl) moved
  refine ⟨t, hdrag, (ht .lower).trans (hkept.trans hlower), (ht .upper).trans ?_⟩
  rw [hmoved, hdelta, hupper, hlower, hmax, add_sub_cancel, boundValue_eq hlu hu]

/-- Where a thumb is taken hold of on the middle line of the slider. -/
theorem touched_iff (s : RangeSlider) {layer : SliderThumbLayer} {value : ℚ}
    (hlayer : layer.frame = s.thumbFrame value) (x : ℚ) :
    layer.touchArea.contains { x := x, y := s.bounds.height / 2 } = true ↔
      s.positionForValue value - touchWidth / 2 ≤ x ∧
        x < s.positionForValue value + touchWidth / 2 := by
  simp only [SliderThumbLayer.touchArea, hlayer, CGRect.grownBy, CGRect.contains, thumbFrame,
    thumbWidth, touchWidth, decide_eq_true_eq]
  constructor
  · rintro ⟨hleft, hright, -, -⟩
    constructor <;> linarith
  · rintro ⟨hleft, hright⟩
    refine ⟨?_, ?_, ?_, ?_⟩ <;> linarith

/-- With the limits 0 and 1 a value is drawn at that part of the width. -/
theorem positionForValue_unit (h : s.UnitLimits) (value : ℚ) :
    s.positionForValue value = s.bounds.width * value := by
  rw [positionForValue, h.1, h.2, sub_zero, sub_zero, div_one]

/-- The lower thumb can be taken hold of at its middle. -/
theorem Ready.thumbAt_lower (h : s.Ready) :
    s.thumbAt { x := s.positionForValue s.lowerValue, y := s.bounds.height / 2 } =
      some .lower := by
  have hin := (touched_iff s (h.framed h.type).lower (s.positionForValue s.lowerValue)).mpr
    (by norm_num [touchWidth, thumbWidth])
  simp [thumbAt, h.type, hin]

/-- With the lower thumb at the minimum, the upper one can be taken hold of if it is
anywhere else. -/
theorem Ready.thumbAt_upper (h : s.Ready) (hlower : s.lowerValue = s.minimumValue)
    (hupper : s.upperValue ≠ s.minimumValue) :
    s.thumbAt { x := max (s.positionForValue s.upperValue) (touchWidth / 2),
                y := s.bounds.height / 2 } = some .upper := by
  have hwidth : 0 < s.bounds.width := lt_trans (by norm_num [thumbWidth]) h.wider
  have hpositive : 0 < s.positionForValue s.upperValue := by
    rw [positionForValue_unit h.limits]
    apply mul_pos hwidth
    rw [← h.limits.1]
    exact lt_of_le_of_ne (h.ordered.lower.trans h.ordered.range) hupper.symm
  have hzero : s.positionForValue s.lowerValue = 0 := by
    rw [positionForValue_unit h.limits, hlower, h.limits.1, mul_zero]
  have hout : ¬ s.lowerThumbLayer.touchArea.contains
      { x := max (s.positionForValue s.upperValue) (touchWidth / 2),
        y := s.bounds.height / 2 } = true := by
    rw [touched_iff s (h.framed h.type).lower, hzero, zero_add]
    exact fun hin => absurd hin.2 (not_lt.mpr (le_max_right _ _))
  have htouch : 0 < touchWidth / 2 := by norm_num [touchWidth, thumbWidth]
  have hin : s.upperThumbLayer.touchArea.contains
      { x := max (s.positionForValue s.upperValue) (touchWidth / 2),
        y := s.bounds.height / 2 } = true := by
    rw [touched_iff s (h.framed h.type).upper]
    constructor
    · exact le_trans (sub_le_self _ htouch.le) (le_max_left _ _)
    · apply max_lt <;> linarith
  simp [thumbAt, h.type, hin, hout]

/-- Both thumbs at the minimum, and the upper one not highlighted. -/
structure Stuck (s : RangeSlider) : Prop where
  minimum : s.upperValue = s.minimumValue
  upper : s.upperThumbLayer.highlighted = false

/-- Where the thumbs overlap, the touch takes hold of the lower one. -/
theorem Ready.stuck_begin (h : s.Ready) (hstuck : s.Stuck)
    (hstep : step s (.beginTracking location) = some u) : u.Stuck := by
  obtain ⟨-, hhighlighted⟩ := beginTracking_spec (h.calm h.idle) location
  simp only [step, h.idle, Option.some.injEq, if_neg Bool.false_ne_true] at hstep
  obtain rfl := hstep
  obtain ⟨hmin, -, -, hupper, -⟩ := values_eq (beginTracking_values s location)
  refine ⟨hupper.trans (hstuck.minimum.trans hmin.symm), ?_⟩
  apply Bool.eq_false_iff.mpr
  intro hon
  have htouched : s.thumbAt location = some .upper := (hhighlighted .upper).mp hon
  have hsame : s.lowerValue = s.upperValue :=
    le_antisymm h.ordered.range (hstuck.minimum ▸ h.ordered.lower)
  have hareas : s.lowerThumbLayer.touchArea = s.upperThumbLayer.touchArea := by
    rw [SliderThumbLayer.touchArea, SliderThumbLayer.touchArea, (h.framed h.type).lower,
      (h.framed h.type).upper, hsame]
  simp only [thumbAt, h.type, hareas] at htouched
  split_ifs at htouched
  cases htouched

/-- With both thumbs at the minimum a movement moves the lower one only, and that one is held
by the upper value. -/
theorem Stuck.continueTracking (h : s.Stuck)
    (hstep : step s (.continueTracking location) = some t) : t.Stuck := by
  obtain ⟨hmin, -⟩ := limits_step hstep
  simp only [step, Option.ite_none_right_eq_some, Option.some.injEq] at hstep
  obtain ⟨-, rfl⟩ := hstep
  obtain ⟨hhighlighted, -, hvalue⟩ := continueTracking_spec s .upper location
  exact ⟨(hvalue h.upper).trans (h.minimum.trans hmin.symm), hhighlighted.trans h.upper⟩

/-- A slider with both thumbs at the minimum keeps them there. -/
theorem Ready.stuck_drags (h : s.Ready) (hstuck : s.Stuck) (hdrag : Drags s t) : t.Stuck := by
  obtain ⟨location, u, v, hbegin, hmoves, hend⟩ := hdrag
  have hv : v.Stuck :=
    moves_kept (fun _ _ _ hstuck hstep => hstuck.continueTracking hstep)
      (h.stuck_begin hstuck hbegin) hmoves
  obtain rfl := step_endTracking hend
  exact ⟨hv.minimum, rfl⟩

/-- Completed drags lead from a ready slider to ready ones. -/
theorem Ready.reachable (h : s.Ready) (hreach : ReflTransGen Drags s t) : t.Ready := by
  induction hreach with
  | refl => exact h
  | tail _ hlast ih => exact ih.drags hlast

/-- And from one with both thumbs at the minimum to such ones only: a touch there always
takes the lower thumb. -/
theorem Ready.stuck_reachable (h : s.Ready) (hmin : s.upperValue = s.minimumValue)
    (hreach : ReflTransGen Drags s t) : t.Stuck := by
  induction hreach with
  | refl => exact ⟨hmin, h.calm h.idle .upper⟩
  | tail hbefore hlast ih => exact (h.reachable hbefore).stuck_drags ih hlast

/-- A completed drag moves no limit. -/
theorem limits_drags (h : s.Ready) (hdrag : Drags s t) :
    t.minimumValue = s.minimumValue ∧ t.maximumValue = s.maximumValue := by
  obtain ⟨hmin, hmax⟩ := h.limits
  obtain ⟨hminT, hmaxT⟩ := (h.drags hdrag).limits
  exact ⟨hminT.trans hmin.symm, hmaxT.trans hmax.symm⟩

/-- From a range that is not stuck: the lower thumb is brought to the minimum, so that
the upper one can be brought to `u`, and then the lower one to `l`. -/
theorem Ready.reaches (h : s.Ready) (hfree : s.upperValue ≠ s.minimumValue) {l u : ℚ}
    (hl : s.minimumValue ≤ l) (hlu : l ≤ u) (hu : u ≤ s.maximumValue) :
    ∃ t, ReflTransGen Drags s t ∧ t.lowerValue = l ∧ t.upperValue = u := by
  obtain ⟨a, hsa, hlowerA, hupperA⟩ := h.drag_lower h.thumbAt_lower (le_refl s.minimumValue)
    (h.ordered.lower.trans h.ordered.range)
  have ha := h.drags hsa
  obtain ⟨hminA, hmaxA⟩ := limits_drags h hsa
  have htouch := ha.thumbAt_upper (hlowerA.trans hminA.symm) (by rwa [hupperA, hminA])
  obtain ⟨b, hab, hlowerB, hupperB⟩ := ha.drag_upper htouch (u := u)
    (hlowerA ▸ hl.trans hlu) (hmaxA ▸ hu)
  have hb := ha.drags hab
  obtain ⟨hminB, -⟩ := limits_drags ha hab
  obtain ⟨c, hbc, hlowerC, hupperC⟩ := hb.drag_lower hb.thumbAt_lower
    ((hminB.trans hminA).trans_le hl) (hupperB ▸ hlu)
  exact ⟨c, ((ReflTransGen.single hsa).tail hab).tail hbc, hlowerC, hupperC.trans hupperB⟩

/-- In range mode after a run without a cancelled drag, the slider is ready for drags. -/
theorem ready_of_run {bounds : CGSize} {es : List SliderEvent}
    (hrun : runFrom step (initial bounds) es = some s)
    (hcancel : ∀ e ∈ es, e ≠ .cancelTracking) (htype : s.type = .range)
    (hidle : s.isTracking = false) (hwide : 2 * touchWidth < s.bounds.width) : s.Ready :=
  { (sound_initial bounds).run hcancel hrun with type := htype, idle := hidle, wide := hwide }

/-- **The ranges that drags lead to.**  Put into range mode by any run without a cancelled
drag, in a view with room for two touch areas, and dragged to `t` since: completed drags
lead from there to lower value `l` and upper value `u` exactly if the upper thumb is not
at the minimum or both thumbs are to stay there. -/
theorem reaches_iff {bounds : CGSize} {es : List SliderEvent}
    (hrun : runFrom step (initial bounds) es = some s)
    (hcancel : ∀ e ∈ es, e ≠ .cancelTracking) (htype : s.type = .range)
    (hidle : s.isTracking = false) (hwide : 2 * touchWidth < s.bounds.width)
    (ht : ReflTransGen Drags s t) {l u : ℚ}
    (hl : t.minimumValue ≤ l) (hlu : l ≤ u) (hu : u ≤ t.maximumValue) :
    (∃ v, ReflTransGen Drags t v ∧ v.lowerValue = l ∧ v.upperValue = u) ↔
      t.upperValue ≠ t.minimumValue ∨ (l = t.minimumValue ∧ u = t.minimumValue) := by
  have h : t.Ready := (ready_of_run hrun hcancel htype hidle hwide).reachable ht
  constructor
  · rintro ⟨v, hreach, rfl, rfl⟩
    by_cases hmin : t.upperValue = t.minimumValue
    · have hstuck := (h.stuck_reachable hmin hreach).minimum
      have hupper : v.upperValue = t.minimumValue :=
        hstuck.trans ((h.reachable hreach).limits.1.trans h.limits.1.symm)
      exact Or.inr ⟨le_antisymm (hlu.trans hupper.le) hl, hupper⟩
    · exact Or.inl hmin
  · rintro (hfree | ⟨rfl, rfl⟩)
    · exact h.reaches hfree hl hlu hu
    · by_cases hmin : t.upperValue = t.minimumValue
      · exact ⟨t, .refl, le_antisymm (h.ordered.range.trans hmin.le) h.ordered.lower, hmin⟩
      · exact h.reaches hmin hl hlu hu

/-- A slider of 300 by 40, put into range mode. -/
def wide : RangeSlider := (initial { width := 300, height := 40 }).setType .range

/-- Two targets in the middle, for a wide slider. -/
theorem reaches_iff_wide :
    (∃ v, ReflTransGen Drags wide v ∧ v.lowerValue = 1 / 4 ∧ v.upperValue = 1 / 2) ↔
      wide.upperValue ≠ wide.minimumValue ∨
        ((1 / 4 : ℚ) = wide.minimumValue ∧ (1 / 2 : ℚ) = wide.minimumValue) :=
  @reaches_iff wide wide { width := 300, height := 40 } [.setType .range] rfl (by decide) rfl
    rfl (by decide +kernel) .refl (1 / 4) (1 / 2) (by decide +kernel) (by decide +kernel)
    (by decide +kernel)

/-- Once the upper thumb has been dragged to the minimum, the full range is out of reach. -/
theorem full_range_out_of_reach :
    ¬ ∀ (bounds : CGSize) (t : RangeSlider), 2 * touchWidth < bounds.width →
      ReflTransGen Drags ((initial bounds).setType .range) t →
      ∀ l u : ℚ, t.minimumValue ≤ l → l ≤ u → u ≤ t.maximumValue →
        ∃ v, ReflTransGen Drags t v ∧ v.lowerValue = l ∧ v.upperValue = u := by
  intro h
  have hwide : 2 * touchWidth < wide.bounds.width := by decide +kernel
  have hready : wide.Ready :=
    @ready_of_run wide { width := 300, height := 40 } [.setType .range] rfl (by decide) rfl rfl
      hwide
  have hend : (runFrom step wide [.beginTracking { x := 290, y := 20 },
      .continueTracking { x := 20, y := 20 }, .endTracking]).map (fun t => t.upperValue) =
        some 0 := by decide +kernel
  obtain ⟨t, hrun, hupper⟩ := Option.map_eq_some_iff.mp hend
  obtain ⟨u, hbegin, hrest⟩ := runFrom_cons hrun
  obtain ⟨v, hmove, hrest⟩ := runFrom_cons hrest
  obtain ⟨w, hdone, hlast⟩ := runFrom_cons hrest
  obtain rfl := Option.some.inj hlast
  have hdrag : ReflTransGen Drags wide w :=
    .single ⟨_, u, v, hbegin, .single ⟨_, hmove⟩, hdone⟩
  have ht := hready.reachable hdrag
  obtain ⟨hmin, hmax⟩ := ht.limits
  obtain ⟨x, hreach, -, htarget⟩ := h { width := 300, height := 40 } w hwide hdrag 0 1 hmin.le
    zero_le_one hmax.ge
  have hstuck := (ht.stuck_reachable (hupper.trans hmin.symm) hreach).minimum
  rw [htarget, (ht.reachable hreach).limits.1] at hstuck
  exact one_ne_zero hstuck

end RangeSlider

end Sliders
