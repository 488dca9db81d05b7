import Pineone.Runs
import Mathlib.Algebra.Order.Ring.Rat
import Mathlib.Order.MinMax

/-!
# The range slider of the player

A slider with three thumbs over one track: one for the current value while playing, and
a lower and an upper one for a range.  A drag is begun on a thumb, which is highlighted
and moves its value with the touch; the values are clamped against each other.
Coordinates and values are exact rationals.

* `ordered_throughout`: whatever is done to the slider, `minimum ≤ lower ≤ upper ≤
  maximum` and `minimum ≤ current ≤ maximum`.
-/

namespace Sliders

open Runs

structure CGPoint where
  x : ℚ := 0
  y : ℚ := 0
  deriving DecidableEq, Repr

structure CGSize where
  width : ℚ := 0
  height : ℚ := 0
  deriving DecidableEq, Repr

structure CGRect where
  x : ℚ := 0
  y : ℚ := 0
  width : ℚ := 0
  height : ℚ := 0
  deriving DecidableEq, Repr

/-- The rectangle grown by `d` on every side: `insetBy(dx: -d, dy: -d)`. -/
def CGRect.grownBy (r : CGRect) (d : ℚ) : CGRect :=
  { x := r.x - d, y := r.y - d, width := r.width + 2 * d, height := r.height + 2 * d }

/-- A rectangle contains its left and top edges, not the right and the bottom ones. -/
def CGRect.contains (r : CGRect) (p : CGPoint) : Bool :=
  decide (r.x ≤ p.x ∧ p.x < r.x + r.width ∧ r.y ≤ p.y ∧ p.y < r.y + r.height)

/-- A thumb: where it is drawn, and whether it is being dragged. -/
structure SliderThumbLayer where
  frame : CGRect := {}
  highlighted : Bool := false
  deriving DecidableEq, Repr

/-- Where a touch takes hold of a thumb. -/
def SliderThumbLayer.touchArea (thumb : SliderThumbLayer) : CGRect := thumb.frame.grownBy 20

inductive SliderType
  | play
  | range
  | small
  deriving DecidableEq, Repr

structure RangeSlider where
  type : SliderType := .play
  minimumValue : ℚ := 0
  maximumValue : ℚ := 1
  currentValue : ℚ := 0
  lowerValue : ℚ := 0
  upperValue : ℚ := 1
  lowerThumbLayer : SliderThumbLayer := {}
  upperThumbLayer : SliderThumbLayer := {}
  playerThumbLayer : SliderThumbLayer := {}
  previousLocation : CGPoint := {}
  bounds : CGSize := {}
  isTracking : Bool := false
  deriving DecidableEq, Repr

/-- What is done to the slider: the drag events are those of a `UIControl`. -/
inductive SliderEvent
  | setType (type : SliderType)
  | setCurrentValue (current : ℚ)
  | layout (bounds : CGSize)
  | beginTracking (location : CGPoint)
  | continueTracking (location : CGPoint)
  | endTracking
  /-- The system cancels the drag. -/
  | cancelTracking
  deriving DecidableEq, Repr

def thumbWidth : ℚ := 30

def boundValue (value lowerValue upperValue : ℚ) : ℚ := min (max value lowerValue) upperValue

namespace RangeSlider

def positionForValue (s : RangeSlider) (value : ℚ) : ℚ :=
  s.bounds.width * (value - s.minimumValue) / (s.maximumValue - s.minimumValue)

/-- The frame of the thumb for `value`. -/
def thumbFrame (s : RangeSlider) (value : ℚ) : CGRect :=
  { x := s.positionForValue value - thumbWidth / 2
    y := s.bounds.height / 2 - thumbWidth / 2
    width := thumbWidth
    height := thumbWidth }

/-- Only the thumbs of the slider's type are moved. -/
def updateLayerFrames (s : RangeSlider) : RangeSlider :=
  match s.type with
  | .play =>
      { s with playerThumbLayer :=
          { s.playerThumbLayer with frame := s.thumbFrame s.currentValue } }
  | .range =>
      { s with
        lowerThumbLayer := { s.lowerThumbLayer with frame := s.thumbFrame s.lowerValue }
        upperThumbLayer := { s.upperThumbLayer with frame := s.thumbFrame s.upperValue } }
  | .small => s

/-- `type` is set, with its `didSet`. -/
def setType (s : RangeSlider) (type : SliderType) : RangeSlider :=
  let s := { s with type := type }
  (if type = .small then s
    else { s with lowerValue := s.currentValue, upperValue := 1 }).updateLayerFrames

def setCurrentValue (s : RangeSlider) (current : ℚ) : RangeSlider :=
  updateLayerFrames { s with currentValue := current }

def layout (s : RangeSlider) (bounds : CGSize) : RangeSlider :=
  updateLayerFrames { s with bounds := bounds }

/-- `beginTracking`, and whether it takes the touch. -/
def beginTracking (s : RangeSlider) (location : CGPoint) : RangeSlider × Bool :=
  if s.type = .small then (s, false)
  else
    let s := { s with previousLocation := location }
    let s :=
      if s.type = .range then
        if s.lowerThumbLayer.touchArea.contains location then
          { s with lowerThumbLayer := { s.lowerThumbLayer with highlighted := true } }
        else if s.upperThumbLayer.touchArea.contains location then
          { s with upperThumbLayer := { s.upperThumbLayer with highlighted := true } }
        else s
      else if s.playerThumbLayer.touchArea.contains location then
        { s with playerThumbLayer := { s.playerThumbLayer with highlighted := true } }
      else s
    (s, ((s.lowerThumbLayer.highlighted || s.upperThumbLayer.highlighted) &&
        decide (s.type = .range)) ||
      (s.playerThumbLayer.highlighted && decide (s.type = .play)))

/-- By how much a value changes when the touch moves to `location`. -/
def deltaValue (s : RangeSlider) (location : CGPoint) : ℚ :=
  (s.maximumValue - s.minimumValue) * (location.x - s.previousLocation.x) /
    (s.bounds.width - thumbWidth)

def continueTracking (s : RangeSlider) (location : CGPoint) : RangeSlider :=
  let deltaValue := s.deltaValue location
  let s := { s with previousLocation := location }
  updateLayerFrames <|
    match s.type with
    | .range =>
        if s.lowerThumbLayer.highlighted then
          { s with lowerValue :=
              boundValue (s.lowerValue + deltaValue) s.minimumValue s.upperValue }
        else if s.upperThumbLayer.highlighted then
          { s with upperValue :=
              boundValue (s.upperValue + deltaValue) s.lowerValue s.maximumValue }
        else s
    | .play =>
        if s.playerThumbLayer.highlighted then
          { s with currentValue :=
              boundValue (s.currentValue + deltaValue) s.minimumValue s.maximumValue }
        else s
    | .small => s

def endTracking (s : RangeSlider) : RangeSlider :=
  { s with
    lowerThumbLayer := { s.lowerThumbLayer with highlighted := false }
    upperThumbLayer := { s.upperThumbLayer with highlighted := false }
    playerThumbLayer := { s.playerThumbLayer with highlighted := false } }

/-- Current values come from the range of the slider, and the view stays wider than a
thumb.  A drag goes on while the control is tracking; a cancelled one only stops that. -/
def step (s : RangeSlider) : SliderEvent → Option RangeSlider
  | .setType type => some (s.setType type)
  | .setCurrentValue current =>
      if s.minimumValue ≤ current ∧ current ≤ s.maximumValue then
        some (s.setCurrentValue current)
      else none
  | .layout bounds => if thumbWidth < bounds.width then some (s.layout bounds) else none
  | .beginTracking location =>
      if s.isTracking then none
      else
        let (s, takesTouch) := s.beginTracking location
        some { s with isTracking := takesTouch }
  | .continueTracking location =>
      if s.isTracking then some (s.continueTracking location) else none
  | .endTracking => if s.isTracking then some { s.endTracking with isTracking := false } else none
  | .cancelTracking => if s.isTracking then some { s with isTracking := false } else none

/-- The initial slider in a view of this size. -/
def initial (bounds : CGSize) : RangeSlider := { bounds := bounds }

/-- The order of the values. -/
structure Ordered (s : RangeSlider) : Prop where
  lower : s.minimumValue ≤ s.lowerValue
  range : s.lowerValue ≤ s.upperValue
  upper : s.upperValue ≤ s.maximumValue
  current : s.minimumValue ≤ s.currentValue ∧ s.currentValue ≤ s.maximumValue

end RangeSlider

/-- A bounded value is not above its upper bound. -/
theorem boundValue_le (value lowerValue : ℚ) {upperValue : ℚ} :
    boundValue value lowerValue upperValue ≤ upperValue := min_le_right _ _

/-- And not below the lower one, where the bounds are in order. -/
theorem le_boundValue (value : ℚ) {lowerValue upperValue : ℚ} (h : lowerValue ≤ upperValue) :
    lowerValue ≤ boundValue value lowerValue upperValue :=
  le_min (le_max_right _ _) h

namespace RangeSlider

variable {s t : RangeSlider} {e : SliderEvent}

/-- The values of the slider. -/
def values (s : RangeSlider) : ℚ × ℚ × ℚ × ℚ × ℚ :=
  (s.minimumValue, s.maximumValue, s.lowerValue, s.upperValue, s.currentValue)

/-- Equal tuples of values, value by value. -/
theorem values_eq (hvalues : t.values = s.values) :
    t.minimumValue = s.minimumValue ∧ t.maximumValue = s.maximumValue ∧
      t.lowerValue = s.lowerValue ∧ t.upperValue = s.upperValue ∧
      t.currentValue = s.currentValue := by
  simpa only [values, Prod.mk.injEq] using hvalues

/-- The order is one of the values alone: layers, bounds and the touch do not matter. -/
theorem Ordered.of_values (h : s.Ordered) (hvalues : t.values = s.values) : t.Ordered := by
  obtain ⟨hmin, hmax, hlower, hupper, hcurrent⟩ := values_eq hvalues
  refine ⟨?_, ?_, ?_, ?_⟩
  · rw [hmin, hlower]
    exact h.lower
  · rw [hlower, hupper]
    exact h.range
  · rw [hupper, hmax]
    exact h.upper
  · rw [hmin, hmax, hcurrent]
    exact h.current

@[simp] theorem updateLayerFrames_values (s : RangeSlider) :
    s.updateLayerFrames.values = s.values := by
  unfold updateLayerFrames
  split <;> rfl

/-- Laying the thumbs out moves no value. -/
theorem Ordered.updateLayerFrames (h : s.Ordered) : s.updateLayerFrames.Ordered :=
  h.of_values (updateLayerFrames_values s)

@[simp] theorem beginTracking_values (s : RangeSlider) (location : CGPoint) :
    (s.beginTracking location).1.values = s.values := by
  unfold beginTracking
  dsimp only
  split_ifs <;> rfl

/-- A switch to another type than `small` resets the upper value to 1 and the lower one to
the current value, so that it needs the maximum to be 1. -/
theorem Ordered.setType (h : s.Ordered) (hone : s.maximumValue = 1) (type : SliderType) :
    (s.setType type).Ordered := by
  unfold RangeSlider.setType
  apply Ordered.updateLayerFrames
  dsimp only
  split
  · exact h.of_values rfl
  · exact ⟨h.current.1, hone ▸ h.current.2, hone.ge, h.current⟩

/-- Each thumb is clamped between its neighbours: the lower and the upper one against each
other, and the one of the player between the ends of the slider. -/
theorem Ordered.continueTracking (h : s.Ordered) (location : CGPoint) :
    (s.continueTracking location).Ordered := by
  have hbounds := h.current.1.trans h.current.2
  unfold RangeSlider.continueTracking
  apply Ordered.updateLayerFrames
  dsimp only
  split
  · split_ifs
    · exact ⟨le_boundValue _ (h.lower.trans h.range), boundValue_le _ _, h.upper, h.current⟩
    · exact ⟨h.lower, le_boundValue _ (h.range.trans h.upper), boundValue_le _ _, h.current⟩
    · exact h.of_values rfl
  · split_ifs
    · exact ⟨h.lower, h.range, h.upper, le_boundValue _ hbounds, boundValue_le _ _⟩
    · exact h.of_values rfl
  · exact h.of_values rfl

/-- What an event does, and when it can happen. -/
theorem step_cases (hstep : step s e = some t) :
    (∃ type, e = .setType type ∧ t = s.setType type) ∨
    (∃ current, e = .setCurrentValue current ∧
      (s.minimumValue ≤ current ∧ current ≤ s.maximumValue) ∧ t = s.setCurrentValue current) ∨
    (∃ bounds, e = .layout bounds ∧ thumbWidth < bounds.width ∧ t = s.layout bounds) ∨
    (∃ location, e = .beginTracking location ∧ s.isTracking = false ∧
      t = { (s.beginTracking location).1 with isTracking := (s.beginTracking location).2 }) ∨
    (∃ location, e = .continueTracking location ∧ s.isTracking = true ∧
      t = s.continueTracking location) ∨
    (e = .endTracking ∧ s.isTracking = true ∧ t = { s.endTracking with isTracking := false }) ∨
    (e = .cancelTracking ∧ s.isTracking = true ∧ t = { s with isTracking := false }) := by
  cases e <;> simp only [step, Option.ite_none_left_eq_some, Option.ite_none_right_eq_some,
    Option.some.injEq] at hstep <;> grind

/-- Nothing changes the limits: they are set when the slider is made, and no event of it
writes them. -/
theorem limits_step (hstep : step s e = some t) :
    t.minimumValue = s.minimumValue ∧ t.maximumValue = s.maximumValue := by
  have hlayers : ∀ u : RangeSlider, u.updateLayerFrames.minimumValue = u.minimumValue ∧
      u.updateLayerFrames.maximumValue = u.maximumValue := by
    intro u
    obtain ⟨hmin, hmax, -⟩ := values_eq (updateLayerFrames_values u)
    exact ⟨hmin, hmax⟩
  rcases step_cases hstep with ⟨type, -, rfl⟩ | ⟨current, -, -, rfl⟩ | ⟨bounds, -, -, rfl⟩ |
    ⟨location, -, -, rfl⟩ | ⟨location, -, -, rfl⟩ | ⟨-, -, rfl⟩ | ⟨-, -, rfl⟩
  · unfold RangeSlider.setType
    dsimp only
    split <;> exact hlayers _
  · exact hlayers _
  · exact hlayers _
  · obtain ⟨hmin, hmax, -⟩ := values_eq (beginTracking_values s location)
    exact ⟨hmin, hmax⟩
  · unfold RangeSlider.continueTracking
    dsimp only
    split
    · split_ifs <;> exact hlayers _
    · split_ifs <;> exact hlayers _
    · exact hlayers _
  · exact ⟨rfl, rfl⟩
  · exact ⟨rfl, rfl⟩

/-- Every event keeps the order; the type switch resets the upper value to 1, which is
the maximum. -/
theorem Ordered.step (h : s.Ordered) (hone : s.maximumValue = 1)
    (hstep : RangeSlider.step s e = some t) : t.Ordered := by
  rcases step_cases hstep with ⟨type, -, rfl⟩ | ⟨current, -, hcurrent, rfl⟩ |
    ⟨bounds, -, -, rfl⟩ | ⟨location, -, -, rfl⟩ | ⟨location, -, -, rfl⟩ | ⟨-, -, rfl⟩ |
    ⟨-, -, rfl⟩
  · exact h.setType hone type
  · exact Ordered.updateLayerFrames ⟨h.lower, h.range, h.upper, hcurrent⟩
  · exact Ordered.updateLayerFrames (h.of_values rfl)
  · exact h.of_values (beginTracking_values s location)
  · exact h.continueTracking location
  · exact h.of_values rfl
  · exact h.of_values rfl

/-- The limits are the initial ones, 0 and 1. -/
def UnitLimits (s : RangeSlider) : Prop := s.minimumValue = 0 ∧ s.maximumValue = 1

/-- No event moves a limit. -/
theorem UnitLimits.step (h : s.UnitLimits) (hstep : RangeSlider.step s e = some t) :
    t.UnitLimits := by
  obtain ⟨hmin, hmax⟩ := limits_step hstep
  exact ⟨hmin.trans h.1, hmax.trans h.2⟩

/-- The initial values are in order, from 0 to 1. -/
theorem ordered_initial (bounds : CGSize) : (initial bounds).Ordered := by
  refine ⟨le_refl _, ?_, le_refl _, le_refl _, ?_⟩ <;> exact zero_le_one

/-- **The values stay ordered** in every run from the initial slider: the limits are 0
and 1, `0 ≤ lower ≤ upper ≤ 1` and `0 ≤ current ≤ 1`. -/
theorem ordered_throughout (bounds : CGSize) (es : List SliderEvent) :
    Throughout step (fun s => s.UnitLimits ∧ s.Ordered) (initial bounds) es :=
  throughout_of_step
    (fun _ _ _ hs hstep => ⟨hs.1.step hstep, hs.2.step hs.1.2 hstep⟩)
    ⟨⟨rfl, rfl⟩, ordered_initial bounds⟩ es

end RangeSlider

end Sliders
