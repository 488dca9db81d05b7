import Pineone.RangeSlider
import Mathlib.Data.Rat.Floor

/-!
# The filter slider

A slider with one thumb over the whole numbers from 0 to 100, in the manner of
`RangeSlider`: each touch event moves the value by the rounded distance it stands for.
-/

namespace Sliders

/-- `Int(round(x))` rounds to the nearest integer, and halves away from zero. -/
def roundToInt (x : ℚ) : ℤ := if 0 ≤ x then ⌊x + 1 / 2⌋ else ⌈x - 1 / 2⌉

structure FilterSlider where
  minimumValue : ℤ := 0
  maximumValue : ℤ := 100
  currentValue : ℤ := 0
  defaultValue : ℤ := 50
  playerThumbLayer : SliderThumbLayer := {}
  previousLocation : CGPoint := {}
  bounds : CGSize := {}
  isTracking : Bool := false
  deriving DecidableEq, Repr

inductive FilterEvent
  | setDefaultValue (value : ℤ)
  | layout (bounds : CGSize)
  | beginTracking (location : CGPoint)
  | continueTracking (location : CGPoint)
  | endTracking
  /-- The system cancels the drag. -/
  | cancelTracking
  deriving DecidableEq, Repr

namespace FilterSlider

def positionForValue (s : FilterSlider) (value : ℚ) : ℚ :=
  s.bounds.width * (value - s.minimumValue) / (s.maximumValue - s.minimumValue : ℤ)

def boundValue (value lowerValue upperValue : ℤ) : ℤ := min (max value lowerValue) upperValue

def updateLayerFrames (s : FilterSlider) : FilterSlider :=
  { s with playerThumbLayer := { s.playerThumbLayer with
      frame :=
        { x := s.positionForValue s.currentValue - thumbWidth / 2
          y := s.bounds.height - thumbWidth
          width := thumbWidth
          height := thumbWidth } } }

/-- `currentValue` is set, with its `didSet`. -/
def setCurrentValue (s : FilterSlider) (value : ℤ) : FilterSlider :=
  updateLayerFrames { s with currentValue := value }

/-- `defaultValue` is set, with its `didSet`. -/
def setDefaultValue (s : FilterSlider) (value : ℤ) : FilterSlider :=
  setCurrentValue { s with defaultValue := value } value

def layout (s : FilterSlider) (bounds : CGSize) : FilterSlider :=
  updateLayerFrames { s with bounds := bounds }

/-- `beginTracking`, and whether it takes the touch. -/
def beginTracking (s : FilterSlider) (location : CGPoint) : FilterSlider × Bool :=
  let s := { s with previousLocation := location }
  let s :=
    if s.playerThumbLayer.touchArea.contains location then
      { s with playerThumbLayer := { s.playerThumbLayer with highlighted := true } }
    else s
  (s, s.playerThumbLayer.highlighted)

/-- By how much the value changes, before rounding, when the touch moves to
`location`. -/
def deltaValue (s : FilterSlider) (location : CGPoint) : ℚ :=
  (s.maximumValue - s.minimumValue : ℤ) * (location.x - s.previousLocation.x) /
    (s.bounds.width - thumbWidth)

def continueTracking (s : FilterSlider) (location : CGPoint) : FilterSlider :=
  let s :=
    if s.playerThumbLayer.highlighted then
      let s := s.setCurrentValue (s.currentValue + roundToInt (s.deltaValue location))
      s.setCurrentValue (boundValue s.currentValue s.minimumValue s.maximumValue)
    else s
  updateLayerFrames { s with previousLocation := location }

def endTracking (s : FilterSlider) : FilterSlider :=
  { s with playerThumbLayer := { s.playerThumbLayer with highlighted := false } }

/-- The view stays wider than the thumb. -/
def step (s : FilterSlider) : FilterEvent → Option FilterSlider
  | .setDefaultValue value => some (s.setDefaultValue value)
  | .layout bounds => if thumbWidth < bounds.width then some (s.layout bounds) else none
  | .beginTracking location =>
      if s.isTracking then none
      else
        let (s, takesTouch) := s.beginTracking location
        some { s with isTracking := takesTouch }
  | .continueTracking location =>
      if s.isTracking then some (s.continueTracking location) else none
  | .endTracking => if s.isTracking then some { s.endTracking with isTracking := false } else none
  | .cancelTracking => if s.isTracking then some { s with isTracking := false } else none

end FilterSlider

end Sliders
