import Pineone.SliderReach
import Mathlib.Algebra.Order.Archimedean.Basic
import Mathlib.Tactic.FieldSimp
import Mathlib.Tactic.LinearCombination
import Mathlib.Tactic.Linarith
import Mathlib.Tactic.Ring

/-!
# The thumb under the finger

Both sliders turn the distance of a touch into a change of the value, over the width
without the thumb, and the value into the place of the thumb, over the whole width.
The filter slider rounds every change.

* `thumb_follows_finger_iff`: the thumb moves by the distance of the touch exactly when
  this is zero;
* `granularity_irrelevant_iff`: the value at the end of a drag of the filter slider
  depends on the points in between exactly when the whole drag stands for half a value
  or more and there is room for a step in its direction.
-/

namespace Sliders

open Runs

/-- The whole width against the width without the thumb. -/
theorem scaled_distance_eq_iff {width range distance : ℚ} (hwidth : thumbWidth < width)
    (hrange : 0 < range) :
    width * (range * distance / (width - thumbWidth)) / range = distance ↔ distance = 0 := by
  have hthumb : (0 : ℚ) < thumbWidth := by decide
  have hfree : width - thumbWidth ≠ 0 := (sub_pos.mpr hwidth).ne'
  constructor
  · intro h
    rw [mul_div_assoc', div_div, div_eq_iff (mul_ne_zero hfree hrange.ne')] at h
    have hproduct : thumbWidth * (range * distance) = 0 := by linear_combination h
    rcases mul_eq_zero.mp hproduct with hzero | hzero
    · exact absurd hzero hthumb.ne'
    · exact (mul_eq_zero.mp hzero).resolve_left hrange.ne'
  · rintro rfl
    simp

namespace RangeSlider

/-- The thumb that a movement of the touch moves. -/
def dragged (s : RangeSlider) : Option Thumb :=
  match s.type with
  | .range =>
      if s.lowerThumbLayer.highlighted then some .lower
      else if s.upperThumbLayer.highlighted then some .upper
      else none
  | .play => if s.playerThumbLayer.highlighted then some .player else none
  | .small => none

/-- What the value of a thumb is clamped to. -/
def limits (s : RangeSlider) : Thumb → ℚ × ℚ
  | .lower => (s.minimumValue, s.upperValue)
  | .upper => (s.lowerValue, s.maximumValue)
  | .player => (s.minimumValue, s.maximumValue)

variable {s : RangeSlider} {thumb : Thumb}

/-- A movement moves the value of the dragged thumb, within its limits. -/
theorem continueTracking_dragged (h : s.dragged = some thumb) (location : CGPoint) :
    (s.continueTracking location).value thumb =
      boundValue (s.value thumb + s.deltaValue location) (s.limits thumb).1 (s.limits thumb).2 := by
  unfold dragged at h
  unfold continueTracking
  dsimp only
  rw [updateLayerFrames_value]
  cases htype : s.type with
  | small =>
      rw [htype] at h
      cases h
  | play =>
      rw [htype] at h
      obtain ⟨hplayer, rfl⟩ := by simpa using h
      simp [hplayer, value, limits]
  | range =>
      rw [htype] at h
      by_cases hlower : s.lowerThumbLayer.highlighted = true
      · obtain rfl := by simpa [hlower] using h
        simp [hlower, value, limits]
      · obtain ⟨hupper, rfl⟩ := by simpa [hlower] using h
        simp [hlower, hupper, value, limits]

/-- A movement changes neither the size of the slider nor the range of its values. -/
theorem continueTracking_positionForValue (s : RangeSlider) (location : CGPoint) (value : ℚ) :
    (s.continueTracking location).positionForValue value = s.positionForValue value := by
  unfold positionForValue continueTracking updateLayerFrames
  dsimp only
  split <;> split_ifs <;> split <;> rfl

/-- A movement moves the thumb as far as the touch. -/
def FollowsFinger (s : RangeSlider) (location : CGPoint) (thumb : Thumb) : Prop :=
  let t := s.continueTracking location
  t.positionForValue (t.value thumb) - s.positionForValue (s.value thumb) =
    location.x - s.previousLocation.x

/-- A movement that takes no value beyond its limits. -/
structure Unclamped (s : RangeSlider) (location : CGPoint) (thumb : Thumb) : Prop where
  dragged : s.dragged = some thumb
  lower : (s.limits thumb).1 ≤ s.value thumb + s.deltaValue location
  upper : s.value thumb + s.deltaValue location ≤ (s.limits thumb).2

/-- The scale of a movement has the width of the view without a thumb, that of the drawing
the whole width; so thumb and finger go apart with every movement but one of no distance. -/
theorem followsFinger_iff (hwidth : thumbWidth < s.bounds.width)
    (hrange : s.minimumValue < s.maximumValue) {location : CGPoint}
    (h : s.Unclamped location thumb) :
    s.FollowsFinger location thumb ↔ location.x = s.previousLocation.x := by
  have hvalue : (s.continueTracking location).value thumb =
      s.value thumb + s.deltaValue location := by
    rw [continueTracking_dragged h.dragged, boundValue_eq h.lower h.upper]
  have hmoved : s.positionForValue (s.value thumb + s.deltaValue location) -
      s.positionForValue (s.value thumb) =
        s.bounds.width * s.deltaValue location / (s.maximumValue - s.minimumValue) := by
    unfold positionForValue
    ring
  unfold FollowsFinger
  dsimp only
  rw [hvalue, continueTracking_positionForValue, hmoved, deltaValue,
    scaled_distance_eq_iff hwidth (sub_pos.mpr hrange), sub_eq_zero]

end RangeSlider

namespace FilterSlider

/-- The movement, before its value is rounded, moves the thumb as far as the touch. -/
def FollowsFinger (s : FilterSlider) (location : CGPoint) : Prop :=
  s.positionForValue (s.currentValue + s.deltaValue location) -
    s.positionForValue s.currentValue = location.x - s.previousLocation.x

/-- The filter slider has the same two scales, and goes apart in the same way even before its
value is rounded. -/
theorem followsFinger_iff {s : FilterSlider} (hwidth : thumbWidth < s.bounds.width)
    (hrange : s.minimumValue < s.maximumValue) (location : CGPoint) :
    s.FollowsFinger location ↔ location.x = s.previousLocation.x := by
  have hpositive : (0 : ℚ) < (s.maximumValue - s.minimumValue : ℤ) := by
    exact_mod_cast sub_pos.mpr hrange
  have hmoved : s.positionForValue (s.currentValue + s.deltaValue location) -
      s.positionForValue s.currentValue =
        s.bounds.width * s.deltaValue location / (s.maximumValue - s.minimumValue : ℤ) := by
    unfold positionForValue
    ring
  unfold FollowsFinger
  rw [hmoved, deltaValue, scaled_distance_eq_iff hwidth hpositive, sub_eq_zero]

end FilterSlider

/-- The values turn the distance of a touch into the place of the thumb over two
different widths, so no thumb keeps up with a touch that moves. -/
theorem thumb_follows_finger_iff {s : RangeSlider} {f : FilterSlider}
    (hwidth : thumbWidth < s.bounds.width) (hrange : s.minimumValue < s.maximumValue)
    (hfilterWidth : thumbWidth < f.bounds.width) (hfilterRange : f.minimumValue < f.maximumValue)
    {location : CGPoint} {thumb : Thumb} (h : s.Unclamped location thumb) :
    (s.FollowsFinger location thumb ↔ location.x = s.previousLocation.x) ∧
      (f.FollowsFinger location ↔ location.x = f.previousLocation.x) :=
  ⟨RangeSlider.followsFinger_iff hwidth hrange h,
    FilterSlider.followsFinger_iff hfilterWidth hfilterRange location⟩

/-- A player held by its thumb. -/
def held : RangeSlider :=
  { playerThumbLayer := { highlighted := true }, bounds := { width := 60, height := 40 } }

/-- The sample movement takes the value to no limit. -/
theorem unclamped_held : held.Unclamped { x := 10 } .player where
  dragged := rfl
  lower := by decide +kernel
  upper := by decide +kernel

/-- One movement of ten points for each of the two sliders. -/
theorem thumb_follows_finger_iff_held :
    (held.FollowsFinger { x := 10 } .player ↔ (10 : ℚ) = 0) ∧
      (FilterSlider.FollowsFinger { bounds := { width := 60 } } { x := 10 } ↔ (10 : ℚ) = 0) :=
  thumb_follows_finger_iff (f := { bounds := { width := 60 } }) (by decide) (by decide)
    (by decide) (by decide) unclamped_held

/-- The thumb goes 20 points for a touch that goes 10. -/
theorem thumb_runs_ahead :
    ¬ ∀ (s : RangeSlider) (location : CGPoint) (thumb : Thumb),
      thumbWidth < s.bounds.width → s.minimumValue < s.maximumValue →
        s.Unclamped location thumb → s.FollowsFinger location thumb := by
  intro hall
  have hfollows := hall held { x := 10 } .player (by decide) (by decide) unclamped_held
  have hx := (RangeSlider.followsFinger_iff (by decide) (by decide) unclamped_held).mp hfollows
  exact absurd hx (by decide)

/-! ### Many small movements -/

/-- Movements that stand for less than half a step are rounded away. -/
theorem roundToInt_eq_zero_iff (x : ℚ) : roundToInt x = 0 ↔ |x| < 1 / 2 := by
  rw [abs_lt]
  unfold roundToInt
  split
  · next hx =>
      rw [Int.floor_eq_zero_iff, Set.mem_Ico]
      constructor
      · rintro ⟨-, hlt⟩
        exact ⟨by linarith, by linarith⟩
      · rintro ⟨-, hlt⟩
        exact ⟨by linarith, by linarith⟩
  · next hx =>
      rw [Int.ceil_eq_iff]
      push_cast
      constructor
      · rintro ⟨hgt, -⟩
        exact ⟨by linarith, by linarith⟩
      · rintro ⟨hgt, -⟩
        exact ⟨by linarith, by linarith⟩

/-- Rounding keeps the direction of a movement to the right. -/
theorem roundToInt_nonneg {x : ℚ} (h : 0 ≤ x) : 0 ≤ roundToInt x := by
  rw [roundToInt, if_pos h]
  exact Int.floor_nonneg.mpr (by linarith)

/-- And of one to the left. -/
theorem roundToInt_nonpos {x : ℚ} (h : x ≤ 0) : roundToInt x ≤ 0 := by
  rcases h.lt_or_eq with hneg | rfl
  · rw [roundToInt, if_neg hneg.not_ge]
    exact Int.ceil_le.mpr (by push_cast; linarith)
  · exact ((roundToInt_eq_zero_iff 0).mpr (by norm_num)).le

namespace FilterSlider

/-- By how much the value changes for one point. -/
def scale (s : FilterSlider) : ℚ :=
  (s.maximumValue - s.minimumValue : ℤ) / (s.bounds.width - thumbWidth)

/-- The value of a movement is its distance by the scale of the slider. -/
theorem deltaValue_eq (s : FilterSlider) (location : CGPoint) :
    s.deltaValue location = s.scale * (location.x - s.previousLocation.x) := by
  unfold deltaValue scale
  ring

/-- The movements of a drag and its end. -/
def moves (points : List CGPoint) : List FilterEvent :=
  points.map .continueTracking ++ [.endTracking]

/-- A drag from `first` over these points. -/
def gesture (first : CGPoint) (points : List CGPoint) : List FilterEvent :=
  .beginTracking first :: moves points

/-- The points lie one after the other from left to right, or from right to left. -/
def OneWay (points : List CGPoint) : Prop :=
  points.IsChain (fun p q => p.x ≤ q.x) ∨ points.IsChain (fun p q => q.x ≤ p.x)

/-- A movement changes the value to one from `lower` to `upper`. -/
def KeepsWithin (lower upper : ℤ) (s : FilterSlider) (e : FilterEvent) (_ : FilterSlider) : Prop :=
  match e with
  | .continueTracking location =>
      lower ≤ s.currentValue + roundToInt (s.deltaValue location) ∧
        s.currentValue + roundToInt (s.deltaValue location) ≤ upper
  | _ => True

instance (lower upper : ℤ) (s : FilterSlider) (e : FilterEvent) (t : FilterSlider) :
    Decidable (KeepsWithin lower upper s e t) :=
  match e with
  | .continueTracking _ => inferInstanceAs (Decidable (_ ∧ _))
  | .setDefaultValue _ | .layout _ | .beginTracking _ | .endTracking | .cancelTracking =>
      isTrue trivial

/-- A drag from `first` to `last` over the points in between leads from `s` to `t`, and its
values stay from `lower` to `upper`. -/
structure Drag (lower upper : ℤ) (first last : CGPoint) (s : FilterSlider)
    (points : List CGPoint) (t : FilterSlider) : Prop where
  oneWay : OneWay (first :: points ++ [last])
  within : StepsMeet step (KeepsWithin lower upper) s (gesture first (points ++ [last]))
  ends : runFrom step s (gesture first (points ++ [last])) = some t

/-- While the thumb is dragged, these are the scale and the limits. -/
structure Held (k : ℚ) (lower upper : ℤ) (s : FilterSlider) : Prop where
  tracking : s.isTracking = true
  highlighted : s.playerThumbLayer.highlighted = true
  scale : s.scale = k
  lower : s.minimumValue ≤ lower
  upper : upper ≤ s.maximumValue

variable {s t : FilterSlider} {k : ℚ} {lower upper : ℤ} {points : List CGPoint}

/-- A movement keeps the thumb highlighted, the scale and the limits. -/
theorem Held.continueTracking (h : s.Held k lower upper) (location : CGPoint) :
    (s.continueTracking location).Held k lower upper := by
  unfold FilterSlider.continueTracking
  dsimp only
  rw [if_pos h.highlighted]
  exact ⟨h.tracking, h.highlighted, h.scale, h.lower, h.upper⟩

/-- While the thumb is held, every movement is taken. -/
theorem Held.step_continue (h : s.Held k lower upper) (location : CGPoint) :
    step s (.continueTracking location) = some (s.continueTracking location) := by
  rw [step, if_pos h.tracking]

/-- A movement that stays within the limits adds its rounded change. -/
theorem Held.continueTracking_value (h : s.Held k lower upper) (location : CGPoint)
    (hlower : lower ≤ s.currentValue + roundToInt (s.deltaValue location))
    (hupper : s.currentValue + roundToInt (s.deltaValue location) ≤ upper) :
    (s.continueTracking location).currentValue =
      s.currentValue + roundToInt (s.deltaValue location) := by
  unfold FilterSlider.continueTracking
  dsimp only
  rw [if_pos h.highlighted]
  change min (max (s.currentValue + roundToInt (s.deltaValue location)) s.minimumValue)
    s.maximumValue = _
  rw [max_eq_left (h.lower.trans hlower), min_eq_left (hupper.trans h.upper)]

/-- The movements of a drag can go on anywhere and end there. -/
theorem Held.runs (h : s.Held k lower upper) (points : List CGPoint) :
    ∃ t, runFrom step s (moves points) = some t := by
  induction points generalizing s with
  | nil =>
      refine ⟨{ s.endTracking with isTracking := false }, ?_⟩
      rw [moves, List.map_nil, List.nil_append, runFrom, step, if_pos h.tracking]
      rfl
  | cons location points ih =>
      obtain ⟨t, ht⟩ := ih (h.continueTracking location)
      refine ⟨t, ?_⟩
      rw [moves, List.map_cons, List.cons_append, runFrom, h.step_continue, Option.bind_some]
      exact ht

/-- Where no movement within the limits can change the value, the drag does not. -/
theorem Held.unmoved {R : CGPoint → CGPoint → Prop} (h : s.Held k lower upper)
    (hR : ∀ p q, R p q → lower ≤ s.currentValue + roundToInt (k * (q.x - p.x)) →
      s.currentValue + roundToInt (k * (q.x - p.x)) ≤ upper → roundToInt (k * (q.x - p.x)) = 0)
    (hchain : (s.previousLocation :: points).IsChain R)
    (hwithin : StepsMeet step (KeepsWithin lower upper) s (moves points))
    (hrun : runFrom step s (moves points) = some t) : t.currentValue = s.currentValue := by
  induction points generalizing s with
  | nil =>
      rw [moves, List.map_nil, List.nil_append, runFrom, step, if_pos h.tracking] at hrun
      obtain rfl := Option.some.inj hrun
      rfl
  | cons location points ih =>
      obtain ⟨hfirst, hrest⟩ := List.isChain_cons_cons.mp hchain
      obtain ⟨⟨hlower, hupper⟩, hlater⟩ := hwithin _ (h.step_continue location)
      have hvalue : (s.continueTracking location).currentValue = s.currentValue := by
        rw [h.continueTracking_value location hlower hupper]
        rw [deltaValue_eq, h.scale] at hlower hupper ⊢
        rw [hR _ _ hfirst hlower hupper, add_zero]
      obtain ⟨u, hu, hrun⟩ := runFrom_cons hrun
      rw [h.step_continue] at hu
      obtain rfl := Option.some.inj hu
      rw [← hvalue] at hR ⊢
      exact ih (h.continueTracking location) hR hrest hlater hrun

/-- Movements too small for a step of the value stay within the limits. -/
theorem Held.within_of_small (h : s.Held k lower upper) (hlower : lower ≤ s.currentValue)
    (hupper : s.currentValue ≤ upper)
    (hsmall : (s.previousLocation :: points).IsChain fun p q => |k * (q.x - p.x)| < 1 / 2) :
    StepsMeet step (KeepsWithin lower upper) s (moves points) := by
  induction points generalizing s with
  | nil => exact fun t _ => ⟨trivial, trivial⟩
  | cons location points ih =>
      obtain ⟨hfirst, hrest⟩ := List.isChain_cons_cons.mp hsmall
      have hzero : roundToInt (s.deltaValue location) = 0 := by
        rw [deltaValue_eq, h.scale]
        exact (roundToInt_eq_zero_iff _).mpr hfirst
      have hkeeps : lower ≤ s.currentValue + roundToInt (s.deltaValue location) ∧
          s.currentValue + roundToInt (s.deltaValue location) ≤ upper := by
        rw [hzero, add_zero]
        exact ⟨hlower, hupper⟩
      have hvalue := h.continueTracking_value location hkeeps.1 hkeeps.2
      rw [hzero, add_zero] at hvalue
      intro t ht
      rw [h.step_continue] at ht
      obtain rfl := Option.some.inj ht
      exact ⟨hkeeps, ih (h.continueTracking location) (hvalue ▸ hlower) (hvalue ▸ hupper) hrest⟩

/-- The movements of a drag go its way, and none further than all of them. -/
theorem chain_of_signed {way : ℚ} {first last : CGPoint}
    (h : (first :: points ++ [last]).IsChain fun p q => 0 ≤ way * (q.x - p.x)) :
    0 ≤ way * (last.x - first.x) ∧ (first :: points ++ [last]).IsChain fun p q =>
      0 ≤ way * (q.x - p.x) ∧ way * (q.x - p.x) ≤ way * (last.x - first.x) := by
  induction points generalizing first with
  | nil =>
      have hpair : 0 ≤ way * (last.x - first.x) := by simpa using h
      exact ⟨hpair, by simpa using hpair⟩
  | cons p points ih =>
      obtain ⟨hfirst, hrest⟩ := List.isChain_cons_cons.mp h
      obtain ⟨htotal, hchain⟩ := ih hrest
      have hsum : way * (last.x - first.x) =
          way * (p.x - first.x) + way * (last.x - p.x) := by ring
      refine ⟨by rw [hsum]; exact add_nonneg hfirst htotal, ?_⟩
      refine List.isChain_cons_cons.mpr ⟨⟨hfirst, by rw [hsum]; linarith⟩, ?_⟩
      refine hchain.imp fun a b hab => ⟨hab.1, ?_⟩
      rw [hsum]
      linarith [hab.2]

/-- The same for either way. -/
theorem OneWay.chain {first last : CGPoint} (h : OneWay (first :: points ++ [last])) :
    (first :: points ++ [last]).IsChain (fun p q =>
      0 ≤ q.x - p.x ∧ q.x - p.x ≤ last.x - first.x) ∨
    (first :: points ++ [last]).IsChain (fun p q =>
      q.x - p.x ≤ 0 ∧ last.x - first.x ≤ q.x - p.x) := by
  rcases h with hright | hleft
  · left
    have hsigned : (first :: points ++ [last]).IsChain fun p q => 0 ≤ 1 * (q.x - p.x) :=
      hright.imp fun p q hpq => by linarith
    exact (chain_of_signed hsigned).2.imp fun p q hpq =>
      ⟨by linarith [hpq.1], by linarith [hpq.2]⟩
  · right
    have hsigned : (first :: points ++ [last]).IsChain fun p q => 0 ≤ -1 * (q.x - p.x) :=
      hleft.imp fun p q hpq => by linarith
    exact (chain_of_signed hsigned).2.imp fun p q hpq =>
      ⟨by linarith [hpq.1], by linarith [hpq.2]⟩

/-- Equal steps of `d` from `x`. -/
def equalSteps (x d : ℚ) : ℕ → List CGPoint
  | 0 => []
  | n + 1 => { x := x + d } :: equalSteps (x + d) d n

/-- The points of equal steps are the same distance apart, the end points included. -/
theorem isChain_equalSteps {first last : CGPoint} {d : ℚ} {n : ℕ}
    (hlast : last.x = first.x + (n + 1) * d) :
    (first :: equalSteps first.x d n ++ [last]).IsChain fun p q => q.x - p.x = d := by
  induction n generalizing first with
  | zero =>
      have hpair : last.x - first.x = d := by
        rw [hlast]
        push_cast
        ring
      simpa [equalSteps] using hpair
  | succ n ih =>
      refine List.isChain_cons_cons.mpr ⟨add_sub_cancel_left first.x d, ih ?_⟩
      rw [hlast]
      push_cast
      ring

/-- Any distance can be gone in equal steps, each of which stands for less than half a
value. -/
theorem exists_small_step (k distance : ℚ) :
    ∃ (n : ℕ) (d : ℚ), distance = (n + 1) * d ∧ |k * d| < 1 / 2 ∧
      (0 ≤ distance → 0 ≤ d) ∧ (distance ≤ 0 → d ≤ 0) := by
  obtain ⟨n, hn⟩ := exists_nat_gt (2 * |k * distance|)
  have hcount : (0 : ℚ) < n + 1 := by positivity
  refine ⟨n, distance / (n + 1), by field_simp, ?_, fun hright => ?_, fun hleft => ?_⟩
  · rw [mul_div_assoc', abs_div, abs_of_pos hcount, div_lt_iff₀ hcount]
    linarith
  · exact div_nonneg hright hcount.le
  · exact div_nonpos_of_nonpos_of_nonneg hleft hcount.le

/-- A movement within the limits, followed by ones too small to change the value. -/
theorem Held.detour (h : s.Held k lower upper) {location : CGPoint}
    (hlower : lower ≤ s.currentValue + roundToInt (s.deltaValue location))
    (hupper : s.currentValue + roundToInt (s.deltaValue location) ≤ upper)
    (hsmall : (location :: points).IsChain fun p q => |k * (q.x - p.x)| < 1 / 2) :
    ∃ t, StepsMeet step (KeepsWithin lower upper) s (moves (location :: points)) ∧
      runFrom step s (moves (location :: points)) = some t ∧
        t.currentValue = s.currentValue + roundToInt (s.deltaValue location) := by
  have hafter := h.continueTracking location
  have hvalue := h.continueTracking_value location hlower hupper
  have hwithin := hafter.within_of_small (hvalue ▸ hlower) (hvalue ▸ hupper) hsmall
  obtain ⟨t, ht⟩ := hafter.runs points
  have hend := hafter.unmoved
    (fun p q hpq _ _ => (roundToInt_eq_zero_iff _).mpr hpq) hsmall hwithin ht
  refine ⟨t, fun u hu => ?_, ?_, by rw [hend, hvalue]⟩
  · rw [h.step_continue] at hu
    obtain rfl := Option.some.inj hu
    exact ⟨⟨hlower, hupper⟩, hwithin⟩
  · rw [moves, List.map_cons, List.cons_append, runFrom, h.step_continue, Option.bind_some]
    exact ht

/-- The slider after a touch. -/
def touched (s : FilterSlider) (first : CGPoint) : FilterSlider :=
  { (s.beginTracking first).1 with isTracking := (s.beginTracking first).2 }

section Touched

variable {first last : CGPoint}

/-- A slider at rest takes a touch on its thumb. -/
theorem step_begin (hidle : s.isTracking = false) :
    step s (.beginTracking first) = some (s.touched first) := by
  simp [step, hidle, touched]

/-- A touch takes hold of the thumb and changes nothing else. -/
theorem held_touched (htaken : (s.beginTracking first).2 = true) (hlower : s.minimumValue ≤ lower)
    (hupper : upper ≤ s.maximumValue) : (s.touched first).Held s.scale lower upper ∧
      (s.touched first).previousLocation = first ∧
      (s.touched first).currentValue = s.currentValue := by
  refine ⟨⟨htaken, htaken, ?_, ?_, ?_⟩, ?_, ?_⟩ <;>
    simp only [touched, beginTracking, scale] <;> split_ifs <;> first | rfl | assumption

/-- The part of a drag after the touch. -/
theorem Drag.moves (h : Drag lower upper first last s points t) (hidle : s.isTracking = false) :
    StepsMeet step (KeepsWithin lower upper) (s.touched first) (moves (points ++ [last])) ∧
      runFrom step (s.touched first) (FilterSlider.moves (points ++ [last])) = some t := by
  obtain ⟨u, hu, hrun⟩ := runFrom_cons h.ends
  have hwithin := (h.within _ hu).2
  rw [step_begin hidle] at hu
  obtain rfl := Option.some.inj hu
  exact ⟨hwithin, hrun⟩

/-- A touch and movements make a drag. -/
theorem drag_of_moves (hidle : s.isTracking = false)
    (hway : OneWay (first :: points ++ [last]))
    (hwithin : StepsMeet step (KeepsWithin lower upper) (s.touched first)
      (moves (points ++ [last])))
    (hrun : runFrom step (s.touched first) (moves (points ++ [last])) = some t) :
    Drag lower upper first last s points t := by
  refine ⟨hway, fun u hu => ?_, ?_⟩
  · rw [step_begin hidle] at hu
    obtain rfl := Option.some.inj hu
    exact ⟨trivial, hwithin⟩
  · rw [gesture, runFrom, step_begin hidle, Option.bind_some]
    exact hrun

/-- A drag that makes one movement by `e` and goes on in equal steps, each of them too small
to change the value. -/
theorem exists_drag (hidle : s.isTracking = false) (htaken : (s.beginTracking first).2 = true)
    (hlower : s.minimumValue ≤ lower) (hupper : upper ≤ s.maximumValue) {e : ℚ}
    (hway : (0 ≤ e ∧ e ≤ last.x - first.x) ∨ (e ≤ 0 ∧ last.x - first.x ≤ e))
    (hlowerRoom : lower ≤ s.currentValue + roundToInt (s.scale * e))
    (hupperRoom : s.currentValue + roundToInt (s.scale * e) ≤ upper) :
    ∃ points t, Drag lower upper first last s points t ∧
      t.currentValue = s.currentValue + roundToInt (s.scale * e) := by
  obtain ⟨n, d, hdistance, hsmall, hright, hleft⟩ :=
    exists_small_step s.scale (last.x - first.x - e)
  have hsteps : (⟨first.x + e, 0⟩ :: equalSteps (first.x + e) d n ++ [last]).IsChain
      fun p q => q.x - p.x = d := isChain_equalSteps (by linarith)
  obtain ⟨hheld, hprevious, hvalue⟩ := held_touched htaken hlower hupper
  have hdelta : (s.touched first).deltaValue ⟨first.x + e, 0⟩ = s.scale * e := by
    rw [deltaValue_eq, hheld.scale, hprevious, add_sub_cancel_left]
  obtain ⟨t, hwithin, hrun, hend⟩ := hheld.detour (by rwa [hdelta, hvalue])
    (by rwa [hdelta, hvalue]) (hsteps.imp fun p q hpq => by rwa [hpq])
  rw [hdelta, hvalue] at hend
  refine ⟨⟨first.x + e, 0⟩ :: equalSteps (first.x + e) d n, t,
    drag_of_moves hidle ?_ hwithin hrun, hend⟩
  rcases hway with ⟨he, hrest⟩ | ⟨he, hrest⟩
  · have hd := hright (by linarith)
    exact Or.inl (List.isChain_cons_cons.mpr
      ⟨by linarith, hsteps.imp fun p q hpq => by linarith⟩)
  · have hd := hleft (by linarith)
    exact Or.inr (List.isChain_cons_cons.mpr
      ⟨by linarith, hsteps.imp fun p q hpq => by linarith⟩)

/-- A drag that stands for less than half a value, or that starts at the limit in its
direction, leaves the value as it is. -/
theorem Drag.unmoved (h : Drag lower upper first last s points t) (hscale : 0 < s.scale)
    (hidle : s.isTracking = false) (htaken : (s.beginTracking first).2 = true)
    (hlower : s.minimumValue ≤ lower) (hupper : upper ≤ s.maximumValue)
    (hstuck : |s.scale * (last.x - first.x)| < 1 / 2 ∨
      (first.x < last.x ∧ s.currentValue = upper) ∨
      (last.x < first.x ∧ s.currentValue = lower)) : t.currentValue = s.currentValue := by
  obtain ⟨hheld, hprevious, hvalue⟩ := held_touched htaken hlower hupper
  obtain ⟨hwithin, hrun⟩ := h.moves hidle
  rw [← hvalue] at hstuck ⊢
  rcases h.oneWay.chain with hright | hleft
  · refine hheld.unmoved ?_ (by rw [hprevious]; exact hright) hwithin hrun
    rintro p q ⟨hpositive, hpart⟩ - hroom
    have hsign := mul_nonneg hscale.le hpositive
    rcases hstuck with hsmall | ⟨-, hfull⟩ | ⟨hway, -⟩
    · have hwhole := mul_le_mul_of_nonneg_left hpart hscale.le
      rw [abs_of_nonneg (hsign.trans hwhole)] at hsmall
      rw [roundToInt_eq_zero_iff, abs_of_nonneg hsign]
      exact hwhole.trans_lt hsmall
    · have hnonneg := roundToInt_nonneg hsign
      omega
    · linarith
  · refine hheld.unmoved ?_ (by rw [hprevious]; exact hleft) hwithin hrun
    rintro p q ⟨hnegative, hpart⟩ hroom -
    have hsign := mul_nonpos_of_nonneg_of_nonpos hscale.le hnegative
    rcases hstuck with hsmall | ⟨hway, -⟩ | ⟨-, hempty⟩
    · have hwhole := mul_le_mul_of_nonneg_left hpart hscale.le
      rw [abs_of_nonpos (hwhole.trans hsign)] at hsmall
      rw [roundToInt_eq_zero_iff, abs_of_nonpos hsign]
      linarith
    · linarith
    · have hnonpos := roundToInt_nonpos hsign
      omega

/-- Where all drags end alike, none starts with a movement that counts: the whole way can
also be gone in movements that do not. -/
theorem lost_of_same_end (hidle : s.isTracking = false)
    (htaken : (s.beginTracking first).2 = true) (hlower : s.minimumValue ≤ lower)
    (hupper : upper ≤ s.maximumValue) (hlowerValue : lower ≤ s.currentValue)
    (hupperValue : s.currentValue ≤ upper)
    (hsame : ∀ ps qs t u, Drag lower upper first last s ps t →
      Drag lower upper first last s qs u → t.currentValue = u.currentValue) {e : ℚ}
    (hway : (0 ≤ e ∧ e ≤ last.x - first.x) ∨ (e ≤ 0 ∧ last.x - first.x ≤ e))
    (hlowerRoom : lower ≤ s.currentValue + roundToInt (s.scale * e))
    (hupperRoom : s.currentValue + roundToInt (s.scale * e) ≤ upper) :
    roundToInt (s.scale * e) = 0 := by
  have hzero : roundToInt (s.scale * 0) = 0 := (roundToInt_eq_zero_iff _).mpr (by norm_num)
  have hstill : (0 ≤ (0 : ℚ) ∧ 0 ≤ last.x - first.x) ∨ ((0 : ℚ) ≤ 0 ∧ last.x - first.x ≤ 0) :=
    (le_total 0 (last.x - first.x)).imp (⟨le_rfl, ·⟩) (⟨le_rfl, ·⟩)
  obtain ⟨ps, t, hps, ht⟩ := exists_drag hidle htaken hlower hupper hstill
    (by rwa [hzero, add_zero]) (by rwa [hzero, add_zero])
  obtain ⟨qs, u, hqs, hu⟩ := exists_drag hidle htaken hlower hupper hway hlowerRoom hupperRoom
  have hequal := hsame ps qs t u hps hqs
  rw [ht, hu, hzero] at hequal
  omega

/-- Each movement rounds its own change, so a drag that stands for half a value or more
can be lost in small movements, or not.  With the limits of the slider as `lower` and
`upper` no value of the drags is clamped, with those one step inside none reaches a
limit. -/
theorem granularity_irrelevant_iff (hwidth : thumbWidth < s.bounds.width)
    (hrange : s.minimumValue < s.maximumValue) (hidle : s.isTracking = false)
    (htaken : (s.beginTracking first).2 = true) (hlimits : s.minimumValue ≤ lower ∧
      lower ≤ s.currentValue ∧ s.currentValue ≤ upper ∧ upper ≤ s.maximumValue) :
    (∀ ps qs t u, Drag lower upper first last s ps t → Drag lower upper first last s qs u →
      t.currentValue = u.currentValue) ↔
    |s.scale * (last.x - first.x)| < 1 / 2 ∨
      (first.x < last.x ∧ s.currentValue = upper) ∨
      (last.x < first.x ∧ s.currentValue = lower) := by
  obtain ⟨hlower, hlowerValue, hupperValue, hupper⟩ := hlimits
  have hscale : 0 < s.scale :=
    div_pos (by exact_mod_cast sub_pos.mpr hrange) (sub_pos.mpr hwidth)
  constructor
  · intro hsame
    have hlost : ∀ e, (0 ≤ e ∧ e ≤ last.x - first.x) ∨ (e ≤ 0 ∧ last.x - first.x ≤ e) →
        lower ≤ s.currentValue + roundToInt (s.scale * e) →
        s.currentValue + roundToInt (s.scale * e) ≤ upper → roundToInt (s.scale * e) = 0 :=
      fun e => lost_of_same_end hidle htaken hlower hupper hlowerValue hupperValue hsame
    by_contra hcontra
    push Not at hcontra
    obtain ⟨hlarge, hright, hleft⟩ := hcontra
    rcases lt_trichotomy first.x last.x with hway | hway | hway
    · have hroom := lt_of_le_of_ne hupperValue (hright hway)
      rw [abs_of_pos (mul_pos hscale (sub_pos.mpr hway))] at hlarge
      have hhalf : s.scale * (1 / 2 / s.scale) = 1 / 2 := mul_div_cancel₀ _ hscale.ne'
      have hone : roundToInt (1 / 2) = 1 := by decide +kernel
      have hlt := hlost (1 / 2 / s.scale) (Or.inl ⟨by positivity, by
        rwa [div_le_iff₀ hscale, mul_comm]⟩) (by rw [hhalf, hone]; omega)
        (by rw [hhalf, hone]; omega)
      rw [hhalf, hone] at hlt
      omega
    · rw [hway, sub_self, mul_zero, abs_zero] at hlarge
      linarith
    · have hroom := lt_of_le_of_ne hlowerValue (hleft hway).symm
      rw [abs_of_neg (mul_neg_of_pos_of_neg hscale (sub_neg.mpr hway))] at hlarge
      have hhalf : s.scale * (-(1 / 2) / s.scale) = -(1 / 2) := mul_div_cancel₀ _ hscale.ne'
      have hone : roundToInt (-(1 / 2)) = -1 := by decide +kernel
      have hlt := hlost (-(1 / 2) / s.scale) (Or.inr ⟨by
        rw [neg_div, neg_nonpos]; positivity, by
        rw [le_div_iff₀ hscale]; linarith⟩) (by rw [hhalf, hone]; omega)
        (by rw [hhalf, hone]; omega)
      rw [hhalf, hone] at hlt
      omega
  · intro hstuck ps qs t u hps hqs
    rw [hps.unmoved hscale hidle htaken hlower hupper hstuck,
      hqs.unmoved hscale hidle htaken hlower hupper hstuck]

end Touched

/-- A slider at its default value, one value for each point. -/
def centred : FilterSlider :=
  setDefaultValue { bounds := { width := 130, height := 52 } } 50

/-- A drag by one point from the middle of a slider. -/
theorem granularity_irrelevant_iff_centred :
    (∀ ps qs t u, Drag 1 99 { x := 65, y := 30 } { x := 66, y := 30 } centred ps t →
      Drag 1 99 { x := 65, y := 30 } { x := 66, y := 30 } centred qs u →
        t.currentValue = u.currentValue) ↔
    |centred.scale * (66 - 65)| < 1 / 2 ∨ ((65 : ℚ) < 66 ∧ centred.currentValue = 99) ∨
      ((66 : ℚ) < 65 ∧ centred.currentValue = 1) :=
  granularity_irrelevant_iff (by decide +kernel) (by decide) (by decide) (by decide +kernel)
    (by decide)

/-- A touch that goes one point at once moves the value by one; in three movements it does
not move it. -/
theorem small_movements_lost :
    ¬ ∀ (s : FilterSlider) (first last : CGPoint) (ps qs : List CGPoint) (t u : FilterSlider),
      thumbWidth < s.bounds.width → s.minimumValue < s.maximumValue →
        Drag (s.minimumValue + 1) (s.maximumValue - 1) first last s ps t →
          Drag (s.minimumValue + 1) (s.maximumValue - 1) first last s qs u →
            t.currentValue = u.currentValue := by
  intro hall
  have honce : (runFrom step centred (gesture { x := 65, y := 30 }
      [{ x := 66, y := 30 }])).map currentValue = some 51 := by decide +kernel
  have hthrice : (runFrom step centred (gesture { x := 65, y := 30 }
      [{ x := 327 / 5, y := 30 }, { x := 329 / 5, y := 30 }, { x := 66, y := 30 }])).map
        currentValue = some 50 := by decide +kernel
  obtain ⟨t, ht, htvalue⟩ := Option.map_eq_some_iff.mp honce
  obtain ⟨u, hu, huvalue⟩ := Option.map_eq_some_iff.mp hthrice
  have hequal := hall centred { x := 65, y := 30 } { x := 66, y := 30 } []
    [{ x := 327 / 5, y := 30 }, { x := 329 / 5, y := 30 }] t u (by decide +kernel) (by decide)
    ⟨Or.inl (by decide +kernel), by decide +kernel, ht⟩
    ⟨Or.inl (by decide +kernel), by decide +kernel, hu⟩
  rw [htvalue, huvalue] at hequal
  omega

end FilterSlider

end Sliders
