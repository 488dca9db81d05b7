import Pineone.FilterSlider

/-!
# Drags of a slider move one thumb

A drag is begun on a thumb, and the thumb remembers it by its `highlighted` flag.
`endTracking` clears the flags; when the system cancels a drag nothing does.

* `drags_move_only_their_thumb`: for both sliders, no thumb is highlighted between
  drags, a drag is taken exactly if it starts on a thumb and changes no other value,
  exactly as long as no drag is cancelled.
-/

namespace Sliders

open Runs

inductive Thumb
  | lower
  | upper
  | player
  deriving DecidableEq, Repr

namespace RangeSlider

def layer (s : RangeSlider) : Thumb → SliderThumbLayer
  | .lower => s.lowerThumbLayer
  | .upper => s.upperThumbLayer
  | .player => s.playerThumbLayer

def value (s : RangeSlider) : Thumb → ℚ
  | .lower => s.lowerValue
  | .upper => s.upperValue
  | .player => s.currentValue

/-- The thumb a touch takes hold of, among those of the slider's type. -/
def thumbAt (s : RangeSlider) (location : CGPoint) : Option Thumb :=
  match s.type with
  | .range =>
      if s.lowerThumbLayer.touchArea.contains location then some .lower
      else if s.upperThumbLayer.touchArea.contains location then some .upper
      else none
  | .play => if s.playerThumbLayer.touchArea.contains location then some .player else none
  | .small => none

variable (s : RangeSlider) (thumb : Thumb)

@[simp] theorem updateLayerFrames_highlighted :
    (s.updateLayerFrames.layer thumb).highlighted = (s.layer thumb).highlighted := by
  unfold updateLayerFrames
  split <;> cases thumb <;> rfl

@[simp] theorem updateLayerFrames_isTracking :
    s.updateLayerFrames.isTracking = s.isTracking := by
  unfold updateLayerFrames
  split <;> rfl

@[simp] theorem updateLayerFrames_value : s.updateLayerFrames.value thumb = s.value thumb := by
  unfold updateLayerFrames
  split <;> cases thumb <;> rfl

/-- A switch of the type moves values and frames; it takes no thumb and leaves none. A drag
that is under way goes on with the thumb it began with. -/
theorem setType_highlighted (type : SliderType) :
    ((s.setType type).layer thumb).highlighted = (s.layer thumb).highlighted ∧
      (s.setType type).isTracking = s.isTracking := by
  unfold setType
  dsimp only
  split <;> rw [updateLayerFrames_highlighted, updateLayerFrames_isTracking] <;>
    cases thumb <;> exact ⟨rfl, rfl⟩

/-- Setting the current value takes no thumb either: the value moves the thumb of the player,
and whether that one is highlighted is decided by touches only. -/
theorem setCurrentValue_highlighted (current : ℚ) :
    ((s.setCurrentValue current).layer thumb).highlighted = (s.layer thumb).highlighted ∧
      (s.setCurrentValue current).isTracking = s.isTracking := by
  unfold setCurrentValue
  rw [updateLayerFrames_highlighted, updateLayerFrames_isTracking]
  cases thumb <;> exact ⟨rfl, rfl⟩

/-- A layout pass takes no thumb either. The frames follow from the new bounds, and the
highlights and the tracking are read by none of them. -/
theorem layout_highlighted (bounds : CGSize) :
    ((s.layout bounds).layer thumb).highlighted = (s.layer thumb).highlighted ∧
      (s.layout bounds).isTracking = s.isTracking := by
  unfold layout
  rw [updateLayerFrames_highlighted, updateLayerFrames_isTracking]
  cases thumb <;> exact ⟨rfl, rfl⟩

/-- Where a drag begins no value changes, whether a thumb is hit or not. The touch highlights
and remembers its location, and the values move with the movements only. -/
theorem beginTracking_value (location : CGPoint) :
    (s.beginTracking location).1.value thumb = s.value thumb := by
  obtain ⟨-, -, hlower, hupper, hcurrent⟩ := values_eq (beginTracking_values s location)
  cases thumb with
  | lower => exact hlower
  | upper => exact hupper
  | player => exact hcurrent

/-- Where no thumb is highlighted, a touch highlights the thumb it takes hold of, and is
taken if there is one. -/
theorem beginTracking_spec {s : RangeSlider}
    (hnone : ∀ thumb, (s.layer thumb).highlighted = false) (location : CGPoint) :
    ((s.beginTracking location).2 = true ↔ s.thumbAt location ≠ none) ∧
      ∀ thumb, ((s.beginTracking location).1.layer thumb).highlighted = true ↔
        s.thumbAt location = some thumb := by
  have hlower : s.lowerThumbLayer.highlighted = false := hnone .lower
  have hupper : s.upperThumbLayer.highlighted = false := hnone .upper
  have hplayer : s.playerThumbLayer.highlighted = false := hnone .player
  cases htype : s.type with
  | small =>
      simp only [beginTracking, thumbAt, htype, if_true]
      exact ⟨by decide, fun thumb => by simp [hnone thumb]⟩
  | range =>
      by_cases hinLower : s.lowerThumbLayer.touchArea.contains location = true
      · simp only [beginTracking, thumbAt, htype, hinLower]
        refine ⟨by simp, fun thumb => ?_⟩
        cases thumb <;> simp [layer, hupper, hplayer]
      · by_cases hinUpper : s.upperThumbLayer.touchArea.contains location = true
        · simp only [beginTracking, thumbAt, htype, hinLower, hinUpper]
          refine ⟨by simp, fun thumb => ?_⟩
          cases thumb <;> simp [layer, hlower, hplayer]
        · simp only [beginTracking, thumbAt, htype, hinLower, hinUpper]
          refine ⟨by simp [hlower, hupper], fun thumb => ?_⟩
          cases thumb <;> simp [layer, hlower, hupper, hplayer]
  | play =>
      by_cases hinPlayer : s.playerThumbLayer.touchArea.contains location = true
      · simp only [beginTracking, thumbAt, htype, hinPlayer]
        refine ⟨by simp, fun thumb => ?_⟩
        cases thumb <;> simp [layer, hlower, hupper]
      · simp only [beginTracking, thumbAt, htype, hinPlayer]
        refine ⟨by simp [hplayer], fun thumb => ?_⟩
        cases thumb <;> simp [layer, hlower, hupper, hplayer]

/-- Continuing a drag changes values of highlighted thumbs only, and leaves the highlights
themselves. So with one thumb highlighted, the dragged one, the others keep their values. -/
theorem continueTracking_spec (location : CGPoint) :
    ((s.continueTracking location).layer thumb).highlighted = (s.layer thumb).highlighted ∧
      (s.continueTracking location).isTracking = s.isTracking ∧
      ((s.layer thumb).highlighted = false →
        (s.continueTracking location).value thumb = s.value thumb) := by
  unfold continueTracking
  dsimp only
  rw [updateLayerFrames_highlighted, updateLayerFrames_isTracking, updateLayerFrames_value]
  cases thumb <;> grind [layer, value]

end RangeSlider

/-- The events of a drag. -/
def SliderEvent.IsDrag : SliderEvent → Prop
  | .beginTracking _ | .continueTracking _ | .endTracking | .cancelTracking => True
  | _ => False

/-- A range slider and the thumb its last drag was begun on. -/
structure RangeDrag where
  slider : RangeSlider
  startedOn : Option Thumb := none
  deriving DecidableEq, Repr

namespace RangeDrag

def step (d : RangeDrag) (e : SliderEvent) : Option RangeDrag :=
  (d.slider.step e).map fun slider =>
    { slider := slider
      startedOn := match e with
        | .beginTracking location => d.slider.thumbAt location
        | _ => d.startedOn }

/-- Not being dragged, and no thumb highlighted. -/
def Idle (d : RangeDrag) : Prop :=
  d.slider.isTracking = false ∧ ∀ thumb, (d.slider.layer thumb).highlighted = false

/-- No thumb is highlighted between drags, a touch is taken exactly on a thumb, and a
drag changes no value but that of the thumb it was begun on. -/
structure MovesOnlyItsThumb (d : RangeDrag) (e : SliderEvent) (t : RangeDrag) : Prop where
  between : t.slider.isTracking = false → ∀ thumb, (t.slider.layer thumb).highlighted = false
  taken : ∀ location, e = .beginTracking location →
    (t.slider.isTracking = true ↔ d.slider.thumbAt location ≠ none)
  others : e.IsDrag → ∀ thumb, t.startedOn ≠ some thumb →
    t.slider.value thumb = d.slider.value thumb

/-- The system cancels no drag. -/
def NotCancelled (_ : RangeDrag) (e : SliderEvent) (_ : RangeDrag) : Prop :=
  e ≠ .cancelTracking

/-- During a drag the thumb it was begun on is highlighted, and no other one. -/
structure Synced (d : RangeDrag) : Prop where
  dragging : d.slider.isTracking = true → ∃ thumb, d.startedOn = some thumb
  highlighted : ∀ thumb, (d.slider.layer thumb).highlighted = true ↔
    d.slider.isTracking = true ∧ d.startedOn = some thumb

variable {d t : RangeDrag} {e : SliderEvent}

/-- Between drags no thumb is highlighted. The next touch that hits a thumb then highlights
this thumb alone. -/
theorem Synced.between (h : d.Synced) (hidle : d.slider.isTracking = false) (thumb : Thumb) :
    (d.slider.layer thumb).highlighted = false := by
  have hiff := h.highlighted thumb
  rw [hidle] at hiff
  simpa using hiff

/-- A slider at rest has no thumb highlighted, so that nothing needs to be known of where a
drag began. -/
theorem synced_of_idle (h : d.Idle) : d.Synced := by
  obtain ⟨htracking, hnone⟩ := h
  refine ⟨fun h => ?_, fun thumb => ?_⟩
  · rw [htracking] at h
    cases h
  · simp [hnone thumb, htracking]

/-- Whatever keeps the highlights and the tracking keeps the slider in step: these are all
the record speaks of, besides the thumb on which the drag began. -/
theorem Synced.of_frame (h : d.Synced) {slider : RangeSlider}
    (hkept : ∀ thumb, (slider.layer thumb).highlighted = (d.slider.layer thumb).highlighted ∧
      slider.isTracking = d.slider.isTracking) :
    Synced { slider := slider, startedOn := d.startedOn } := by
  refine ⟨fun htracking => h.dragging ((hkept .lower).2 ▸ htracking), fun thumb => ?_⟩
  rw [(hkept thumb).1, (hkept thumb).2]
  exact h.highlighted thumb

/-- An event other than a cancellation keeps the highlight on the dragged thumb: a touch sets
it, movements and settings leave it, and the end of the drag takes it off. -/
theorem Synced.step (h : d.Synced) (hstep : RangeDrag.step d e = some t)
    (hcancel : NotCancelled d e t) : t.Synced := by
  obtain ⟨slider, hslider, rfl⟩ := Option.map_eq_some_iff.mp hstep
  rcases RangeSlider.step_cases hslider with ⟨type, rfl, rfl⟩ | ⟨current, rfl, -, rfl⟩ |
    ⟨bounds, rfl, -, rfl⟩ | ⟨location, rfl, hidle, rfl⟩ | ⟨location, rfl, -, rfl⟩ |
    ⟨rfl, -, rfl⟩ | ⟨rfl, -, rfl⟩
  · exact h.of_frame fun thumb => RangeSlider.setType_highlighted d.slider thumb type
  · exact h.of_frame fun thumb => RangeSlider.setCurrentValue_highlighted d.slider thumb current
  · exact h.of_frame fun thumb => RangeSlider.layout_highlighted d.slider thumb bounds
  · obtain ⟨htaken, hhighlighted⟩ :=
      RangeSlider.beginTracking_spec (h.between hidle) location
    refine ⟨fun htracking => Option.ne_none_iff_exists'.mp (htaken.mp htracking),
      fun thumb => ?_⟩
    have hlayer : (RangeSlider.layer { (d.slider.beginTracking location).1 with
        isTracking := (d.slider.beginTracking location).2 } thumb).highlighted =
        ((d.slider.beginTracking location).1.layer thumb).highlighted := by
      cases thumb <;> rfl
    rw [hlayer, hhighlighted thumb]
    refine ⟨fun hthumb => ⟨htaken.mpr ?_, hthumb⟩, fun hthumb => hthumb.2⟩
    rw [hthumb]
    exact Option.some_ne_none thumb
  · refine h.of_frame fun thumb => ?_
    obtain ⟨hhighlighted, htracking, -⟩ :=
      RangeSlider.continueTracking_spec d.slider thumb location
    exact ⟨hhighlighted, htracking⟩
  · refine ⟨nofun, fun thumb => ?_⟩
    cases thumb <;> simp [RangeSlider.layer, RangeSlider.endTracking]
  · exact absurd rfl hcancel

/-- A cancelled drag leaves its thumb highlighted, since no override of `cancelTracking`
takes the highlight off as `endTracking` does. That alone breaks the law at this step. -/
theorem Synced.not_moves_of_cancel (h : d.Synced)
    (hstep : RangeDrag.step d .cancelTracking = some t) :
    ¬ MovesOnlyItsThumb d .cancelTracking t := by
  obtain ⟨slider, hslider, rfl⟩ := Option.map_eq_some_iff.mp hstep
  simp only [RangeSlider.step, Option.ite_none_right_eq_some, Option.some.injEq] at hslider
  obtain ⟨htracking, rfl⟩ := hslider
  intro hmoves
  obtain ⟨thumb, hthumb⟩ := h.dragging htracking
  have hon := (h.highlighted thumb).mpr ⟨htracking, hthumb⟩
  have hoff := hmoves.between rfl thumb
  have hsame : (RangeSlider.layer { d.slider with isTracking := false } thumb).highlighted =
      (d.slider.layer thumb).highlighted := by cases thumb <;> rfl
  rw [hsame, hon] at hoff
  cases hoff

/-- The other events move no thumb but the dragged one. The highlights are in step before the
event, so a movement finds the dragged thumb highlighted and no other. -/
theorem Synced.moves (h : d.Synced) (hstep : RangeDrag.step d e = some t)
    (hcancel : NotCancelled d e t) : MovesOnlyItsThumb d e t := by
  refine ⟨(h.step hstep hcancel).between, ?_, ?_⟩
  · rintro location rfl
    obtain ⟨slider, hslider, rfl⟩ := Option.map_eq_some_iff.mp hstep
    simp only [RangeSlider.step, Option.ite_none_left_eq_some, Bool.not_eq_true,
      Option.some.injEq] at hslider
    obtain ⟨hidle, rfl⟩ := hslider
    exact (RangeSlider.beginTracking_spec (h.between hidle) location).1
  · intro hdrag thumb hother
    obtain ⟨slider, hslider, rfl⟩ := Option.map_eq_some_iff.mp hstep
    rcases RangeSlider.step_cases hslider with ⟨type, rfl, rfl⟩ | ⟨current, rfl, -, rfl⟩ |
      ⟨bounds, rfl, -, rfl⟩ | ⟨location, rfl, hidle, rfl⟩ | ⟨location, rfl, -, rfl⟩ |
      ⟨rfl, -, rfl⟩ | ⟨rfl, -, rfl⟩
    · cases hdrag
    · cases hdrag
    · cases hdrag
    · have hvalue := RangeSlider.beginTracking_value d.slider thumb location
      cases thumb <;> exact hvalue
    · have hoff : (d.slider.layer thumb).highlighted = false := by
        by_contra hon
        exact hother ((h.highlighted thumb).mp (Bool.not_eq_false _ ▸ hon)).2
      exact (RangeSlider.continueTracking_spec d.slider thumb location).2.2 hoff
    · cases thumb <;> rfl
    · exact absurd rfl hcancel

/-- For the range slider. A cancelled drag leaves its thumb highlighted, and every other
event keeps the thumbs in step with the tracking. -/
theorem moves_only_its_thumb_iff (hidle : d.Idle) (es : List SliderEvent) :
    StepsMeet step MovesOnlyItsThumb d es ↔ StepsMeet step NotCancelled d es := by
  have hiff : ∀ d e t, Synced d → step d e = some t →
      (MovesOnlyItsThumb d e t ↔ NotCancelled d e t) := by
    intro d e t h hstep
    refine ⟨?_, h.moves hstep⟩
    rintro hmoves rfl
    exact h.not_moves_of_cancel hstep hmoves
  exact stepsMeet_iff_of_kept hiff
    (fun d e t h hstep hmoves => h.step hstep ((hiff d e t h hstep).mp hmoves))
    (synced_of_idle hidle)

end RangeDrag

/-- The events of a drag. -/
def FilterEvent.IsDrag : FilterEvent → Prop
  | .beginTracking _ | .continueTracking _ | .endTracking | .cancelTracking => True
  | _ => False

namespace FilterSlider

/-- Not being dragged, and the thumb not highlighted. -/
def Idle (s : FilterSlider) : Prop :=
  s.isTracking = false ∧ s.playerThumbLayer.highlighted = false

/-- The same for the filter slider; its other value is the default one. -/
structure MovesOnlyItsThumb (s : FilterSlider) (e : FilterEvent) (t : FilterSlider) : Prop where
  between : t.isTracking = false → t.playerThumbLayer.highlighted = false
  taken : ∀ location, e = .beginTracking location →
    (t.isTracking = true ↔ s.playerThumbLayer.touchArea.contains location = true)
  others : e.IsDrag → t.defaultValue = s.defaultValue

def NotCancelled (_ : FilterSlider) (e : FilterEvent) (_ : FilterSlider) : Prop :=
  e ≠ .cancelTracking

/-- The thumb is highlighted exactly during a drag. -/
def Synced (s : FilterSlider) : Prop := s.playerThumbLayer.highlighted = s.isTracking

variable {s t : FilterSlider} {e : FilterEvent}

/-- A movement changes the value of the thumb and where it is drawn, and nothing else. -/
theorem continueTracking_frame (s : FilterSlider) (location : CGPoint) :
    (s.continueTracking location).playerThumbLayer.highlighted = s.playerThumbLayer.highlighted ∧
      (s.continueTracking location).isTracking = s.isTracking ∧
      (s.continueTracking location).defaultValue = s.defaultValue := by
  unfold continueTracking
  dsimp only
  split
  · next hon => exact ⟨rfl, rfl, rfl⟩
  · exact ⟨rfl, rfl, rfl⟩

/-- A touch is taken exactly on the thumb, which it highlights; the default value stays. -/
theorem beginTracking_spec (h : s.playerThumbLayer.highlighted = false) (location : CGPoint) :
    (s.beginTracking location).1.playerThumbLayer.highlighted = (s.beginTracking location).2 ∧
      ((s.beginTracking location).2 = true ↔
        s.playerThumbLayer.touchArea.contains location = true) ∧
      (s.beginTracking location).1.defaultValue = s.defaultValue := by
  unfold beginTracking
  dsimp only
  split
  · next hin => exact ⟨rfl, iff_of_true rfl hin, rfl⟩
  · next hout =>
      refine ⟨rfl, iff_of_false ?_ hout, rfl⟩
      rw [h]
      exact Bool.false_ne_true

/-- What an event other than a cancellation does: the thumb stays highlighted exactly during
a drag, and the default value is left to its setter. -/
theorem Synced.moves (h : s.Synced) (hstep : FilterSlider.step s e = some t)
    (hcancel : NotCancelled s e t) : t.Synced ∧ MovesOnlyItsThumb s e t := by
  have hbetween : t.Synced → t.isTracking = false → t.playerThumbLayer.highlighted = false :=
    fun ht htracking => ht.trans htracking
  cases e with
  | setDefaultValue value =>
      obtain rfl := Option.some.inj hstep
      exact ⟨h, hbetween h, nofun, fun hdrag => by cases hdrag⟩
  | layout bounds =>
      simp only [FilterSlider.step, Option.ite_none_right_eq_some, Option.some.injEq] at hstep
      obtain ⟨-, rfl⟩ := hstep
      exact ⟨h, hbetween h, nofun, fun hdrag => by cases hdrag⟩
  | beginTracking location =>
      simp only [FilterSlider.step, Option.ite_none_left_eq_some, Bool.not_eq_true,
        Option.some.injEq] at hstep
      obtain ⟨hidle, rfl⟩ := hstep
      obtain ⟨hhighlighted, htaken, hdefault⟩ :=
        beginTracking_spec (Eq.trans h hidle) location
      refine ⟨hhighlighted, hbetween hhighlighted, ?_, fun _ => hdefault⟩
      rintro other hother
      obtain rfl := FilterEvent.beginTracking.inj hother
      exact htaken
  | continueTracking location =>
      simp only [FilterSlider.step, Option.ite_none_right_eq_some, Option.some.injEq] at hstep
      obtain ⟨-, rfl⟩ := hstep
      obtain ⟨hhighlighted, htracking, hdefault⟩ := continueTracking_frame s location
      have ht : (s.continueTracking location).Synced :=
        (hhighlighted.trans h).trans htracking.symm
      exact ⟨ht, hbetween ht, nofun, fun _ => hdefault⟩
  | endTracking =>
      simp only [FilterSlider.step, Option.ite_none_right_eq_some, Option.some.injEq] at hstep
      obtain ⟨-, rfl⟩ := hstep
      exact ⟨rfl, fun _ => rfl, nofun, fun _ => rfl⟩
  | cancelTracking => exact absurd rfl hcancel

/-- The cancellation ends the tracking and leaves the thumb highlighted, because the slider
does not override `cancelTracking`. -/
theorem Synced.not_moves_of_cancel (h : s.Synced)
    (hstep : FilterSlider.step s .cancelTracking = some t) :
    ¬ MovesOnlyItsThumb s .cancelTracking t := by
  simp only [FilterSlider.step, Option.ite_none_right_eq_some, Option.some.injEq] at hstep
  obtain ⟨htracking, rfl⟩ := hstep
  intro hmoves
  have hoff := hmoves.between rfl
  rw [show s.playerThumbLayer.highlighted = true from Eq.trans h htracking] at hoff
  cases hoff

/-- The same for the filter slider, with its one thumb: its default value is the one that no
drag may move. -/
theorem moves_only_its_thumb_iff (hidle : s.Idle) (es : List FilterEvent) :
    StepsMeet step MovesOnlyItsThumb s es ↔ StepsMeet step NotCancelled s es := by
  have hiff : ∀ s e t, Synced s → step s e = some t →
      (MovesOnlyItsThumb s e t ↔ NotCancelled s e t) := by
    intro s e t h hstep
    refine ⟨?_, fun hcancel => (h.moves hstep hcancel).2⟩
    rintro hmoves rfl
    exact h.not_moves_of_cancel hstep hmoves
  exact stepsMeet_iff_of_kept hiff
    (fun s e t h hstep hmoves => (h.moves hstep ((hiff s e t h hstep).mp hmoves)).1)
    (hidle.2.trans hidle.1.symm)

end FilterSlider

/-- **Drags move only the thumb they start on**, for both sliders, exactly as long as
the system cancels none. -/
theorem drags_move_only_their_thumb {d : RangeDrag} {f : FilterSlider} (hd : d.Idle)
    (hf : f.Idle) (es : List SliderEvent) (fs : List FilterEvent) :
    (StepsMeet RangeDrag.step RangeDrag.MovesOnlyItsThumb d es ↔
        StepsMeet RangeDrag.step RangeDrag.NotCancelled d es) ∧
      (StepsMeet FilterSlider.step FilterSlider.MovesOnlyItsThumb f fs ↔
        StepsMeet FilterSlider.step FilterSlider.NotCancelled f fs) :=
  ⟨RangeDrag.moves_only_its_thumb_iff hd es, FilterSlider.moves_only_its_thumb_iff hf fs⟩

/-- A range slider of 300 by 40 in range mode. -/
def wideRange : RangeDrag :=
  { slider := (RangeSlider.initial { width := 300, height := 40 }).setType .range }

/-- The slider as it is made is at rest. -/
theorem idle_wideRange : wideRange.Idle := by
  refine ⟨rfl, fun thumb => ?_⟩
  cases thumb <;> rfl

/-- A drag of the lower thumb of one slider, and a touch of the other one. -/
theorem drags_move_only_their_thumb_wide :
    (StepsMeet RangeDrag.step RangeDrag.MovesOnlyItsThumb wideRange
          [.beginTracking { x := 0, y := 20 }, .continueTracking { x := 50, y := 20 },
            .endTracking] ↔
        StepsMeet RangeDrag.step RangeDrag.NotCancelled wideRange
          [.beginTracking { x := 0, y := 20 }, .continueTracking { x := 50, y := 20 },
            .endTracking]) ∧
      (StepsMeet FilterSlider.step FilterSlider.MovesOnlyItsThumb
          (FilterSlider.layout {} { width := 300, height := 52 })
          [.beginTracking { x := 0, y := 40 }, .endTracking] ↔
        StepsMeet FilterSlider.step FilterSlider.NotCancelled
          (FilterSlider.layout {} { width := 300, height := 52 })
          [.beginTracking { x := 0, y := 40 }, .endTracking]) :=
  drags_move_only_their_thumb idle_wideRange ⟨rfl, rfl⟩ _ _

/-- A drag of the lower thumb that the system cancels leaves it highlighted, so that not
every run keeps the highlights to the thumbs being dragged. -/
theorem cancelled_drag_stays_highlighted :
    ¬ ∀ (d : RangeDrag) (f : FilterSlider) (es : List SliderEvent) (fs : List FilterEvent),
      d.Idle → f.Idle →
        StepsMeet RangeDrag.step RangeDrag.MovesOnlyItsThumb d es ∧
          StepsMeet FilterSlider.step FilterSlider.MovesOnlyItsThumb f fs := by
  intro h
  have hend : (runFrom RangeDrag.step wideRange
      [.beginTracking { x := 0, y := 20 }, .cancelTracking]).map
      (fun d => (d.slider.isTracking, d.slider.lowerThumbLayer.highlighted)) =
        some (false, true) := by decide +kernel
  obtain ⟨v, hrun, hv⟩ := Option.map_eq_some_iff.mp hend
  simp only [Prod.mk.injEq] at hv
  obtain ⟨hidle, hon⟩ := hv
  obtain ⟨u, hbegin, hrest⟩ := runFrom_cons hrun
  obtain ⟨w, hcancel, hlast⟩ := runFrom_cons hrest
  obtain rfl := Option.some.inj hlast
  have hmoves := (h wideRange {} [.beginTracking { x := 0, y := 20 }, .cancelTracking] []
    idle_wideRange ⟨rfl, rfl⟩).1
  have hoff := (((hmoves u hbegin).2 w hcancel).1).between hidle .lower
  rw [show (w.slider.layer .lower).highlighted = true from hon] at hoff
  cases hoff

end Sliders
