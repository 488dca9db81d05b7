import Pineone.RotatePicker
import Pineone.Throttle
import Mathlib.Tactic.NormNum

/-!
# The orientation of the device

`DeviceOrientationHelper` keeps the orientation it reads off the accelerations in a relay.  A
screen is told about it through `distinctUntilChanged`, a hop to the main queue and a throttle
of one second, whose observers turn the buttons of the screen.  Times are in seconds.

* `turned_as_held`: one and a half seconds after the last turn, if no due timer and no posted
  block waits, the button stands the way the device was last held;
* `turn_gap_iff`: two turns in a row can be any time apart that is longer than half a second.
-/

namespace DeviceOrientation

open Runs RxSwift RotatePicker

/-- `motionLimit` -/
def motionLimit : ℚ := 6 / 10

/-- The handler of the accelerations: the orientation it accepts, if any. -/
def newDeviceOrientation (x y : ℚ) : Option UIDeviceOrientation :=
  if x ≤ -motionLimit then some .landscapeRight
  else if y ≤ -motionLimit then some .portrait
  else none

/-- `AutoRotateButton.rotate(withOrientation:)`: the angle the button is turned to, in quarter
turns. -/
def rotate (orientation : UIDeviceOrientation) : Option ℕ :=
  match orientation with
  | .portrait => some 0
  | .landscapeRight => some 1
  | _ => none

/-- `.throttle(.seconds(1), scheduler: MainScheduler.instance)` -/
def throttle : Throttle := { dueTime := 1 }

/-- The relay of the helper and one screen with a button.  `currentKey` belongs to
`distinctUntilChanged`, `mainQueue` are the elements on their way to the main queue. -/
structure RotateScreen where
  currentOrientation : UIDeviceOrientation := .portrait
  isSubscribed : Bool := false
  currentKey : Option UIDeviceOrientation := none
  mainQueue : List UIDeviceOrientation := []
  sink : ThrottleSink UIDeviceOrientation := {}
  quarterTurns : ℕ := 0

inductive OrientationEvent
  | acceleration (x y : ℚ)
  /-- `setupDIRotate(observable:)` -/
  | setupDIRotate
  /-- The main queue runs the block posted first. -/
  | deliver (now after : ℚ)
  /-- The timer of the throttle fires. -/
  | propagate (now after : ℚ)

/-- The way the device is held, after one more event. -/
def heldAfter (held : UIDeviceOrientation) : OrientationEvent → UIDeviceOrientation
  | .acceleration x y => (newDeviceOrientation x y).getD held
  | _ => held

/-- The way the device was last held for the helper to notice. -/
def heldOrientation (es : List OrientationEvent) : UIDeviceOrientation :=
  es.foldl heldAfter .portrait

namespace RotateScreen

/-- `distinctUntilChanged().observeOn(MainScheduler.instance)` -/
def post (s : RotateScreen) (orientation : UIDeviceOrientation) : RotateScreen :=
  if s.currentKey = some orientation then s
  else { s with currentKey := some orientation, mainQueue := s.mainQueue ++ [orientation] }

/-- The button turns for each orientation that the throttle has sent meanwhile. -/
def forward (s : RotateScreen) (sink : ThrottleSink UIDeviceOrientation) : RotateScreen :=
  { s with
    sink := sink
    quarterTurns := (sink.sent.drop s.sink.sent.length).foldl
      (fun turns entry => (rotate entry.1).getD turns) s.quarterTurns }

def step (s : RotateScreen) : OrientationEvent → Option RotateScreen
  | .acceleration x y =>
      match newDeviceOrientation x y with
      | none => some s
      | some orientation =>
          let s := { s with currentOrientation := orientation }
          some (if s.isSubscribed then s.post orientation else s)
  | .setupDIRotate =>
      if s.isSubscribed then none
      else some (post { s with isSubscribed := true } s.currentOrientation)
  | .deliver now after =>
      match s.mainQueue with
      | [] => none
      | orientation :: mainQueue =>
          (s.sink.step throttle (.next orientation now after)).map
            (forward { s with mainQueue := mainQueue })
  | .propagate now after => (s.sink.step throttle (.propagate now after)).map s.forward

variable {s t : RotateScreen} {e : OrientationEvent}

section Holding

/-- A sink as its own events left it. -/
def Fed (sink : ThrottleSink UIDeviceOrientation) : Prop :=
  ∃ es, runFrom (ThrottleSink.step throttle) {} es = some sink

/-- A further event of the throttle continues the run that has brought the sink where it is. -/
theorem Fed.step {sink next : ThrottleSink UIDeviceOrientation}
    {e : ThrottleEvent UIDeviceOrientation} (h : Fed sink)
    (hstep : sink.step throttle e = some next) : Fed next := by
  obtain ⟨es, hes⟩ := h
  refine ⟨es ++ [e], ?_⟩
  rw [runFrom_append hes, runFrom, hstep]
  rfl

/-- What has been sent to the screen, or is on its way: it ends with the last key of
`distinctUntilChanged`, and the button stands as the last orientation sent. -/
structure Passed (s : RotateScreen) : Prop where
  fed : Fed s.sink
  keyed : (s.sink.received ++ s.mainQueue).getLast? = s.currentKey
  upright : ∀ orientation ∈ s.sink.received ++ s.mainQueue, (rotate orientation).isSome
  turned : s.sink.sent.getLast?.elim 0 (fun entry => (rotate entry.1).getD 0) = s.quarterTurns

/-- The screen is told what the relay has. -/
structure Attached (s : RotateScreen) : Prop extends s.Passed where
  known : (rotate s.currentOrientation).isSome
  current : s.isSubscribed = true → s.currentKey = some s.currentOrientation

/-- Posting the orientation of the relay brings what was received up to date with it, so that
the screen is attached. -/
theorem Passed.post (h : s.Passed) (hknown : (rotate s.currentOrientation).isSome) :
    (s.post s.currentOrientation).Attached := by
  unfold RotateScreen.post
  split
  · next hkey => exact ⟨h, hknown, fun _ => hkey⟩
  · refine ⟨⟨h.fed, ?_, ?_, h.turned⟩, hknown, fun _ => rfl⟩
    · simp [← List.append_assoc]
    · intro orientation hmem
      rw [← List.append_assoc, List.mem_append, List.mem_singleton] at hmem
      rcases hmem with hearly | rfl
      · exact h.upright orientation hearly
      · exact hknown

/-- The button follows what the throttle sends: whatever the throttle has sent in a step, the
button stands as the last orientation afterwards. -/
theorem Passed.forward {mainQueue : List UIDeviceOrientation}
    {sink : ThrottleSink UIDeviceOrientation} {e : ThrottleEvent UIDeviceOrientation}
    (h : s.Passed) (hstep : s.sink.step throttle e = some sink)
    (hsame : sink.received ++ mainQueue = s.sink.received ++ s.mainQueue) :
    (RotateScreen.forward { s with mainQueue := mainQueue } sink).Passed := by
  have hfed := h.fed.step hstep
  have hupright : ∀ orientation ∈ sink.received ++ mainQueue, (rotate orientation).isSome := by
    rw [hsame]
    exact h.upright
  refine ⟨hfed, ?_, hupright, ?_⟩
  · show (sink.received ++ mainQueue).getLast? = s.currentKey
    rw [hsame]
    exact h.keyed
  · show _ = (sink.sent.drop s.sink.sent.length).foldl _ s.quarterTurns
    rcases (ThrottleSink.step_frame hstep).1 with hsent | ⟨entry, hsent⟩
    · show sink.sent.getLast?.elim 0 _ = _
      rw [hsent, List.drop_length]
      exact h.turned
    · show sink.sent.getLast?.elim 0 _ = _
      obtain ⟨es, hes⟩ := hfed
      have hcame : entry.1 ∈ sink.received :=
        ThrottleSink.received_of_sent hes (by rw [hsent]; simp)
      obtain ⟨turns, hturns⟩ :=
        Option.isSome_iff_exists.mp (hupright entry.1 (List.mem_append_left _ hcame))
      rw [hsent, List.getLast?_concat, List.drop_left]
      simp [hturns]

/-- The accelerometer tells only orientations that the button can turn to; face up and face
down come from nowhere. -/
theorem rotate_newDeviceOrientation {x y : ℚ} {orientation : UIDeviceOrientation}
    (h : newDeviceOrientation x y = some orientation) : (rotate orientation).isSome := by
  unfold newDeviceOrientation at h
  split at h
  · obtain rfl := Option.some.inj h
    rfl
  · split at h
    · obtain rfl := Option.some.inj h
      rfl
    · cases h

/-- Every event keeps the screen attached: a delivery moves an orientation from the main
queue to the sink, and the sink turns the button when it sends one. -/
theorem Attached.step (h : s.Attached) (hstep : RotateScreen.step s e = some t) :
    t.Attached := by
  cases e with
  | acceleration x y =>
      unfold RotateScreen.step at hstep
      dsimp only at hstep
      split at hstep
      · obtain rfl := Option.some.inj hstep
        exact h
      · next orientation horientation =>
          have hknown := rotate_newDeviceOrientation horientation
          have hpassed : ({ s with currentOrientation := orientation } : RotateScreen).Passed :=
            ⟨h.fed, h.keyed, h.upright, h.turned⟩
          split at hstep
          · obtain rfl := Option.some.inj hstep
            exact hpassed.post hknown
          · next hsubscribed =>
              obtain rfl := Option.some.inj hstep
              exact ⟨hpassed, hknown, fun hsome => absurd hsome hsubscribed⟩
  | setupDIRotate =>
      unfold RotateScreen.step at hstep
      dsimp only at hstep
      split at hstep
      · cases hstep
      · obtain rfl := Option.some.inj hstep
        have hpassed : ({ s with isSubscribed := true } : RotateScreen).Passed :=
          ⟨h.fed, h.keyed, h.upright, h.turned⟩
        exact hpassed.post h.known
  | deliver now after =>
      unfold RotateScreen.step at hstep
      dsimp only at hstep
      split at hstep
      · cases hstep
      · next orientation mainQueue hqueue =>
          obtain ⟨sink, hsink, rfl⟩ := Option.map_eq_some_iff.mp hstep
          have hreceived : sink.received = s.sink.received ++ [orientation] :=
            (ThrottleSink.step_frame hsink).2
          refine ⟨h.toPassed.forward hsink ?_, h.known, h.current⟩
          rw [hreceived, hqueue, List.append_assoc, List.singleton_append]
  | propagate now after =>
      obtain ⟨sink, hsink, rfl⟩ := Option.map_eq_some_iff.mp hstep
      have hreceived : sink.received = s.sink.received ++ [] := (ThrottleSink.step_frame hsink).2
      rw [List.append_nil] at hreceived
      have hpassed : (RotateScreen.forward { s with mainQueue := s.mainQueue } sink).Passed :=
        h.toPassed.forward hsink (by rw [hreceived])
      exact ⟨hpassed, h.known, h.current⟩

/-- At the start the button stands upright, and nothing was sent. -/
theorem attached_start : ({} : RotateScreen).Attached :=
  ⟨⟨⟨[], rfl⟩, rfl, nofun, rfl⟩, rfl, nofun⟩

/-- The relay has the orientation in which the device was last held. It takes the orientation
of every reading that has one and stays where a reading has none. -/
theorem currentOrientation_eq {es : List OrientationEvent}
    (h : runFrom step ({} : RotateScreen) es = some s) :
    s.currentOrientation = heldOrientation es := by
  refine runFrom_refines (R := fun s held => RotateScreen.currentOrientation s = held)
    (f := heldAfter) ?_ rfl h
  intro s held e t hs hstep
  cases e with
  | acceleration x y =>
      unfold step at hstep
      dsimp only at hstep
      unfold heldAfter
      split at hstep
      · next hnone =>
          obtain rfl := Option.some.inj hstep
          simp [hnone, hs]
      · next orientation hsome =>
          split at hstep
          · obtain rfl := Option.some.inj hstep
            unfold post
            split <;> simp [hsome]
          · obtain rfl := Option.some.inj hstep
            simp [hsome]
  | setupDIRotate =>
      unfold step at hstep
      dsimp only at hstep
      split at hstep
      · cases hstep
      · obtain rfl := Option.some.inj hstep
        unfold post
        split <;> exact hs
  | deliver now after =>
      unfold step at hstep
      dsimp only at hstep
      split at hstep
      · cases hstep
      · obtain ⟨sink, -, rfl⟩ := Option.map_eq_some_iff.mp hstep
        exact hs
  | propagate now after =>
      obtain ⟨sink, -, rfl⟩ := Option.map_eq_some_iff.mp hstep
      exact hs

/-- **The button stands the way the device is held**, one and a half seconds after the last
turn, if by then the main queue has run what was posted and what was due. -/
theorem turned_as_held {es : List OrientationEvent} (now : ℚ)
    (h : runFrom step ({} : RotateScreen) es = some s) (hsubscribed : s.isSubscribed = true)
    (hqueue : s.mainQueue = []) (hdue : ∀ deadline ∈ s.sink.timer, now < deadline)
    (hlate : ∀ last ∈ s.sink.lastSentTime, last + 3 / 2 ≤ now) :
    rotate (heldOrientation es) = some s.quarterTurns := by
  have hattached : s.Attached := runFrom_of_step (fun _ _ _ => Attached.step) attached_start h
  obtain ⟨fs, hfed⟩ := hattached.fed
  have hnothing : s.sink.lastUnsentElement = none := by
    by_contra hkept
    obtain ⟨deadline, htimer, last, hlast, hbound⟩ :=
      ThrottleSink.timer_of_kept hfed (Option.isSome_iff_ne_none.mpr hkept)
    have hone : ((throttle.dueTime : ℕ) : ℚ) = 1 := by norm_num [throttle]
    have hnow := hdue deadline htimer
    have hpast := hlate last hlast
    rw [hone] at hbound
    linarith
  have hlast : s.sink.sent.getLast?.map Prod.fst = some s.currentOrientation := by
    rw [ThrottleSink.sent_of_nothing_kept rfl hfed hnothing, ← hattached.current hsubscribed,
      ← hattached.keyed, hqueue, List.append_nil]
  obtain ⟨entry, hentry, horientation⟩ := Option.map_eq_some_iff.mp hlast
  have hturned := hattached.turned
  rw [hentry, Option.elim_some, horientation] at hturned
  obtain ⟨turns, hturns⟩ := Option.isSome_iff_exists.mp hattached.known
  rw [← currentOrientation_eq h, hturns, ← hturned, hturns, Option.getD_some]

/-- The device is laid on its side just after the screen came up. -/
def sideways : RotateScreen :=
  { currentOrientation := .landscapeRight
    isSubscribed := true
    currentKey := some .landscapeRight
    mainQueue := [.landscapeRight]
    sink :=
      { lastSentTime := some 0
        received := [.portrait]
        sent := [(.portrait, 0)] } }

/-- Three events lead to the screen with a turn to the side on its way. -/
theorem runFrom_sideways :
    runFrom step {} [.setupDIRotate, .deliver 0 0, .acceleration (-1) 0] = some sideways := by
  have hside : newDeviceOrientation (-1) 0 = some .landscapeRight := by
    norm_num [newDeviceOrientation, motionLimit]
  have hfirst : ThrottleSink.step throttle {} (.next UIDeviceOrientation.portrait 0 0) = some
      { lastSentTime := some 0, received := [.portrait], sent := [(.portrait, 0)] } := by
    simp [ThrottleSink.step, ThrottleEvent.now, ThrottleEvent.after, ThrottleSink.next,
      ThrottleSink.reducedScheduledTime, ThrottleSink.sendNow]
  have hstart : step {} .setupDIRotate = some
      { isSubscribed := true, currentKey := some .portrait, mainQueue := [.portrait] } := rfl
  rw [runFrom, hstart]
  simp [runFrom, step, hfirst, hside, post, forward, rotate, sideways]

/-- There a delivery goes to the sink, at the readings of the clock that come with it. -/
theorem step_sideways (now after : ℚ) :
    step sideways (.deliver now after) =
      (sideways.sink.step throttle (.next .landscapeRight now after)).map
        (forward { sideways with mainQueue := [] }) := rfl

/-- A quarter of a second is too early: the button turns when the timer of the throttle
fires. -/
theorem turned_after_timer :
    rotate (heldOrientation [.setupDIRotate, .deliver 0 0, .acceleration (-1) 0,
      .deliver (1 / 4) (1 / 4), .propagate (5 / 4) (5 / 4)]) = some 1 := by
  have hkept : ThrottleSink.step throttle sideways.sink
      (.next UIDeviceOrientation.landscapeRight (1 / 4) (1 / 4)) = some
        { lastUnsentElement := some .landscapeRight, lastSentTime := some 0, timer := some (5 / 4),
          received := [.portrait, .landscapeRight], sent := [(.portrait, 0)],
          clock := 1 / 4 } := by
    norm_num [ThrottleSink.step, ThrottleEvent.now, ThrottleEvent.after, ThrottleSink.next,
      ThrottleSink.reducedScheduledTime, reduceWithSpanBetween, sideways, throttle]
  refine turned_as_held 3 (s :=
    { currentOrientation := .landscapeRight
      isSubscribed := true
      currentKey := some .landscapeRight
      sink :=
        { lastSentTime := some (5 / 4)
          received := [.portrait, .landscapeRight]
          sent := [(.portrait, 0), (.landscapeRight, 5 / 4)]
          clock := 5 / 4 }
      quarterTurns := 1 }) ((runFrom_append runFrom_sideways).trans ?_) rfl rfl (by simp)
    (by norm_num)
  rw [runFrom, step_sideways, hkept]
  norm_num [runFrom, step, forward, rotate, ThrottleSink.step, ThrottleEvent.now,
    ThrottleEvent.after, ThrottleSink.propagate, ThrottleSink.sendNow, sideways]

end Holding

section Distance

/-- **How far apart two turns in a row can be**: any time that is longer than half a second,
although the throttle is set to a whole one. -/
theorem turn_gap_iff (gap : ℚ) :
    (∃ (es : List OrientationEvent) (s : RotateScreen)
        (earlier later : UIDeviceOrientation × ℚ), runFrom step {} es = some s ∧
      [earlier, later] <:+: s.sink.sent ∧ later.2 - earlier.2 = gap) ↔ 1 / 2 < gap := by
  constructor
  · rintro ⟨es, s, earlier, later, h, ⟨before, after, hrow⟩, rfl⟩
    have hattached : s.Attached := runFrom_of_step (fun _ _ _ => Attached.step) attached_start h
    obtain ⟨fs, hfed⟩ := hattached.fed
    have hspaced := ThrottleSink.spaced hfed
    rw [← hrow] at hspaced
    have hchain := hspaced.left_of_append.right_of_append
    have hapart : ThrottleSink.Apart throttle earlier later := by simpa using hchain
    have hone : ((throttle.dueTime : ℕ) : ℚ) = 1 := by norm_num [throttle]
    unfold ThrottleSink.Apart at hapart
    rw [hone] at hapart
    linarith
  · intro hgap
    have hnow : reduceWithSpanBetween 1 0 gap = 0 := by
      rw [ThrottleSink.reduce_eq_zero_iff]
      norm_num
      exact hgap
    have hforward : (0 : ℚ) ≤ gap := by linarith
    have hsent : ThrottleSink.step throttle sideways.sink
        (.next UIDeviceOrientation.landscapeRight gap gap) = some
          { lastSentTime := some gap, received := [.portrait, .landscapeRight],
            sent := [(.portrait, 0), (.landscapeRight, gap)], clock := gap } := by
      simp [ThrottleSink.step, ThrottleEvent.now, ThrottleEvent.after, ThrottleSink.next,
        ThrottleSink.reducedScheduledTime, ThrottleSink.sendNow, sideways, throttle, hnow, hforward]
    refine ⟨[.setupDIRotate, .deliver 0 0, .acceleration (-1) 0] ++ [.deliver gap gap],
      forward { sideways with mainQueue := [] }
        { lastSentTime := some gap, received := [.portrait, .landscapeRight],
          sent := [(.portrait, 0), (.landscapeRight, gap)], clock := gap },
      (.portrait, 0), (.landscapeRight, gap), ?_, ⟨[], [], rfl⟩, sub_zero gap⟩
    rw [runFrom_append runFrom_sideways, runFrom, step_sideways, hsent]
    rfl

end Distance

end RotateScreen

end DeviceOrientation
