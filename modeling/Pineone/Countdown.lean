import Pineone.Runs
import Mathlib

/-!
# The countdown over the screen

`ToastShowViewModel.timer` shows a number each second, down to 0, and then reports its
completion, on which a seeker is shown.  `ViewToaster` shows each of these views in a block on
the main queue, fades it in, holds it and fades it out in three animations, and then takes it
off the window.

* `countdown_counts`: in every run the numbers shown are `count`, `count - 1`, ..., the
  completion is reported at most once, with the tick after the number 0, and no view is on the
  window without an animation that will take it off;
* `toaster_settles`: the posted blocks and the animations come to an end after as many events
  as there is work left, and then the window is clear.
-/

namespace Countdown

open Runs

inductive VTtype
  | label (count : ℤ)
  | seeker (time : ℤ)
  deriving DecidableEq, Repr

/-- A view that is shown; `identity` tells the views apart. -/
structure ToastView where
  identity : ℕ
  type : VTtype
  deriving DecidableEq, Repr

/-- The animations of a view, one after the other. -/
inductive Phase
  | fadeIn
  | hold
  | fadeOut
  deriving DecidableEq, Repr

/-- The completions left until a view in this phase is off the window. -/
def Phase.left : Phase → ℕ
  | .fadeIn => 3
  | .hold => 2
  | .fadeOut => 1

/-- The shared toaster.  `mainQueue` are the views whose blocks have been posted, `animations`
the animations under way, and `made` counts the views. -/
structure ViewToaster where
  currentShowingView : Option ToastView := none
  mainQueue : List ToastView := []
  toastWindow : List ToastView := []
  animations : List (ToastView × Phase) := []
  made : ℕ := 0
  deriving DecidableEq, Repr

/-- The timer of `timer(_:_:)` with the variables that its block has captured. -/
structure ShutterTimer where
  count : ℤ
  addCount : ℤ := 0
  isValid : Bool := true
  deriving DecidableEq, Repr

/-- The screen of the countdown, if there is one, over the shared toaster.  `shown` are the
types that its view model has shown, `ticks` and `completions` count the firings of its timer
and the events of `shutterCountComplete`. -/
structure ToastShow where
  viewToaster : ViewToaster := {}
  shutterTimer : Option ShutterTimer := none
  shown : List VTtype := []
  ticks : ℕ := 0
  completions : ℕ := 0
  deriving DecidableEq, Repr

inductive ToastEvent
  /-- A screen comes up, and its view model starts a countdown. -/
  | timer (count : ℤ)
  | tick
  | viewModelDeinit
  /-- The main queue runs the block posted first. -/
  | runBlock
  /-- The completion of one of the animations under way is called. -/
  | animationEnds (i : ℕ)

/-- The toaster's own events. -/
def ToastEvent.IsToasters : ToastEvent → Prop
  | .runBlock | .animationEnds _ => True
  | .timer _ | .tick | .viewModelDeinit => False

namespace ViewToaster

/-- `animate(withType:)` makes the view and posts its block. -/
def animate (s : ViewToaster) (type : VTtype) : ViewToaster :=
  { s with mainQueue := s.mainQueue ++ [⟨s.made, type⟩], made := s.made + 1 }

/-- `view.removeFromSuperview()` -/
def remove (s : ViewToaster) (view : ToastView) : ViewToaster :=
  { s with toastWindow := s.toastWindow.filter (· ≠ view) }

def animateStop (s : ViewToaster) : ViewToaster :=
  match s.currentShowingView with
  | some view => s.remove view
  | none => s

/-- The block of `animate(withView:)`. -/
def runBlock (s : ViewToaster) (view : ToastView) : ViewToaster :=
  { s with
    currentShowingView := some view
    toastWindow := s.toastWindow ++ [view]
    animations := s.animations ++ [(view, .fadeIn)] }

/-- The completions of the three animations. -/
def complete (s : ViewToaster) : ToastView × Phase → ViewToaster
  | (view, .fadeIn) => { s with animations := s.animations ++ [(view, .hold)] }
  | (view, .hold) => { s with animations := s.animations ++ [(view, .fadeOut)] }
  | (view, .fadeOut) => s.remove view

end ViewToaster

namespace ToastShow

/-- The view model shows a view. -/
def animate (s : ToastShow) (type : VTtype) : ToastShow :=
  { s with viewToaster := s.viewToaster.animate type, shown := s.shown ++ [type] }

/-- `timer(_:_:)` of a new view model. -/
def timer (s : ToastShow) (count : ℤ) : ToastShow :=
  { animate { s with shown := [] } (.label count) with
    shutterTimer := some { count := count }
    ticks := 0
    completions := 0 }

/-- `shutterCountComplete` and its subscription in `transform`. -/
def accept (s : ToastShow) : ToastShow :=
  { s.animate (.seeker 5) with completions := s.completions + 1 }

/-- The block of the timer. -/
def fire (s : ToastShow) (timer : ShutterTimer) : ToastShow :=
  if timer.addCount = timer.count then
    accept { s with shutterTimer := some { timer with isValid := false } }
  else
    { s.animate (.label (timer.count - timer.addCount - 1)) with
      shutterTimer := some { timer with addCount := timer.addCount + 1 } }

/-- `deinit` -/
def viewModelDeinit (s : ToastShow) : ToastShow :=
  { s with shutterTimer := none, viewToaster := s.viewToaster.animateStop }

def step (s : ToastShow) : ToastEvent → Option ToastShow
  | .timer count => if s.shutterTimer = none then some (s.timer count) else none
  | .tick =>
      match s.shutterTimer with
      | none => none
      | some timer =>
          if timer.isValid then some (fire { s with ticks := s.ticks + 1 } timer) else none
  | .viewModelDeinit => if s.shutterTimer = none then none else some s.viewModelDeinit
  | .runBlock =>
      match s.viewToaster.mainQueue with
      | [] => none
      | view :: mainQueue =>
          some { s with viewToaster := { s.viewToaster with mainQueue := mainQueue }.runBlock view }
  | .animationEnds i =>
      match s.viewToaster.animations[i]? with
      | none => none
      | some animation =>
          some { s with viewToaster :=
            { s.viewToaster with
              animations := s.viewToaster.animations.eraseIdx i }.complete animation }

/-- The numbers of a countdown from `count` after `k` of them were counted off. -/
def numbers (count : ℤ) (k : ℕ) : List VTtype :=
  (List.range (k + 1)).map fun i : ℕ => .label (count - i)

/-- The view model of a countdown has shown the numbers down to `count - k`; the last tick, and
only one after the number 0, has reported the completion. -/
structure Counts (s : ToastShow) (timer : ShutterTimer) (k : ℕ) : Prop where
  addCount : timer.addCount = k
  bound : 0 ≤ timer.count → (k : ℤ) ≤ timer.count
  running : timer.isValid = true →
    s.shown = numbers timer.count k ∧ s.completions = 0 ∧ s.ticks = k
  completed : timer.isValid = false → (k : ℤ) = timer.count ∧
    s.shown = numbers timer.count k ++ [.seeker 5] ∧ s.completions = 1 ∧ s.ticks = k + 1

/-- The views on the window have an animation each, which will take them off. -/
def Leaving (s : ViewToaster) : Prop :=
  ∀ view ∈ s.toastWindow, ∃ phase, (view, phase) ∈ s.animations

/-- What holds in every run. -/
structure CountsDown (s : ToastShow) : Prop where
  counts : ∀ timer, s.shutterTimer = some timer → ∃ k, Counts s timer k
  leaving : Leaving s.viewToaster

section Numbers

variable {s t : ToastShow} {e : ToastEvent} {timer : ShutterTimer} {k : ℕ}

/-- The next number of a countdown is one less than the one before it. -/
theorem numbers_succ (count : ℤ) (k : ℕ) :
    numbers count (k + 1) = numbers count k ++ [.label (count - k - 1)] := by
  have hlast : count - ((k + 1 : ℕ) : ℤ) = count - k - 1 := by omega
  unfold numbers
  rw [List.range_succ, List.map_append, List.map_singleton, hlast]

/-- A timer that has just been made has shown nothing and counted nothing, whatever the
timers before it have shown. -/
theorem counts_timer (s : ToastShow) (count : ℤ) :
    Counts (s.timer count) { count := count } 0 := by
  refine ⟨rfl, id, fun _ => ⟨?_, rfl, rfl⟩, fun hover => (by cases hover)⟩
  simp [ToastShow.timer, animate, numbers]

/-- A tick counts off a number, or reports the completion after the number 0. In the second
case the timer is invalid from then on, so that the completion is reported once. -/
theorem Counts.fire (h : Counts s timer k) (hvalid : timer.isValid = true) :
    ∃ timer' k', (ToastShow.fire { s with ticks := s.ticks + 1 } timer).shutterTimer = some timer' ∧
      Counts (ToastShow.fire { s with ticks := s.ticks + 1 } timer) timer' k' := by
  obtain ⟨hshown, hcompletions, hticks⟩ := h.running hvalid
  unfold ToastShow.fire
  split
  · next hlast =>
      refine ⟨_, k, rfl, h.addCount, h.bound, fun hrunning => (by cases hrunning), fun _ => ?_⟩
      refine ⟨h.addCount ▸ hlast, ?_, ?_, ?_⟩
      · show s.shown ++ [_] = _
        rw [hshown]
      · show s.completions + 1 = 1
        rw [hcompletions]
      · show s.ticks + 1 = k + 1
        rw [hticks]
  · next hmore =>
      have hadd := h.addCount
      refine ⟨_, k + 1, rfl, ?_, ?_, fun _ => ⟨?_, hcompletions, ?_⟩, fun hover => ?_⟩
      · show timer.addCount + 1 = _
        omega
      · intro hcount
        have hbound := h.bound hcount
        show ((k + 1 : ℕ) : ℤ) ≤ timer.count
        omega
      · show s.shown ++ [_] = _
        rw [hshown, numbers_succ, hadd]
      · show s.ticks + 1 = k + 1
        rw [hticks]
      · exact absurd (hvalid.symm.trans hover) (by decide)

/-- What a view model has counted is its own. Steps that leave the numbers shown, the ticks
and the completions keep it. -/
theorem Counts.frame (h : Counts s timer k) (hshown : t.shown = s.shown)
    (hticks : t.ticks = s.ticks) (hcompletions : t.completions = s.completions) :
    Counts t timer k := by
  refine ⟨h.addCount, h.bound, ?_, ?_⟩
  · rw [hshown, hticks, hcompletions]
    exact h.running
  · rw [hshown, hticks, hcompletions]
    exact h.completed

/-- A view that is taken off the window needs no animation, and all others keep theirs. -/
theorem leaving_remove {s : ViewToaster} (h : Leaving s) (view : ToastView) :
    Leaving (s.remove view) :=
  fun other hmem => h other (List.mem_of_mem_filter hmem)

/-- Stopping takes all views off the window together with their animations. -/
theorem leaving_animateStop {s : ViewToaster} (h : Leaving s) : Leaving s.animateStop := by
  unfold ViewToaster.animateStop
  split
  · exact leaving_remove h _
  · exact h

/-- The block of a view adds it to the window together with the animation that will take it
off. -/
theorem leaving_runBlock {s : ViewToaster} (h : Leaving s) (view : ToastView) :
    Leaving (s.runBlock view) := by
  intro other hmem
  rcases List.mem_append.mp hmem with hshown | hnew
  · obtain ⟨phase, hphase⟩ := h other hshown
    exact ⟨phase, List.mem_append_left _ hphase⟩
  · obtain rfl := List.mem_singleton.mp hnew
    exact ⟨.fadeIn, List.mem_append_right _ (List.mem_singleton.mpr rfl)⟩

/-- An animation that completes is followed by the next one of its view, or takes the view off
the window. -/
theorem leaving_complete {s : ViewToaster} {i : ℕ} {animation : ToastView × Phase}
    (h : Leaving s) (hanimation : s.animations[i]? = some animation) :
    Leaving ({ s with animations := s.animations.eraseIdx i }.complete animation) := by
  obtain ⟨view, phase⟩ := animation
  have hothers : ∀ other, other ≠ view → ∀ phase', (other, phase') ∈ s.animations →
      (other, phase') ∈ s.animations.eraseIdx i := by
    intro other hne phase' hmem
    rw [List.mem_eraseIdx_iff_getElem?]
    obtain ⟨j, hj⟩ := List.mem_iff_getElem?.mp hmem
    refine ⟨j, ?_, hj⟩
    rintro rfl
    obtain ⟨rfl, -⟩ := Prod.mk.inj (Option.some.inj (hj.symm.trans hanimation))
    exact hne rfl
  have hnext : ∀ next : Phase, Leaving { s with
      animations := s.animations.eraseIdx i ++ [(view, next)] } := by
    intro next other hmem
    by_cases hsame : other = view
    · exact ⟨next, hsame ▸ List.mem_append_right _ (List.mem_singleton.mpr rfl)⟩
    · obtain ⟨phase', hphase⟩ := h other hmem
      exact ⟨phase', List.mem_append_left _ (hothers other hsame phase' hphase)⟩
  cases phase with
  | fadeIn => exact hnext .hold
  | hold => exact hnext .fadeOut
  | fadeOut =>
      intro other hmem
      obtain ⟨hshown, hne⟩ := List.mem_filter.mp hmem
      obtain ⟨phase', hphase⟩ := h other hshown
      exact ⟨phase', hothers other (by simpa using hne) phase' hphase⟩

/-- A tick shows a number, which posts a block, or stops the toaster; either way no view
stays without an animation. -/
theorem leaving_fire {timer : ShutterTimer} (h : Leaving s.viewToaster) :
    Leaving (s.fire timer).viewToaster := by
  unfold ToastShow.fire
  split <;> exact h

/-- Every event keeps the numbers of the timer in their order, and an animation for each view
on the window. -/
theorem CountsDown.step (h : s.CountsDown) (hstep : s.step e = some t) : t.CountsDown := by
  cases e with
  | timer count =>
      simp only [ToastShow.step] at hstep
      split at hstep
      · obtain rfl := Option.some.inj hstep
        refine ⟨fun timer htimer => ?_, h.leaving⟩
        obtain rfl := Option.some.inj htimer
        exact ⟨0, counts_timer s count⟩
      · cases hstep
  | tick =>
      simp only [ToastShow.step] at hstep
      split at hstep
      · cases hstep
      · next timer htimer =>
          split at hstep
          · next hvalid =>
              obtain rfl := Option.some.inj hstep
              obtain ⟨k, hcounts⟩ := h.counts timer htimer
              obtain ⟨timer', k', htimer', hcounts'⟩ := hcounts.fire hvalid
              refine ⟨fun timer hafter => ?_, leaving_fire h.leaving⟩
              obtain rfl := Option.some.inj (htimer'.symm.trans hafter)
              exact ⟨k', hcounts'⟩
          · cases hstep
  | viewModelDeinit =>
      simp only [ToastShow.step] at hstep
      split at hstep
      · cases hstep
      · obtain rfl := Option.some.inj hstep
        exact ⟨fun _ hnone => (by cases hnone), leaving_animateStop h.leaving⟩
  | runBlock =>
      simp only [ToastShow.step] at hstep
      split at hstep
      · cases hstep
      · obtain rfl := Option.some.inj hstep
        refine ⟨fun timer htimer => ?_, leaving_runBlock h.leaving _⟩
        obtain ⟨k, hcounts⟩ := h.counts timer htimer
        exact ⟨k, hcounts.frame rfl rfl rfl⟩
  | animationEnds i =>
      simp only [ToastShow.step] at hstep
      split at hstep
      · cases hstep
      · next animation hanimation =>
          obtain rfl := Option.some.inj hstep
          refine ⟨fun timer htimer => ?_, leaving_complete h.leaving hanimation⟩
          obtain ⟨k, hcounts⟩ := h.counts timer htimer
          exact ⟨k, hcounts.frame rfl rfl rfl⟩

/-- Before the first timer there is nothing to count and nothing to show. -/
theorem countsDown_start : ({} : ToastShow).CountsDown := by
  refine ⟨fun _ hnone => ?_, fun _ hmem => ?_⟩
  · cases hnone
  · cases hmem

/-- **The countdown counts down** in every run: its view model has shown the numbers from
`count` downwards, one for each tick; with the tick after the number 0 it reports its
completion and shows the seeker, and then the timer is over.  A countdown from a negative number
never completes.  Each view on the window has an animation under way. -/
theorem countdown_counts (es : List ToastEvent) :
    Throughout ToastShow.step CountsDown {} es :=
  throughout_of_step (fun _ _ _ h hstep => h.step hstep) countsDown_start es

end Numbers

section Settling

/-- The blocks and the completions to come. -/
def work (s : ViewToaster) : ℕ :=
  4 * s.mainQueue.length + (s.animations.map fun animation => animation.2.left).sum

variable {s t : ToastShow} {e : ToastEvent}

/-- Without the entry at `i` the sum of a list is smaller by it. -/
theorem sum_eraseIdx {f : ToastView × Phase → ℕ} {l : List (ToastView × Phase)} {i : ℕ}
    {a : ToastView × Phase} (ha : l[i]? = some a) :
    ((l.eraseIdx i).map f).sum + f a = (l.map f).sum := by
  induction l generalizing i with
  | nil => cases ha
  | cons b l ih =>
      cases i with
      | zero =>
          obtain rfl := Option.some.inj ha
          simp [Nat.add_comm]
      | succ i =>
          have htail := ih ha
          simp only [List.eraseIdx_cons_succ, List.map_cons, List.sum_cons]
          omega

/-- One event of the toaster is one piece of its work: a block takes one, and so does the end
of an animation. As the work is finite, the toaster comes to rest. -/
theorem work_step (he : e.IsToasters) (hstep : s.step e = some t) :
    work t.viewToaster + 1 = work s.viewToaster := by
  cases e with
  | timer count => cases he
  | tick => cases he
  | viewModelDeinit => cases he
  | runBlock =>
      simp only [ToastShow.step] at hstep
      split at hstep
      · cases hstep
      · next view mainQueue hmain =>
          obtain rfl := Option.some.inj hstep
          simp only [work, ViewToaster.runBlock, hmain, List.map_append, List.sum_append,
            List.map_singleton, List.sum_singleton, Phase.left, List.length_cons]
          omega
  | animationEnds i =>
      simp only [ToastShow.step] at hstep
      split at hstep
      · cases hstep
      · next animation hanimation =>
          obtain rfl := Option.some.inj hstep
          have hsum := sum_eraseIdx (f := fun animation => animation.2.left) hanimation
          obtain ⟨view, phase⟩ := animation
          cases phase <;>
            simp only [work, ViewToaster.complete, ViewToaster.remove, List.map_append,
              List.sum_append, List.map_singleton, List.sum_singleton, Phase.left] at hsum ⊢ <;>
            omega

/-- **The toaster settles.**  From any state of any run, the blocks and completions to come are
as many as `work` says, in whatever order they come; once all have come, the window is clear. -/
theorem toaster_settles {es fs : List ToastEvent}
    (hs : runFrom ToastShow.step {} es = some s) (hfs : ∀ e ∈ fs, e.IsToasters)
    (ht : runFrom ToastShow.step s fs = some t) :
    work t.viewToaster + fs.length = work s.viewToaster ∧
      (fs.length = work s.viewToaster → t.viewToaster.toastWindow = []) := by
  have hwork : work t.viewToaster + fs.length = work s.viewToaster := by
    clear hs
    induction fs generalizing s with
    | nil =>
        obtain rfl := Option.some.inj ht
        rfl
    | cons e fs ih =>
        obtain ⟨u, hu, hrest⟩ := runFrom_cons ht
        obtain ⟨he, hlater⟩ := List.forall_mem_cons.mp hfs
        have hfirst := work_step he hu
        have hothers := ih hlater hrest
        rw [List.length_cons]
        omega
  refine ⟨hwork, fun hall => ?_⟩
  have hleaving : t.CountsDown :=
    runFrom_of_step (fun _ _ _ h hstep => CountsDown.step h hstep) countsDown_start
      ((runFrom_append hs).trans ht)
  have hnone : t.viewToaster.animations = [] := by
    have hzero : work t.viewToaster = 0 := by omega
    cases hanimations : t.viewToaster.animations with
    | nil => rfl
    | cons animation animations =>
        obtain ⟨view, phase⟩ := animation
        unfold work at hzero
        rw [hanimations, List.map_cons, List.sum_cons] at hzero
        cases phase <;> simp only [Phase.left] at hzero <;> omega
  cases hwindow : t.viewToaster.toastWindow with
  | nil => rfl
  | cons view views =>
      obtain ⟨phase, hphase⟩ := hleaving.leaving view (by simp [hwindow])
      rw [hnone] at hphase
      cases hphase

/-- Two numbers whose blocks had not run when their view model went away. Both are shown and
taken off again, and the window is empty at the end. -/
theorem settled_after_two_numbers :
    ∃ s t, runFrom ToastShow.step {} [.timer 1, .tick, .viewModelDeinit] = some s ∧
      runFrom ToastShow.step s [.runBlock, .runBlock, .animationEnds 1, .animationEnds 0,
        .animationEnds 0, .animationEnds 0, .animationEnds 1, .animationEnds 0] = some t ∧
      t.viewToaster.toastWindow = [] := by
  have hruns : ∃ s t, runFrom ToastShow.step {} [.timer 1, .tick, .viewModelDeinit] = some s ∧
      runFrom ToastShow.step s [.runBlock, .runBlock, .animationEnds 1, .animationEnds 0,
        .animationEnds 0, .animationEnds 0, .animationEnds 1, .animationEnds 0] = some t ∧
      8 = work s.viewToaster := ⟨_, _, rfl, rfl, rfl⟩
  obtain ⟨s, t, hs, ht, hwork⟩ := hruns
  refine ⟨s, t, hs, ht, (toaster_settles hs ?_ ht).2 hwork⟩
  simp [ToastEvent.IsToasters]

end Settling

end ToastShow

end Countdown
