import Pineone.Runs
import Mathlib.Data.List.Basic

/-!
# The alert queue

`AlertService` presents one alert after the other.  `isPresenting` is tested when
an alert is enqueued, but it is set by the block that presents the alert, which
the main queue runs later.

* `one_at_a_time_iff`: alerts are shown one at a time, in order and none twice,
  exactly when every posted block finds the window without an alert;
* `findsNoAlert_of_postsAlone`: that is so as long as no call posts a block while
  another one is waiting.
-/

namespace AlertQueue

open Runs

/-- The service, the window and the main queue.  `window` are the alerts whose
views are in the key window, the front one last; `mainQueue` are the posted blocks
of `present`, each with its alert; `enqueued`, `presented` and `removed` record what
has happened. -/
structure AlertService (α : Type) where
  queue : List α := []
  isPresenting : Bool := false
  presentViewController : Option α := none
  window : List α := []
  mainQueue : List α := []
  enqueued : List α := []
  presented : List α := []
  removed : List α := []
  deriving DecidableEq, Repr

inductive AlertEvent (α : Type)
  | enqueue (alert : α)
  | dismiss
  /-- The main queue runs the block posted first. -/
  | runBlock

namespace AlertService

variable {α : Type} [DecidableEq α]

/-- `present(viewController:)` posts its block. -/
def present (s : AlertService α) (viewController : α) : AlertService α :=
  { s with mainQueue := s.mainQueue ++ [viewController] }

def enqueue (s : AlertService α) (alert : α) : AlertService α :=
  if s.isPresenting then { s with queue := s.queue ++ [alert] } else s.present alert

def dequeue (s : AlertService α) : AlertService α :=
  match s.queue with
  | [] => { s with isPresenting := false }
  | alert :: queue => present { s with queue := queue } alert

/-- The part of `dismiss()` that takes the presented alert out of the window. -/
def removePresented (s : AlertService α) : AlertService α :=
  match s.presentViewController with
  | some vc =>
      { s with
        window := s.window.erase vc
        presentViewController := none
        removed := s.removed ++ [vc] }
  | none => s

def dismiss (s : AlertService α) : AlertService α := s.removePresented.dequeue

/-- The block of `present`; adding a view that is in the window brings it to the
front. -/
def runBlock (s : AlertService α) (viewController : α) : AlertService α :=
  { s with
    presentViewController := some viewController
    isPresenting := true
    window := s.window.erase viewController ++ [viewController]
    presented := s.presented ++ [viewController] }

def step (s : AlertService α) : AlertEvent α → Option (AlertService α)
  | .enqueue alert => some (enqueue { s with enqueued := s.enqueued ++ [alert] } alert)
  | .dismiss => some s.dismiss
  | .runBlock =>
      match s.mainQueue with
      | [] => none
      | viewController :: mainQueue =>
          some (runBlock { s with mainQueue := mainQueue } viewController)

/-- At most one alert is in the window, and the enqueued alerts are presented in
their order, each one once and after its predecessor was removed. -/
structure OneAtATime (s : AlertService α) : Prop where
  onlyOne : s.window.length ≤ 1
  inOrder : s.enqueued = s.presented ++ s.mainQueue ++ s.queue
  afterPredecessor : s.presented = s.removed ++ s.window
  allPresented : s.mainQueue = [] → s.window = [] → s.presented = s.enqueued

/-- A posted block runs only when no alert is in the window. -/
def FindsNoAlert (s : AlertService α) (e : AlertEvent α) (_ : AlertService α) : Prop :=
  match e with
  | .runBlock => s.window = []
  | _ => True

/-- What holds in every run: nobody waits while nothing is presented, alerts keep
their order, and the presented alert is the front one. -/
structure Consistent (s : AlertService α) : Prop where
  idle : s.isPresenting = false → s.queue = []
  busy : s.isPresenting = true → s.mainQueue ≠ [] ∨ s.presentViewController ≠ none
  order : s.enqueued = s.presented ++ s.mainQueue ++ s.queue
  front : ∀ vc ∈ s.presentViewController, s.window.getLast? = some vc

variable {s t : AlertService α} {e : AlertEvent α}

omit [DecidableEq α] in
/-- A further alert joins the queue, or has its block posted by an idle service, which is
busy from then on. -/
theorem Consistent.enqueue (h : s.Consistent) (alert : α) :
    (AlertService.enqueue { s with enqueued := s.enqueued ++ [alert] } alert).Consistent := by
  unfold AlertService.enqueue
  split
  · next hpresenting =>
      refine ⟨fun hidle => ?_, h.busy, ?_, h.front⟩
      · rw [show s.isPresenting = false from hidle] at hpresenting
        cases hpresenting
      · simp [h.order]
  · next hidle =>
      have hqueue := h.idle (by simpa using hidle)
      refine ⟨h.idle, fun _ => Or.inl ?_, ?_, h.front⟩
      · simp [present]
      · simp [present, h.order, hqueue]

/-- Only the window, the presented alert and the record of removed alerts change. -/
theorem removePresented_frame (s : AlertService α) :
    s.removePresented.queue = s.queue ∧ s.removePresented.isPresenting = s.isPresenting ∧
      s.removePresented.mainQueue = s.mainQueue ∧
      s.removePresented.enqueued = s.enqueued ∧
      s.removePresented.presented = s.presented ∧
      s.removePresented.presentViewController = none := by
  unfold removePresented
  split
  · exact ⟨rfl, rfl, rfl, rfl, rfl, rfl⟩
  · next hnone => exact ⟨rfl, rfl, rfl, rfl, rfl, hnone⟩

/-- A dismissal removes the presented alert and posts the block of the next one; if none
waits, the service is idle. -/
theorem Consistent.dismiss (h : s.Consistent) : s.dismiss.Consistent := by
  obtain ⟨hqueue, hflag, hmain, henqueued, hpresented, hnone⟩ := removePresented_frame s
  unfold AlertService.dismiss dequeue
  split
  · next hempty =>
      refine ⟨fun _ => hempty, nofun, ?_, ?_⟩
      · show s.removePresented.enqueued =
          s.removePresented.presented ++ s.removePresented.mainQueue ++ s.removePresented.queue
        rw [henqueued, hpresented, hmain, hqueue, h.order]
      · simp [hnone]
  · next alert queue hcons =>
      have hwaiting : s.queue = alert :: queue := hqueue ▸ hcons
      refine ⟨fun hidle => ?_, fun _ => Or.inl ?_, ?_, ?_⟩
      · have hempty := h.idle (hflag ▸ hidle)
        rw [hempty] at hwaiting
        cases hwaiting
      · simp [present]
      · simp [present, henqueued, hpresented, hmain, h.order, hwaiting]
      · simp [present, hnone]

/-- The block of an alert puts it in front of the window, as the presented alert. It leaves
the main queue for the list of those that were presented. -/
theorem Consistent.runBlock {viewController : α} {mainQueue : List α} (h : s.Consistent)
    (hmain : s.mainQueue = viewController :: mainQueue) :
    (AlertService.runBlock { s with mainQueue := mainQueue } viewController).Consistent := by
  refine ⟨nofun, fun _ => Or.inr nofun, ?_, ?_⟩
  · simp [AlertService.runBlock, h.order, hmain]
  · intro vc hvc
    obtain rfl := Option.some.inj hvc
    simp [AlertService.runBlock]

/-- The main queue runs its oldest block, and there must be one. The alert of this block is
the one that gets presented. -/
theorem step_runBlock_cases (hstep : AlertService.step s .runBlock = some t) :
    ∃ viewController mainQueue, s.mainQueue = viewController :: mainQueue ∧
      t = AlertService.runBlock { s with mainQueue := mainQueue } viewController := by
  simp only [step] at hstep
  split at hstep
  · cases hstep
  · next hmain => exact ⟨_, _, hmain, (Option.some.inj hstep).symm⟩

/-- Every event keeps the service consistent, in whatever order the calls and the blocks
come. -/
theorem Consistent.step (h : s.Consistent) (hstep : AlertService.step s e = some t) :
    t.Consistent := by
  cases e with
  | enqueue alert =>
      obtain rfl := Option.some.inj hstep
      exact h.enqueue alert
  | dismiss =>
      obtain rfl := Option.some.inj hstep
      exact h.dismiss
  | runBlock =>
      obtain ⟨viewController, mainQueue, hmain, rfl⟩ := step_runBlock_cases hstep
      exact h.runBlock hmain

omit [DecidableEq α] in
/-- Nobody is forgotten: without a posted block and without an alert in the window,
every enqueued alert was presented. -/
theorem Consistent.allPresented (h : s.Consistent) (hmain : s.mainQueue = [])
    (hwindow : s.window = []) : s.presented = s.enqueued := by
  have hnone : s.presentViewController = none := by
    cases hvc : s.presentViewController with
    | none => rfl
    | some vc =>
        have hfront := h.front vc hvc
        rw [hwindow] at hfront
        cases hfront
  have hidle : s.isPresenting = false := by
    cases hflag : s.isPresenting with
    | false => rfl
    | true =>
        rcases h.busy hflag with hblock | hshown
        · exact absurd hmain hblock
        · exact absurd hnone hshown
  rw [h.order, hmain, h.idle hidle, List.append_nil, List.append_nil]

section OneStep

omit [DecidableEq α] in
/-- Putting an alert into the queue or posting its block shows nothing, so the window and the
presented alert are those from before. -/
theorem OneAtATime.enqueue {alert : α} (h : s.OneAtATime)
    (ht : (AlertService.enqueue { s with enqueued := s.enqueued ++ [alert] } alert).Consistent) :
    (AlertService.enqueue { s with enqueued := s.enqueued ++ [alert] } alert).OneAtATime := by
  have hframe : (AlertService.enqueue { s with enqueued := s.enqueued ++ [alert] } alert).window =
        s.window ∧
      (AlertService.enqueue { s with enqueued := s.enqueued ++ [alert] } alert).presented =
        s.presented ∧
      (AlertService.enqueue { s with enqueued := s.enqueued ++ [alert] } alert).removed =
        s.removed := by
    unfold AlertService.enqueue
    split <;> exact ⟨rfl, rfl, rfl⟩
  obtain ⟨hwindow, hpresented, hremoved⟩ := hframe
  refine ⟨?_, ht.order, ?_, ht.allPresented⟩
  · rw [hwindow]
    exact h.onlyOne
  · rw [hwindow, hpresented, hremoved]
    exact h.afterPredecessor

/-- While at most one alert is shown, removing the presented one clears the window, and the
alerts presented so far are those removed. -/
theorem removePresented_window (h : s.OneAtATime) (hs : s.Consistent) :
    s.removePresented.window.length ≤ 1 ∧
      s.removePresented.presented = s.removePresented.removed ++ s.removePresented.window := by
  unfold removePresented
  split
  · next vc hvc =>
      have hfront := hs.front vc hvc
      have honly := h.onlyOne
      have hwindow : s.window = [vc] := by
        match hw : s.window with
        | [] => simp [hw] at hfront
        | [other] =>
            rw [hw] at hfront
            simpa using hfront
        | _ :: _ :: _ => simp [hw] at honly
      refine ⟨?_, ?_⟩
      · simp [hwindow]
      · simp [hwindow, h.afterPredecessor]
  · exact ⟨h.onlyOne, h.afterPredecessor⟩

/-- A dismissal takes the alert out of the window before its successor is presented, so that
the order is kept. -/
theorem OneAtATime.dismiss (h : s.OneAtATime) (hs : s.Consistent) : s.dismiss.OneAtATime := by
  have hframe : s.dismiss.window = s.removePresented.window ∧
      s.dismiss.presented = s.removePresented.presented ∧
      s.dismiss.removed = s.removePresented.removed := by
    unfold AlertService.dismiss dequeue
    split <;> exact ⟨rfl, rfl, rfl⟩
  obtain ⟨hwindow, hpresented, hremoved⟩ := hframe
  obtain ⟨honly, hafter⟩ := removePresented_window h hs
  refine ⟨?_, hs.dismiss.order, ?_, hs.dismiss.allPresented⟩
  · rw [hwindow]
    exact honly
  · rw [hwindow, hpresented, hremoved]
    exact hafter

/-- A block that runs over an alert shows a second one, or shows the same one again
before it was removed. -/
theorem oneAtATime_runBlock_iff {viewController : α} {mainQueue : List α} (h : s.OneAtATime)
    (ht : (AlertService.runBlock { s with mainQueue := mainQueue } viewController).Consistent) :
    (AlertService.runBlock { s with mainQueue := mainQueue } viewController).OneAtATime ↔
      s.window = [] := by
  constructor
  · intro hafter
    have hkept : s.window.erase viewController = [] := by
      have honly := hafter.onlyOne
      simp only [AlertService.runBlock, List.length_append, List.length_cons,
        List.length_nil] at honly
      exact List.length_eq_zero_iff.mp (by omega)
    have hpresented : s.presented ++ [viewController] =
        s.removed ++ (s.window.erase viewController ++ [viewController]) :=
      hafter.afterPredecessor
    rw [hkept, h.afterPredecessor] at hpresented
    simpa using hpresented
  · intro hwindow
    refine ⟨?_, ht.order, ?_, ht.allPresented⟩
    · simp [AlertService.runBlock, hwindow]
    · simp [AlertService.runBlock, hwindow, h.afterPredecessor]

/-- Calls never bring an alert into the window, so only a block can, and it must find the
window empty. -/
theorem oneAtATime_step_iff (hs : s.Consistent) (h : s.OneAtATime)
    (hstep : AlertService.step s e = some t) : t.OneAtATime ↔ FindsNoAlert s e t := by
  have ht := hs.step hstep
  cases e with
  | enqueue alert =>
      obtain rfl := Option.some.inj hstep
      exact ⟨fun _ => trivial, fun _ => h.enqueue ht⟩
  | dismiss =>
      obtain rfl := Option.some.inj hstep
      exact ⟨fun _ => trivial, fun _ => h.dismiss hs⟩
  | runBlock =>
      obtain ⟨viewController, mainQueue, -, rfl⟩ := step_runBlock_cases hstep
      exact oneAtATime_runBlock_iff h ht

end OneStep

omit [DecidableEq α] in
/-- The service starts idle, with nothing enqueued and nobody waiting. -/
theorem consistent_start : ({} : AlertService α).Consistent := by
  refine ⟨fun _ => rfl, fun h => ?_, rfl, fun _ h => ?_⟩
  · cases h
  · cases h

omit [DecidableEq α] in
/-- At the start no alert is in the window and none was presented. -/
theorem oneAtATime_start : ({} : AlertService α).OneAtATime :=
  ⟨Nat.zero_le 1, rfl, rfl, fun _ _ => rfl⟩

/-- **The alert queue shows one alert at a time** exactly as long as no posted block
runs while an alert is in the window. -/
theorem one_at_a_time_iff (es : List (AlertEvent α)) :
    Throughout step OneAtATime ({} : AlertService α) es ↔
      StepsMeet step FindsNoAlert ({} : AlertService α) es :=
  throughout_iff_stepsMeet (J := Consistent) (fun _ _ _ hs hstep => hs.step hstep)
    (fun _ _ _ hs h hstep => oneAtATime_step_iff hs h hstep)
    consistent_start oneAtATime_start

/-- Two alerts enqueued before the first block has run are both in the window after
the second one. -/
theorem two_alerts_in_window :
    ¬ Throughout step OneAtATime ({} : AlertService ℕ)
      [.enqueue 0, .enqueue 1, .runBlock, .runBlock] := by
  intro h
  have hlast := ((((h.2 _ rfl).2 _ rfl).2 _ rfl).2 _ rfl).onlyOne
  exact absurd hlast (by decide)

/-- A call posts its block only when no other block is waiting. -/
def PostsAlone (s : AlertService α) (e : AlertEvent α) (_ : AlertService α) : Prop :=
  match e with
  | .enqueue _ => s.isPresenting = false → s.mainQueue = []
  | .dismiss => s.queue ≠ [] → s.mainQueue = []
  | .runBlock => True

/-- What holds as long as calls post alone: the window shows the presented alert,
and none while a block is waiting or the service is idle. -/
structure Alone (s : AlertService α) : Prop where
  oneBlock : s.mainQueue.length ≤ 1
  shown : s.window = s.presentViewController.toList
  waiting : s.mainQueue ≠ [] → s.window = []
  idle : s.isPresenting = false → s.window = []

/-- A dismissal that posts its block alone empties the window for the alert that the block
will present. -/
theorem Alone.dismiss (h : s.Alone) (halone : s.queue ≠ [] → s.mainQueue = []) :
    s.dismiss.Alone := by
  obtain ⟨hqueue, -, hmain, -, -, hnone⟩ := removePresented_frame s
  have hclear : s.removePresented.window = [] := by
    have hshown := h.shown
    unfold removePresented
    split
    · next vc hvc => simp [hshown, hvc]
    · next hvc => simp [hshown, hvc]
  unfold AlertService.dismiss dequeue
  split
  · refine ⟨?_, ?_, fun _ => hclear, fun _ => hclear⟩
    · exact hmain ▸ h.oneBlock
    · simp [hclear, hnone]
  · next alert queue hcons =>
      have hfirst := halone (by rw [← hqueue, hcons]; exact List.cons_ne_nil _ _)
      refine ⟨?_, ?_, fun _ => hclear, fun _ => hclear⟩
      · simp [present, hmain, hfirst]
      · simp [present, hclear, hnone]

/-- Calls that post their blocks alone keep it so that the window shows the presented alert
and no other one. -/
theorem Alone.step (h : s.Alone) (hstep : AlertService.step s e = some t)
    (halone : PostsAlone s e t) : t.Alone := by
  cases e with
  | enqueue alert =>
      obtain rfl := Option.some.inj hstep
      unfold AlertService.enqueue
      split
      · exact ⟨h.oneBlock, h.shown, h.waiting, h.idle⟩
      · next hflag =>
          have hidle : s.isPresenting = false := by simpa using hflag
          have hfirst := halone hidle
          refine ⟨?_, h.shown, fun _ => h.idle hidle, h.idle⟩
          simp [present, hfirst]
  | dismiss =>
      obtain rfl := Option.some.inj hstep
      exact h.dismiss halone
  | runBlock =>
      obtain ⟨viewController, mainQueue, hmain, rfl⟩ := step_runBlock_cases hstep
      have hwindow := h.waiting (by simp [hmain])
      have hrest : mainQueue = [] := by
        have := h.oneBlock
        rw [hmain, List.length_cons] at this
        exact List.length_eq_zero_iff.mp (by omega)
      refine ⟨?_, ?_, ?_, nofun⟩
      · simp [AlertService.runBlock, hrest]
      · simp [AlertService.runBlock, hwindow]
      · simp [AlertService.runBlock, hrest]

/-- The alerts stay one at a time as long as no call posts a block while another one
is waiting. -/
theorem findsNoAlert_of_postsAlone {es : List (AlertEvent α)}
    (h : StepsMeet step PostsAlone ({} : AlertService α) es) :
    StepsMeet step FindsNoAlert ({} : AlertService α) es := by
  have hstart : ({} : AlertService α).Alone := ⟨Nat.zero_le 1, rfl, fun _ => rfl, fun _ => rfl⟩
  refine StepsMeet.of_kept ?_ (fun _ _ _ (hs : Alone _) => hs.step) hstart h
  intro s e t hs hstep _
  cases e with
  | runBlock =>
      obtain ⟨viewController, mainQueue, hmain, rfl⟩ := step_runBlock_cases hstep
      exact hs.waiting (by simp [hmain])
  | enqueue alert => trivial
  | dismiss => trivial

end AlertService

end AlertQueue
