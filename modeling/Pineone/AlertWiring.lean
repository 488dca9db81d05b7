import Pineone.AlertQueue
import Mathlib.Data.List.Nodup
import Mathlib.Logic.Function.Iterate

/-!
# The wiring of an alert

`CustomAlertViewController.layout` ties the buttons of an alert to
`AlertService.dismiss`: through the subject of its model (`bindObservable`), through the
completion of its model (`bindBlock`), or on its own (`handleDismiss`).  The subscription to
`dismissTrigger` holds the controller, so that no controller that was laid out goes away,
and a subject dismisses once for each alert laid out on it.

* `tapped_once_iff`: a tap dismisses at most once exactly as long as each alert that is laid
  out brings a subject of its own, and does not close itself besides;
* `orderly_iff`: alerts come one at a time, those included that are about to be shown,
  exactly as long as nothing is shown while a block waits and no tap takes two alerts out of
  the queue;
* `orderly_of_wiring`: so it is if the alerts are wired singly and shown apart.
-/

namespace AlertWiring

open Runs AlertQueue

/-- The texts of the buttons. -/
inductive ActionResult
  | cancel | done | close | refuse | allow | noMore | lockSetting | unlock | save
  | fieldCompleted | delete | registration | after | update | copyFCMid | download | install
  | yes | no | detailEvent | verifyCTN | exitApp | afterDownload | keepShowing | reset
  | fixGroundOn
  deriving DecidableEq, Repr

/-- What the model of an alert says about its buttons.  `buttonObservable` is the identity of
the subject, `hasCompletion` whether there is a `buttonCompletion`.

The model is a value here and an object in the program, where `bindBlock` replaces its
completion.  Every call of `show` makes a model of its own, so that no alert sees what
another one made of its model.  Neither the completions nor the subscribers of the subjects
call `dismiss` themselves. -/
structure AlertModel (β : Type) where
  buttonText : List ActionResult := []
  buttonObservable : Option β := none
  hasCompletion : Bool := false
  isButtonAutoClose : Bool := true
  deriving DecidableEq, Repr

/-- The controller of an alert; `identity` tells the controllers apart. -/
structure CustomAlertViewController (β : Type) where
  identity : ℕ
  alertModel : AlertModel β
  isExistNeverShowingCheck : Bool := false
  autoDismiss : Bool := false
  deriving DecidableEq, Repr

/-- The service with the controllers whose views were loaded. -/
structure AlertScreen (β : Type) where
  service : AlertService (CustomAlertViewController β) := {}
  loaded : List (CustomAlertViewController β) := []
  deriving DecidableEq, Repr

inductive ScreenEvent (β : Type)
  /-- `RxAlert.show`, with the settings of the `RxAlert`. -/
  | «show» (model : AlertModel β) (isExistNeverShowingCheck isSupportTabToDismiss : Bool)
  | runBlock
  /-- A tap on a button of the front alert. -/
  | tapButton (action : ActionResult)
  /-- A tap beside the front alert. -/
  | tapToDismiss
  /-- A tap on the exit button of the front alert. -/
  | eventExitButton

namespace AlertScreen

variable {β : Type} [DecidableEq β]

/-- `RxAlert.composite` makes a controller for the model and enqueues it. -/
def composite (s : AlertScreen β) (model : AlertModel β)
    (isExistNeverShowingCheck isSupportTabToDismiss : Bool) : AlertScreen β :=
  let alert : CustomAlertViewController β :=
    { identity := s.service.enqueued.length
      alertModel := model
      isExistNeverShowingCheck := isExistNeverShowingCheck
      autoDismiss := isSupportTabToDismiss }
  { s with service := { s.service with enqueued := s.service.enqueued ++ [alert] }.enqueue alert }

/-- `viewDidLoad` lays the alert out when its view is used first. -/
def loadView (s : AlertScreen β) (alert : CustomAlertViewController β) : AlertScreen β :=
  if alert ∈ s.loaded then s else { s with loaded := s.loaded ++ [alert] }

/-- The dismissals that a subject makes when it emits. -/
def subscriptions (s : AlertScreen β) (subject : β) : ℕ :=
  s.loaded.countP fun alert => decide (alert.alertModel.buttonObservable = some subject)

/-- The dismissals of `buttonCompletion` as it is after `bindBlock` and `handleDismiss`. -/
def completionDismissals (model : AlertModel β) : ℕ :=
  if model.hasCompletion then if model.isButtonAutoClose then 1 else 0
  else if model.buttonObservable = none then 1
  else 0

/-- The dismissals of a tap on a button, in `CustomAlertView.config`: first the subject
emits, then the completion is called. -/
def dismissals (s : AlertScreen β) (alert : CustomAlertViewController β) : ℕ :=
  (match alert.alertModel.buttonObservable with
    | some subject => s.subscriptions subject
    | none => 0) + completionDismissals alert.alertModel

def dismissTimes (s : AlertScreen β) (n : ℕ) : AlertScreen β :=
  { s with service := AlertService.dismiss^[n] s.service }

/-- The front alert covers the window, so only it is touched. -/
def step (s : AlertScreen β) : ScreenEvent β → Option (AlertScreen β)
  | .show model isExistNeverShowingCheck isSupportTabToDismiss =>
      some (s.composite model isExistNeverShowingCheck isSupportTabToDismiss)
  | .runBlock =>
      match s.service.mainQueue with
      | [] => none
      | alert :: mainQueue =>
          some (loadView { s with
            service := { s.service with mainQueue := mainQueue }.runBlock alert } alert)
  | .tapButton action =>
      match s.service.window.getLast? with
      | none => none
      | some alert =>
          if action ∈ alert.alertModel.buttonText then some (s.dismissTimes (s.dismissals alert))
          else none
  | .tapToDismiss =>
      match s.service.window.getLast? with
      | none => none
      | some alert => if alert.autoDismiss then some (s.dismissTimes 1) else none
  | .eventExitButton =>
      match s.service.window.getLast? with
      | none => none
      | some alert => if alert.isExistNeverShowingCheck then some (s.dismissTimes 1) else none

end AlertScreen

section Dismissals

variable {α : Type} [DecidableEq α]

omit [DecidableEq α] in
/-- Enqueuing an alert leaves the window as it is; what was presented and what was enqueued
are records of the events. -/
theorem enqueue_frame (s : AlertService α) (alert : α) :
    (s.enqueue alert).presented = s.presented ∧ (s.enqueue alert).window = s.window ∧
      (s.enqueue alert).enqueued = s.enqueued := by
  unfold AlertService.enqueue
  split <;> exact ⟨rfl, rfl, rfl⟩

/-- Without a presented alert there is nothing to remove, and the window stays. -/
theorem removePresented_of_none {s : AlertService α} (hnone : s.presentViewController = none) :
    s.removePresented = s := by
  unfold AlertService.removePresented
  rw [hnone]

omit [DecidableEq α] in
/-- With nobody waiting the service is idle after a dismissal. -/
theorem dequeue_nil {s : AlertService α} (hqueue : s.queue = []) :
    s.dequeue = { s with isPresenting := false } := by
  unfold AlertService.dequeue
  rw [hqueue]

omit [DecidableEq α] in
/-- The alert that has waited longest is presented next; its block is posted. The service
stays busy meanwhile. -/
theorem dequeue_cons {s : AlertService α} {alert : α} {queue : List α}
    (hqueue : s.queue = alert :: queue) :
    s.dequeue = AlertService.present { s with queue := queue } alert := by
  unfold AlertService.dequeue
  rw [hqueue]

/-- Without a presented alert, dismissing again and again posts the waiting alerts one after
the other. -/
theorem iterate_dismiss (n : ℕ) {s : AlertService α} (hnone : s.presentViewController = none) :
    AlertService.dismiss^[n] s =
      { s with
        queue := s.queue.drop n
        mainQueue := s.mainQueue ++ s.queue.take n
        isPresenting := s.isPresenting && decide (n ≤ s.queue.length) } := by
  induction n generalizing s with
  | zero => simp
  | succ n ih =>
      rw [Function.iterate_succ_apply, AlertService.dismiss, removePresented_of_none hnone]
      cases hqueue : s.queue with
      | nil =>
          rw [dequeue_nil hqueue, ih (by exact hnone)]
          simp [hqueue]
      | cons alert queue =>
          have hle : decide (n + 1 ≤ (alert :: queue).length) = decide (n ≤ queue.length) :=
            decide_eq_decide.mpr (by simp)
          rw [dequeue_cons hqueue, ih (by exact hnone), hle]
          simp only [AlertService.present, List.drop_succ_cons, List.take_succ_cons,
            List.append_assoc, List.cons_append, List.nil_append]
          rfl

/-- The presented alert leaves the window with the first dismissal only. The ones after it
find none to remove and take a further alert out of the queue each. -/
theorem dismiss_eq_dismiss_removed (s : AlertService α) :
    s.dismiss = s.removePresented.dismiss := by
  have hnone := (AlertService.removePresented_frame s).2.2.2.2.2
  unfold AlertService.dismiss
  rw [removePresented_of_none hnone]

/-- What `n + 1` dismissals do: one alert leaves the window, and as many as are waiting, up
to `n + 1`, have their blocks posted at once. -/
theorem iterate_dismiss_succ (n : ℕ) (s : AlertService α) :
    AlertService.dismiss^[n + 1] s =
      { s.removePresented with
        queue := s.queue.drop (n + 1)
        mainQueue := s.mainQueue ++ s.queue.take (n + 1)
        isPresenting := s.isPresenting && decide (n + 1 ≤ s.queue.length) } := by
  obtain ⟨hqueue, hflag, hmain, -, -, hnone⟩ := AlertService.removePresented_frame s
  rw [Function.iterate_succ_apply, dismiss_eq_dismiss_removed, ← Function.iterate_succ_apply,
    iterate_dismiss (n + 1) hnone, hqueue, hflag, hmain]

/-- Dismissals keep what holds in every run, and that alerts come one at a time, however
often a tap dismisses. -/
theorem iterate_dismiss_kept (n : ℕ) {s : AlertService α} (hs : s.Consistent)
    (h : s.OneAtATime) :
    (AlertService.dismiss^[n] s).Consistent ∧ (AlertService.dismiss^[n] s).OneAtATime := by
  induction n generalizing s with
  | zero => exact ⟨hs, h⟩
  | succ n ih => exact ih hs.dismiss (h.dismiss hs)

/-- Dismissing any number of times in one tap keeps the service consistent, by induction on
the number. -/
theorem iterate_dismiss_consistent (n : ℕ) {s : AlertService α} (hs : s.Consistent) :
    (AlertService.dismiss^[n] s).Consistent := by
  induction n generalizing s with
  | zero => exact hs
  | succ n ih => exact ih hs.dismiss

/-- Dismissals put nothing into the window. -/
theorem mem_of_mem_iterate_dismiss (n : ℕ) {s : AlertService α} {alert : α}
    (hmem : alert ∈ (AlertService.dismiss^[n] s).window) : alert ∈ s.window := by
  cases n with
  | zero => exact hmem
  | succ n =>
      rw [iterate_dismiss_succ] at hmem
      have hremoved : alert ∈ s.removePresented.window := hmem
      unfold AlertService.removePresented at hremoved
      split at hremoved
      · exact List.mem_of_mem_erase hremoved
      · exact hremoved

end Dismissals

namespace AlertScreen

variable {β : Type} [DecidableEq β] {s t : AlertScreen β} {e : ScreenEvent β}

section Orderly

/-- One alert is in the window or about to be shown, it is the presented one, and the alerts
come one at a time. -/
structure Orderly (s : AlertScreen β) : Prop where
  oneUnderWay : s.service.window.length + s.service.mainQueue.length ≤ 1
  shown : s.service.window = s.service.presentViewController.toList
  idle : s.service.isPresenting = false → s.service.window = []
  inTurn : s.service.OneAtATime

/-- No alert is shown while a block of an idle service waits, and no tap on a button takes
two alerts out of the queue. -/
def TakesOne (s : AlertScreen β) (e : ScreenEvent β) (_ : AlertScreen β) : Prop :=
  match e with
  | .show _ _ _ => s.service.isPresenting = false → s.service.mainQueue = []
  | .tapButton _ =>
      ∀ alert ∈ s.service.window.getLast?,
        min (s.dismissals alert) s.service.queue.length ≤ 1
  | _ => True

/-- **What a step does to the service**: it shows an alert, runs the first block, or dismisses
some times while an alert is in the window. -/
theorem step_cases (hstep : s.step e = some t) :
    (∃ model check tap, e = .show model check tap ∧ t = s.composite model check tap) ∨
      (∃ alert mainQueue, e = .runBlock ∧ s.service.mainQueue = alert :: mainQueue ∧
        t = loadView { s with
          service := { s.service with mainQueue := mainQueue }.runBlock alert } alert) ∨
      (∃ alert n, s.service.window.getLast? = some alert ∧ t = s.dismissTimes n ∧
        ((∃ action, e = .tapButton action) ∧ n = s.dismissals alert ∨
          (e = .tapToDismiss ∨ e = .eventExitButton) ∧ n = 1)) := by
  cases e with
  | «show» model check tap =>
      exact .inl ⟨model, check, tap, rfl, (Option.some.inj hstep).symm⟩
  | runBlock =>
      simp only [step] at hstep
      split at hstep
      · cases hstep
      · next alert mainQueue hmain =>
          exact .inr (.inl ⟨alert, mainQueue, rfl, hmain, (Option.some.inj hstep).symm⟩)
  | tapButton action =>
      simp only [step] at hstep
      split at hstep
      · cases hstep
      · next alert hfront =>
          split at hstep
          · exact .inr (.inr ⟨alert, _, hfront, (Option.some.inj hstep).symm,
              .inl ⟨⟨action, rfl⟩, rfl⟩⟩)
          · cases hstep
  | tapToDismiss =>
      simp only [step] at hstep
      split at hstep
      · cases hstep
      · next alert hfront =>
          split at hstep
          · exact .inr (.inr ⟨alert, 1, hfront, (Option.some.inj hstep).symm,
              .inr ⟨.inl rfl, rfl⟩⟩)
          · cases hstep
  | eventExitButton =>
      simp only [step] at hstep
      split at hstep
      · cases hstep
      · next alert hfront =>
          split at hstep
          · exact .inr (.inr ⟨alert, 1, hfront, (Option.some.inj hstep).symm,
              .inr ⟨.inr rfl, rfl⟩⟩)
          · cases hstep

/-- Laying an alert out subscribes to its subject; the service takes no part in it. -/
theorem loadView_service (s : AlertScreen β) (alert : CustomAlertViewController β) :
    (s.loadView alert).service = s.service := by
  unfold loadView
  split <;> rfl

/-- Every event of the screen does to the service what events of the service do, so that it
stays consistent. -/
theorem consistent_step (h : s.service.Consistent) (hstep : s.step e = some t) :
    t.service.Consistent := by
  obtain ⟨model, check, tap, -, rfl⟩ | ⟨alert, mainQueue, -, hmain, rfl⟩ | ⟨alert, n, -, rfl, -⟩ :=
    step_cases hstep
  · exact h.enqueue _
  · rw [loadView_service]
    exact h.runBlock hmain
  · exact iterate_dismiss_consistent n h

omit [DecidableEq β] in
/-- Showing an alert is orderly unless it posts a second block. It posts one where the
service is not presenting, so nothing may be posted at that time. -/
theorem orderly_composite_iff (hs : s.service.Consistent) (h : s.Orderly)
    (model : AlertModel β) (check tap : Bool) :
    (s.composite model check tap).Orderly ↔
      (s.service.isPresenting = false → s.service.mainQueue = []) := by
  have hturn := h.inTurn.enqueue (hs.enqueue
    { identity := s.service.enqueued.length, alertModel := model
      isExistNeverShowingCheck := check, autoDismiss := tap })
  cases hflag : s.service.isPresenting with
  | true =>
      refine iff_of_true ?_ (by simp)
      unfold composite at *
      unfold AlertService.enqueue at hturn ⊢
      simp only [hflag, if_true] at hturn ⊢
      exact ⟨h.oneUnderWay, h.shown, by simp, hturn⟩
  | false =>
      have hwindow := h.idle hflag
      unfold composite at *
      unfold AlertService.enqueue at hturn ⊢
      simp only [hflag, Bool.false_eq_true, if_false] at hturn ⊢
      constructor
      · intro hafter _
        have hone := hafter.oneUnderWay
        simp only [AlertService.present, List.length_append, List.length_singleton] at hone
        exact List.length_eq_zero_iff.mp (by omega)
      · intro hmain
        refine ⟨?_, h.shown, fun _ => hwindow, hturn⟩
        simp [AlertService.present, hwindow, hmain]

/-- A block that runs shows the only alert under way. -/
theorem orderly_runBlock {alert : CustomAlertViewController β}
    {mainQueue : List (CustomAlertViewController β)} (hs : s.service.Consistent)
    (h : s.Orderly) (hmain : s.service.mainQueue = alert :: mainQueue) :
    (loadView { s with
      service := { s.service with mainQueue := mainQueue }.runBlock alert } alert).Orderly := by
  have hone := h.oneUnderWay
  rw [hmain, List.length_cons] at hone
  have hwindow : s.service.window = [] := List.length_eq_zero_iff.mp (by omega)
  have hrest : mainQueue = [] := List.length_eq_zero_iff.mp (by omega)
  have hturn := (AlertService.oneAtATime_runBlock_iff h.inTurn (hs.runBlock hmain)).mpr hwindow
  refine ⟨?_, ?_, ?_, ?_⟩
  · simp [loadView_service, AlertService.runBlock, hwindow, hrest]
  · simp [loadView_service, AlertService.runBlock, hwindow]
  · simp [loadView_service, AlertService.runBlock]
  · rw [loadView_service]
    exact hturn

/-- A tap is orderly unless it posts the blocks of two alerts. That takes two dismissals, one
of the subject and one of the completion or of a second subscription, and two alerts that
wait. -/
theorem orderly_dismissTimes_iff {alert : CustomAlertViewController β}
    (hs : s.service.Consistent) (h : s.Orderly)
    (hfront : s.service.window.getLast? = some alert) (n : ℕ) :
    (s.dismissTimes n).Orderly ↔ min n s.service.queue.length ≤ 1 := by
  cases n with
  | zero => exact iff_of_true h (by simp)
  | succ n =>
      have hturn := (iterate_dismiss_kept (n + 1) hs h.inTurn).2
      have hne : s.service.window ≠ [] := by
        intro hempty
        rw [hempty] at hfront
        cases hfront
      have hlength := List.length_pos_iff.mpr hne
      have hone := h.oneUnderWay
      have hmain : s.service.mainQueue = [] := List.length_eq_zero_iff.mp (by omega)
      have hclear : s.service.removePresented.window = [] := by
        have hshown := h.shown
        unfold AlertService.removePresented
        cases hpresented : s.service.presentViewController with
        | none => simpa [hpresented] using hshown
        | some vc => simp [hshown, hpresented]
      have hnone := (AlertService.removePresented_frame s.service).2.2.2.2.2
      unfold dismissTimes
      constructor
      · intro hafter
        have hposted := hafter.oneUnderWay
        rw [iterate_dismiss_succ] at hposted
        simpa [hclear, hmain] using hposted
      · intro hposted
        refine ⟨?_, ?_, ?_, hturn⟩
        · rw [iterate_dismiss_succ]
          simpa [hclear, hmain] using hposted
        · rw [iterate_dismiss_succ]
          simp [hclear, hnone]
        · rw [iterate_dismiss_succ]
          exact fun _ => hclear

/-- Showing an alert keeps the order exactly when no block of an idle service waits, and a
tap on a button exactly when it takes no two alerts out of the queue; all other events keep
it. -/
theorem orderly_step_iff (hs : s.service.Consistent) (h : s.Orderly)
    (hstep : s.step e = some t) : t.Orderly ↔ TakesOne s e t := by
  obtain ⟨model, check, tap, rfl, rfl⟩ | ⟨alert, mainQueue, rfl, hmain, rfl⟩ |
    ⟨alert, n, hfront, rfl, ⟨⟨action, rfl⟩, rfl⟩ | ⟨hevent, rfl⟩⟩ := step_cases hstep
  · exact orderly_composite_iff hs h model check tap
  · exact iff_of_true (orderly_runBlock hs h hmain) trivial
  · rw [orderly_dismissTimes_iff hs h hfront]
    unfold TakesOne
    simp [hfront]
  · refine iff_of_true ((orderly_dismissTimes_iff hs h hfront 1).mpr (by omega)) ?_
    rcases hevent with rfl | rfl <;> trivial

omit [DecidableEq β] in
/-- At the start nothing is in the window and nothing is under way. -/
theorem orderly_start : ({} : AlertScreen β).Orderly :=
  ⟨Nat.zero_le 1, rfl, fun _ => rfl, AlertService.oneAtATime_start⟩

/-- **Alerts come one at a time**, those included that are about to be shown, exactly as long
as nothing is shown while a block of an idle service waits and no tap on a button takes two
alerts out of the queue. -/
theorem orderly_iff (es : List (ScreenEvent β)) :
    Throughout step Orderly ({} : AlertScreen β) es ↔
      StepsMeet step TakesOne ({} : AlertScreen β) es :=
  throughout_iff_stepsMeet (J := fun s => s.service.Consistent)
    (fun _ _ _ hs hstep => consistent_step hs hstep)
    (fun _ _ _ hs h hstep => orderly_step_iff hs h hstep)
    AlertService.consistent_start orderly_start

end Orderly

section Wiring

/-- A tap on a button of an alert in the window dismisses at most once. -/
def TappedOnce (s : AlertScreen β) : Prop :=
  ∀ alert ∈ s.service.window, s.dismissals alert ≤ 1

/-- An alert that is laid out brings a subject that no alert before it was laid out on, and
then does not close by its completion as well. -/
def WiredSingly (s : AlertScreen β) (e : ScreenEvent β) (_ : AlertScreen β) : Prop :=
  match e with
  | .runBlock =>
      ∀ alert ∈ s.service.mainQueue.head?, ∀ subject ∈ alert.alertModel.buttonObservable,
        s.subscriptions subject = 0 ∧ completionDismissals alert.alertModel = 0
  | _ => True

/-- What holds in every run: the alerts in the window are laid out, and an alert is laid out
when it is presented, each one once. -/
structure LaidOut (s : AlertScreen β) : Prop where
  consistent : s.service.Consistent
  loaded : s.loaded = s.service.presented
  fresh : s.service.enqueued.map CustomAlertViewController.identity =
    List.range s.service.enqueued.length
  window : ∀ alert ∈ s.service.window, alert ∈ s.loaded

omit [DecidableEq β] in
/-- The alert whose block runs was not laid out before. Each showing makes a controller of
its own, which is numbered, so that it runs through the service once. -/
theorem LaidOut.not_loaded (h : s.LaidOut) {alert : CustomAlertViewController β}
    {mainQueue : List (CustomAlertViewController β)}
    (hmain : s.service.mainQueue = alert :: mainQueue) : alert ∉ s.loaded := by
  have hnodup : s.service.enqueued.Nodup := by
    apply List.Nodup.of_map CustomAlertViewController.identity
    rw [h.fresh]
    exact List.nodup_range
  rw [h.consistent.order, hmain, List.append_assoc, List.nodup_append] at hnodup
  rw [h.loaded]
  intro hmem
  exact hnodup.2.2 alert hmem alert (by simp) rfl

/-- What is laid out when a block runs. -/
theorem LaidOut.loadView (h : s.LaidOut) {alert : CustomAlertViewController β}
    {mainQueue : List (CustomAlertViewController β)}
    (hmain : s.service.mainQueue = alert :: mainQueue) :
    let t : AlertScreen β := AlertScreen.loadView { s with
      service := { s.service with mainQueue := mainQueue }.runBlock alert } alert
    t.loaded = s.loaded ++ [alert] ∧ t.service.window = s.service.window ++ [alert] := by
  have hnew := h.not_loaded hmain
  have hother : alert ∉ s.service.window := fun hmem => hnew (h.window alert hmem)
  refine ⟨?_, ?_⟩
  · simp [AlertScreen.loadView, hnew]
  · rw [loadView_service]
    simp [AlertService.runBlock, List.erase_of_not_mem hother]

/-- Dismissals enqueue nothing, and they present nothing themselves: they post the blocks
that do. -/
theorem iterate_dismiss_frame (n : ℕ) (u : AlertService (CustomAlertViewController β)) :
    (AlertService.dismiss^[n] u).enqueued = u.enqueued ∧
      (AlertService.dismiss^[n] u).presented = u.presented := by
  obtain ⟨-, -, -, henqueued, hpresented, -⟩ := AlertService.removePresented_frame u
  cases n with
  | zero => exact ⟨rfl, rfl⟩
  | succ n =>
      rw [iterate_dismiss_succ]
      exact ⟨henqueued, hpresented⟩

/-- Every event keeps the laid out alerts those that were presented, and gives a new alert a
number of its own. -/
theorem LaidOut.step (h : s.LaidOut) (hstep : s.step e = some t) : t.LaidOut := by
  have hconsistent := consistent_step h.consistent hstep
  obtain ⟨model, check, tap, -, rfl⟩ | ⟨alert, mainQueue, -, hmain, rfl⟩ |
    ⟨alert, n, -, rfl, -⟩ := step_cases hstep
  · obtain ⟨hpresented, hwindow, henqueued⟩ :
        (s.composite model check tap).service.presented = s.service.presented ∧
        (s.composite model check tap).service.window = s.service.window ∧
        (s.composite model check tap).service.enqueued = s.service.enqueued ++ [_] :=
      enqueue_frame _ _
    refine ⟨hconsistent, ?_, ?_, ?_⟩
    · rw [hpresented]
      exact h.loaded
    · rw [henqueued, List.map_append, h.fresh, List.length_append, List.length_singleton,
        List.range_succ]
      rfl
    · rw [hwindow]
      exact h.window
  · obtain ⟨hloaded, hwindow⟩ := h.loadView hmain
    refine ⟨hconsistent, ?_, ?_, ?_⟩
    · rw [hloaded, h.loaded, loadView_service]
      rfl
    · rw [loadView_service]
      exact h.fresh
    · rw [hloaded, hwindow]
      intro other hmem
      rcases List.mem_append.mp hmem with hshown | hlast
      · exact List.mem_append_left _ (h.window other hshown)
      · exact List.mem_append_right _ hlast
  · obtain ⟨henqueued, hpresented⟩ := iterate_dismiss_frame n s.service
    refine ⟨hconsistent, ?_, ?_, ?_⟩
    · show s.loaded = (AlertService.dismiss^[n] s.service).presented
      rw [hpresented]
      exact h.loaded
    · show (AlertService.dismiss^[n] s.service).enqueued.map _ = _
      rw [henqueued]
      show _ = List.range (AlertService.dismiss^[n] s.service).enqueued.length
      rw [henqueued]
      exact h.fresh
    · exact fun other hmem => h.window other (mem_of_mem_iterate_dismiss n hmem)

omit [DecidableEq β] in
/-- No alert is laid out at the start, and none has a number. -/
theorem laidOut_start : ({} : AlertScreen β).LaidOut :=
  ⟨AlertService.consistent_start, rfl, rfl, by simp⟩

/-- A laid out alert adds a dismissal to the taps on its subject, and to those on no other
one. The subscription stays when the alert has left the window. -/
theorem subscriptions_append {loaded : List (CustomAlertViewController β)}
    {alert : CustomAlertViewController β} (hloaded : t.loaded = loaded ++ [alert]) (subject : β)
    (hs : s.loaded = loaded) :
    t.subscriptions subject = s.subscriptions subject +
      if alert.alertModel.buttonObservable = some subject then 1 else 0 := by
  unfold subscriptions
  rw [hloaded, hs, List.countP_append, List.countP_singleton]
  simp

/-- An alert that is laid out has a dismissal on its subject. -/
theorem subscriptions_pos {alert : CustomAlertViewController β} {subject : β}
    (hmem : alert ∈ s.loaded) (hsubject : alert.alertModel.buttonObservable = some subject) :
    0 < s.subscriptions subject :=
  List.countP_pos_iff.mpr ⟨alert, hmem, by simp [hsubject]⟩

omit [DecidableEq β] in
/-- The completion dismisses at most once by itself: it is the button's own, or the one that
is set in its place. -/
theorem completionDismissals_le_one [DecidableEq β] (model : AlertModel β) :
    completionDismissals model ≤ 1 := by
  unfold completionDismissals
  split
  · split <;> omega
  · split <;> omega

/-- Without a subject only the completion dismisses. -/
theorem dismissals_of_none {alert : CustomAlertViewController β}
    (hsubject : alert.alertModel.buttonObservable = none) :
    s.dismissals alert = completionDismissals alert.alertModel := by
  unfold dismissals
  rw [hsubject]
  exact Nat.zero_add _

/-- With a subject a tap dismisses once for each alert that was laid out on that subject, and
by the completion besides. -/
theorem dismissals_of_some {alert : CustomAlertViewController β} {subject : β}
    (hsubject : alert.alertModel.buttonObservable = some subject) :
    s.dismissals alert = s.subscriptions subject + completionDismissals alert.alertModel := by
  unfold dismissals
  rw [hsubject]

/-- An alert that comes into the window keeps that taps dismiss once exactly when it is wired
singly. -/
theorem tappedOnce_iff_of_loaded {alert : CustomAlertViewController β} (hs : s.LaidOut)
    (h : s.TappedOnce) (hloaded : t.loaded = s.loaded ++ [alert])
    (hwindow : t.service.window = s.service.window ++ [alert]) :
    t.TappedOnce ↔ ∀ subject ∈ alert.alertModel.buttonObservable,
      s.subscriptions subject = 0 ∧ completionDismissals alert.alertModel = 0 := by
  have hlast : alert ∈ t.service.window := by simp [hwindow]
  constructor
  · intro hafter subject hsubject
    have honce := hafter alert hlast
    have hown : alert.alertModel.buttonObservable = some subject := hsubject
    rw [dismissals_of_some hown, subscriptions_append hloaded subject rfl, if_pos hown] at honce
    omega
  · intro hwired other hmem
    have hbefore : other ∈ s.service.window → s.dismissals other ≤ 1 := h other
    rw [hwindow, List.mem_append, List.mem_singleton] at hmem
    cases hother : other.alertModel.buttonObservable with
    | none =>
        rw [dismissals_of_none hother]
        exact completionDismissals_le_one _
    | some subject =>
        rw [dismissals_of_some hother, subscriptions_append hloaded subject rfl]
        rcases hmem with hshown | rfl
        · have hone := hbefore hshown
          have hpos := subscriptions_pos (hs.window other hshown) hother
          rw [dismissals_of_some hother] at hone
          have hdifferent : alert.alertModel.buttonObservable ≠ some subject := by
            intro hsame
            have hzero := (hwired subject hsame).1
            omega
          rw [if_neg hdifferent]
          omega
        · obtain ⟨hzero, hopen⟩ := hwired subject hother
          rw [if_pos hother]
          omega

/-- Only the block that lays an alert out can add to what a tap does; all other events leave
the subscriptions as they are, and put no alert into the window. -/
theorem tappedOnce_step_iff (hs : s.LaidOut) (h : s.TappedOnce) (hstep : s.step e = some t) :
    t.TappedOnce ↔ WiredSingly s e t := by
  obtain ⟨model, check, tap, rfl, rfl⟩ | ⟨alert, mainQueue, rfl, hmain, rfl⟩ |
    ⟨alert, n, -, rfl, hevent⟩ := step_cases hstep
  · have hwindow : (s.composite model check tap).service.window = s.service.window :=
      (enqueue_frame _ _).2.1
    refine iff_of_true (fun alert hmem => ?_) trivial
    rw [hwindow] at hmem
    exact h alert hmem
  · obtain ⟨hloaded, hwindow⟩ := hs.loadView hmain
    rw [tappedOnce_iff_of_loaded hs h hloaded hwindow]
    unfold WiredSingly
    simp [hmain]
  · refine iff_of_true (fun other hmem => ?_) ?_
    · exact h other (mem_of_mem_iterate_dismiss n hmem)
    · rcases hevent with ⟨⟨action, rfl⟩, -⟩ | ⟨rfl | rfl, -⟩ <;> trivial

/-- **A tap dismisses at most once** exactly as long as each alert that is laid out brings a
subject that no alert was laid out on before, and does not close by its completion besides.
The alerts that were laid out on a subject count also after they were dismissed. -/
theorem tapped_once_iff (es : List (ScreenEvent β)) :
    Throughout step TappedOnce ({} : AlertScreen β) es ↔
      StepsMeet step WiredSingly ({} : AlertScreen β) es :=
  throughout_iff_stepsMeet (J := LaidOut) (fun _ _ _ hs hstep => hs.step hstep)
    (fun _ _ _ hs h hstep => tappedOnce_step_iff hs h hstep) laidOut_start
    (fun _ hmem => by simp at hmem)

/-- An alert is wired singly, and nothing is shown while a block of an idle service waits. -/
def WiredAndApart (s : AlertScreen β) (e : ScreenEvent β) (t : AlertScreen β) : Prop :=
  WiredSingly s e t ∧ match e with
    | .show _ _ _ => s.service.isPresenting = false → s.service.mainQueue = []
    | _ => True

/-- Where a tap dismisses at most once, it takes at most one alert out of the queue. What is
left to ask is that no alert is shown while a block of an idle service waits. -/
theorem takesOne_of_tappedOnce (h : s.TappedOnce) (hapart : WiredAndApart s e t) :
    TakesOne s e t := by
  cases e with
  | «show» model check tap => exact hapart.2
  | tapButton action =>
      intro alert hfront
      have honce := h alert (List.mem_of_getLast? hfront)
      omega
  | runBlock => trivial
  | tapToDismiss => trivial
  | eventExitButton => trivial

/-- **Singly wired alerts that are shown apart come one at a time**, each presented once, in
the order they were shown in and after its predecessor was removed, whatever is tapped. -/
theorem orderly_of_wiring {es : List (ScreenEvent β)}
    (h : StepsMeet step WiredAndApart ({} : AlertScreen β) es) :
    Throughout step Orderly ({} : AlertScreen β) es := by
  have hstart : ({} : AlertScreen β).LaidOut ∧ ({} : AlertScreen β).TappedOnce ∧
      ({} : AlertScreen β).Orderly := ⟨laidOut_start, fun _ hmem => by simp at hmem, orderly_start⟩
  have hkept : Throughout step (fun s : AlertScreen β => s.LaidOut ∧ s.TappedOnce ∧ s.Orderly)
      ({} : AlertScreen β) es := by
    refine StepsMeet.throughout (fun s e t hs hstep hapart => ?_) hstart h
    obtain ⟨hlaidOut, honce, horderly⟩ := hs
    have htakes := takesOne_of_tappedOnce honce hapart
    exact ⟨hlaidOut.step hstep, (tappedOnce_step_iff hlaidOut honce hstep).mpr hapart.1,
      (orderly_step_iff hlaidOut.consistent horderly hstep).mpr htakes⟩
  exact Throughout.mono (J := fun _ => True) (fun _ _ _ _ _ => trivial)
    (fun _ _ hs => hs.2.2) trivial hkept

/-- Two alerts with subjects of their own, the second one shown while the first one is in the
window. -/
theorem orderly_two_subjects :
    Throughout step Orderly ({} : AlertScreen ℕ)
      [.show { buttonText := [.done], buttonObservable := some 0 } false false, .runBlock,
        .show { buttonText := [.yes, .no], buttonObservable := some 1 } false true,
        .tapButton .done, .runBlock, .tapToDismiss] := by
  apply orderly_of_wiring
  intro t ht
  obtain rfl := Option.some.inj ht
  refine ⟨⟨trivial, fun _ => rfl⟩, ?_⟩
  intro t ht
  obtain rfl := Option.some.inj ht
  refine ⟨⟨?_, trivial⟩, ?_⟩
  · intro alert halert subject hsubject
    obtain rfl := Option.some.inj halert
    obtain rfl := Option.some.inj hsubject
    exact ⟨rfl, rfl⟩
  intro t ht
  obtain rfl := Option.some.inj ht
  refine ⟨⟨trivial, fun _ => ?_⟩, ?_⟩
  · rfl
  intro t ht
  obtain rfl := Option.some.inj ht
  refine ⟨⟨trivial, trivial⟩, ?_⟩
  intro t ht
  obtain rfl := Option.some.inj ht
  refine ⟨⟨?_, trivial⟩, ?_⟩
  · intro alert halert subject hsubject
    obtain rfl := Option.some.inj halert
    obtain rfl := Option.some.inj hsubject
    exact ⟨rfl, rfl⟩
  intro t ht
  obtain rfl := Option.some.inj ht
  exact ⟨⟨trivial, trivial⟩, trivial⟩

end Wiring

end AlertScreen

end AlertWiring
