import Pineone.AlertQueue
import Mathlib.Data.List.Nodup

/-!
# How the alert queue goes on

What a run without new alerts leads to, and which alerts can leave the window at all.

* `all_presented_iff`: after such a run every alert was presented exactly if no block waits
  and there was a dismissal for each alert that waited;
* `dismissible_iff`: an alert in the window can only be taken out of it again if it is the
  presented one or is about to be presented once more.  An alert that another one was
  presented over stays for good.
-/

namespace AlertQueue

open Runs

namespace AlertEvent

variable {α : Type}

def isEnqueue : AlertEvent α → Bool
  | .enqueue _ => true
  | _ => false

def isDismiss : AlertEvent α → Bool
  | .dismiss => true
  | _ => false

end AlertEvent

namespace AlertService

variable {α : Type} [DecidableEq α] {s t : AlertService α} {e : AlertEvent α}
  {es : List (AlertEvent α)} {vc : α}

section Frames

/-- A dismissal posts the block of the alert that waits first. -/
theorem dismiss_frame (s : AlertService α) :
    s.dismiss.queue = s.queue.drop 1 ∧
      s.dismiss.mainQueue = s.mainQueue ++ s.queue.take 1 ∧
      s.dismiss.presented = s.presented ∧ s.dismiss.presentViewController = none ∧
      s.dismiss.window = s.removePresented.window := by
  obtain ⟨hqueue, -, hmain, -, hpresented, hnone⟩ := removePresented_frame s
  unfold dismiss dequeue
  split
  · next hempty =>
      rw [hqueue] at hempty
      simp [hqueue, hmain, hpresented, hnone, hempty]
  · next alert queue hcons =>
      rw [hqueue] at hcons
      simp [present, hmain, hpresented, hnone, hcons]

/-- The window loses the presented alert only. Other alerts that are in it, as there may be
after two blocks in a row, stay. -/
theorem removePresented_window_eq (s : AlertService α) :
    s.removePresented.window = s.presentViewController.elim s.window s.window.erase := by
  unfold removePresented
  split
  · next vc hvc => rw [hvc, Option.elim_some]
  · next hnone => rw [hnone, Option.elim_none]

omit [DecidableEq α] in
/-- Enqueuing an alert touches neither the window nor the presented alert; it only waits or
has its block posted. -/
theorem enqueue_window (s : AlertService α) (alert : α) :
    (AlertService.enqueue { s with enqueued := s.enqueued ++ [alert] } alert).window = s.window ∧
      (AlertService.enqueue
        { s with enqueued := s.enqueued ++ [alert] } alert).presentViewController =
          s.presentViewController := by
  unfold AlertService.enqueue
  split <;> exact ⟨rfl, rfl⟩

end Frames

section Release

/-- Each dismissal lets one of the waiting alerts go, whatever is in the window: the queue
loses its first alert to the main queue, in a run in which none is added. -/
theorem released_of_run (hquiet : ∀ e ∈ es, e.isEnqueue = false)
    (h : runFrom step s es = some t) :
    t.queue = s.queue.drop (es.countP (·.isDismiss)) ∧
      t.presented ++ t.mainQueue =
        s.presented ++ s.mainQueue ++ s.queue.take (es.countP (·.isDismiss)) := by
  induction es generalizing s with
  | nil =>
      obtain rfl := Option.some.inj h
      simp
  | cons e es ih =>
      obtain ⟨u, hu, hrest⟩ := runFrom_cons h
      obtain ⟨hfirst, hlater⟩ := List.forall_mem_cons.mp hquiet
      obtain ⟨hqueue, hpresented⟩ := ih hlater hrest
      cases e with
      | enqueue alert => cases hfirst
      | dismiss =>
          obtain rfl := Option.some.inj hu
          obtain ⟨hwaiting, hmain, hshown, -, -⟩ := dismiss_frame s
          have hcount : (AlertEvent.dismiss :: es).countP (·.isDismiss) =
              1 + es.countP (·.isDismiss) := by
            rw [List.countP_cons_of_pos (by rfl), Nat.add_comm]
          rw [hqueue, hpresented, hcount, hwaiting, hmain, hshown, List.drop_drop,
            List.take_add]
          simp [List.append_assoc]
      | runBlock =>
          obtain ⟨viewController, mainQueue, hmain, rfl⟩ := step_runBlock_cases hu
          have hcount : (AlertEvent.runBlock :: es).countP (·.isDismiss) =
              es.countP (·.isDismiss) := List.countP_cons_of_neg (by simp [AlertEvent.isDismiss])
          rw [hqueue, hpresented, hcount, hmain]
          simp [runBlock]

/-- **When every alert was presented.**  From a reachable state, a run without new alerts
ends with all alerts presented exactly if it leaves no block waiting and dismisses at least
as often as alerts waited. -/
theorem all_presented_iff (fs es : List (AlertEvent α))
    (hreach : runFrom step ({} : AlertService α) fs = some s)
    (hquiet : ∀ e ∈ es, e.isEnqueue = false) (h : runFrom step s es = some t) :
    t.presented = t.enqueued ↔
      t.mainQueue = [] ∧ s.queue.length ≤ es.countP (·.isDismiss) := by
  have hs : s.Consistent := runFrom_of_step (fun _ _ _ => Consistent.step) consistent_start hreach
  have ht : t.Consistent := runFrom_of_step (fun _ _ _ => Consistent.step) hs h
  obtain ⟨hqueue, -⟩ := released_of_run hquiet h
  rw [ht.order, List.append_assoc, List.self_eq_append_right, List.append_eq_nil_iff, hqueue,
    List.drop_eq_nil_iff]

/-- Three alerts; the second and the third one wait until the first two are dismissed. Both
are presented by the end. -/
theorem three_alerts_presented :
    ∃ t : AlertService ℕ,
      runFrom step { queue := [1, 2], isPresenting := true, presentViewController := some 0,
                     window := [0], enqueued := [0, 1, 2], presented := [0] }
        [.dismiss, .runBlock, .dismiss, .runBlock] = some t ∧ t.presented = t.enqueued := by
  refine ⟨_, rfl, ?_⟩
  refine (all_presented_iff [.enqueue 0, .runBlock, .enqueue 1, .enqueue 2]
    [.dismiss, .runBlock, .dismiss, .runBlock] rfl ?_ rfl).mpr ⟨rfl, by decide⟩
  simp [AlertEvent.isEnqueue]

end Release

section Window

/-- Presenting takes an alert out of the window before it is added again, so that no alert is
in the window twice. -/
theorem window_nodup_step (h : s.window.Nodup) (hstep : AlertService.step s e = some t) :
    t.window.Nodup := by
  cases e with
  | enqueue alert =>
      obtain rfl := Option.some.inj hstep
      rw [(enqueue_window s alert).1]
      exact h
  | dismiss =>
      obtain rfl := Option.some.inj hstep
      rw [(dismiss_frame s).2.2.2.2, removePresented_window_eq]
      cases s.presentViewController with
      | none => exact h
      | some vc => exact h.erase vc
  | runBlock =>
      obtain ⟨viewController, mainQueue, -, rfl⟩ := step_runBlock_cases hstep
      have herased : viewController ∉ s.window.erase viewController := h.not_mem_erase
      show (s.window.erase viewController ++ [viewController]).Nodup
      rw [← List.concat_eq_append]
      exact (h.erase viewController).concat herased

/-- An alert that another one was presented over: it is in the window, but nothing leads to
its dismissal. -/
structure LeftBehind (vc : α) (s : AlertService α) : Prop where
  inWindow : vc ∈ s.window
  notPresented : s.presentViewController ≠ some vc
  notPosted : vc ∉ s.mainQueue
  notWaiting : vc ∉ s.queue

/-- An alert that was left behind stays so as long as it is not enqueued again: dismissals
reach the presented alert and the waiting ones only. -/
theorem LeftBehind.step (h : s.LeftBehind vc) (hother : ∀ alert, e = .enqueue alert → alert ≠ vc)
    (hstep : AlertService.step s e = some t) : t.LeftBehind vc := by
  cases e with
  | enqueue alert =>
      obtain rfl := Option.some.inj hstep
      have hne : vc ≠ alert := (hother alert rfl).symm
      obtain ⟨hwindow, hshown⟩ := enqueue_window s alert
      refine ⟨?_, ?_, ?_, ?_⟩
      · rw [hwindow]
        exact h.inWindow
      · rw [hshown]
        exact h.notPresented
      · unfold AlertService.enqueue
        split
        · exact h.notPosted
        · simp [present, hne, h.notPosted]
      · unfold AlertService.enqueue
        split
        · simp [hne, h.notWaiting]
        · exact h.notWaiting
  | dismiss =>
      obtain rfl := Option.some.inj hstep
      obtain ⟨hqueue, hmain, -, hnone, hwindow⟩ := dismiss_frame s
      refine ⟨?_, ?_, ?_, ?_⟩
      · rw [hwindow, removePresented_window_eq]
        cases hfront : s.presentViewController with
        | none => exact h.inWindow
        | some front =>
            have hne : vc ≠ front := fun heq => h.notPresented (heq ▸ hfront)
            exact (List.mem_erase_of_ne hne).mpr h.inWindow
      · rw [hnone]
        simp
      · rw [hmain, List.mem_append]
        rintro (hposted | hfirst)
        · exact h.notPosted hposted
        · exact h.notWaiting (List.mem_of_mem_take hfirst)
      · rw [hqueue]
        exact fun hlater => h.notWaiting (List.mem_of_mem_drop hlater)
  | runBlock =>
      obtain ⟨viewController, mainQueue, hmain, rfl⟩ := step_runBlock_cases hstep
      have hposted := h.notPosted
      rw [hmain, List.mem_cons, not_or] at hposted
      refine ⟨?_, ?_, hposted.2, h.notWaiting⟩
      · exact List.mem_append_left _ ((List.mem_erase_of_ne hposted.1).mpr h.inWindow)
      · exact fun heq => hposted.1 (Option.some.inj heq).symm

/-- The alert that comes next is presented after a dismissal at most: its block is posted
already, or a dismissal takes it out of the queue and posts it. -/
theorem present_next {rest : List α} (hnext : s.mainQueue ++ s.queue = vc :: rest) :
    ∃ es t, (∀ e ∈ es, e.isEnqueue = false) ∧ runFrom step s es = some t ∧
      t.presentViewController = some vc ∧ t.mainQueue ++ t.queue = rest := by
  cases hmain : s.mainQueue with
  | cons viewController mainQueue =>
      rw [hmain, List.cons_append] at hnext
      obtain ⟨rfl, hrest⟩ := List.cons.inj hnext
      refine ⟨[.runBlock], runBlock { s with mainQueue := mainQueue } viewController, ?_, ?_,
        rfl, hrest⟩
      · simp [AlertEvent.isEnqueue]
      · simp [runFrom, step, hmain]
  | nil =>
      rw [hmain, List.nil_append] at hnext
      obtain ⟨hqueue, hposted, -, -, -⟩ := dismiss_frame s
      rw [hmain, hnext] at hposted
      rw [hnext] at hqueue
      refine ⟨[.dismiss, .runBlock], runBlock { s.dismiss with mainQueue := [] } vc, ?_, ?_,
        rfl, hqueue⟩
      · simp [AlertEvent.isEnqueue]
      · have hblock : s.dismiss.mainQueue = [vc] := hposted
        simp [runFrom, step, hblock]

/-- Whatever is posted or waits can be brought to the front, by induction on the number of
alerts that come before it. -/
theorem present_later (hcomes : vc ∈ s.mainQueue ++ s.queue) :
    ∃ es t, (∀ e ∈ es, e.isEnqueue = false) ∧ runFrom step s es = some t ∧
      t.presentViewController = some vc := by
  generalize hcoming : s.mainQueue ++ s.queue = coming at hcomes
  induction coming generalizing s with
  | nil => cases hcomes
  | cons next rest ih =>
      obtain ⟨es, u, hquiet, hu, hfront, hrest⟩ := present_next hcoming
      rcases List.mem_cons.mp hcomes with rfl | hlater
      · exact ⟨es, u, hquiet, hu, hfront⟩
      · obtain ⟨fs, t, hquiet', ht, hfront'⟩ := ih hrest hlater
        refine ⟨es ++ fs, t, ?_, ?_, hfront'⟩
        · intro e he
          rcases List.mem_append.mp he with h | h
          · exact hquiet e h
          · exact hquiet' e h
        · rw [runFrom_append hu, ht]

/-- **Which alerts can leave the window.**  From a reachable state an alert of the window can
be taken out of it, without being enqueued again, exactly if it is the presented one, or a
block is posted for it, or it waits in the queue. -/
theorem dismissible_iff (fs : List (AlertEvent α))
    (hreach : runFrom step ({} : AlertService α) fs = some s) (hwindow : vc ∈ s.window) :
    (∃ es t, (∀ alert, AlertEvent.enqueue alert ∈ es → alert ≠ vc) ∧
        runFrom step s es = some t ∧ vc ∉ t.window) ↔
      s.presentViewController = some vc ∨ vc ∈ s.mainQueue ∨ vc ∈ s.queue := by
  have hnodup : s.window.Nodup :=
    runFrom_of_step (fun _ _ _ => window_nodup_step) List.nodup_nil hreach
  constructor
  · rintro ⟨es, t, hother, ht, hgone⟩
    by_contra hnothing
    simp only [not_or] at hnothing
    have hleft : s.LeftBehind vc := ⟨hwindow, hnothing.1, hnothing.2.1, hnothing.2.2⟩
    have hstays : t.LeftBehind vc :=
      runFrom_of_events (E := fun e => ∀ alert, e = .enqueue alert → alert ≠ vc)
        (fun _ _ _ h hE hstep => h.step hE hstep) hleft
        (fun e he alert heq => hother alert (by rw [← heq]; exact he)) ht
    exact hgone hstays.inWindow
  · intro hcomes
    obtain ⟨es, u, hquiet, hu, hfront⟩ : ∃ es u, (∀ e ∈ es, e.isEnqueue = false) ∧
        runFrom step s es = some u ∧ u.presentViewController = some vc := by
      rcases hcomes with hpresented | hposted | hwaiting
      · exact ⟨[], s, nofun, rfl, hpresented⟩
      · exact present_later (List.mem_append_left _ hposted)
      · exact present_later (List.mem_append_right _ hwaiting)
    have hkept : u.window.Nodup :=
      runFrom_of_step (fun _ _ _ => window_nodup_step) hnodup hu
    refine ⟨es ++ [.dismiss], u.dismiss, ?_, ?_, ?_⟩
    · intro alert hmem
      rcases List.mem_append.mp hmem with hearly | hlast
      · cases hquiet _ hearly
      · simp at hlast
    · rw [runFrom_append hu]
      rfl
    · rw [(dismiss_frame u).2.2.2.2, removePresented_window_eq, hfront, Option.elim_some]
      exact hkept.not_mem_erase

/-- Two alerts enqueued before the first block ran: after both blocks the first one is there
to stay. -/
theorem first_alert_stays :
    ∃ s : AlertService ℕ,
      runFrom step {} [.enqueue 0, .enqueue 1, .runBlock, .runBlock] = some s ∧ 0 ∈ s.window ∧
      ¬ ∃ es t, (∀ alert, AlertEvent.enqueue alert ∈ es → alert ≠ 0) ∧
        runFrom step s es = some t ∧ 0 ∉ t.window := by
  refine ⟨_, rfl, by decide, fun h => ?_⟩
  have hcomes :=
    (dismissible_iff [.enqueue 0, .enqueue 1, .runBlock, .runBlock] rfl (by decide)).mp h
  exact absurd hcomes (by decide)

end Window

end AlertService

end AlertQueue
