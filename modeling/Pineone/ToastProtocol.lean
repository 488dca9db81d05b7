import Pineone.ToastQueue

/-!
# Toasts as operations of a queue

An operation may turn finished once, and only after its queue has called its `start`.  A
toast turns finished when its second animation completes and when the block of a `cancel`
runs; that block does not ask whether the toast was started.

* `toast_protocol_iff`: along a run of starts, blocks, animations and cancels the toasts
  keep to this exactly when the block of each cancel finds its toast started.
-/

namespace ToastQueue

open Runs

inductive OperationEvent
  | toast (event : ToastEvent)
  /-- `cancel()` of a toast. -/
  | cancel (toast : ℕ)
  /-- `ToastCenter.cancelAll()` -/
  | cancelAll
  deriving DecidableEq, Repr

namespace ToastCenter

/-- `cancel()` of any toast: a finished one is not marked, but its block is posted again. -/
def cancelToast (s : ToastCenter) (i : ℕ) : ToastCenter :=
  if (s.toasts i).isFinished then s.post (.finish i) else s.cancel i

/-- `cancelAll()`, of the toasts that are still in the queue. -/
def cancelAll (s : ToastCenter) : ToastCenter :=
  ((List.range s.count).filter fun i => !(s.toasts i).isFinished).foldl cancelToast s

def operationStep (s : ToastCenter) : OperationEvent → Option ToastCenter
  | .toast event => s.step event
  | .cancel i => if i < s.count then some (s.cancelToast i) else none
  | .cancelAll => some s.cancelAll

/-- The block of a cancel of toast `i` runs. -/
def Finishes (s : ToastCenter) (e : OperationEvent) (i : ℕ) : Prop :=
  e = .toast .runBlock ∧ s.mainQueue.head? = some (.finish i)

end ToastCenter

/-- The toasts, with how often each one has turned finished. -/
structure OperationRun where
  center : ToastCenter := {}
  turns : ℕ → ℕ := fun _ => 0

namespace OperationRun

/-- The toasts become those of `center`. -/
def advance (s : OperationRun) (center : ToastCenter) : OperationRun where
  center := center
  turns i := s.turns i +
    if !(s.center.toasts i).isFinished && (center.toasts i).isFinished then 1 else 0

def step (s : OperationRun) (e : OperationEvent) : Option OperationRun :=
  (s.center.operationStep e).map s.advance

/-- No toast is finished that the queue has not started, none turns finished twice, and
once everything pending has run each one has done so. -/
structure FollowsProtocol (s : OperationRun) : Prop where
  afterStart : ∀ i, (s.center.toasts i).isFinished = true → (s.center.toasts i).isStarted = true
  atMostOnce : ∀ i, s.turns i ≤ 1
  once : s.center.AtRest → ∀ i < s.center.count, s.turns i = 1

end OperationRun

/-- The block of a cancel finds its toast started. -/
def CancelsStarted (s : OperationRun) (e : OperationEvent) (_ : OperationRun) : Prop :=
  ∀ i, s.center.Finishes e i → (s.center.toasts i).isStarted = true

namespace ToastCenter

variable {s t u : ToastCenter} {i : ℕ} {q : List ToastBlock} {toast : Toaster}

section Cancelling

/-- One more `finish` block in the queue takes no promise away from the toast. -/
theorem Tracked.post_finish (h : Tracked i q toast) : Tracked i (q ++ [.finish i]) toast := by
  obtain ⟨hposted, hexecuting, hcancelled, hstarted, hview⟩ := h
  refine ⟨?_, ?_, ?_, ?_, ?_⟩ <;> simp_all

/-- The cancel of any toast keeps the queue orderly. For a finished one the block is posted
again, which will finish what is finished. -/
theorem Orderly.cancelToast (h : s.Orderly) (hi : i < s.count) :
    (s.cancelToast i).Orderly ∧ StaysFinished s (s.cancelToast i) := by
  unfold ToastCenter.cancelToast
  split
  · have hsame : { s.setToast i (s.toasts i) with mainQueue := s.mainQueue ++ [.finish i] } =
        s.post (.finish i) := by
      unfold ToastCenter.setToast post
      rw [Function.update_eq_self]
    have hposted := h.setToast hi (h.tracked i).post_finish
      (fun _ hne => mem_append_of_other hne) rfl id
    rwa [hsame] at hposted
  · exact h.cancel hi

/-- A cancel makes no toast. -/
theorem count_cancelToast (s : ToastCenter) (i : ℕ) : (s.cancelToast i).count = s.count := by
  unfold cancelToast
  split <;> rfl

/-- What a cancel keeps, the cancels of a list of toasts keep. -/
theorem Orderly.cancel_list (h : s.Orderly) {toasts : List ℕ} (hlt : ∀ i ∈ toasts, i < s.count) :
    (toasts.foldl ToastCenter.cancelToast s).Orderly ∧
      StaysFinished s (toasts.foldl ToastCenter.cancelToast s) := by
  induction toasts generalizing s with
  | nil => exact ⟨h, fun _ hfinished => hfinished⟩
  | cons i toasts ih =>
      obtain ⟨hi, hrest⟩ := List.forall_mem_cons.mp hlt
      obtain ⟨hcancel, hstays⟩ := h.cancelToast hi
      have hcount := count_cancelToast s i
      obtain ⟨hall, hstays'⟩ := ih hcancel fun j hj => hcount ▸ hrest j hj
      exact ⟨hall, hstays.trans hstays'⟩

/-- The steps of the toasts and the cancels from outside keep the queue orderly, and no step
takes a finished toast back. -/
theorem orderly_operationStep {e : OperationEvent} (h : s.Orderly)
    (hstep : s.operationStep e = some t) : t.Orderly ∧ StaysFinished s t := by
  cases e with
  | toast event => exact orderly_step h hstep
  | cancel i =>
      simp only [operationStep] at hstep
      split at hstep
      · next hi =>
          obtain rfl := Option.some.inj hstep
          exact h.cancelToast hi
      · cases hstep
  | cancelAll =>
      obtain rfl := Option.some.inj hstep
      exact h.cancel_list fun i hi => List.mem_range.mp (List.mem_of_mem_filter hi)

end Cancelling

section Advancing

variable {F : ℕ → Prop}

/-- The toast's view is being added or animated. -/
def Showing (s : ToastCenter) (i : ℕ) : Prop :=
  (s.toasts i).animation ≠ none ∨ .addView i ∈ s.mainQueue

/-- No toast loses its start, and those newly finished or shown are started; the toasts in
`F` may be finished all the same. -/
structure Advances (F : ℕ → Prop) (s t : ToastCenter) : Prop where
  started : ∀ i, (s.toasts i).isStarted = true → (t.toasts i).isStarted = true
  finished : ∀ i, (t.toasts i).isFinished = true →
    (s.toasts i).isFinished = true ∨ (t.toasts i).isStarted = true ∨ F i
  showing : ∀ i, t.Showing i → s.Showing i ∨ (t.toasts i).isStarted = true

/-- Where nothing happens nothing is newly finished or shown. -/
theorem Advances.refl (s : ToastCenter) : Advances F s s :=
  ⟨fun _ h => h, fun _ h => Or.inl h, fun _ h => Or.inl h⟩

/-- Steps that advance can be chained: a start is never lost on the way, so what the first
step finished with a start still has it after the second. -/
theorem Advances.trans (h : Advances F s t) (h' : Advances F t u) : Advances F s u := by
  refine ⟨fun i hi => h'.started i (h.started i hi), fun i hi => ?_, fun i hi => ?_⟩
  · rcases h'.finished i hi with hfinished | hlater
    · rcases h.finished i hfinished with hbefore | hstarted | hF
      · exact Or.inl hbefore
      · exact Or.inr (Or.inl (h'.started i hstarted))
      · exact Or.inr (Or.inr hF)
    · exact Or.inr hlater
  · rcases h'.showing i hi with hshowing | hstarted
    · exact (h.showing i hshowing).imp_right (h'.started i)
    · exact Or.inr hstarted

/-- Toast `i` becomes `toast`, and the main queue `q`. -/
theorem advances_update {n : ℕ}
    (hstarted : (s.toasts i).isStarted = true → toast.isStarted = true)
    (hfinished : toast.isFinished = true →
      (s.toasts i).isFinished = true ∨ toast.isStarted = true ∨ F i)
    (hanimation : toast.animation ≠ none → s.Showing i ∨ toast.isStarted = true)
    (hq : ∀ j, .addView j ∈ q → s.Showing j ∨ (j = i ∧ toast.isStarted = true)) :
    Advances F s { toasts := Function.update s.toasts i toast, count := n, mainQueue := q } := by
  have hown : Function.update s.toasts i toast i = toast := Function.update_self i toast s.toasts
  have hother : ∀ j, j ≠ i → Function.update s.toasts i toast j = s.toasts j :=
    fun j hne => Function.update_of_ne hne toast s.toasts
  refine ⟨fun j hj => ?_, fun j hj => ?_, fun j hj => ?_⟩
  · show (Function.update s.toasts i toast j).isStarted = true
    by_cases heq : j = i
    · subst heq
      rw [hown]
      exact hstarted hj
    · rw [hother j heq]
      exact hj
  · have hj : (Function.update s.toasts i toast j).isFinished = true := hj
    show _ ∨ (Function.update s.toasts i toast j).isStarted = true ∨ _
    by_cases heq : j = i
    · subst heq
      rw [hown] at hj ⊢
      exact hfinished hj
    · rw [hother j heq] at hj
      exact Or.inl hj
  · show _ ∨ (Function.update s.toasts i toast j).isStarted = true
    rcases hj with hanimating | hposted
    · have hanimating : (Function.update s.toasts i toast j).animation ≠ none := hanimating
      by_cases heq : j = i
      · subst heq
        rw [hown] at hanimating ⊢
        exact hanimation hanimating
      · rw [hother j heq] at hanimating
        exact Or.inl (Or.inl hanimating)
    · rcases hq j hposted with hshowing | ⟨rfl, hnow⟩
      · exact Or.inl hshowing
      · rw [hown]
        exact Or.inr hnow

/-- A block that is posted shows no toast unless it is the one that adds the view. -/
theorem showing_of_mem_append {block : ToastBlock} {j : ℕ}
    (h : .addView j ∈ s.mainQueue ++ [block]) (hblock : block ≠ .addView j) : s.Showing j := by
  rcases List.mem_append.mp h with hmem | hlast
  · exact Or.inr hmem
  · exact absurd (List.mem_singleton.mp hlast).symm hblock

/-- The cancel of a toast that is not finished sets a flag and posts a block, which is
neither a start nor a finish nor a view. -/
theorem advances_cancel (s : ToastCenter) (i : ℕ) : Advances F s (s.cancel i) :=
  advances_update id Or.inl (fun h => Or.inl (Or.inl h)) fun _ hposted =>
    Or.inl (showing_of_mem_append hposted (by simp))

/-- A cancel finishes nothing by itself; the block it posts does that later. -/
theorem advances_cancelToast (s : ToastCenter) (i : ℕ) : Advances F s (s.cancelToast i) := by
  unfold cancelToast
  split
  · refine ⟨fun _ h => h, fun _ h => Or.inl h, fun j hshowing => Or.inl ?_⟩
    rcases hshowing with hanimating | hposted
    · exact Or.inl hanimating
    · exact showing_of_mem_append hposted (by simp)
  · exact advances_cancel s i

/-- The cancels of `cancelAll` one after the other advance as each of them does. -/
theorem advances_cancel_list (s : ToastCenter) (toasts : List ℕ) :
    Advances F s (toasts.foldl cancelToast s) := by
  induction toasts generalizing s with
  | nil => exact Advances.refl s
  | cons i toasts ih => exact (advances_cancelToast s i).trans (ih (s.cancelToast i))

/-- The place of a new toast was empty. -/
theorem Orderly.advances_add (h : s.Orderly) (type : ToastType) :
    Advances F s (s.add { type := type }) := by
  refine advances_update (fun hstarted => ?_) nofun (fun hanimation => absurd rfl hanimation)
    fun _ hposted => Or.inl (Or.inr hposted)
  rw [h.fresh s.count (Nat.le_refl _)] at hstarted
  cases hstarted

/-- A new toast, and the cancel of the one before it, start, finish and show no toast. -/
theorem Orderly.advances_showToast (h : s.Orderly) (type : ToastType) :
    Advances F s (s.showToast type) := by
  unfold ToastCenter.showToast
  split
  · next i hcurrent =>
      have hi : i < s.count := List.mem_range.mp (List.mem_of_find?_eq_some hcurrent)
      exact (advances_cancel s i).trans ((h.cancel hi).1.advances_add type)
  · exact h.advances_add type

/-- The toast that a step changes is started. -/
theorem advances_of_started {n : ℕ} (hstarted : toast.isStarted = true)
    (hq : ∀ j, .addView j ∈ q → s.Showing j ∨ j = i) :
    Advances F s { toasts := Function.update s.toasts i toast, count := n, mainQueue := q } :=
  advances_update (fun _ => hstarted) (fun _ => Or.inr (Or.inl hstarted))
    (fun _ => Or.inr hstarted) fun j hposted => (hq j hposted).imp_right fun heq => ⟨heq, hstarted⟩

/-- The block posted first; the block of a cancel finishes its toast. -/
theorem Orderly.advances_runBlock {block : ToastBlock} (h : s.Orderly)
    (hshown : ∀ i, s.Showing i → (s.toasts i).isStarted = true)
    (hmain : s.mainQueue = block :: q) :
    Advances (fun i => block = .finish i) s
      (ToastCenter.runBlock { s with mainQueue := q } block) := by
  have hrest : ∀ j, .addView j ∈ q → s.Showing j := fun j hmem =>
    Or.inr (hmain ▸ List.mem_cons_of_mem block hmem)
  cases block with
  | start i =>
      have hstarted : (s.toasts i).isStarted = true :=
        (h.tracked i).posted (Or.inr (hmain ▸ List.mem_cons_self))
      unfold ToastCenter.runBlock ToastCenter.start
      dsimp only
      split
      · refine advances_of_started hstarted fun j hposted => ?_
        rcases List.mem_append.mp hposted with hmem | hown
        · exact Or.inl (hrest j hmem)
        · exact Or.inr (ToastBlock.addView.inj (List.mem_singleton.mp hown))
      · exact ⟨fun _ hj => hj, fun _ hj => Or.inl hj,
          fun j hj => Or.inl (hj.elim Or.inl (hrest j))⟩
  | addView i =>
      have hstarted : (s.toasts i).isStarted = true :=
        hshown i (Or.inr (hmain ▸ List.mem_cons_self))
      exact advances_of_started hstarted fun j hposted => Or.inl (hrest j hposted)
  | finish i =>
      exact advances_update id (fun _ => Or.inr (Or.inr rfl)) (fun h => Or.inl (Or.inl h))
        fun j hposted => Or.inl (hrest j hposted)

/-- An animation that completes leaves the start alone. -/
theorem isStarted_animationCompleted {before : Toaster}
    (h : before.animationCompleted = some toast) :
    before.animation ≠ none ∧ toast.isStarted = before.isStarted := by
  unfold Toaster.animationCompleted at h
  split at h
  · cases h
  · next hanimation =>
      obtain rfl := Option.some.inj h
      exact ⟨by simp [hanimation], rfl⟩
  · next hanimation =>
      obtain rfl := Option.some.inj h
      exact ⟨by simp [hanimation], rfl⟩
  · next hanimation =>
      obtain rfl := Option.some.inj h
      exact ⟨by simp [hanimation], rfl⟩

/-- **What a step can do to the flags.** -/
theorem Orderly.advances_step {e : OperationEvent} (h : s.Orderly)
    (hshown : ∀ i, s.Showing i → (s.toasts i).isStarted = true)
    (hstep : s.operationStep e = some t) : Advances (s.Finishes e) s t := by
  cases e with
  | cancel i =>
      simp only [operationStep] at hstep
      split at hstep
      · obtain rfl := Option.some.inj hstep
        exact advances_cancelToast s i
      · cases hstep
  | cancelAll =>
      obtain rfl := Option.some.inj hstep
      exact advances_cancel_list s _
  | toast event =>
      cases event with
      | showToast type =>
          obtain rfl := Option.some.inj hstep
          exact h.advances_showToast type
      | queueStart i =>
          simp only [operationStep, ToastCenter.step] at hstep
          split at hstep
          · obtain rfl := Option.some.inj hstep
            exact advances_of_started rfl fun j hposted => Or.inl (Or.inr hposted)
          · cases hstep
      | postStart i =>
          simp only [operationStep, ToastCenter.step] at hstep
          split at hstep
          · next hchecked =>
              obtain rfl := Option.some.inj hstep
              have hstarted : (s.toasts i).isStarted = true :=
                (h.tracked i).posted (Or.inl hchecked)
              exact advances_of_started hstarted fun j hposted =>
                Or.inl (showing_of_mem_append hposted (by simp))
          · cases hstep
      | runBlock =>
          simp only [operationStep, ToastCenter.step] at hstep
          split at hstep
          · cases hstep
          · next block mainQueue hmain =>
              obtain rfl := Option.some.inj hstep
              have hadvances := h.advances_runBlock hshown hmain
              refine ⟨hadvances.started, fun i hi => ?_, hadvances.showing⟩
              refine (hadvances.finished i hi).imp_right fun hor => hor.imp_right fun hblock => ?_
              exact ⟨rfl, by rw [hmain, hblock, List.head?_cons]⟩
      | animationCompleted i =>
          obtain ⟨toast, hcompleted, rfl⟩ := Option.map_eq_some_iff.mp hstep
          obtain ⟨hanimation, hkept⟩ := isStarted_animationCompleted hcompleted
          exact advances_of_started (hkept.trans (hshown i (Or.inl hanimation)))
            fun j hposted => Or.inl (Or.inr hposted)

/-- The block of a cancel does not start its toast. -/
theorem toast_of_finishes {e : OperationEvent} (hfinishes : s.Finishes e i)
    (hstep : s.operationStep e = some t) :
    t.toasts i = (s.toasts i).finish.removeFromSuperview := by
  obtain ⟨rfl, hhead⟩ := hfinishes
  simp only [operationStep, ToastCenter.step] at hstep
  split at hstep
  · cases hstep
  · next block mainQueue hmain =>
      rw [hmain, List.head?_cons] at hhead
      obtain rfl := Option.some.inj hhead
      obtain rfl := Option.some.inj hstep
      exact Function.update_self i _ s.toasts

end Advancing

end ToastCenter

namespace OperationRun

variable {s t : OperationRun} {e : OperationEvent}

/-- What holds along every run: toasts on the screen are started, and each one has turned
finished once if it is finished. -/
structure Kept (s : OperationRun) : Prop where
  orderly : s.center.Orderly
  showing : ∀ i, s.center.Showing i → (s.center.toasts i).isStarted = true
  turns : ∀ i, s.turns i = if (s.center.toasts i).isFinished then 1 else 0

/-- What is kept along a run survives a step. A toast turns finished at most once since the
flag never goes back, and a view is shown by a toast that was started. -/
theorem Kept.step (h : s.Kept) (hstep : OperationRun.step s e = some t) : t.Kept := by
  obtain ⟨center, hcenter, rfl⟩ := Option.map_eq_some_iff.mp hstep
  obtain ⟨horderly, hstays⟩ := ToastCenter.orderly_operationStep h.orderly hcenter
  have hadvances := h.orderly.advances_step h.showing hcenter
  refine ⟨horderly, fun i hi => ?_, fun i => ?_⟩
  · exact (hadvances.showing i hi).elim
      (fun hbefore => hadvances.started i (h.showing i hbefore)) id
  · show s.turns i + (if _ then 1 else 0) = if (center.toasts i).isFinished then 1 else 0
    have hfinished := hstays i
    rw [h.turns i]
    cases hbefore : (s.center.toasts i).isFinished with
    | false => simp
    | true => simp [hfinished hbefore]

/-- Turning finished once is what every run gives. -/
theorem Kept.followsProtocol_iff (h : s.Kept) : s.FollowsProtocol ↔
    ∀ i, (s.center.toasts i).isFinished = true → (s.center.toasts i).isStarted = true := by
  constructor
  · exact fun hfollows => hfollows.afterStart
  · intro hstarted
    refine ⟨hstarted, fun i => ?_, fun hrest i hi => ?_⟩
    · rw [h.turns i]
      split <;> omega
    · rw [h.turns i, if_pos (h.orderly.toastSafe.done hrest i hi).1]

/-- One step keeps to the protocol of `Operation` exactly if the block of a cancel that it
runs finds its toast started. That block sets `isFinished` without asking whether the queue
has started the operation. -/
theorem followsProtocol_step_iff (h : s.Kept) (hfollows : s.FollowsProtocol)
    (hstep : OperationRun.step s e = some t) : t.FollowsProtocol ↔ CancelsStarted s e t := by
  rw [(h.step hstep).followsProtocol_iff]
  obtain ⟨center, hcenter, rfl⟩ := Option.map_eq_some_iff.mp hstep
  have hadvances := h.orderly.advances_step h.showing hcenter
  constructor
  · intro hstarted i hfinishes
    have htoast := ToastCenter.toast_of_finishes hfinishes hcenter
    have hafter : (center.toasts i).isStarted = true := by
      apply hstarted i
      show (center.toasts i).isFinished = true
      rw [htoast]
      rfl
    rwa [htoast] at hafter
  · intro hcancels i hfinished
    rcases hadvances.finished i hfinished with hbefore | hstarted | hfinishes
    · exact hadvances.started i (hfollows.afterStart i hbefore)
    · exact hstarted
    · exact hadvances.started i (hcancels i hfinishes)

/-- Before the first toast there is nothing to keep. -/
theorem kept_start : ({} : OperationRun).Kept := by
  refine ⟨ToastCenter.orderly_start, fun i hi => ?_, fun _ => rfl⟩
  rcases hi with hanimation | hposted
  · exact absurd rfl hanimation
  · cases hposted

/-- **Toasts keep to the protocol of operations** along a run, turning finished once and
only after the queue has started them, exactly when the block of each cancel finds its
toast started. -/
theorem toast_protocol_iff (es : List OperationEvent) :
    Throughout step FollowsProtocol {} es ↔ StepsMeet step CancelsStarted {} es := by
  apply throughout_iff_stepsMeet (J := Kept)
  · exact fun _ _ _ h hstep => h.step hstep
  · exact fun _ _ _ h hfollows hstep => followsProtocol_step_iff h hfollows hstep
  · exact kept_start
  · exact kept_start.followsProtocol_iff.mpr nofun

/-- The second toast cancels the first one, which the queue has not started. -/
theorem waiting_toast_cancelled :
    ¬ ∀ es : List OperationEvent, Throughout step FollowsProtocol {} es := by
  intro h
  have hlast := (((h [.toast (.showToast .normal), .toast (.showToast .normal),
    .toast .runBlock]).2 _ rfl).2 _ rfl).2 _ rfl
  cases hlast.afterStart 0 rfl

end OperationRun

end ToastQueue
