import Pineone.ToastQueue

/-!
# Which toasts are shown

`Toast.show` cancels the current toast before it enqueues its own.  As in the queue itself,
the window a toast is added to is taken to exist.

* `one_toast_waits`: all toasts but the last are cancelled or finished;
* `shown_unless_replaced`: once everything pending has run, every toast was on the screen at
  some time, except for those that were cancelled by a later one.  So the last toast is never
  lost.
-/

namespace ToastQueue

open Runs

namespace ToastCenter

variable {s t : ToastCenter} {e : ToastEvent} {i : ℕ} {es : List ToastEvent}

section Frames

/-- One toast is written and the others stay as they are. All three lemmas of this kind are
stated with the number of a toast, so that the proofs below split on it once. -/
theorem setToast_toast (s : ToastCenter) (j : ℕ) (toast : Toaster) (i : ℕ) :
    (s.setToast j toast).toasts i = if i = j then toast else s.toasts i :=
  Function.update_apply ..

/-- A cancel sets the flag of its own toast and of no other. The block it posts is of no
concern to the toasts before it runs. -/
theorem cancel_toast (s : ToastCenter) (j i : ℕ) :
    (s.cancel j).toasts i =
      if i = j then { s.toasts j with isCancelled := true } else s.toasts i :=
  setToast_toast ..

/-- A new toast gets the number `count`, and those before it stay as they are. -/
theorem add_toast (s : ToastCenter) (toast : Toaster) (i : ℕ) :
    (s.add toast).toasts i = if i = s.count then toast else s.toasts i :=
  setToast_toast ..

/-- With no current toast the new one is added and nothing is cancelled. -/
theorem showToast_of_none (h : s.currentToast = none) (type : ToastType) :
    s.showToast type = s.add { type := type } := by
  unfold showToast
  rw [h]

/-- The toast that is current is cancelled before the new one is added, and it is the only
one: the toasts further back were cancelled when they were current themselves, or have
finished. -/
theorem showToast_of_some {current : ℕ} (h : s.currentToast = some current) (type : ToastType) :
    s.showToast type = (s.cancel current).add { type := type } := by
  unfold showToast
  rw [h]

/-- Only `Toast.show` enqueues and cancels. The queue's starts, the blocks and the animations
turn other flags of the toasts that are there. -/
theorem step_frame (hstep : step s e = some t) (hshow : ∀ type, e ≠ .showToast type) :
    t.count = s.count ∧ ∀ i, (t.toasts i).isCancelled = (s.toasts i).isCancelled := by
  have hset : ∀ (u : ToastCenter) (j : ℕ) (toast : Toaster),
      toast.isCancelled = (u.toasts j).isCancelled →
        ∀ i, ((u.setToast j toast).toasts i).isCancelled = (u.toasts i).isCancelled := by
    intro u j toast hsame i
    rw [setToast_toast]
    split
    · next hij => rw [hij, hsame]
    · rfl
  cases e with
  | showToast type => exact absurd rfl (hshow type)
  | queueStart j =>
      unfold step at hstep
      dsimp only at hstep
      split at hstep
      · obtain rfl := Option.some.inj hstep
        exact ⟨rfl, hset s j _ rfl⟩
      · cases hstep
  | postStart j =>
      unfold step at hstep
      dsimp only at hstep
      split at hstep
      · obtain rfl := Option.some.inj hstep
        exact ⟨rfl, hset s j _ rfl⟩
      · cases hstep
  | runBlock =>
      unfold step at hstep
      dsimp only at hstep
      split at hstep
      · cases hstep
      · next block mainQueue hmain =>
          obtain rfl := Option.some.inj hstep
          cases block with
          | start j =>
              unfold runBlock start
              dsimp only
              split
              · exact ⟨rfl, hset { s with mainQueue := mainQueue } j _ rfl⟩
              · exact ⟨rfl, fun _ => rfl⟩
          | addView j => exact ⟨rfl, hset { s with mainQueue := mainQueue } j _ rfl⟩
          | finish j => exact ⟨rfl, hset { s with mainQueue := mainQueue } j _ rfl⟩
  | animationCompleted j =>
      obtain ⟨toast, hcompleted, rfl⟩ := Option.map_eq_some_iff.mp hstep
      refine ⟨rfl, hset s j toast ?_⟩
      unfold Toaster.animationCompleted at hcompleted
      split at hcompleted
      · cases hcompleted
      · obtain rfl := Option.some.inj hcompleted
        rfl
      · obtain rfl := Option.some.inj hcompleted
        rfl
      · obtain rfl := Option.some.inj hcompleted
        rfl

/-- The current toast is enqueued and active, that is neither cancelled nor finished. It is
the first such toast in the queue, of which there is no more than one. -/
theorem currentToast_spec {current : ℕ} (h : s.currentToast = some current) :
    current < s.count ∧ (s.toasts current).isCancelled = false ∧
      (s.toasts current).isFinished = false := by
  have hmem := List.mem_of_find?_eq_some h
  have hactive := List.find?_some h
  simp only [Bool.and_eq_true, Bool.not_eq_true'] at hactive
  exact ⟨List.mem_range.mp hmem, hactive⟩

/-- `currentToast` looks for an operation that is neither cancelled nor finished, so where it
finds none each toast is one or the other. -/
theorem inactive_of_no_current (h : s.currentToast = none) (hi : i < s.count) :
    (s.toasts i).isCancelled = true ∨ (s.toasts i).isFinished = true := by
  have hall := List.find?_eq_none.mp h i (List.mem_range.mpr hi)
  cases hcancelled : (s.toasts i).isCancelled <;> simp_all

end Frames

section Waiting

/-- The toasts before the last one have had their turn, and only they were cancelled. -/
structure OneWaits (s : ToastCenter) : Prop where
  before : ∀ i, i + 1 < s.count → (s.toasts i).isCancelled = true ∨ (s.toasts i).isFinished = true
  cancelled : ∀ i, (s.toasts i).isCancelled = true → i + 1 < s.count

/-- A new toast leaves only itself waiting: the one that was last until now is cancelled if
it still has its turn before it. -/
theorem OneWaits.showToast (h : s.OneWaits) (type : ToastType) : (s.showToast type).OneWaits := by
  cases hcurrent : s.currentToast with
  | none =>
      rw [showToast_of_none hcurrent]
      have hcount : (s.add { type := type }).count = s.count + 1 := rfl
      refine ⟨fun i hi => ?_, fun i hi => ?_⟩
      · rw [add_toast, if_neg (by omega)]
        exact inactive_of_no_current hcurrent (by omega)
      · rw [add_toast] at hi
        split at hi
        · cases hi
        · have := h.cancelled i hi
          omega
  | some current =>
      obtain ⟨hlt, hcancelled, hfinished⟩ := currentToast_spec hcurrent
      rw [showToast_of_some hcurrent]
      have hcount : ((s.cancel current).add { type := type }).count = s.count + 1 := rfl
      have hsame : (s.cancel current).count = s.count := rfl
      have hlast : current + 1 = s.count := by
        by_contra hne
        have hinactive := h.before current (by omega)
        simp [hcancelled, hfinished] at hinactive
      refine ⟨fun i hi => ?_, fun i hi => ?_⟩
      · rw [add_toast, if_neg (by omega), cancel_toast]
        split
        · exact Or.inl rfl
        · exact h.before i (by omega)
      · rw [add_toast] at hi
        split at hi
        · cases hi
        · rw [cancel_toast] at hi
          split at hi
          · omega
          · have := h.cancelled i hi
            omega

/-- No other step adds a toast or cancels one, and finished toasts stay finished, so the last
toast stays the only one that waits. -/
theorem OneWaits.step (h : s.OneWaits) (ho : s.Orderly) (hstep : ToastCenter.step s e = some t) :
    t.OneWaits := by
  by_cases hshow : ∃ type, e = .showToast type
  · obtain ⟨type, rfl⟩ := hshow
    obtain rfl := Option.some.inj hstep
    exact h.showToast type
  · obtain ⟨hcount, hsame⟩ := step_frame hstep fun type heq => hshow ⟨type, heq⟩
    refine ⟨fun i hi => ?_, fun i hi => ?_⟩
    · rw [hcount] at hi
      rcases h.before i hi with hcancelled | hfinished
      · exact Or.inl ((hsame i).trans hcancelled)
      · exact Or.inr ((orderly_step ho hstep).2 i hfinished)
    · rw [hcount]
      exact h.cancelled i ((hsame i).symm.trans hi)

/-- Before the first toast none waits, and none was cancelled. -/
theorem oneWaits_start : ({} : ToastCenter).OneWaits :=
  ⟨fun _ hi => absurd hi (Nat.not_lt_zero _), nofun⟩

/-- **At most one toast waits or is shown**: in every run all toasts but the last one are
cancelled or finished. -/
theorem one_toast_waits (es : List ToastEvent) :
    Throughout step (fun s => ∀ i, i + 1 < s.count →
      (s.toasts i).isCancelled = true ∨ (s.toasts i).isFinished = true) {} es := by
  have hboth : Throughout step (fun s => s.Orderly ∧ s.OneWaits) {} es :=
    throughout_of_step (fun s e t hs hstep =>
      ⟨(orderly_step hs.1 hstep).1, hs.2.step hs.1 hstep⟩) ⟨orderly_start, oneWaits_start⟩ es
  exact hboth.mono (J := fun _ => True) (fun _ _ _ _ _ => trivial) (fun _ _ hs => hs.2.before)
    trivial

end Waiting

section Shown

/-- A toast that was not on the screen so far: if it is finished, or is about to be, it was
cancelled. -/
structure NeverShown (i : ℕ) (s : ToastCenter) : Prop where
  still : (s.toasts i).animation = none
  finished : (s.toasts i).isFinished = true → (s.toasts i).isCancelled = true
  posted : ToastBlock.finish i ∈ s.mainQueue → (s.toasts i).isCancelled = true

/-- A `finish` block that is in the queue after another block was posted was there before.
The blocks of a start never add one. -/
theorem finish_mem_of_concat {q : List ToastBlock} (block : ToastBlock)
    (hne : block ≠ .finish i) (h : ToastBlock.finish i ∈ q ++ [block]) :
    ToastBlock.finish i ∈ q := by
  rcases List.mem_append.mp h with hearly | hlast
  · exact hearly
  · exact absurd (List.mem_singleton.mp hlast).symm hne

/-- Other toasts do not matter: a step that rewrites toast `j` and the main queue leaves the
record of toast `i` alone unless the two are one, where the new toast has to meet it. -/
theorem NeverShown.setToast {j : ℕ} {toast : Toaster} (h : s.NeverShown i) {q : List ToastBlock}
    (hq : ToastBlock.finish i ∈ q → i = j ∨ ToastBlock.finish i ∈ s.mainQueue)
    (hown : i = j → toast.animation = none ∧
      (toast.isFinished = true → toast.isCancelled = true) ∧
      (ToastBlock.finish i ∈ q → toast.isCancelled = true)) :
    NeverShown i { s.setToast j toast with mainQueue := q } := by
  have htoast : ({ s.setToast j toast with mainQueue := q } : ToastCenter).toasts i =
      if i = j then toast else s.toasts i := setToast_toast s j toast i
  by_cases hij : i = j
  · obtain ⟨hstill, hfinished, hposted⟩ := hown hij
    rw [if_pos hij] at htoast
    refine ⟨?_, ?_, ?_⟩
    · rw [htoast]
      exact hstill
    · rw [htoast]
      exact hfinished
    · rw [htoast]
      exact hposted
  · rw [if_neg hij] at htoast
    refine ⟨?_, ?_, ?_⟩
    · rw [htoast]
      exact h.still
    · rw [htoast]
      exact h.finished
    · rw [htoast]
      exact fun hmem => h.posted ((hq hmem).resolve_left hij)

/-- A toast that is cancelled before it is shown may be finished unseen; one that is not is
untouched by the cancel of another. -/
theorem NeverShown.cancel (h : s.NeverShown i) (j : ℕ) : (s.cancel j).NeverShown i := by
  refine h.setToast (fun hmem => ?_) fun hij => ⟨?_, fun _ => rfl, fun _ => rfl⟩
  · rcases List.mem_append.mp hmem with hearly | hlast
    · exact Or.inr hearly
    · exact Or.inl (ToastBlock.finish.inj (List.mem_singleton.mp hlast))
  · rw [← hij]
    exact h.still

/-- A toast that is added has no block and no animation, and the others are as before. -/
theorem NeverShown.add (h : s.NeverShown i) (ho : s.Orderly) (type : ToastType) :
    (s.add { type := type }).NeverShown i := by
  have hset : NeverShown i { s.setToast s.count { type := type } with mainQueue := s.mainQueue } :=
    h.setToast Or.inr fun hij => ⟨rfl, nofun, fun hmem => by
      have hlt : i < s.count := ho.known _ hmem
      omega⟩
  exact ⟨hset.still, hset.finished, hset.posted⟩

/-- What `showToast` posts is the `finish` of the toast it cancels, so a toast that will be
finished unseen carries the mark of a cancel from then on. -/
theorem NeverShown.showToast (h : s.NeverShown i) (ho : s.Orderly) (type : ToastType) :
    (s.showToast type).NeverShown i := by
  cases hcurrent : s.currentToast with
  | none =>
      rw [showToast_of_none hcurrent]
      exact h.add ho type
  | some current =>
      rw [showToast_of_some hcurrent]
      exact (h.cancel current).add (ho.cancel (currentToast_spec hcurrent).1).1 type

/-- A block of the main queue that leaves the toast off the screen finishes it only if it was
cancelled: the other way to the end is by the animations, which begin with the view. -/
theorem NeverShown.runBlock {block : ToastBlock} {q : List ToastBlock} (h : s.NeverShown i)
    (hmain : s.mainQueue = block :: q)
    (hunseen : ((ToastCenter.runBlock { s with mainQueue := q } block).toasts i).window = none) :
    (ToastCenter.runBlock { s with mainQueue := q } block).NeverShown i := by
  have hposted : ToastBlock.finish i ∈ q → ToastBlock.finish i ∈ s.mainQueue := fun hmem => by
    rw [hmain]
    exact List.mem_cons_of_mem _ hmem
  cases block with
  | start j =>
      unfold ToastCenter.runBlock ToastCenter.start
      dsimp only
      split
      · refine h.setToast (fun hmem => Or.inr ?_) fun hij => ?_
        · exact hposted (finish_mem_of_concat (.addView j) (by simp) hmem)
        · rw [← hij]
          exact ⟨h.still, h.finished,
            fun hmem => h.posted (hposted (finish_mem_of_concat (.addView i) (by simp) hmem))⟩
      · exact ⟨h.still, h.finished, fun hmem => h.posted (hposted hmem)⟩
  | addView j =>
      refine h.setToast (fun hmem => Or.inr (hposted hmem)) fun hij => ?_
      have hview : (ToastCenter.runBlock { s with mainQueue := q } (.addView j)).toasts i =
          (s.toasts j).addSubview := by
        rw [hij]
        exact Function.update_self ..
      rw [hview] at hunseen
      cases hunseen
  | finish j =>
      refine h.setToast (fun hmem => Or.inr (hposted hmem)) fun hij => ?_
      have hcancelled : (s.toasts j).isCancelled = true := by
        rw [← hij]
        refine h.posted ?_
        rw [hmain, hij]
        exact List.mem_cons_self
      refine ⟨?_, fun _ => hcancelled, fun _ => hcancelled⟩
      rw [← hij]
      exact h.still

/-- A step that leaves the toast off the screen does not finish it behind the user's back:
only a cancel does, and then the toast was replaced by a later one. -/
theorem NeverShown.step (h : s.NeverShown i) (ho : s.Orderly)
    (hstep : ToastCenter.step s e = some t) (hunseen : (t.toasts i).window = none) :
    t.NeverShown i := by
  cases e with
  | showToast type =>
      obtain rfl := Option.some.inj hstep
      exact h.showToast ho type
  | queueStart j =>
      unfold ToastCenter.step at hstep
      dsimp only at hstep
      split at hstep
      · obtain rfl := Option.some.inj hstep
        refine h.setToast Or.inr fun hij => ?_
        rw [← hij]
        exact ⟨h.still, h.finished, h.posted⟩
      · cases hstep
  | postStart j =>
      unfold ToastCenter.step at hstep
      dsimp only at hstep
      split at hstep
      · obtain rfl := Option.some.inj hstep
        have hposted : ToastBlock.finish i ∈ s.mainQueue ++ [.start j] →
            ToastBlock.finish i ∈ s.mainQueue := finish_mem_of_concat (.start j) (by simp)
        refine h.setToast (fun hmem => Or.inr (hposted hmem)) fun hij => ?_
        rw [← hij] at hposted ⊢
        exact ⟨h.still, h.finished, fun hmem => h.posted (hposted hmem)⟩
      · cases hstep
  | runBlock =>
      unfold ToastCenter.step at hstep
      dsimp only at hstep
      split at hstep
      · cases hstep
      · next block mainQueue hmain =>
          obtain rfl := Option.some.inj hstep
          exact h.runBlock hmain hunseen
  | animationCompleted j =>
      obtain ⟨toast, hcompleted, rfl⟩ := Option.map_eq_some_iff.mp hstep
      refine h.setToast Or.inr fun hij => ?_
      rw [← hij] at hcompleted
      unfold Toaster.animationCompleted at hcompleted
      rw [h.still] at hcompleted
      cases hcompleted

/-- No toast has been shown or finished at the start. -/
theorem neverShown_start (i : ℕ) : ({} : ToastCenter).NeverShown i := ⟨rfl, nofun, nofun⟩

/-- **Toasts are shown unless they are replaced.**  Once everything pending has run, a toast
that was never on the screen was cancelled, and another one was shown after it. -/
theorem shown_unless_replaced (h : runFrom step ({} : ToastCenter) es = some s)
    (hrest : s.AtRest) (hi : i < s.count)
    (hunseen : Throughout step (fun u => (u.toasts i).window = none) ({} : ToastCenter) es) :
    (s.toasts i).isCancelled = true ∧ i + 1 < s.count := by
  have hkept : s.Orderly ∧ s.NeverShown i :=
    runFrom_of_throughout (J := fun s => s.Orderly ∧ s.NeverShown i)
      (fun s e t hs hstep hwindow =>
        ⟨(orderly_step hs.1 hstep).1, hs.2.step hs.1 hstep hwindow⟩)
      ⟨orderly_start, neverShown_start i⟩ hunseen h
  have hwaits : s.Orderly ∧ s.OneWaits :=
    runFrom_of_step (J := fun s => s.Orderly ∧ s.OneWaits) (fun s e t hs hstep =>
      ⟨(orderly_step hs.1 hstep).1, hs.2.step hs.1 hstep⟩) ⟨orderly_start, oneWaits_start⟩ h
  have hcancelled := hkept.2.finished (hkept.1.toastSafe.done hrest i hi).1
  exact ⟨hcancelled, hwaits.2.cancelled i hcancelled⟩

/-- A toast that is replaced before the queue has started it. The block of its cancel
finishes it before that, and the second toast is on the screen alone. -/
theorem first_toast_unseen :
    ∃ s, runFrom step {} [.showToast .normal, .showToast .normal, .runBlock, .queueStart 0,
      .queueStart 1, .postStart 1, .runBlock, .runBlock, .animationCompleted 1,
      .animationCompleted 1, .animationCompleted 1] = some s ∧
      (s.toasts 0).isCancelled = true ∧ 0 + 1 < s.count := by
  have hrun : runFrom step ({} : ToastCenter) [.showToast .normal, .showToast .normal, .runBlock,
      .queueStart 0, .queueStart 1, .postStart 1, .runBlock, .runBlock, .animationCompleted 1,
      .animationCompleted 1, .animationCompleted 1] = some _ := rfl
  refine ⟨_, hrun, shown_unless_replaced (i := 0) hrun ?_ (by decide) (by decide +kernel)⟩
  refine ⟨rfl, fun i hi => ?_, fun i hi => ?_⟩
  · have hcases : i = 0 ∨ i = 1 := by
      have : i < 2 := hi
      omega
    rcases hcases with rfl | rfl <;> exact ⟨rfl, rfl⟩
  · have hcases : i = 0 ∨ i = 1 := by
      have : i < 2 := by
        by_contra hge
        simp only [canStart, Bool.and_eq_true, decide_eq_true_eq] at hi
        exact hge hi.1.1
      omega
    rcases hcases with rfl | rfl <;> rfl

end Shown

end ToastCenter

end ToastQueue
