import Pineone.Runs
import Mathlib.Data.List.Basic
import Mathlib.Logic.Function.Basic

/-!
# The toast queue

A toast is an operation of a serial queue.  The queue calls its `start` in the
background, which goes on in a block on the main queue; that one marks the toast as
executing and posts the block that adds its view and starts the first of its three
animations.  `Toast.show` cancels the current toast, which posts a block that finishes
it and removes its view, and enqueues a new one.  The window that the view is added to,
which the code force-unwraps, is taken to exist.

* `toast_queue_safe`: in every run a finished toast never executes again, at most one
  toast executes at a time, and once everything pending has run all toasts are finished
  and none is left on the screen.
-/

namespace ToastQueue

open Runs

inductive ToastType
  | normal
  | onKeyboard
  deriving DecidableEq, Repr

/-- The window a toast's view is added to. -/
inductive ToastWindow
  | keyWindow
  | lastWindow
  deriving DecidableEq, Repr

/-- The animation of a toast that is running: each one starts the next. -/
inductive ToastAnimation
  | fadeIn
  | stay
  | fadeOut
  deriving DecidableEq, Repr

/-- A toast.  `isStarted`: the queue has called its `start`; `isChecked`: that call has
found it runnable and has not yet posted its block.  `window` is where its view is. -/
structure Toaster where
  type : ToastType := .normal
  isStarted : Bool := false
  isChecked : Bool := false
  isCancelled : Bool := false
  isExecuting : Bool := false
  isFinished : Bool := false
  window : Option ToastWindow := none
  animation : Option ToastAnimation := none
  deriving DecidableEq, Repr

/-- A block on the main queue, with its toast. -/
inductive ToastBlock
  /-- `start()` again, on the main thread. -/
  | start (toast : ℕ)
  /-- The block of `main()`. -/
  | addView (toast : ℕ)
  /-- The block of `cancel()`. -/
  | finish (toast : ℕ)
  deriving DecidableEq, Repr

/-- The toasts, in the order they were enqueued, and the main queue. -/
structure ToastCenter where
  toasts : ℕ → Toaster := fun _ => {}
  count : ℕ := 0
  mainQueue : List ToastBlock := []

inductive ToastEvent
  /-- `Toast.show` or `Toast.showOnKeyboard`. -/
  | showToast (type : ToastType)
  /-- The queue calls `start` of a toast. -/
  | queueStart (toast : ℕ)
  /-- That call posts its block. -/
  | postStart (toast : ℕ)
  | runBlock
  /-- The running animation of a toast completes. -/
  | animationCompleted (toast : ℕ)
  deriving DecidableEq, Repr

namespace Toaster

def isRunnable (t : Toaster) : Bool := !t.isFinished && !t.isCancelled && !t.isExecuting

def finish (t : Toaster) : Toaster := { t with isExecuting := false, isFinished := true }

def removeFromSuperview (t : Toaster) : Toaster := { t with window := none }

/-- The view goes into the window for its type, which exists, and fades in. -/
def addSubview (t : Toaster) : Toaster :=
  { t with
    window := some (if t.type = .normal then .keyWindow else .lastWindow)
    animation := some .fadeIn }

/-- The completion of the toast's running animation. -/
def animationCompleted (t : Toaster) : Option Toaster :=
  match t.animation with
  | none => none
  | some .fadeIn => some { t with animation := some .stay }
  | some .stay => some { t.finish with animation := some .fadeOut }
  | some .fadeOut => some { t.removeFromSuperview with animation := none }

end Toaster

def ToastBlock.toast : ToastBlock → ℕ
  | .start i | .addView i | .finish i => i

namespace ToastCenter

/-- Toast `i` becomes `t`. -/
def setToast (s : ToastCenter) (i : ℕ) (t : Toaster) : ToastCenter :=
  { s with toasts := Function.update s.toasts i t }

def post (s : ToastCenter) (block : ToastBlock) : ToastCenter :=
  { s with mainQueue := s.mainQueue ++ [block] }

/-- The first operation that is neither cancelled nor finished. -/
def currentToast (s : ToastCenter) : Option ℕ :=
  (List.range s.count).find? fun i => !(s.toasts i).isCancelled && !(s.toasts i).isFinished

def cancel (s : ToastCenter) (i : ℕ) : ToastCenter :=
  (s.setToast i { s.toasts i with isCancelled := true }).post (.finish i)

/-- `queue.addOperation(toast)`. -/
def add (s : ToastCenter) (toast : Toaster) : ToastCenter :=
  { s.setToast s.count toast with count := s.count + 1 }

/-- `Toast.show`; the block it posts for the toasts' bottom offset touches no toast. -/
def showToast (s : ToastCenter) (type : ToastType) : ToastCenter :=
  (match s.currentToast with
    | some currentToast => s.cancel currentToast
    | none => s).add { type := type }

/-- The queue starts a toast only when those it has started are finished. -/
def canStart (s : ToastCenter) (i : ℕ) : Bool :=
  decide (i < s.count) && !(s.toasts i).isStarted &&
    (List.range s.count).all fun j => !(s.toasts j).isStarted || (s.toasts j).isFinished

/-- `start()` in the background, up to its check. -/
def queueStart (s : ToastCenter) (i : ℕ) : ToastCenter :=
  s.setToast i { s.toasts i with isStarted := true, isChecked := (s.toasts i).isRunnable }

/-- The rest of it posts the block. -/
def postStart (s : ToastCenter) (i : ℕ) : ToastCenter :=
  (s.setToast i { s.toasts i with isChecked := false }).post (.start i)

/-- `start()` on the main thread, with `main()`. -/
def start (s : ToastCenter) (i : ℕ) : ToastCenter :=
  if (s.toasts i).isRunnable then
    (s.setToast i { s.toasts i with isExecuting := true }).post (.addView i)
  else s

def runBlock (s : ToastCenter) : ToastBlock → ToastCenter
  | .start i => s.start i
  | .addView i => s.setToast i (s.toasts i).addSubview
  | .finish i => s.setToast i (s.toasts i).finish.removeFromSuperview

def step (s : ToastCenter) : ToastEvent → Option ToastCenter
  | .showToast type => some (s.showToast type)
  | .queueStart i => if s.canStart i then some (s.queueStart i) else none
  | .postStart i => if (s.toasts i).isChecked then some (s.postStart i) else none
  | .runBlock =>
      match s.mainQueue with
      | [] => none
      | block :: mainQueue => some (runBlock { s with mainQueue := mainQueue } block)
  | .animationCompleted i => (s.toasts i).animationCompleted.map (s.setToast i)

/-- Everything pending has run: no block, no start on its way, no animation, and the
queue has no unfinished toast to start. -/
structure AtRest (s : ToastCenter) : Prop where
  noBlock : s.mainQueue = []
  nothingUnderWay : ∀ i < s.count, (s.toasts i).isChecked = false ∧ (s.toasts i).animation = none
  nothingToStart : ∀ i, s.canStart i = true → (s.toasts i).isFinished = true

/-- At most one toast executes, and at rest all are finished and off the screen. -/
structure ToastSafe (s : ToastCenter) : Prop where
  oneExecuting : ∀ i j, (s.toasts i).isExecuting = true → (s.toasts j).isExecuting = true → i = j
  done : s.AtRest → ∀ i < s.count, (s.toasts i).isFinished = true ∧ (s.toasts i).window = none

/-- A finished toast stays finished and is not executing. -/
def KeepsFinished (s : ToastCenter) (_ : ToastEvent) (t : ToastCenter) : Prop :=
  ∀ i, (s.toasts i).isFinished = true →
    (t.toasts i).isFinished = true ∧ (t.toasts i).isExecuting = false

/-- What holds of toast `i` with the main queue `q`: whatever it still has to do is
under way. -/
structure Tracked (i : ℕ) (q : List ToastBlock) (t : Toaster) : Prop where
  posted : t.isChecked = true ∨ .start i ∈ q → t.isStarted = true
  executing : t.isExecuting = true → t.isStarted = true ∧ t.isFinished = false ∧
    (.addView i ∈ q ∨ t.animation = some .fadeIn ∨ t.animation = some .stay)
  cancelled : t.isCancelled = true → t.isFinished = true ∨ .finish i ∈ q
  started : t.isStarted = true → t.isFinished = true ∨ t.isChecked = true ∨ .start i ∈ q ∨
    t.isExecuting = true ∨ .finish i ∈ q
  view : t.window ≠ none → t.animation ≠ none ∨ .finish i ∈ q

/-- Every toast is tracked, those to come are untouched, and at most one has been
started and is not finished. -/
structure Orderly (s : ToastCenter) : Prop where
  tracked : ∀ i, Tracked i s.mainQueue (s.toasts i)
  known : ∀ block ∈ s.mainQueue, block.toast < s.count
  fresh : ∀ i, s.count ≤ i → s.toasts i = {}
  oneStarted : ∀ i j, (s.toasts i).isStarted = true → (s.toasts i).isFinished = false →
    (s.toasts j).isStarted = true → (s.toasts j).isFinished = false → i = j

variable {s t : ToastCenter} {e : ToastEvent} {i : ℕ} {q q' : List ToastBlock}
  {toast toast' : Toaster}

section OneToast

/-- Only a toast's own blocks matter to it. -/
theorem Tracked.of_mem_iff (h : Tracked i q toast)
    (hq : ∀ block : ToastBlock, block.toast = i → (block ∈ q' ↔ block ∈ q)) :
    Tracked i q' toast := by
  have hstart := hq (.start i) rfl
  have haddView := hq (.addView i) rfl
  have hfinish := hq (.finish i) rfl
  refine ⟨?_, ?_, ?_, ?_, ?_⟩
  · rw [hstart]
    exact h.posted
  · rw [haddView]
    exact h.executing
  · rw [hfinish]
    exact h.cancelled
  · rw [hstart, hfinish]
    exact h.started
  · rw [hfinish]
    exact h.view

/-- A cancelled toast is tracked since its `finish` block is in the queue. -/
theorem Tracked.cancel (h : Tracked i q toast) :
    Tracked i (q ++ [.finish i]) { toast with isCancelled := true } := by
  obtain ⟨hposted, hexecuting, -, hstarted, hview⟩ := h
  refine ⟨?_, ?_, ?_, ?_, ?_⟩ <;> simp_all

/-- A toast that the queue starts is under way: it was found runnable, or it is executing,
finished or about to be. -/
theorem Tracked.queueStart (h : Tracked i q toast) :
    Tracked i q { toast with isStarted := true, isChecked := toast.isRunnable } := by
  obtain ⟨hposted, hexecuting, hcancelled, hstarted, hview⟩ := h
  refine ⟨fun _ => rfl, ?_, hcancelled, fun _ => ?_, hview⟩
  · grind
  · grind [Toaster.isRunnable]

/-- Once it has been checked, the block of the start takes over what was under way. -/
theorem Tracked.postStart (h : Tracked i q toast) (hchecked : toast.isChecked = true) :
    Tracked i (q ++ [.start i]) { toast with isChecked := false } := by
  have hstarted := h.posted (Or.inl hchecked)
  refine ⟨fun _ => hstarted, ?_, ?_, fun _ => ?_, ?_⟩
  · have := h.executing
    grind
  · have := h.cancelled
    grind
  · grind
  · have := h.view
    grind

/-- The block of a runnable toast marks it as executing, that of another one does
nothing. -/
theorem Tracked.start (h : Tracked i (.start i :: q) toast) :
    (toast.isRunnable = true → Tracked i (q ++ [.addView i]) { toast with isExecuting := true }) ∧
      (toast.isRunnable = false → Tracked i q toast) := by
  have hstarted := h.posted (Or.inr List.mem_cons_self)
  obtain ⟨-, hexecuting, hcancelled, -, hview⟩ := h
  constructor
  · intro hrunnable
    refine ⟨fun _ => hstarted, ?_, ?_, ?_, ?_⟩ <;> grind [Toaster.isRunnable]
  · intro hrunnable
    refine ⟨fun _ => hstarted, ?_, ?_, ?_, ?_⟩ <;> grind [Toaster.isRunnable]

/-- The block that adds the view gives the toast a window and its first animation in one go. -/
theorem Tracked.addView (h : Tracked i (.addView i :: q) toast) :
    Tracked i q toast.addSubview := by
  obtain ⟨hposted, hexecuting, hcancelled, hstarted, hview⟩ := h
  refine ⟨?_, ?_, ?_, ?_, ?_⟩ <;> grind [Toaster.addSubview]

/-- The block of a finish leaves nothing to do: the toast is finished and its view is off the
screen. -/
theorem Tracked.finish (h : Tracked i (.finish i :: q) toast) :
    Tracked i q toast.finish.removeFromSuperview := by
  obtain ⟨hposted, -, -, -, -⟩ := h
  refine ⟨?_, ?_, ?_, ?_, ?_⟩ <;> grind [Toaster.finish, Toaster.removeFromSuperview]

/-- Each animation but the last leaves another one. The second finishes the toast while it
fades out, and the third takes the view off the screen. -/
theorem Tracked.animationCompleted (h : Tracked i q toast)
    (hcompleted : toast.animationCompleted = some toast') : Tracked i q toast' := by
  obtain ⟨hposted, hexecuting, hcancelled, hstarted, hview⟩ := h
  unfold Toaster.animationCompleted at hcompleted
  split at hcompleted
  · cases hcompleted
  · obtain rfl := Option.some.inj hcompleted
    refine ⟨?_, ?_, ?_, ?_, ?_⟩ <;> grind
  · obtain rfl := Option.some.inj hcompleted
    refine ⟨?_, ?_, ?_, ?_, ?_⟩ <;> grind [Toaster.finish]
  · obtain rfl := Option.some.inj hcompleted
    refine ⟨?_, ?_, ?_, ?_, ?_⟩ <;> grind [Toaster.removeFromSuperview]

end OneToast

section OneStep

/-- Finished toasts stay finished. -/
def StaysFinished (s t : ToastCenter) : Prop :=
  ∀ i, (s.toasts i).isFinished = true → (t.toasts i).isFinished = true

/-- A toast that is not new has been enqueued. -/
theorem Orderly.lt_count (h : s.Orderly) (hne : s.toasts i ≠ {}) : i < s.count := by
  by_contra hge
  exact hne (h.fresh i (Nat.le_of_not_lt hge))

/-- Toast `i` becomes `toast`, and its blocks those of the main queue `q`. -/
theorem Orderly.update {n : ℕ} (h : s.Orderly) (htracked : Tracked i q toast)
    (hq : ∀ block : ToastBlock, block.toast ≠ i → (block ∈ q ↔ block ∈ s.mainQueue))
    (hn : s.count ≤ n) (hi : i < n)
    (hfinished : (s.toasts i).isFinished = true → toast.isFinished = true)
    (hone : toast.isStarted = true → toast.isFinished = false → ∀ j, j ≠ i →
      (s.toasts j).isStarted = true → (s.toasts j).isFinished = true) :
    Orderly { toasts := Function.update s.toasts i toast, count := n, mainQueue := q } ∧
      StaysFinished s
        { toasts := Function.update s.toasts i toast, count := n, mainQueue := q } := by
  have htoast : ∀ j, Function.update s.toasts i toast j = if j = i then toast else s.toasts j :=
    fun j => Function.update_apply s.toasts i toast j
  refine ⟨⟨fun j => ?_, fun block hblock => ?_, fun j hj => ?_, fun j k hj hj' hk hk' => ?_⟩,
    fun j hj => ?_⟩
  · show Tracked j q (Function.update s.toasts i toast j)
    rw [htoast]
    split
    · next heq =>
        subst heq
        exact htracked
    · next hne =>
        refine (h.tracked j).of_mem_iff fun block hblock => hq block ?_
        rw [hblock]
        exact hne
  · by_cases hown : block.toast = i
    · exact hown ▸ hi
    · exact Nat.lt_of_lt_of_le (h.known block ((hq block hown).mp hblock)) hn
  · have hge : n ≤ j := hj
    show Function.update s.toasts i toast j = {}
    rw [htoast, if_neg (by omega)]
    exact h.fresh j (by omega)
  · -- `i` is not under way together with any other toast, and no two of the others are
    simp only [htoast] at hj hj' hk hk'
    by_cases hji : j = i <;> by_cases hki : k = i
    · rw [hji, hki]
    · rw [if_pos hji] at hj hj'
      rw [if_neg hki] at hk hk'
      rw [hone hj hj' k hki hk] at hk'
      cases hk'
    · rw [if_neg hji] at hj hj'
      rw [if_pos hki] at hk hk'
      rw [hone hk hk' j hji hj] at hj'
      cases hj'
    · rw [if_neg hji] at hj hj'
      rw [if_neg hki] at hk hk'
      exact h.oneStarted j k hj hj' hk hk'
  · show (Function.update s.toasts i toast j).isFinished = true
    rw [htoast]
    split
    · next heq => exact hfinished (heq ▸ hj)
    · exact hj

/-- What a step does to a toast that it does not start. -/
theorem Orderly.setToast (h : s.Orderly) (hi : i < s.count) (htracked : Tracked i q toast)
    (hq : ∀ block : ToastBlock, block.toast ≠ i → (block ∈ q ↔ block ∈ s.mainQueue))
    (hstarted : toast.isStarted = (s.toasts i).isStarted)
    (hfinished : (s.toasts i).isFinished = true → toast.isFinished = true) :
    Orderly { s.setToast i toast with mainQueue := q } ∧
      StaysFinished s { s.setToast i toast with mainQueue := q } := by
  refine h.update htracked hq (Nat.le_refl _) hi hfinished ?_
  intro hon hrunning j hne hj
  by_contra hunfinished
  have hi' : (s.toasts i).isFinished = false := by
    apply Bool.eq_false_iff.mpr
    intro hfin
    rw [hfinished hfin] at hrunning
    cases hrunning
  exact hne (h.oneStarted j i hj (Bool.eq_false_iff.mpr hunfinished) (hstarted ▸ hon) hi')

/-- The blocks of the other toasts are the same after a block is posted. -/
theorem mem_append_of_other {block posted : ToastBlock} (hne : block.toast ≠ posted.toast) :
    block ∈ q ++ [posted] ↔ block ∈ q := by
  have : block ≠ posted := fun heq => hne (congrArg ToastBlock.toast heq)
  simp [this]

/-- A cancel keeps the queue orderly: it starts no toast and takes no finish back. -/
theorem Orderly.cancel (h : s.Orderly) (hi : i < s.count) :
    (s.cancel i).Orderly ∧ StaysFinished s (s.cancel i) :=
  h.setToast hi (h.tracked i).cancel (fun _ hne => mem_append_of_other hne) rfl id

/-- A new toast. -/
theorem Orderly.add (h : s.Orderly) (type : ToastType) :
    (s.add { type := type }).Orderly ∧ StaysFinished s (s.add { type := type }) := by
  have hnone : ToastBlock.start s.count ∉ s.mainQueue :=
    fun hmem => Nat.lt_irrefl _ (h.known _ hmem)
  have htracked : Tracked s.count s.mainQueue { type := type } := by
    refine ⟨?_, nofun, nofun, nofun, fun hview => absurd rfl hview⟩
    rintro (hchecked | hstart)
    · cases hchecked
    · exact absurd hstart hnone
  refine h.update htracked (fun _ _ => Iff.rfl) (Nat.le_succ _) (Nat.lt_succ_self _) ?_ nofun
  rw [h.fresh s.count (Nat.le_refl _)]
  exact nofun

/-- What stays finished in each of two steps stays finished in both. -/
theorem StaysFinished.trans {u : ToastCenter} (hst : StaysFinished s t)
    (htu : StaysFinished t u) : StaysFinished s u := fun i hi => htu i (hst i hi)

/-- A new toast takes the first number that is free, after the cancel of the one before it,
and is not started yet. -/
theorem Orderly.showToast (h : s.Orderly) (type : ToastType) :
    (s.showToast type).Orderly ∧ StaysFinished s (s.showToast type) := by
  unfold ToastCenter.showToast
  split
  · next i hcurrent =>
      have hi : i < s.count := List.mem_range.mp (List.mem_of_find?_eq_some hcurrent)
      obtain ⟨hcancel, hstays⟩ := h.cancel hi
      obtain ⟨hadd, hstays'⟩ := hcancel.add type
      exact ⟨hadd, hstays.trans hstays'⟩
  · exact h.add type

/-- The queue starts a toast only when no other one is under way. -/
theorem Orderly.queueStart (h : s.Orderly) (hstart : s.canStart i = true) :
    (s.queueStart i).Orderly ∧ StaysFinished s (s.queueStart i) := by
  simp only [canStart, Bool.and_eq_true, decide_eq_true_eq, Bool.not_eq_true',
    List.all_eq_true, List.mem_range, Bool.or_eq_true] at hstart
  obtain ⟨⟨hi, hnew⟩, hdone⟩ := hstart
  refine h.update (h.tracked i).queueStart (fun _ _ => Iff.rfl) (Nat.le_refl _) hi id ?_
  intro _ _ j _ hj
  have hlt : j < s.count := h.lt_count fun hfresh => by
    rw [hfresh] at hj
    cases hj
  rcases hdone j hlt with hno | hfin
  · rw [hj] at hno
    cases hno
  · exact hfin

/-- The start of a toast that was checked goes to the main queue as a block. -/
theorem Orderly.postStart (h : s.Orderly) (hchecked : (s.toasts i).isChecked = true) :
    (s.postStart i).Orderly ∧ StaysFinished s (s.postStart i) := by
  have hi : i < s.count := h.lt_count fun hfresh => by
    rw [hfresh] at hchecked
    cases hchecked
  exact h.setToast hi ((h.tracked i).postStart hchecked)
    (fun _ hne => mem_append_of_other hne) rfl id

/-- The completion of an animation concerns its own toast only, and no other one is started
by it. -/
theorem Orderly.animationCompleted (h : s.Orderly)
    (hcompleted : (s.toasts i).animationCompleted = some toast) :
    (s.setToast i toast).Orderly ∧ StaysFinished s (s.setToast i toast) := by
  have hi : i < s.count := h.lt_count fun hfresh => by
    rw [hfresh] at hcompleted
    cases hcompleted
  have hflags : toast.isStarted = (s.toasts i).isStarted ∧
      ((s.toasts i).isFinished = true → toast.isFinished = true) := by
    unfold Toaster.animationCompleted at hcompleted
    split at hcompleted
    · cases hcompleted
    · obtain rfl := Option.some.inj hcompleted
      exact ⟨rfl, id⟩
    · obtain rfl := Option.some.inj hcompleted
      exact ⟨rfl, fun _ => rfl⟩
    · obtain rfl := Option.some.inj hcompleted
      exact ⟨rfl, id⟩
  exact h.setToast hi ((h.tracked i).animationCompleted hcompleted) (fun _ _ => Iff.rfl)
    hflags.1 hflags.2

/-- The block posted first; only its own toast notices that it is gone. -/
theorem Orderly.runBlock {block : ToastBlock} (h : s.Orderly)
    (hmain : s.mainQueue = block :: q) :
    (runBlock { s with mainQueue := q } block).Orderly ∧
      StaysFinished s (runBlock { s with mainQueue := q } block) := by
  have hi := h.known block (by rw [hmain]; exact List.mem_cons_self)
  have htracked := h.tracked block.toast
  have hq : ∀ other : ToastBlock, other.toast ≠ block.toast →
      (other ∈ q ↔ other ∈ s.mainQueue) := by
    intro other hne
    have : other ≠ block := fun heq => hne (congrArg ToastBlock.toast heq)
    rw [hmain, List.mem_cons]
    simp [this]
  rw [hmain] at htracked
  cases block with
  | start i =>
      unfold ToastCenter.runBlock ToastCenter.start
      by_cases hrunnable : (s.toasts i).isRunnable = true
      · have hrun := htracked.start.1 hrunnable
        simp only [hrunnable, if_true]
        exact h.setToast hi hrun
          (fun other hne => (mem_append_of_other hne).trans (hq other hne)) rfl id
      · have hrest := htracked.start.2 (Bool.eq_false_iff.mpr hrunnable)
        have hpop := h.setToast hi hrest hq rfl id
        have hsame : { s.setToast i (s.toasts i) with mainQueue := q } =
            { s with mainQueue := q } := by
          unfold ToastCenter.setToast
          rw [Function.update_eq_self]
        simp only [hrunnable]
        rwa [show ToastBlock.toast (.start i) = i from rfl, hsame] at hpop
  | addView i => exact h.setToast hi htracked.addView hq rfl id
  | finish i => exact h.setToast hi htracked.finish hq rfl fun _ => rfl

/-- Every step keeps the queue orderly and what is finished, by the cases of what happens: a
new toast, a start by the queue, its check, a block of the main queue, the end of an
animation. -/
theorem orderly_step (h : s.Orderly) (hstep : step s e = some t) :
    t.Orderly ∧ StaysFinished s t := by
  cases e with
  | showToast type =>
      obtain rfl := Option.some.inj hstep
      exact h.showToast type
  | queueStart i =>
      simp only [step] at hstep
      split at hstep
      · next hstart =>
          obtain rfl := Option.some.inj hstep
          exact h.queueStart hstart
      · cases hstep
  | postStart i =>
      simp only [step] at hstep
      split at hstep
      · next hchecked =>
          obtain rfl := Option.some.inj hstep
          exact h.postStart hchecked
      · cases hstep
  | runBlock =>
      simp only [step] at hstep
      split at hstep
      · cases hstep
      · next block mainQueue hmain =>
          obtain rfl := Option.some.inj hstep
          exact h.runBlock hmain
  | animationCompleted i =>
      obtain ⟨toast, hcompleted, rfl⟩ := Option.map_eq_some_iff.mp hstep
      exact h.animationCompleted hcompleted

end OneStep

/-- A toast that was started is finished once nothing is under way. -/
theorem Orderly.started_finished (h : s.Orderly) (hrest : s.AtRest) (hi : i < s.count)
    (hstarted : (s.toasts i).isStarted = true) : (s.toasts i).isFinished = true := by
  obtain ⟨hchecked, hanimation⟩ := hrest.nothingUnderWay i hi
  have htracked := h.tracked i
  rw [hrest.noBlock] at htracked
  rcases htracked.started hstarted with hfin | hchk | hstart | hexec | hfinish
  · exact hfin
  · rw [hchecked] at hchk
    cases hchk
  · cases hstart
  · rcases (htracked.executing hexec).2.2 with hadd | hfade | hstay
    · cases hadd
    · rw [hanimation] at hfade
      cases hfade
    · rw [hanimation] at hstay
      cases hstay
  · cases hfinish

/-- An orderly queue is safe. Two executing toasts would be two that are started and not
finished, and at rest nothing is left that a toast could be waiting for. -/
theorem Orderly.toastSafe (h : s.Orderly) : s.ToastSafe := by
  constructor
  · intro i j hi hj
    obtain ⟨histarted, hifinished, -⟩ := (h.tracked i).executing hi
    obtain ⟨hjstarted, hjfinished, -⟩ := (h.tracked j).executing hj
    exact h.oneStarted i j histarted hifinished hjstarted hjfinished
  · intro hrest i hi
    refine ⟨?_, ?_⟩
    · cases hstarted : (s.toasts i).isStarted with
      | true => exact h.started_finished hrest hi hstarted
      | false =>
          -- everything started is finished, so the queue could start this toast
          refine hrest.nothingToStart i ?_
          simp only [canStart, hi, hstarted, decide_true, Bool.not_false, Bool.and_true,
            Bool.true_and, List.all_eq_true, List.mem_range]
          intro j hj
          cases hj' : (s.toasts j).isStarted with
          | false => rfl
          | true => simp [h.started_finished hrest hj hj']
    · by_contra hwindow
      have htracked := h.tracked i
      rw [hrest.noBlock] at htracked
      rcases htracked.view hwindow with hanimation | hfinish
      · exact hanimation (hrest.nothingUnderWay i hi).2
      · cases hfinish

/-- A toast that stays finished in an orderly queue does not execute, for an executing toast
is not finished. -/
theorem Orderly.keepsFinished (ht : t.Orderly) (hstays : StaysFinished s t) :
    KeepsFinished s e t := by
  intro i hi
  have hfinished := hstays i hi
  refine ⟨hfinished, ?_⟩
  cases hexecuting : (t.toasts i).isExecuting with
  | false => rfl
  | true =>
      have hnot := ((ht.tracked i).executing hexecuting).2.1
      rw [hfinished] at hnot
      cases hnot

/-- The empty queue is orderly. -/
theorem orderly_start : ({} : ToastCenter).Orderly := by
  refine ⟨fun i => ⟨?_, nofun, nofun, nofun, fun h => absurd rfl h⟩, nofun, fun _ _ => rfl, nofun⟩
  rintro (hchecked | hstart)
  · cases hchecked
  · cases hstart

/-- **The toast queue is safe** in every run: finished toasts stay finished and do not
execute again, at most one toast executes, and at rest every toast is finished and none
is on the screen. -/
theorem toast_queue_safe (es : List ToastEvent) :
    Throughout step ToastSafe {} es ∧ StepsMeet step KeepsFinished {} es := by
  have hstep : ∀ s e t, Orderly s → step s e = some t → t.Orderly :=
    fun _ _ _ hs hstep => (orderly_step hs hstep).1
  constructor
  · have horderly := throughout_of_step hstep orderly_start es
    exact horderly.mono hstep (fun _ _ hs => hs.toastSafe) orderly_start
  · exact stepsMeet_of_invariant hstep (fun s e t hs ht =>
      (hstep s e t hs ht).keepsFinished (orderly_step hs ht).2) orderly_start es

/-- A toast on the screen is cancelled by the next one; both come to rest. -/
example : (runFrom step {} [.showToast .normal, .queueStart 0, .postStart 0, .runBlock, .runBlock,
    .showToast .onKeyboard, .runBlock, .queueStart 1, .animationCompleted 0, .postStart 1,
    .animationCompleted 0, .runBlock, .animationCompleted 0, .runBlock, .animationCompleted 1,
    .animationCompleted 1, .animationCompleted 1]).map (fun s =>
      (s.mainQueue, s.toasts 0, s.toasts 1)) =
    some ([],
      { isStarted := true, isCancelled := true, isFinished := true },
      { type := .onKeyboard, isStarted := true, isFinished := true }) := by decide +kernel

end ToastCenter

end ToastQueue
