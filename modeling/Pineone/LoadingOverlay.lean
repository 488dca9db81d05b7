import Pineone.Runs
import Mathlib.Algebra.Order.Group.Int

/-!
# The loading overlay

`LoadingService` counts the requests for its overlay in `retainCount`: `show` counts
up in the block it posts, `hide` counts down at once and posts a block once the
count has reached zero, and that block starts a fade whose completion takes the
overlay off the screen and sets the count back to zero.

* `overlay_iff`: with everything run, when the overlay is on the screen exactly if more
  shows than hides were called.  With a key window that is so unless the calls are
  balanced and a completion came while the count was negative.
-/

namespace LoadingOverlay

open Runs

/-- A block on the main queue. -/
inductive LoadingBlock
  | show
  | hide
  deriving DecidableEq, Repr

/-- The service, its overlay and what is under way: the posted blocks and the
running fades, each with a completion to come.  `shows` and `hides` count the calls. -/
structure LoadingService where
  retainCount : ℤ := 0
  onScreen : Bool := false
  mainQueue : List LoadingBlock := []
  fades : ℕ := 0
  shows : ℕ := 0
  hides : ℕ := 0
  deriving DecidableEq, Repr

inductive LoadingEvent
  | show
  | hide
  /-- The main queue runs the block posted first; `keyWindow` tells whether there is
  a key window. -/
  | runBlock (keyWindow : Bool)
  | completion
  deriving DecidableEq, Repr

namespace LoadingService

def showLoading (s : LoadingService) : LoadingService :=
  { s with shows := s.shows + 1, mainQueue := s.mainQueue ++ [.show] }

def hideLoading (s : LoadingService) : LoadingService :=
  let retainCount := s.retainCount - 1
  { s with
    hides := s.hides + 1
    retainCount := retainCount
    mainQueue := if retainCount ≤ 0 then s.mainQueue ++ [.hide] else s.mainQueue }

/-- The block of `show`. -/
def showBlock (s : LoadingService) (keyWindow : Bool) : LoadingService :=
  if keyWindow then { s with retainCount := s.retainCount + 1, onScreen := true } else s

/-- The block of `hide` starts a fade. -/
def hideBlock (s : LoadingService) : LoadingService := { s with fades := s.fades + 1 }

/-- The completion of a fade. -/
def fadeCompletion (s : LoadingService) : LoadingService :=
  if s.retainCount ≤ 0 then { s with retainCount := 0, onScreen := false } else s

/-- `hide` is called only while more shows than hides were called. -/
def step (s : LoadingService) : LoadingEvent → Option LoadingService
  | .show => some s.showLoading
  | .hide => if s.hides < s.shows then some s.hideLoading else none
  | .runBlock keyWindow =>
      match s.mainQueue with
      | [] => none
      | .show :: mainQueue => some (showBlock { s with mainQueue := mainQueue } keyWindow)
      | .hide :: mainQueue => some (hideBlock { s with mainQueue := mainQueue })
  | .completion =>
      match s.fades with
      | 0 => none
      | fades + 1 => some (fadeCompletion { s with fades := fades })

/-- All posted blocks and completions have run. -/
def Quiescent (s : LoadingService) : Prop := s.mainQueue = [] ∧ s.fades = 0

instance (s : LoadingService) : Decidable s.Quiescent := inferInstanceAs (Decidable (_ ∧ _))

/-- A block of `show` finds the key window. -/
def FindsWindow (s : LoadingService) (e : LoadingEvent) (_ : LoadingService) : Prop :=
  match e with
  | .runBlock keyWindow => s.mainQueue.head? = some .show → keyWindow = true
  | _ => True

instance (s : LoadingService) (e : LoadingEvent) (t : LoadingService) :
    Decidable (FindsWindow s e t) :=
  match e with
  | .runBlock keyWindow => inferInstanceAs (Decidable (_ → keyWindow = true))
  | .show | .hide | .completion => isTrue trivial

/-- No completion comes while the count is negative, that is while a hide has been
counted whose show has not. -/
def CompletesInTime (s : LoadingService) (e : LoadingEvent) (_ : LoadingService) : Prop :=
  match e with
  | .completion => 0 ≤ s.retainCount
  | _ => True

/-- A show that is not counted: its block finds no key window. -/
def uncountedShow (s : LoadingService) (e : LoadingEvent) (_ : LoadingService) : ℕ :=
  match e with
  | .runBlock keyWindow => if s.mainQueue.head? = some .show ∧ keyWindow = false then 1 else 0
  | _ => 0

/-- The hides that are forgotten: a completion sets a negative count back to zero. -/
def forgottenHides (s : LoadingService) (e : LoadingEvent) (_ : LoadingService) : ℕ :=
  match e with
  | .completion => (-s.retainCount).toNat
  | _ => 0

/-- What the count is above the calls so far: shows whose block has run, less hides. -/
def surplus (s : LoadingService) : ℤ :=
  s.retainCount - (s.shows - s.mainQueue.count .show - s.hides)

/-- A fade is under way. -/
def Hiding (s : LoadingService) : Prop := LoadingBlock.hide ∈ s.mainQueue ∨ s.fades ≠ 0

/-- The overlay follows the count, up to the fades under way. -/
structure Follows (s : LoadingService) : Prop where
  counted : 0 < s.retainCount → s.onScreen = true
  leaving : s.onScreen = true → s.retainCount ≤ 0 → s.Hiding
  negative : s.retainCount < 0 → s.Hiding

variable {s t : LoadingService} {e : LoadingEvent}

/-- At the start nothing is counted and nothing is on the screen, so there is nothing that a
fade would have to take off. -/
theorem follows_start : ({} : LoadingService).Follows := by
  refine ⟨fun h => ?_, fun h => ?_, fun h => ?_⟩
  · exact absurd h (lt_irrefl 0)
  · cases h
  · exact absurd h (lt_irrefl 0)

/-- A hide is called only after more shows. It takes one off the count at once, while the
show it answers may not have been counted yet. -/
theorem step_hide_cases (hstep : step s .hide = some t) :
    s.hides < s.shows ∧ t = s.hideLoading := by
  simp only [step] at hstep
  split at hstep
  · next hlt => exact ⟨hlt, (Option.some.inj hstep).symm⟩
  · cases hstep

/-- The oldest block runs: that of a show counts it, if it finds the key window, and that of
a hide starts a fade. -/
theorem step_runBlock_cases {keyWindow : Bool} (hstep : step s (.runBlock keyWindow) = some t) :
    ∃ mainQueue, (s.mainQueue = .show :: mainQueue ∧
        t = showBlock { s with mainQueue := mainQueue } keyWindow) ∨
      (s.mainQueue = .hide :: mainQueue ∧ t = hideBlock { s with mainQueue := mainQueue }) := by
  simp only [step] at hstep
  split at hstep
  · cases hstep
  · next hmain => exact ⟨_, Or.inl ⟨hmain, (Option.some.inj hstep).symm⟩⟩
  · next hmain => exact ⟨_, Or.inr ⟨hmain, (Option.some.inj hstep).symm⟩⟩

/-- A completion needs a fade under way, and there is one less then. Several fades can be
under way, as each block of a hide starts its own. -/
theorem step_completion_cases (hstep : step s .completion = some t) :
    ∃ fades, s.fades = fades + 1 ∧ t = fadeCompletion { s with fades := fades } := by
  simp only [step] at hstep
  split at hstep
  · cases hstep
  · next hfades => exact ⟨_, hfades, (Option.some.inj hstep).symm⟩

/-- `hide` posts its block whenever it leaves the count at zero or below, so that an overlay
that should go has a fade coming. -/
theorem Follows.hideLoading (h : s.Follows) : s.hideLoading.Follows := by
  refine ⟨fun hpos => ?_, fun _ hle => Or.inl ?_, fun hneg => Or.inl ?_⟩
  · have : 0 < s.retainCount - 1 := hpos
    exact h.counted (by omega)
  · have hle' : s.retainCount - 1 ≤ 0 := hle
    simp [LoadingService.hideLoading, hle']
  · have hneg' : s.retainCount - 1 < 0 := hneg
    simp [LoadingService.hideLoading, hneg'.le]

/-- The block of a show raises the count together with the overlay; without a key window it
does neither. -/
theorem Follows.showBlock {mainQueue : List LoadingBlock} (h : s.Follows)
    (hmain : s.mainQueue = .show :: mainQueue) (keyWindow : Bool) :
    (showBlock { s with mainQueue := mainQueue } keyWindow).Follows := by
  have hhiding : s.Hiding → LoadingBlock.hide ∈ mainQueue ∨ s.fades ≠ 0 := by
    intro hs
    simpa [Hiding, hmain] using hs
  cases keyWindow with
  | false =>
      exact ⟨h.counted, fun hon hle => hhiding (h.leaving hon hle),
        fun hneg => hhiding (h.negative hneg)⟩
  | true =>
      refine ⟨fun _ => rfl, fun _ hle => hhiding ?_, fun hneg => hhiding ?_⟩
      · have : s.retainCount + 1 ≤ 0 := hle
        exact h.negative (by omega)
      · have : s.retainCount + 1 < 0 := hneg
        exact h.negative (by omega)

/-- A completion with nothing left to show takes the overlay off and forgets what was hidden
too often; with something to show it does nothing. -/
theorem Follows.fadeCompletion {fades : ℕ} (h : s.Follows) :
    (fadeCompletion { s with fades := fades }).Follows := by
  unfold LoadingService.fadeCompletion
  split
  · exact ⟨fun hpos => absurd hpos (lt_irrefl 0), nofun, fun hneg => absurd hneg (lt_irrefl 0)⟩
  · next hpos =>
      have hpos' : 0 < s.retainCount := by simpa using hpos
      refine ⟨fun _ => h.counted hpos', fun _ hle => ?_, fun hneg => ?_⟩
      · exact absurd hpos' (not_lt.mpr hle)
      · exact absurd hpos' (not_lt.mpr (le_of_lt hneg))

/-- Every event keeps the overlay with the count: where the count falls to zero a fade is
posted that will take the overlay off. -/
theorem Follows.step (h : s.Follows) (hstep : LoadingService.step s e = some t) : t.Follows := by
  cases e with
  | «show» =>
      obtain rfl := Option.some.inj hstep
      have hmore : s.Hiding → s.showLoading.Hiding :=
        Or.imp_left fun hmem => List.mem_append_left _ hmem
      exact ⟨h.counted, fun hon hle => hmore (h.leaving hon hle),
        fun hneg => hmore (h.negative hneg)⟩
  | hide =>
      obtain ⟨-, rfl⟩ := step_hide_cases hstep
      exact h.hideLoading
  | runBlock keyWindow =>
      obtain ⟨mainQueue, ⟨hmain, rfl⟩ | ⟨hmain, rfl⟩⟩ := step_runBlock_cases hstep
      · exact h.showBlock hmain keyWindow
      · exact ⟨h.counted, fun _ _ => Or.inr (Nat.succ_ne_zero _),
          fun _ => Or.inr (Nat.succ_ne_zero _)⟩
  | completion =>
      obtain ⟨fades, -, rfl⟩ := step_completion_cases hstep
      exact h.fadeCompletion

/-- Hides never outnumber shows, since that is how they are called. The count can be negative
all the same: it is taken down at once and raised only by a block. -/
theorem hides_le_shows_step (h : s.hides ≤ s.shows) (hstep : LoadingService.step s e = some t) :
    t.hides ≤ t.shows := by
  cases e with
  | «show» =>
      obtain rfl := Option.some.inj hstep
      exact Nat.le_succ_of_le h
  | hide =>
      obtain ⟨hlt, rfl⟩ := step_hide_cases hstep
      exact hlt
  | runBlock keyWindow =>
      obtain ⟨mainQueue, ⟨-, rfl⟩ | ⟨-, rfl⟩⟩ := step_runBlock_cases hstep
      · unfold showBlock
        split <;> exact h
      · exact h
  | completion =>
      obtain ⟨fades, -, rfl⟩ := step_completion_cases hstep
      unfold fadeCompletion
      split <;> exact h

/-- A step loses no show exactly if it runs no block of a show without a key window. What is
lost is the count of that show, as well as its overlay. -/
theorem uncountedShow_eq_zero_iff (s : LoadingService) (e : LoadingEvent) (t : LoadingService) :
    uncountedShow s e t = 0 ↔ FindsWindow s e t := by
  cases e with
  | runBlock keyWindow => cases keyWindow <;> simp [uncountedShow, FindsWindow]
  | «show» => exact iff_of_true rfl trivial
  | hide => exact iff_of_true rfl trivial
  | completion => exact iff_of_true rfl trivial

/-- A step forgets no hide exactly if it completes no fade at a negative count, which it
would set back to zero. -/
theorem forgottenHides_eq_zero_iff (s : LoadingService) (e : LoadingEvent) (t : LoadingService) :
    forgottenHides s e t = 0 ↔ CompletesInTime s e t := by
  cases e with
  | completion =>
      simp only [forgottenHides, CompletesInTime]
      omega
  | «show» => exact iff_of_true rfl trivial
  | hide => exact iff_of_true rfl trivial
  | runBlock keyWindow => exact iff_of_true rfl trivial

/-- The surplus changes by the shows that are not counted and the hides that are
forgotten. -/
theorem surplus_step (hstep : step s e = some t) :
    t.surplus + uncountedShow s e t = s.surplus + forgottenHides s e t := by
  cases e with
  | «show» =>
      obtain rfl := Option.some.inj hstep
      simp only [surplus, showLoading, uncountedShow, forgottenHides, List.count_append,
        List.count_singleton_self]
      omega
  | hide =>
      obtain ⟨-, rfl⟩ := step_hide_cases hstep
      have hcount : s.hideLoading.mainQueue.count .show = s.mainQueue.count .show := by
        simp only [hideLoading]
        split <;> simp
      simp only [surplus, uncountedShow, forgottenHides, hcount]
      simp only [hideLoading]
      omega
  | runBlock keyWindow =>
      obtain ⟨mainQueue, ⟨hmain, rfl⟩ | ⟨hmain, rfl⟩⟩ := step_runBlock_cases hstep
      · have hcount : s.mainQueue.count .show = mainQueue.count .show + 1 := by simp [hmain]
        cases keyWindow with
        | true =>
            have hfound : FindsWindow s (.runBlock true) (showBlock { s with mainQueue } true) :=
              fun _ => rfl
            rw [(uncountedShow_eq_zero_iff _ _ _).mpr hfound]
            simp only [surplus, showBlock, forgottenHides, hcount, if_true]
            omega
        | false =>
            have hhead : s.mainQueue.head? = some .show := by simp [hmain]
            rw [show uncountedShow s (.runBlock false) _ = 1 from if_pos ⟨hhead, rfl⟩]
            simp only [surplus, showBlock, forgottenHides, hcount, Bool.false_eq_true, if_false]
            omega
      · have hcount : s.mainQueue.count .show = mainQueue.count .show := by simp [hmain]
        have hother : FindsWindow s (.runBlock keyWindow) (hideBlock { s with mainQueue }) := by
          intro hhead
          rw [hmain] at hhead
          cases hhead
        rw [(uncountedShow_eq_zero_iff _ _ _).mpr hother]
        simp only [surplus, hideBlock, forgottenHides, hcount]
  | completion =>
      obtain ⟨fades, -, rfl⟩ := step_completion_cases hstep
      by_cases hle : s.retainCount ≤ 0
      · simp only [surplus, fadeCompletion, uncountedShow, forgottenHides, if_pos hle]
        omega
      · simp only [surplus, fadeCompletion, uncountedShow, forgottenHides, if_neg hle]
        omega

/-- At rest the overlay is on the screen exactly while the count is positive: a positive
count has shown it, and with no fade to come nothing else can have left it there. -/
theorem Follows.onScreen_iff (h : s.Follows) (hrest : s.Quiescent) :
    s.onScreen = true ↔ 0 < s.retainCount := by
  refine ⟨fun hon => ?_, h.counted⟩
  by_contra hpos
  rcases h.leaving hon (not_lt.mp hpos) with hblock | hfade
  · rw [hrest.1] at hblock
    cases hblock
  · exact hfade hrest.2

/-- **The loading overlay at rest** is on the screen exactly when more shows than
hides were called, if and only if the hides that were forgotten and the shows that were
not counted leave that comparison as it is.  Where every block finds a key window, that
is if and only if more shows than hides were called, or every completion came at a count
that was not negative. -/
theorem overlay_iff {es : List LoadingEvent} (hrun : runFrom step {} es = some t)
    (hrest : t.Quiescent) :
    ((t.onScreen = true ↔ t.hides < t.shows) ↔
      (t.hides + sumSteps step uncountedShow {} es < t.shows + sumSteps step forgottenHides {} es ↔
        t.hides < t.shows)) ∧
      (StepsMeet step FindsWindow {} es →
        ((t.onScreen = true ↔ t.hides < t.shows) ↔
          (t.hides < t.shows ∨ StepsMeet step CompletesInTime {} es))) := by
  have hfollows := runFrom_of_step (fun _ _ _ hs => Follows.step hs) follows_start hrun
  have hcalls : t.hides ≤ t.shows :=
    runFrom_of_step (J := fun s => s.hides ≤ s.shows) (fun _ _ _ hs => hides_le_shows_step hs)
      le_rfl hrun
  have hbalance : t.surplus + sumSteps step uncountedShow {} es =
      0 + sumSteps step forgottenHides {} es :=
    measure_balance (fun _ _ _ => surplus_step) hrun
  have hcount : t.retainCount = t.shows - t.hides + t.surplus := by
    simp only [surplus, hrest.1, List.count_nil]
    omega
  have hexact : (t.onScreen = true ↔ t.hides < t.shows) ↔
      (t.hides + sumSteps step uncountedShow {} es < t.shows + sumSteps step forgottenHides {} es ↔
        t.hides < t.shows) := by
    rw [hfollows.onScreen_iff hrest]
    omega
  refine ⟨hexact, fun hwindow => ?_⟩
  have hcounted : sumSteps step uncountedShow {} es = 0 :=
    (sumSteps_eq_zero_iff (fun s e t _ => uncountedShow_eq_zero_iff s e t) {} es).mpr hwindow
  rw [hexact, hcounted,
    ← sumSteps_eq_zero_iff (fun s e t _ => forgottenHides_eq_zero_iff s e t) {} es]
  omega

/-- One show and one hide, each with its block run and the fade completed. The sums over the
run are both zero, and the overlay is off. -/
theorem overlay_iff_show_hide :
    ((LoadingService.onScreen ⟨0, false, [], 0, 1, 1⟩ = true ↔ 1 < 1) ↔
      (1 + sumSteps step uncountedShow {}
          [.show, .runBlock true, .hide, .runBlock true, .completion] <
        1 + sumSteps step forgottenHides {}
          [.show, .runBlock true, .hide, .runBlock true, .completion] ↔ 1 < 1)) ∧
      (StepsMeet step FindsWindow {}
          [.show, .runBlock true, .hide, .runBlock true, .completion] →
        ((LoadingService.onScreen ⟨0, false, [], 0, 1, 1⟩ = true ↔ 1 < 1) ↔
          (1 < 1 ∨ StepsMeet step CompletesInTime {}
            [.show, .runBlock true, .hide, .runBlock true, .completion]))) :=
  overlay_iff (t := ⟨0, false, [], 0, 1, 1⟩) rfl (by decide)

/-- Two pairs of `show` and `hide` called before the first block runs: the first
completion forgets that the second hide was counted, and the overlay stays. -/
theorem overlay_stays :
    ¬ ∀ es t, runFrom step {} es = some t → StepsMeet step FindsWindow {} es → t.Quiescent →
      (t.onScreen = true ↔ t.hides < t.shows) := by
  intro h
  have hstays := (h [.show, .hide, .show, .hide, .runBlock true, .runBlock true, .completion,
    .runBlock true, .runBlock true, .completion] ⟨1, true, [], 0, 2, 2⟩ rfl (by decide)
    (by decide)).mp rfl
  exact absurd hstays (lt_irrefl 2)

end LoadingService

end LoadingOverlay
