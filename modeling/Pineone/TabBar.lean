import Pineone.Runs
import Mathlib.Data.List.Basic

/-!
# The tab bar

A request for a tab selects it at once.  Unless it is the tab selected at the moment, the
request also starts an animation, whose completion selects the tab once more and lets the
user go on; the completions run in the order in which the animations were started.

* `runFrom_completions`: the completions that wait lead to the state `settled` gives;
* `tab_bar_settles_iff`: along a run the completions that wait always lead to the tab last
  requested exactly when no tab is requested that is selected only in passing.
-/

namespace TabBar

open Runs

/-- The tab bar with its number of tabs.  `animations` are the tabs that the animations
under way lead to, the one started first in front; `requested` is the last request. -/
structure ARTabBarController where
  viewControllers : ℕ
  selectedIndex : ℕ
  isUserInteractionEnabled : Bool := true
  animations : List ℕ := []
  requested : ℕ
  deriving DecidableEq, Repr

inductive TabBarEvent
  /-- `switchToTabBar(page:)`, also by `selectTabBarWith(index:)`. -/
  | switchToTabBar (page : ℕ)
  /-- The user taps the item of a tab. -/
  | tap (index : ℕ)
  /-- The animation started first completes. -/
  | completion
  deriving DecidableEq, Repr

namespace ARTabBarController

def tapTransition (s : ARTabBarController) (toIndex : ℕ) : ARTabBarController :=
  let fromIndex := s.selectedIndex
  if fromIndex ≠ toIndex then
    { s with isUserInteractionEnabled := false, animations := s.animations ++ [toIndex] }
  else s

def switchToTabBar (s : ARTabBarController) (page : ℕ) : ARTabBarController :=
  { s.tapTransition page with selectedIndex := page, requested := page }

/-- `tabBarController(_:shouldSelect:)` of the tab at `index`, which is then selected. -/
def shouldSelect (s : ARTabBarController) (index : ℕ) : ARTabBarController :=
  { s.tapTransition index with selectedIndex := index, requested := index }

/-- The completion of the animation to `toIndex`. -/
def complete (s : ARTabBarController) (toIndex : ℕ) : ARTabBarController :=
  { s with selectedIndex := toIndex, isUserInteractionEnabled := true }

/-- One step: pages are those of tabs, and the user taps only while that is enabled. -/
def step (s : ARTabBarController) : TabBarEvent → Option ARTabBarController
  | .switchToTabBar page => if page < s.viewControllers then some (s.switchToTabBar page) else none
  | .tap index =>
      if s.isUserInteractionEnabled ∧ index < s.viewControllers then some (s.shouldSelect index)
      else none
  | .completion =>
      match s.animations with
      | [] => none
      | toIndex :: animations => some (complete { s with animations := animations } toIndex)

/-- The state once all completions that wait have run. -/
def settled (s : ARTabBarController) : ARTabBarController :=
  s.animations.foldl complete { s with animations := [] }

/-- Once all completions have run, the tab last requested is selected and the user can go
on. -/
structure SettlesOnRequest (s : ARTabBarController) : Prop where
  selected : s.settled.selectedIndex = s.requested
  enabled : s.settled.isUserInteractionEnabled = true

/-- A tab that is selected is requested only if no animation is under way, or if the last
one leads to that tab. -/
def NotInPassing (s : ARTabBarController) (e : TabBarEvent) (_ : ARTabBarController) : Prop :=
  match e with
  | .switchToTabBar page | .tap page =>
      s.selectedIndex = page → s.animations = [] ∨ s.animations.getLast? = some page
  | .completion => True

/-- The user can go on when no animation is under way. -/
def Responds (s : ARTabBarController) : Prop :=
  s.animations = [] → s.isUserInteractionEnabled = true

variable {s t : ARTabBarController} {e : TabBarEvent}

/-- The last completion decides: each one selects its own tab and lets the user go on, and
the one started last comes last. -/
theorem foldl_complete (s : ARTabBarController) (animations : List ℕ) :
    animations.foldl complete s =
      { s with
        selectedIndex := animations.getLast?.getD s.selectedIndex
        isUserInteractionEnabled := !animations.isEmpty || s.isUserInteractionEnabled } := by
  induction animations generalizing s with
  | nil => rfl
  | cons toIndex animations ih =>
      rw [List.foldl_cons, ih]
      cases animations with
      | nil => rfl
      | cons next animations =>
          rw [List.getLast?_cons_cons]
          cases hlast : (next :: animations).getLast? with
          | none =>
              have := List.getLast?_eq_none_iff.mp hlast
              cases this
          | some _ => rfl

/-- Where the state ends on the request: the last animation leads there, or it is selected
already. -/
theorem settlesOnRequest_iff (h : s.Responds) :
    s.SettlesOnRequest ↔ s.animations.getLast?.getD s.selectedIndex = s.requested := by
  have hsettled := foldl_complete { s with animations := [] } s.animations
  constructor
  · intro hsettles
    have hselected := hsettles.selected
    rw [settled, hsettled] at hselected
    exact hselected
  · intro hlast
    refine ⟨?_, ?_⟩
    · rw [settled, hsettled]
      exact hlast
    · rw [settled, hsettled]
      show (!s.animations.isEmpty || s.isUserInteractionEnabled) = true
      cases hanimations : s.animations with
      | nil => rw [h hanimations, Bool.or_true]
      | cons _ _ => rfl

/-- **The completions that wait**, one after the other. -/
theorem runFrom_completions (s : ARTabBarController) :
    runFrom step s (List.replicate s.animations.length .completion) = some s.settled := by
  obtain ⟨viewControllers, selectedIndex, enabled, animations, requested⟩ := s
  induction animations generalizing selectedIndex enabled with
  | nil => rfl
  | cons toIndex animations ih => exact ih toIndex true

section Requests

variable {page : ℕ}

/-- A request for another tab starts an animation there, which is the last one to complete.
So it leads to the tab that was requested. -/
theorem request_other (hne : s.selectedIndex ≠ page) :
    (s.switchToTabBar page).SettlesOnRequest := by
  have hanimations : (s.switchToTabBar page).animations = s.animations ++ [page] := by
    show (s.tapTransition page).animations = _
    rw [tapTransition, if_pos hne]
  rw [settlesOnRequest_iff, hanimations, List.getLast?_concat]
  · rfl
  · intro hnone
    rw [hanimations] at hnone
    exact absurd hnone (by simp)

/-- A request for the tab that is selected leaves the animations alone. Those that are under
way go on to their own tabs. -/
theorem request_same (hsame : s.selectedIndex = page) :
    s.switchToTabBar page = { s with requested := page } := by
  subst hsame
  rw [switchToTabBar, tapTransition, if_neg (not_not_intro rfl)]

/-- A request for a tab starts an animation whenever it turns the interaction off, so the
user can still go on once nothing is under way. -/
theorem responds_switchToTabBar (h : s.Responds) (page : ℕ) :
    (s.switchToTabBar page).Responds := by
  by_cases hsame : s.selectedIndex = page
  · rw [request_same hsame]
    exact h
  · intro hnone
    have hanimations : (s.tapTransition page).animations = [] := hnone
    rw [tapTransition, if_pos hsame] at hanimations
    exact absurd hanimations (by simp)

/-- **What a request leads to.** -/
theorem settlesOnRequest_switchToTabBar_iff (h : s.Responds) (page : ℕ) :
    (s.switchToTabBar page).SettlesOnRequest ↔
      (s.selectedIndex = page → s.animations = [] ∨ s.animations.getLast? = some page) := by
  by_cases hsame : s.selectedIndex = page
  · rw [settlesOnRequest_iff (responds_switchToTabBar h page), request_same hsame]
    show s.animations.getLast?.getD s.selectedIndex = page ↔ _
    rw [hsame]
    cases hlast : s.animations.getLast? with
    | none => simp [List.getLast?_eq_none_iff.mp hlast]
    | some last =>
        have hne : s.animations ≠ [] := by
          intro hnil
          rw [hnil] at hlast
          cases hlast
        simp [hne]
  · exact iff_of_true (request_other hsame) fun heq => absurd heq hsame

end Requests

/-- Neither a request, nor a tap, nor a completion leaves the user locked out with no
animation under way: the last completion turns the interaction on again. -/
theorem responds_step (h : s.Responds) (hstep : step s e = some t) : t.Responds := by
  cases e with
  | switchToTabBar page =>
      simp only [step] at hstep
      split at hstep
      · obtain rfl := Option.some.inj hstep
        exact responds_switchToTabBar h page
      · cases hstep
  | tap index =>
      simp only [step] at hstep
      split at hstep
      · obtain rfl := Option.some.inj hstep
        exact responds_switchToTabBar h index
      · cases hstep
  | completion =>
      simp only [step] at hstep
      split at hstep
      · cases hstep
      · obtain rfl := Option.some.inj hstep
        exact fun _ => rfl

/-- A completion only brings forward what was to come, so that the state that all of them
lead to stays the same. -/
theorem settled_completion (hstep : step s .completion = some t) :
    t.settled = s.settled ∧ t.requested = s.requested := by
  simp only [step] at hstep
  split at hstep
  · cases hstep
  · next toIndex animations hanimations =>
      obtain rfl := Option.some.inj hstep
      refine ⟨?_, rfl⟩
      unfold settled
      rw [hanimations]
      rfl

/-- One step keeps the bar settling on the tab last requested exactly if it does not ask for
a tab that is selected in passing only. Such a request starts no animation of its own, and
the last one that is under way still ends on its own tab. -/
theorem settlesOnRequest_step_iff (h : s.Responds) (hsettles : s.SettlesOnRequest)
    (hstep : step s e = some t) : t.SettlesOnRequest ↔ NotInPassing s e t := by
  cases e with
  | switchToTabBar page =>
      simp only [step] at hstep
      split at hstep
      · obtain rfl := Option.some.inj hstep
        exact settlesOnRequest_switchToTabBar_iff h page
      · cases hstep
  | tap index =>
      simp only [step] at hstep
      split at hstep
      · obtain rfl := Option.some.inj hstep
        exact settlesOnRequest_switchToTabBar_iff h index
      · cases hstep
  | completion =>
      obtain ⟨hsettled, hrequested⟩ := settled_completion hstep
      refine iff_of_true ⟨?_, ?_⟩ trivial
      · rw [hsettled, hrequested]
        exact hsettles.selected
      · rw [hsettled]
        exact hsettles.enabled

/-- A tab bar that shows one of its tabs, with nothing under way. -/
def start (viewControllers selectedIndex : ℕ) : ARTabBarController :=
  { viewControllers, selectedIndex, requested := selectedIndex }

/-- **The tab bar ends on the last request** at every point of a run, once the completions
that wait have run, exactly when no tab is requested that is selected only until an
animation under way completes. -/
theorem tab_bar_settles_iff (viewControllers selectedIndex : ℕ) (es : List TabBarEvent) :
    Throughout step SettlesOnRequest (start viewControllers selectedIndex) es ↔
      StepsMeet step NotInPassing (start viewControllers selectedIndex) es := by
  apply throughout_iff_stepsMeet (J := Responds)
  · exact fun _ _ _ h hstep => responds_step h hstep
  · exact fun _ _ _ h hsettles hstep => settlesOnRequest_step_iff h hsettles hstep
  · exact fun _ => rfl
  · exact ⟨rfl, rfl⟩

/-- The second tab is requested again after its animation and before that to the third:
the tab bar ends on the third one. -/
theorem older_animation_wins :
    ¬ ∀ (viewControllers selectedIndex : ℕ) (es : List TabBarEvent),
      Throughout step SettlesOnRequest (start viewControllers selectedIndex) es := by
  intro h
  have hrun := h 5 0 [.switchToTabBar 1, .switchToTabBar 2, .completion, .switchToTabBar 1]
  have hlast := hrun.last (t := ⟨5, 1, true, [2], 1⟩) (by decide)
  exact absurd hlast.selected (by decide)

end ARTabBarController

end TabBar
