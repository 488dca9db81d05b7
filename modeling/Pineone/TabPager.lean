import Pineone.Runs
import Pineone.SwiftText
import Mathlib.Data.List.Perm.Basic
import Mathlib.Logic.Function.Basic

/-!
# The tab pager

A new index in the header of the pager disables the header, has the page view controller
stop scrolling and disables the content of the page to show.  All three are enabled again
by a handler, which runs at once if the page is shown already and otherwise when the page
view controller has shown it.

* `tab_pager_responsive_iff`: along a run each request's handler runs exactly once, and
  whatever is disabled waits for it, exactly when the data source has a page for each
  index and the delegate refuses none;
* `responsive_of_initFlow`: that is so for the pages of `InitFlow`.
-/

namespace TabPager

open Swift Runs

inductive NavigationDirection
  | forward
  | reverse
  deriving DecidableEq, Repr

/-- A call of `setViewControllers` whose completion has not run, with the request it is
for. -/
structure Transition (Controller : Type) where
  request : ℕ
  controller : Controller
  direction : NavigationDirection
  deriving DecidableEq, Repr

/-- The pager with its contents.  `given` are the controllers the page view controller was
given; `swipeable` is what the last reload asked for; `requests` counts the calls of
`pageScroll` and `handled` are those whose handler has run. -/
structure TabPagerView (Controller : Type) where
  current : Option ℤ := none
  headerEnabled : Bool := true
  isScrollEnabled : Bool := true
  swipeable : Bool := true
  index : Controller → Option ℤ := fun _ => none
  contentEnabled : Controller → Bool := fun _ => true
  given : Controller → Bool := fun _ => false
  transitions : List (Transition Controller) := []
  requests : ℕ := 0
  handled : List ℕ := []

/-- What `pageScroll` is answered: the controller of the data source, the first one of the
page view controller, and the delegate's `willSelectButton`, if it has one. -/
structure ScrollAnswers (Controller : Type) where
  controller : Option Controller
  shown : Option Controller
  willSelectButton : Option Bool

/-- What a reload is answered. -/
structure ReloadAnswers (Controller : Type) where
  hostController : Bool
  shouldEnableSwipeable : Option Bool
  controller : Option Controller

inductive PagerEvent (Controller : Type)
  /-- A tap on the header, or `changeIndex`. -/
  | changeIndex (index : ℤ) (answers : ScrollAnswers Controller)
  /-- The page view controller calls the completion of a transition. -/
  | transitionCompleted (place : ℕ)
  | reload (answers : ReloadAnswers Controller)

namespace TabPagerView

variable {Controller : Type} [DecidableEq Controller]

/-- `controller.view.subviews.forEach { $0.isUserInteractionEnabled = enabled }` -/
def setContent (s : TabPagerView Controller) (controller : Controller) (enabled : Bool) :
    TabPagerView Controller :=
  { s with contentEnabled := Function.update s.contentEnabled controller enabled }

def setIndex (s : TabPagerView Controller) (controller : Controller) (index : ℤ) :
    TabPagerView Controller :=
  { s with index := Function.update s.index controller (some index) }

/-- The handler of `pageScroll`, which calls that of the pager. -/
def handler (s : TabPagerView Controller) (request : ℕ) : TabPagerView Controller :=
  { s with isScrollEnabled := true, headerEnabled := true, handled := s.handled ++ [request] }

/-- The page view controller is given `controller`. -/
def give (s : TabPagerView Controller) (controller : Controller) : TabPagerView Controller :=
  { s with given := Function.update s.given controller true }

def setViewControllers (s : TabPagerView Controller) (request : ℕ) (controller : Controller)
    (direction : NavigationDirection) : TabPagerView Controller :=
  { s.give controller with
    transitions := s.transitions ++ [⟨request, controller, direction⟩] }

/-- The handler, and what follows it. -/
def complete (s : TabPagerView Controller) (request : ℕ) (controller : Controller) :
    TabPagerView Controller :=
  (s.handler request).setContent controller true

def pageScroll (s : TabPagerView Controller) (request : ℕ) (index : ℤ)
    (answers : ScrollAnswers Controller) : Result (TabPagerView Controller) :=
  let s := { s with isScrollEnabled := false }
  match answers.controller with
  | none => .ok s
  | some controller =>
      let s := (s.setContent controller false).setIndex controller index
      match answers.shown with
      | none => .ok (s.setViewControllers request controller .forward)
      | some shown => do
          let currentIndex ← unwrap "objc_getAssociatedObject(self, RuntimeKey.indexKey!)"
            (s.index shown)
          if answers.willSelectButton.getD true then
            if index = currentIndex then
              .ok (s.complete request controller)
            else if index > currentIndex then
              .ok (s.setViewControllers request controller .forward)
            else .ok (s.setViewControllers request controller .reverse)
          else .ok s

/-- `current.accept(index)` with the subscription of `binding()`, which is told of changes
only. -/
def changeIndex (s : TabPagerView Controller) (index : ℤ) (answers : ScrollAnswers Controller) :
    Result (TabPagerView Controller) :=
  if s.current = some index then .ok s
  else
    pageScroll { s with current := some index, headerEnabled := false, requests := s.requests + 1 }
      s.requests index answers

/-- `contentView.reload(current.value ?? 0)` -/
def reload (s : TabPagerView Controller) (answers : ReloadAnswers Controller) :
    TabPagerView Controller :=
  if answers.hostController then
    let shouldEnableSwipeable := answers.shouldEnableSwipeable.getD true
    let s := { s with isScrollEnabled := shouldEnableSwipeable, swipeable := shouldEnableSwipeable }
    match answers.controller with
    | some first => (s.give first).setIndex first (s.current.getD 0)
    | none => s
  else s

end TabPagerView

open TabPagerView

variable {Controller : Type} [DecidableEq Controller]

/-- One step; the page view controller shows only what it was given. -/
def step : Result (TabPagerView Controller) → PagerEvent Controller →
    Option (Result (TabPagerView Controller))
  | .error _, _ => none
  | .ok s, .changeIndex index answers =>
      if answers.shown.all s.given then some (s.changeIndex index answers) else none
  | .ok s, .transitionCompleted place =>
      (s.transitions[place]?).map fun transition =>
        .ok (complete { s with transitions := s.transitions.eraseIdx place }
          transition.request transition.controller)
  | .ok s, .reload answers => some (.ok (s.reload answers))

/-- Each request's handler has run or waits in a completion, exactly once, and what is
disabled waits for one. -/
structure TabPagerView.Responsive (s : TabPagerView Controller) : Prop where
  once : (s.handled ++ s.transitions.map Transition.request).Perm (List.range s.requests)
  header : s.headerEnabled = true ∨ s.transitions ≠ []
  content : ∀ controller, s.contentEnabled controller = true ∨
    ∃ transition ∈ s.transitions, transition.controller = controller
  scrolling : s.isScrollEnabled = true ∨ s.swipeable = false ∨ s.transitions ≠ []

/-- The state is responsive, and nothing has trapped. -/
def RunResponsive : Result (TabPagerView Controller) → Prop
  | .error _ => False
  | .ok s => s.Responsive

/-- The data source has a controller and, once a page is shown, the delegate does not refuse
it. -/
def ScrollAnswers.Accepted (answers : ScrollAnswers Controller) : Prop :=
  answers.controller ≠ none ∧ (answers.shown ≠ none → answers.willSelectButton ≠ some false)

/-- A new index is accepted. -/
def Answered (before : Result (TabPagerView Controller)) (e : PagerEvent Controller)
    (_ : Result (TabPagerView Controller)) : Prop :=
  match before, e with
  | .ok s, .changeIndex index answers => s.current ≠ some index → answers.Accepted
  | _, _ => True

/-- The page view controller was given controllers with an index only. -/
def Indexed : Result (TabPagerView Controller) → Prop
  | .error _ => False
  | .ok s => ∀ controller, s.given controller = true → (s.index controller).isSome = true

namespace TabPagerView

variable {s : TabPagerView Controller} {controller : Controller} {request place : ℕ}

omit [DecidableEq Controller] in
/-- With nothing under way, the header and every content are enabled, and so is scrolling
unless the last reload asked otherwise. -/
theorem Responsive.settled (h : s.Responsive) (hnone : s.transitions = []) :
    s.headerEnabled = true ∧ (∀ controller, s.contentEnabled controller = true) ∧
      (s.isScrollEnabled = true ∨ s.swipeable = false) ∧
      s.handled.Perm (List.range s.requests) := by
  obtain ⟨honce, hheader, hcontent, hscrolling⟩ := h
  rw [hnone] at honce
  refine ⟨by simpa [hnone] using hheader, fun controller => ?_, by simpa [hnone] using hscrolling,
    by simpa using honce⟩
  rcases hcontent controller with henabled | ⟨transition, hmem, -⟩
  · exact henabled
  · rw [hnone] at hmem
    cases hmem

omit [DecidableEq Controller] in
/-- A page that is shown is among those that were given, so it has an index, and the forced
unwrapping of it succeeds. -/
theorem index_shown (h : Indexed (.ok s)) {answers : ScrollAnswers Controller}
    (hgiven : answers.shown.all s.given = true) {shown : Controller}
    (hshown : answers.shown = some shown) : (s.index shown).isSome = true := by
  rw [hshown, Option.all_some] at hgiven
  exact h shown hgiven

/-- Giving a controller an index takes none from the others. -/
theorem isSome_setIndex (controller : Controller) (index : ℤ) {shown : Controller}
    (h : (s.index shown).isSome = true) :
    ((s.setIndex controller index).index shown).isSome = true := by
  show (Function.update s.index controller (some index) shown).isSome = true
  rw [Function.update_apply]
  split
  · rfl
  · exact h

/-- The controllers given to the page view controller keep an index when one more is written. -/
theorem indexed_setIndex (h : Indexed (.ok s)) (controller : Controller) (index : ℤ) :
    Indexed (.ok (s.setIndex controller index)) :=
  fun shown hgiven => isSome_setIndex controller index (h shown hgiven)

/-- A controller has an index after it was given one. -/
theorem isSome_setIndex_self (s : TabPagerView Controller) (controller : Controller) (index : ℤ) :
    ((s.setIndex controller index).index controller).isSome = true := by
  show (Function.update s.index controller (some index) controller).isSome = true
  rw [Function.update_self]
  rfl

/-- A controller may be given once it has an index. -/
theorem indexed_give (h : Indexed (.ok s)) (hindex : (s.index controller).isSome = true) :
    Indexed (.ok (s.give controller)) := by
  intro other hgiven
  have hother : Function.update s.given controller true other = true := hgiven
  rw [Function.update_apply] at hother
  split at hother
  · next heq => exact heq ▸ hindex
  · exact h other hother

/-- `pageScroll` is about to show `controller`, with its content and scrolling disabled. -/
def requested (s : TabPagerView Controller) (index : ℤ) (controller : Controller) :
    TabPagerView Controller :=
  (setContent { s with isScrollEnabled := false } controller false).setIndex controller index

/-- With a controller to show and a page shown. -/
theorem pageScroll_shown {answers : ScrollAnswers Controller} {shown : Controller}
    {index currentIndex : ℤ} (hcontroller : answers.controller = some controller)
    (hshown : answers.shown = some shown)
    (hcurrent : (s.requested index controller).index shown = some currentIndex) :
    s.pageScroll request index answers =
      if answers.willSelectButton.getD true then
        if index = currentIndex then
          .ok ((s.requested index controller).complete request controller)
        else if index > currentIndex then
          .ok ((s.requested index controller).setViewControllers request controller .forward)
        else .ok ((s.requested index controller).setViewControllers request controller .reverse)
      else .ok (s.requested index controller) := by
  unfold pageScroll
  rw [hcontroller]
  dsimp only
  rw [hshown]
  dsimp only
  rw [show ((setContent { s with isScrollEnabled := false } controller false).setIndex
    controller index).index shown = some currentIndex from hcurrent]
  rfl

/-- Where the delegate does not refuse, the place of the page decides the direction. -/
theorem pageScroll_selected {answers : ScrollAnswers Controller} {shown : Controller}
    {index currentIndex : ℤ} (hcontroller : answers.controller = some controller)
    (hshown : answers.shown = some shown)
    (hcurrent : (s.requested index controller).index shown = some currentIndex)
    (hwill : answers.willSelectButton ≠ some false) :
    s.pageScroll request index answers =
        .ok ((s.requested index controller).complete request controller) ∨
      ∃ direction, s.pageScroll request index answers =
        .ok ((s.requested index controller).setViewControllers request controller direction) := by
  have htrue : answers.willSelectButton.getD true = true := by
    rcases hanswer : answers.willSelectButton with _ | _ | _
    · rfl
    · exact absurd hanswer hwill
    · rfl
  rw [pageScroll_shown hcontroller hshown hcurrent, if_pos htrue]
  split
  · exact Or.inl rfl
  · split
    · exact Or.inr ⟨.forward, rfl⟩
    · exact Or.inr ⟨.reverse, rfl⟩

/-- **What `pageScroll` does**: the handler of an accepted request has run or waits for a
transition, that of another one does neither. -/
theorem pageScroll_cases (h : Indexed (.ok s)) (request : ℕ) (index : ℤ)
    {answers : ScrollAnswers Controller} (hgiven : answers.shown.all s.given = true) :
    (answers.Accepted ∧ ∃ controller,
      s.pageScroll request index answers =
          .ok ((s.requested index controller).complete request controller) ∨
        ∃ direction, s.pageScroll request index answers =
          .ok ((s.requested index controller).setViewControllers request controller direction)) ∨
      (¬ answers.Accepted ∧ ∃ t, s.pageScroll request index answers = .ok t ∧
        t.handled = s.handled ∧ t.transitions = s.transitions ∧ t.requests = s.requests ∧
        Indexed (.ok t)) := by
  cases hcontroller : answers.controller with
  | none =>
      refine Or.inr ⟨fun haccepted => haccepted.1 hcontroller,
        { s with isScrollEnabled := false }, ?_, rfl, rfl, rfl, h⟩
      unfold pageScroll
      rw [hcontroller]
  | some controller =>
      have hsome : answers.controller ≠ none := by
        rw [hcontroller]
        exact Option.some_ne_none controller
      cases hshown : answers.shown with
      | none =>
          refine Or.inl ⟨⟨hsome, fun hpage => absurd hshown hpage⟩, controller,
            Or.inr ⟨.forward, ?_⟩⟩
          unfold pageScroll
          rw [hcontroller]
          dsimp only
          rw [hshown]
          rfl
      | some shown =>
          have hpage : answers.shown ≠ none := by
            rw [hshown]
            exact Option.some_ne_none shown
          obtain ⟨currentIndex, hcurrent⟩ := Option.isSome_iff_exists.mp
            (isSome_setIndex (s := setContent { s with isScrollEnabled := false } controller false)
              controller index (index_shown h hgiven hshown))
          by_cases hwill : answers.willSelectButton = some false
          · -- the delegate refuses: everything stays disabled
            refine Or.inr ⟨fun haccepted => haccepted.2 hpage hwill,
              s.requested index controller, ?_, rfl, rfl, rfl, indexed_setIndex h controller index⟩
            rw [pageScroll_shown hcontroller hshown hcurrent, hwill]
            rfl
          · exact Or.inl ⟨⟨hsome, fun _ => hwill⟩, controller,
              pageScroll_selected hcontroller hshown hcurrent hwill⟩

/-- The pager has a new index and asks for its page. -/
def asked (s : TabPagerView Controller) (index : ℤ) : TabPagerView Controller :=
  { s with current := some index, headerEnabled := false, requests := s.requests + 1 }

section Steps

variable {index : ℤ}

/-- The page is shown already: the handler runs at once, and what was disabled for the
request is enabled again by it. -/
theorem Responsive.complete_requested (h : s.Responsive) (index : ℤ) (controller : Controller) :
    (((s.asked index).requested index controller).complete s.requests controller).Responsive := by
  refine ⟨?_, Or.inl rfl, fun other => ?_, Or.inl rfl⟩
  · show ((s.handled ++ [s.requests]) ++ s.transitions.map Transition.request).Perm
      (List.range (s.requests + 1))
    rw [List.append_assoc, List.range_succ]
    exact ((List.perm_append_comm.append_left s.handled).trans
      (List.Perm.of_eq (List.append_assoc _ _ _).symm)).trans (h.once.append_right [s.requests])
  · by_cases hother : other = controller
    · subst hother
      exact Or.inl (Function.update_self _ _ _)
    · rw [show (((s.asked index).requested index controller).complete s.requests
          controller).contentEnabled other = s.contentEnabled other from
        (Function.update_of_ne hother _ _).trans (Function.update_of_ne hother _ _)]
      exact h.content other

/-- The page view controller is told to show the page. Its completion comes later and calls
the handler then. -/
theorem Responsive.setViewControllers_requested (h : s.Responsive) (index : ℤ)
    (controller : Controller) (direction : NavigationDirection) :
    (((s.asked index).requested index controller).setViewControllers s.requests controller
      direction).Responsive := by
  have hwaits : s.transitions ++ [Transition.mk s.requests controller direction] ≠ [] := by simp
  refine ⟨?_, Or.inr hwaits, fun other => ?_, Or.inr (Or.inr hwaits)⟩
  · show (s.handled ++ (s.transitions ++ [Transition.mk s.requests controller direction]).map
      Transition.request).Perm (List.range (s.requests + 1))
    rw [List.map_append, ← List.append_assoc, List.range_succ]
    exact h.once.append_right [s.requests]
  · by_cases hother : other = controller
    · exact Or.inr ⟨⟨s.requests, controller, direction⟩,
        List.mem_append_right s.transitions List.mem_cons_self, hother.symm⟩
    · rcases h.content other with henabled | ⟨transition, hmem, hfor⟩
      · exact Or.inl ((Function.update_of_ne hother _ _).trans henabled)
      · exact Or.inr ⟨transition, List.mem_append_left _ hmem, hfor⟩

/-- A transition completes; the others keep waiting. The header is enabled by the first of
them, and the content of each page by its own. -/
theorem Responsive.complete (h : s.Responsive) {transition : Transition Controller}
    (htransition : s.transitions[place]? = some transition) :
    (TabPagerView.complete { s with transitions := s.transitions.eraseIdx place }
      transition.request transition.controller).Responsive := by
  obtain ⟨hlt, rfl⟩ := List.getElem?_eq_some_iff.mp htransition
  have hperm := List.getElem_cons_eraseIdx_perm hlt
  refine ⟨?_, Or.inl rfl, fun other => ?_, Or.inl rfl⟩
  · show ((s.handled ++ [s.transitions[place].request]) ++
      (s.transitions.eraseIdx place).map Transition.request).Perm (List.range s.requests)
    rw [List.append_assoc]
    exact ((hperm.map Transition.request).append_left s.handled).trans h.once
  · by_cases hother : other = s.transitions[place].controller
    · subst hother
      exact Or.inl (Function.update_self _ _ _)
    · rcases h.content other with henabled | ⟨waiting, hmem, hfor⟩
      · exact Or.inl ((Function.update_of_ne hother _ _).trans henabled)
      · rcases List.mem_cons.mp (hperm.mem_iff.mpr hmem) with hgone | hrest
        · exact absurd (hgone ▸ hfor).symm hother
        · exact Or.inr ⟨waiting, hrest, hfor⟩

/-- A reload sets whether the pages can be swiped and leaves what is pending: the handlers
that wait and the views that are disabled for them are the same. -/
theorem Responsive.reload (h : s.Responsive) (answers : ReloadAnswers Controller) :
    (s.reload answers).Responsive := by
  unfold TabPagerView.reload
  split
  · have hscrolling : answers.shouldEnableSwipeable.getD true = true ∨
        answers.shouldEnableSwipeable.getD true = false ∨ s.transitions ≠ [] := by
      cases answers.shouldEnableSwipeable.getD true with
      | false => exact Or.inr (Or.inl rfl)
      | true => exact Or.inl rfl
    split
    · exact ⟨h.once, h.header, h.content, hscrolling⟩
    · exact ⟨h.once, h.header, h.content, hscrolling⟩
  · exact h

/-- The first page that a reload gives to the page view controller gets its index with it. -/
theorem indexed_reload (h : Indexed (.ok s)) (answers : ReloadAnswers Controller) :
    Indexed (.ok (s.reload answers)) := by
  unfold TabPagerView.reload
  split
  · split
    · next first hfirst =>
        exact indexed_give (indexed_setIndex h first (s.current.getD 0))
          (isSome_setIndex_self s first (s.current.getD 0))
    · exact h
  · exact h

/-- A change of the index writes it to the new controller before the page view controller is
given that one. The page that is shown was given before, so that its index can be unwrapped. -/
theorem indexed_changeIndex (h : Indexed (.ok s)) (index : ℤ)
    {answers : ScrollAnswers Controller} (hgiven : answers.shown.all s.given = true) :
    Indexed (s.changeIndex index answers) := by
  unfold TabPagerView.changeIndex
  split
  · exact h
  · show Indexed ((s.asked index).pageScroll s.requests index answers)
    have hasked : Indexed (.ok (s.asked index)) := h
    rcases pageScroll_cases hasked s.requests index hgiven with
      ⟨-, controller, hscroll | ⟨direction, hscroll⟩⟩ | ⟨-, t, hscroll, -, -, -, hindexed⟩
    · rw [hscroll]
      exact indexed_setIndex h controller index
    · rw [hscroll]
      exact indexed_give (indexed_setIndex h controller index)
        (isSome_setIndex_self s controller index)
    · rw [hscroll]
      exact hindexed

/-- A new index is responded to exactly if it is accepted. Otherwise the header stays
disabled, and no transition is on its way to enable it. -/
theorem responsive_changeIndex_iff (h : Indexed (.ok s)) (hresponsive : s.Responsive) (index : ℤ)
    {answers : ScrollAnswers Controller} (hgiven : answers.shown.all s.given = true) :
    RunResponsive (s.changeIndex index answers) ↔
      (s.current ≠ some index → answers.Accepted) := by
  unfold TabPagerView.changeIndex
  by_cases hsame : s.current = some index
  · rw [if_pos hsame]
    exact iff_of_true hresponsive fun hnew => absurd hsame hnew
  · rw [if_neg hsame]
    show RunResponsive ((s.asked index).pageScroll s.requests index answers) ↔ _
    have hasked : Indexed (.ok (s.asked index)) := h
    rcases pageScroll_cases hasked s.requests index hgiven with
      ⟨haccepted, controller, hscroll | ⟨direction, hscroll⟩⟩ |
      ⟨hrefused, t, hscroll, hhandled, htransitions, hrequests, -⟩
    · rw [hscroll]
      exact iff_of_true (hresponsive.complete_requested index controller) fun _ => haccepted
    · rw [hscroll]
      exact iff_of_true (hresponsive.setViewControllers_requested index controller direction)
        fun _ => haccepted
    · rw [hscroll]
      refine iff_of_false (fun hafter => ?_) fun hall => hrefused (hall hsame)
      -- one request more, and no handler more that has run or waits
      have hbefore := hresponsive.once.length_eq
      have hlength : (t.handled ++ t.transitions.map Transition.request).length =
        (List.range t.requests).length := (Responsive.once hafter).length_eq
      rw [hhandled, htransitions, hrequests, List.length_range] at hlength
      rw [List.length_range] at hbefore
      have hcount : (s.handled ++ s.transitions.map Transition.request).length =
        s.requests + 1 := hlength
      omega

end Steps

end TabPagerView

section Runs

variable {before after : Result (TabPagerView Controller)} {e : PagerEvent Controller}

/-- The page view controller is given controllers with an index only, in every step. The
delegate of a swipe looks the index up and would trap without it. -/
theorem indexed_step (h : Indexed before) (hstep : step before e = some after) :
    Indexed after := by
  cases before with
  | error _ => cases h
  | ok s =>
      cases e with
      | changeIndex index answers =>
          simp only [step] at hstep
          split at hstep
          · next hgiven =>
              obtain rfl := Option.some.inj hstep
              exact indexed_changeIndex h index hgiven
          · cases hstep
      | transitionCompleted place =>
          obtain ⟨transition, -, rfl⟩ := Option.map_eq_some_iff.mp hstep
          exact h
      | reload answers =>
          obtain rfl := Option.some.inj hstep
          exact indexed_reload h answers

/-- A step keeps the pager responsive exactly if a new index that is asked for is accepted. A
refused one returns after the header is disabled and before a transition could enable it
again. -/
theorem responsive_step_iff (h : Indexed before) (hresponsive : RunResponsive before)
    (hstep : step before e = some after) : RunResponsive after ↔ Answered before e after := by
  cases before with
  | error _ => cases h
  | ok s =>
      have hresponsive : s.Responsive := hresponsive
      cases e with
      | changeIndex index answers =>
          simp only [step] at hstep
          split at hstep
          · next hgiven =>
              obtain rfl := Option.some.inj hstep
              exact responsive_changeIndex_iff h hresponsive index hgiven
          · cases hstep
      | transitionCompleted place =>
          obtain ⟨transition, htransition, rfl⟩ := Option.map_eq_some_iff.mp hstep
          exact iff_of_true (hresponsive.complete htransition) trivial
      | reload answers =>
          obtain rfl := Option.some.inj hstep
          exact iff_of_true (hresponsive.reload answers) trivial

omit [DecidableEq Controller] in
/-- The pager before anything happened. -/
theorem responsive_start : ({} : TabPagerView Controller).Responsive :=
  ⟨List.Perm.refl _, Or.inl rfl, fun _ => Or.inl rfl, Or.inl rfl⟩

/-- **The tab pager stays responsive**: along a run every request's handler runs exactly
once, and what is disabled waits for it, exactly when each new index is accepted. -/
theorem tab_pager_responsive_iff (es : List (PagerEvent Controller)) :
    Throughout step RunResponsive (.ok {}) es ↔ StepsMeet step Answered (.ok {}) es := by
  apply throughout_iff_stepsMeet (J := Indexed)
  · exact fun _ _ _ h hstep => indexed_step h hstep
  · exact fun _ _ _ h hresponsive hstep => responsive_step_iff h hresponsive hstep
  · exact fun _ hgiven => absurd hgiven Bool.false_ne_true
  · exact responsive_start

end Runs

section InitFlow

/-- The data source's `controller(at:)` in `InitFlow`. -/
def controllerAt (tabControllers : List Controller) (index : ℤ) : Result (Option Controller) :=
  if index ≥ tabControllers.length then .ok tabControllers.getLast?
  else (subscript tabControllers index).map some

omit [DecidableEq Controller] in
/-- `InitFlow` wraps the index around its controllers, so that it has one for every index
from zero on. -/
theorem controllerAt_eq_some {tabControllers : List Controller} (hne : tabControllers ≠ [])
    {index : ℤ} (hindex : 0 ≤ index) :
    ∃ controller, controllerAt tabControllers index = .ok (some controller) := by
  obtain ⟨place, rfl⟩ := Int.eq_ofNat_of_zero_le hindex
  unfold controllerAt
  split
  · exact ⟨tabControllers.getLast hne, by rw [List.getLast?_eq_getLast_of_ne_nil hne]⟩
  · next hlt =>
      have hplace : place < tabControllers.length := by omega
      refine ⟨tabControllers[place], ?_⟩
      rw [subscript_natCast (List.getElem?_eq_getElem hplace)]
      rfl

/-- A request that `InitFlow` answers, which has no `willSelectButton`. -/
def ByInitFlow (tabControllers : List Controller) : PagerEvent Controller → Prop
  | .changeIndex index answers => 0 ≤ index ∧
      controllerAt tabControllers index = .ok answers.controller ∧ answers.willSelectButton = none
  | _ => True

/-- With pages to show, `InitFlow` keeps the pager responsive: it has a controller for every
index and no delegate that could refuse. -/
theorem responsive_of_initFlow {tabControllers : List Controller} (hne : tabControllers ≠ [])
    {es : List (PagerEvent Controller)} (hes : ∀ e ∈ es, ByInitFlow tabControllers e) :
    Throughout step (fun s => Indexed s ∧ RunResponsive s) (.ok {}) es := by
  refine throughout_of_events (E := ByInitFlow tabControllers) ?_
    ⟨fun _ hgiven => absurd hgiven Bool.false_ne_true, responsive_start⟩ hes
  intro before e after h hby hstep
  refine ⟨indexed_step h.1 hstep, (responsive_step_iff h.1 h.2 hstep).mpr ?_⟩
  rcases before with _ | s
  · trivial
  · cases e with
    | changeIndex index answers =>
        obtain ⟨hindex, hanswer, hwill⟩ := hby
        obtain ⟨controller, hcontroller⟩ := controllerAt_eq_some hne hindex
        have hsome : some controller = answers.controller :=
          Except.ok.inj (hcontroller.symm.trans hanswer)
        intro _
        refine ⟨?_, fun _ => ?_⟩
        · rw [← hsome]
          exact Option.some_ne_none controller
        · rw [hwill]
          exact nofun
    | transitionCompleted _ => trivial
    | reload _ => trivial

end InitFlow

/-- The first page is shown; then the delegate refuses the second one. -/
def refusedRun : List (PagerEvent ℕ) :=
  [.changeIndex 0 ⟨some 0, none, none⟩, .transitionCompleted 0,
    .changeIndex 1 ⟨some 1, some 0, some false⟩]

/-- The header stays disabled after the refusal, with nothing under way. It takes another
index that is accepted to enable it again. -/
theorem refused_page_disables_header :
    ¬ ∀ es : List (PagerEvent ℕ), Throughout step RunResponsive (.ok {}) es := by
  intro h
  have hlast := (((h refusedRun).2 _ rfl).2 _ rfl).2 _ rfl
  rcases hlast.header with hheader | hwaits
  · cases hheader
  · exact hwaits rfl

end TabPager
