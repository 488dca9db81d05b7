import Pineone.Runs
import Pineone.SwiftText
import Pineone.TabPager

/-!
# The screens of the app

Every screen is pushed by the one `InitFlow`, for a step that comes from a screen on display.
The two screens with a tab pager have `InitFlow` for their data source, which knows the
controllers of the last one opened only.  The pagers are never released: each of them holds
itself through `selectionChangeCloser` and the subscriptions of `binding`.

* `own_pages_iff`: along a run each pager is handed its own controllers and titles, and
  nothing traps, exactly as long as only the pager opened last asks for them, but for
  titles that are the same;
* `own_pages_of_apart`: so it is if pagers are opened from the main list alone on the screen,
  after the delayed change of the index of the pager before.
-/

namespace FlowNavigation

open Swift Runs

inductive ActivityDetail
  | recently
  | download
  | like
  | reply
  deriving DecidableEq, Repr

inductive MoreSeeDetail
  | event
  | notice
  | faq
  | question
  | etc
  deriving DecidableEq, Repr

namespace ActivityDetail

def ofRawValue : ℕ → Option ActivityDetail
  | 0 => some recently
  | 1 => some download
  | 2 => some like
  | 3 => some reply
  | _ => none

def title : ActivityDetail → String
  | recently => "최근 본"
  | download => "다운로드"
  | like => "찜"
  | reply => "내가 쓴 댓글"

end ActivityDetail

namespace MoreSeeDetail

def ofRawValue : ℕ → Option MoreSeeDetail
  | 0 => some event
  | 1 => some notice
  | 2 => some faq
  | 3 => some question
  | 4 => some etc
  | _ => none

def title : MoreSeeDetail → String
  | event => "이벤트"
  | notice => "공지사항"
  | faq => "FAQ"
  | question => "1:1문의"
  | etc => "기타설정"

end MoreSeeDetail

/-- The two screens with a pager. -/
inductive PagerKind
  | activity
  | moreSee
  deriving DecidableEq, Repr

/-- A controller that was made for the pager with this number, and its place there. -/
structure Page where
  number : ℕ
  kind : PagerKind
  place : ℕ
  deriving DecidableEq, Repr

def makeActivityControllers (number : ℕ) : List Page :=
  [⟨number, .activity, 0⟩, ⟨number, .activity, 1⟩, ⟨number, .activity, 2⟩, ⟨number, .activity, 3⟩]

def makeMoreSeeControllers (number : ℕ) : List Page := [⟨number, .moreSee, 0⟩]

def makeActivityModels (tabControllers : List Page) : Result (List String) :=
  (List.range tabControllers.length).mapM fun rawValue =>
    (unwrap "$0" (ActivityDetail.ofRawValue rawValue)).map ActivityDetail.title

def makeMoreSeeModels (tabControllers : List Page) : Result (List String) :=
  (List.range tabControllers.length).mapM fun rawValue =>
    (unwrap "$0" (MoreSeeDetail.ofRawValue rawValue)).map MoreSeeDetail.title

namespace PagerKind

def makeControllers : PagerKind → ℕ → List Page
  | activity => makeActivityControllers
  | moreSee => makeMoreSeeControllers

def makeModels : PagerKind → List Page → Result (List String)
  | activity => makeActivityModels
  | moreSee => makeMoreSeeModels

/-- The titles of the pages of a pager. -/
def titles : PagerKind → List String
  | activity => ["최근 본", "다운로드", "찜", "내가 쓴 댓글"]
  | moreSee => ["이벤트"]

/-- The flow makes its models of the controllers it has just made, and there is one for each:
no subscript traps. -/
theorem makeModels_makeControllers (kind : PagerKind) (number : ℕ) :
    kind.makeModels (kind.makeControllers number) = .ok kind.titles := by
  cases kind <;> rfl

/-- The controllers that are made for a pager carry its number, so that those of two pagers
of one kind can be told apart. -/
theorem number_of_mem {kind : PagerKind} {number : ℕ} {page : Page}
    (h : page ∈ kind.makeControllers number) : page.number = number := by
  cases kind <;> simp [makeControllers, makeActivityControllers, makeMoreSeeControllers] at h
  · rcases h with rfl | rfl | rfl | rfl <;> rfl
  · rw [h]

/-- A pager is handed at least one controller. -/
theorem makeControllers_ne_nil (kind : PagerKind) (number : ℕ) :
    kind.makeControllers number ≠ [] := by
  cases kind <;> simp [makeControllers, makeActivityControllers, makeMoreSeeControllers]

end PagerKind

/-- A `TabPagerView`.  `items` is the number of header cells at its last reload; `handed` are
the controllers that its data source has answered with, `cells` the titles of the header cells
it has made; `changesLater` tells that the block of `didLoadsetupLayout` waits. -/
structure TabPagerView where
  number : ℕ
  kind : PagerKind
  items : ℕ
  current : Option ℕ := none
  changesLater : Bool := true
  handed : List Page := []
  cells : List (ℕ × String) := []
  deriving DecidableEq, Repr

/-- The controllers on the navigation stack, the pagers by their number. -/
inductive ViewController
  | main
  | pager (number : ℕ)
  | linkImageGrid
  | horizontalStackScroll
  | webTest
  | rotate
  | playerSlider
  | filterSlider
  | rotateSS
  | toastShow
  deriving DecidableEq, Repr

/-- `isDisplayed` is what its appearance last said. -/
structure Presented where
  controller : ViewController
  isDisplayed : Bool := false
  deriving DecidableEq, Repr

/-- The flow, with all pagers made so far and the navigation stack, its top last. -/
structure InitFlow where
  tabControllers : List Page := []
  tabHeaderCells : List String := []
  pagers : List TabPagerView := []
  viewControllers : List Presented := []
  deriving DecidableEq, Repr

/-- The rows of the main list. -/
inductive Screen
  | multiTable
  | multiCollection
  | linkCollection
  | horizontalStackScroll
  | webTest
  | rotateView
  | playerSlider
  | filterSlider
  | rotateStackScroll
  | toastWithView
  deriving DecidableEq, Repr

/-- The steps without what they carry, which `navigate` does not read.  `initializeStep` is
`initialize`. -/
inductive AppStep
  | initializeStep
  | multiSelectTable
  | multiSelectCollection
  | linkCollection
  | horizontalStackScroll
  | webSchemeTest
  | rotate
  | playerSlider
  | filterSlider
  | rotateStackScroll
  | toastWithView
  | imageZoom
  | close
  | assetImageZoom
  | linkImageZoom
  | navigationActivity
  | dismissModal
  | moveToHome
  | moveTab
  | popToRootVC
  | initRequired
  deriving DecidableEq, Repr

/-- `MainViewModel.emitStep` -/
def emitStep : Screen → AppStep
  | .multiTable => .multiSelectTable
  | .multiCollection => .multiSelectCollection
  | .linkCollection => .linkCollection
  | .horizontalStackScroll => .horizontalStackScroll
  | .webTest => .webSchemeTest
  | .rotateView => .rotate
  | .playerSlider => .playerSlider
  | .rotateStackScroll => .rotateStackScroll
  | .filterSlider => .filterSlider
  | .toastWithView => .toastWithView

namespace InitFlow

/-- `oneStepPushBy(rootViewController)` -/
def push (s : InitFlow) (controller : ViewController) : InitFlow :=
  { s with viewControllers := s.viewControllers ++ [{ controller := controller }] }

/-- `popViewController`, which keeps the root. -/
def popView (s : InitFlow) : InitFlow :=
  if 1 < s.viewControllers.length then
    { s with viewControllers := s.viewControllers.dropLast }
  else s

/-- `navigateToMultiTable` and `navigateToMultiCollection`.  Both reloads of the contents ask
for the controller at 0. -/
def navigateToPager (s : InitFlow) (kind : PagerKind) : Result InitFlow := do
  let number := s.pagers.length
  let tabControllers := kind.makeControllers number
  let tabHeaderCells ← kind.makeModels tabControllers
  let first ← TabPager.controllerAt tabControllers 0
  let pager : TabPagerView :=
    { number := number
      kind := kind
      items := tabControllers.length
      handed := first.toList ++ first.toList }
  .ok (push { s with
    tabControllers := tabControllers
    tabHeaderCells := tabHeaderCells
    pagers := s.pagers ++ [pager] } (.pager number))

def navigate (s : InitFlow) : AppStep → Result InitFlow
  | .initializeStep => .ok (s.push .main)
  | .multiSelectTable => s.navigateToPager .activity
  | .multiSelectCollection => s.navigateToPager .moreSee
  | .webSchemeTest => .ok (s.push .webTest)
  | .linkCollection => .ok (s.push .linkImageGrid)
  | .linkImageZoom => .ok (s.push .linkImageGrid)
  | .close => .ok s.popView
  | .assetImageZoom => .ok (s.push .linkImageGrid)
  | .horizontalStackScroll => .ok (s.push .horizontalStackScroll)
  | .rotate => .ok (s.push .rotate)
  | .playerSlider => .ok (s.push .playerSlider)
  | .filterSlider => .ok (s.push .filterSlider)
  | .rotateStackScroll => .ok (s.push .rotateSS)
  | .toastWithView => .ok (s.push .toastShow)
  | _ => .ok s

def setPager (s : InitFlow) (pager : TabPagerView) : InitFlow :=
  { s with pagers := s.pagers.set pager.number pager }

/-- A new value of `current`, which asks for the controller at it. -/
def changeIndex (s : InitFlow) (pager : TabPagerView) (index : ℕ) : Result InitFlow :=
  if pager.current = some index then .ok (s.setPager pager)
  else do
    let controller ← TabPager.controllerAt s.tabControllers index
    .ok (s.setPager { pager with
      current := some index
      handed := pager.handed ++ controller.toList })

/-- `collectionView(_:cellForItemAt:)` of the header. -/
def cellForItem (s : InitFlow) (pager : TabPagerView) (item : ℕ) : Result InitFlow := do
  let title ← subscript s.tabHeaderCells item
  .ok (s.setPager { pager with cells := pager.cells ++ [(item, title)] })

def setDisplayed (s : InitFlow) (place : ℕ) (isDisplayed : Bool) : InitFlow :=
  { s with viewControllers := s.viewControllers.modify place fun presented =>
      { presented with isDisplayed := isDisplayed } }

/-- The flow once the step of `AppStepper` has come. -/
def launched : InitFlow := ({} : InitFlow).push .main

end InitFlow

inductive FlowEvent
  /-- A row of the main list is selected. -/
  | select (place : ℕ) (screen : Screen)
  /-- An image of a grid on the stack is selected. -/
  | selectImage (place : ℕ)
  | viewDidAppear (place : ℕ)
  | viewDidDisappear (place : ℕ)
  /-- The back button, or the gesture for it. -/
  | back
  /-- A tap on a header cell of a pager. -/
  | tapHeader (number item : ℕ)
  /-- The block of `didLoadsetupLayout`, half a second later. -/
  | changeLater (number : ℕ)
  /-- A header cell comes into sight. -/
  | headerCell (number item : ℕ)
  deriving DecidableEq, Repr

/-- One step.  A step of a screen that is not on display is not heard. -/
def step : Result InitFlow → FlowEvent → Option (Result InitFlow)
  | .error _, _ => none
  | .ok s, .select place screen =>
      match s.viewControllers[place]? with
      | some ⟨.main, true⟩ => some (s.navigate (emitStep screen))
      | _ => some (.ok s)
  | .ok s, .selectImage place =>
      match s.viewControllers[place]? with
      | some ⟨.linkImageGrid, true⟩ => some (s.navigate .linkImageZoom)
      | _ => some (.ok s)
  | .ok s, .viewDidAppear place => some (.ok (s.setDisplayed place true))
  | .ok s, .viewDidDisappear place => some (.ok (s.setDisplayed place false))
  | .ok s, .back => some (.ok s.popView)
  | .ok s, .tapHeader number item =>
      (s.pagers[number]?).bind fun pager =>
        if item < pager.items then some (s.changeIndex pager item) else none
  | .ok s, .changeLater number =>
      (s.pagers[number]?).bind fun pager =>
        if pager.changesLater then some (s.changeIndex { pager with changesLater := false } 0)
        else none
  | .ok s, .headerCell number item =>
      (s.pagers[number]?).bind fun pager =>
        if item < pager.items then some (s.cellForItem pager item) else none

/-- The pager was handed its own controllers, and shows its own titles. -/
structure TabPagerView.Own (pager : TabPagerView) : Prop where
  handed : ∀ page ∈ pager.handed, page.number = pager.number
  cells : ∀ cell ∈ pager.cells, pager.kind.titles[cell.1]? = some cell.2

/-- All pagers have their own pages, and nothing has trapped. -/
def RunOwn : Result InitFlow → Prop
  | .error _ => False
  | .ok s => ∀ pager ∈ s.pagers, pager.Own

/-- Only the pager opened last asks for controllers, and only one of its kind for titles. -/
def AskedByLast (before : Result InitFlow) (e : FlowEvent) (_ : Result InitFlow) : Prop :=
  match before, e with
  | .ok s, .tapHeader number item =>
      ∀ pager ∈ s.pagers[number]?, pager.current = some item ∨ number + 1 = s.pagers.length
  | .ok s, .changeLater number =>
      ∀ pager ∈ s.pagers[number]?, pager.current = some 0 ∨ number + 1 = s.pagers.length
  | .ok s, .headerCell number _ =>
      ∀ pager ∈ s.pagers[number]?, ∀ last ∈ s.pagers.getLast?, last.kind = pager.kind
  | _, _ => True

/-- The flow answers for the pager opened last, and the pagers are found by their number. -/
structure InitFlow.Arranged (s : InitFlow) : Prop where
  numbered : ∀ (i : ℕ) (pager : TabPagerView), s.pagers[i]? = some pager →
    pager.number = i ∧ pager.items = pager.kind.titles.length
  last : ∀ pager ∈ s.pagers.getLast?,
    s.tabControllers = pager.kind.makeControllers pager.number ∧
      s.tabHeaderCells = pager.kind.titles

def RunArranged : Result InitFlow → Prop
  | .error _ => True
  | .ok s => s.Arranged

/-- A pager after a change of its own; its block may have run. -/
structure TabPagerView.Updates (new old : TabPagerView) : Prop where
  number : new.number = old.number
  kind : new.kind = old.kind
  items : new.items = old.items
  later : new.changesLater = true → old.changesLater = true

/-- Doing nothing is a change that leaves number, kind and items alone. -/
theorem TabPagerView.Updates.refl (pager : TabPagerView) : pager.Updates pager :=
  ⟨rfl, rfl, rfl, fun hlater => hlater⟩

/-- The block has run. -/
theorem TabPagerView.updates_changedLater (pager : TabPagerView) :
    ({ pager with changesLater := false } : TabPagerView).Updates pager :=
  ⟨rfl, rfl, rfl, fun hlater => by cases hlater⟩

section Pagers

variable {s t : InitFlow} {pager old : TabPagerView} {index item : ℕ}

/-- Different kinds of pagers have different titles wherever they have any, so a title that
is taken from the wrong list is seen to be foreign. -/
theorem titles_ne {kind other : PagerKind} (hne : other ≠ kind)
    (hitem : item < kind.titles.length) :
    other.titles[item]? ≠ kind.titles[item]? := by
  cases kind <;> cases other
  · exact absurd rfl hne
  · have hcases : item = 0 ∨ item = 1 ∨ item = 2 ∨ item = 3 := by
      have hlt : item < 4 := hitem
      omega
    rcases hcases with rfl | rfl | rfl | rfl <;> decide
  · have hzero : item = 0 := by
      have hlt : item < 1 := hitem
      omega
    rw [hzero]
    decide
  · exact absurd rfl hne

/-- A controller that is answered for a place is one of those the flow keeps, whichever pager
asks. -/
theorem mem_of_controllerAt {tabControllers : List Page} {place : ℤ} {page : Page}
    (h : TabPager.controllerAt tabControllers place = .ok (some page)) : page ∈ tabControllers := by
  unfold TabPager.controllerAt at h
  split at h
  · exact List.mem_of_getLast? (Except.ok.inj h)
  · next hlt =>
      obtain ⟨found, hfound, hsome⟩ := Result.map_eq_ok.mp h
      obtain rfl := Option.some.inj hsome
      obtain ⟨n, rfl⟩ | ⟨n, rfl⟩ : (∃ n : ℕ, place = n) ∨ ∃ n : ℕ, place = Int.negSucc n := by
        cases place with
        | ofNat n => exact .inl ⟨n, rfl⟩
        | negSucc n => exact .inr ⟨n, rfl⟩
      · cases hget : tabControllers[n]? with
        | none =>
            rw [subscript_natCast_none hget] at hfound
            cases hfound
        | some value =>
            rw [subscript_natCast hget] at hfound
            obtain rfl := Except.ok.inj hfound
            exact List.mem_of_getElem? hget
      · cases hfound

namespace InitFlow

/-- A pager is found under its own number. -/
theorem Arranged.number_eq (h : s.Arranged) {i : ℕ} (hget : s.pagers[i]? = some pager) :
    pager.number = i := (h.numbered i pager hget).1

/-- Where there is a pager there is a last one, and its number is the largest. The flow
answers all pagers with the data of this one. -/
theorem Arranged.getLast (h : s.Arranged) (hget : s.pagers[index]? = some pager) :
    ∃ last, s.pagers.getLast? = some last ∧ last.number + 1 = s.pagers.length := by
  have hlt : index < s.pagers.length := (List.getElem?_eq_some_iff.mp hget).1
  cases hlast : s.pagers.getLast? with
  | none =>
      rw [List.getLast?_eq_none_iff] at hlast
      rw [hlast] at hlt
      cases hlt
  | some last =>
      refine ⟨last, rfl, ?_⟩
      rw [List.getLast?_eq_getElem?] at hlast
      have hnumber := h.number_eq hlast
      omega

/-- An updated pager keeps its place, and the flow the data of the last one, since an update
changes neither the number nor the kind. -/
theorem Arranged.setPager (h : s.Arranged) (hget : s.pagers[index]? = some old)
    (hnew : pager.Updates old) : (s.setPager pager).Arranged := by
  have hold := h.numbered index old hget
  have hplace : pager.number = index := hnew.number.trans hold.1
  constructor
  · intro i other hother
    have hset : (s.pagers.set pager.number pager)[i]? = some other := hother
    rw [hplace, List.getElem?_set] at hset
    split at hset
    · next hsame =>
        split at hset
        · obtain rfl := Option.some.inj hset
          exact ⟨hplace.trans hsame, by rw [hnew.items, hnew.kind, hold.2]⟩
        · cases hset
    · exact h.numbered i other hset
  · intro other hother
    have hset : (s.pagers.set pager.number pager).getLast? = some other := hother
    rw [hplace, List.getLast?_eq_getElem?, List.length_set, List.getElem?_set] at hset
    split at hset
    · next hsame =>
        split at hset
        · obtain rfl := Option.some.inj hset
          have hlastOld : s.pagers.getLast? = some old := by
            rw [List.getLast?_eq_getElem?, ← hsame]
            exact hget
          rw [hnew.kind, hnew.number]
          exact h.last old hlastOld
        · cases hset
    · exact h.last other (by rw [List.getLast?_eq_getElem?]; exact hset)

/-- Replacing one pager leaves the others their own pages, so that it is decided by the new
one alone. -/
theorem Arranged.own_setPager_iff (h : s.Arranged) (hown : ∀ other ∈ s.pagers, other.Own)
    (hget : s.pagers[index]? = some old) (hnew : pager.Updates old) :
    RunOwn (.ok (s.setPager pager)) ↔ pager.Own := by
  have hlt : pager.number < s.pagers.length := by
    rw [hnew.number, h.number_eq hget]
    exact (List.getElem?_eq_some_iff.mp hget).1
  constructor
  · intro hset
    exact hset pager (List.mem_set hlt pager)
  · intro hpager other hother
    rcases List.mem_or_eq_of_mem_set hother with hmem | rfl
    · exact hown other hmem
    · exact hpager

/-- What the flow answers is a page of the pager opened last: the controllers it keeps are
those that were made for it. -/
theorem Arranged.controllerAt (h : s.Arranged) (hget : s.pagers[index]? = some pager)
    (item : ℕ) :
    ∃ page, TabPager.controllerAt s.tabControllers item = .ok (some page) ∧
      page.number + 1 = s.pagers.length := by
  obtain ⟨last, hlast, hnumber⟩ := h.getLast hget
  have hcontrollers := (h.last last hlast).1
  have hne : s.tabControllers ≠ [] := by
    rw [hcontrollers]
    exact last.kind.makeControllers_ne_nil last.number
  obtain ⟨page, hpage⟩ := TabPager.controllerAt_eq_some hne (Int.natCast_nonneg item)
  refine ⟨page, hpage, ?_⟩
  have hmem := mem_of_controllerAt hpage
  rw [hcontrollers] at hmem
  rw [PagerKind.number_of_mem hmem]
  exact hnumber

/-- A change of the index of a pager leaves it the old one, or asks for one more page. That
page is its own exactly if it is the pager opened last. -/
theorem changeIndex_spec (h : s.Arranged) (hget : s.pagers[index]? = some old)
    (hupdates : pager.Updates old) (item : ℕ) :
    ∃ new, s.changeIndex pager item = .ok (s.setPager new) ∧ new.Updates old ∧
      (pager.Own → (new.Own ↔ pager.current = some item ∨ index + 1 = s.pagers.length)) := by
  have hplace : pager.number = index := hupdates.number.trans (h.number_eq hget)
  by_cases hsame : pager.current = some item
  · exact ⟨pager, if_pos hsame, hupdates, fun hpager => iff_of_true hpager (.inl hsame)⟩
  · obtain ⟨page, hpage, hlast⟩ := h.controllerAt hget item
    refine ⟨{ pager with current := some item, handed := pager.handed ++ [page] },
      ?_, ⟨hupdates.number, hupdates.kind, hupdates.items, hupdates.later⟩, ?_⟩
    · unfold changeIndex
      rw [if_neg hsame, hpage]
      rfl
    · intro hpager
      constructor
      · intro hnew
        have hsamePage := hnew.handed page (List.mem_append_right _ (List.mem_singleton_self page))
        dsimp only at hsamePage
        exact .inr (by omega)
      · intro hasked
        have hnewest := hasked.resolve_left hsame
        refine ⟨fun other hother => ?_, hpager.cells⟩
        rcases List.mem_append.mp hother with hmem | hnew
        · exact hpager.handed other hmem
        · rw [List.mem_singleton.mp hnew]
          dsimp only
          omega

/-- A header cell of a pager of the kind of the last one shows its own title, since the
titles depend on the kind only. -/
theorem cellForItem_of_kind (h : s.Arranged) {last : TabPagerView}
    (hlast : s.pagers.getLast? = some last) (hkind : last.kind = pager.kind)
    (hitem : item < pager.kind.titles.length) :
    ∃ new, s.cellForItem pager item = .ok (s.setPager new) ∧ new.Updates pager ∧
      (pager.Own → new.Own) := by
  have hvalue := List.getElem?_eq_getElem hitem
  refine ⟨{ pager with cells := pager.cells ++ [(item, pager.kind.titles[item])] }, ?_,
    ⟨rfl, rfl, rfl, fun hlater => hlater⟩, fun hpager => ⟨hpager.handed, fun cell hmem => ?_⟩⟩
  · unfold cellForItem
    rw [(h.last last hlast).2, hkind, subscript_natCast hvalue]
    rfl
  · rcases List.mem_append.mp hmem with hbefore | hnew
    · exact hpager.cells cell hbefore
    · rw [List.mem_singleton.mp hnew]
      exact hvalue

/-- A header cell of another kind of pager shows a foreign title, or there is none for it. In
the second case the subscript of the titles traps. -/
theorem cellForItem_of_other_kind (h : s.Arranged) {last : TabPagerView}
    (hlast : s.pagers.getLast? = some last) (hkind : last.kind ≠ pager.kind)
    (hitem : item < pager.kind.titles.length) :
    s.cellForItem pager item = .error .indexOutOfRange ∨
      ∃ new, s.cellForItem pager item = .ok (s.setPager new) ∧ new.Updates pager ∧ ¬ new.Own := by
  have hforeign := titles_ne hkind hitem
  unfold cellForItem
  rw [(h.last last hlast).2]
  cases hfound : last.kind.titles[item]? with
  | none =>
      rw [subscript_natCast_none hfound]
      exact .inl rfl
  | some title =>
      rw [subscript_natCast hfound]
      refine .inr ⟨{ pager with cells := pager.cells ++ [(item, title)] }, rfl,
        ⟨rfl, rfl, rfl, fun hlater => hlater⟩, fun hown => ?_⟩
      have htitle := hown.cells (item, title)
        (List.mem_append_right _ (List.mem_singleton_self _))
      exact hforeign (hfound.trans htitle.symm)

/-- A pager that is opened gets its number, its controllers and its titles. The flow keeps
these from then on, in place of those of the pager before. -/
theorem navigateToPager_eq (s : InitFlow) (kind : PagerKind) :
    s.navigateToPager kind = .ok (push { s with
      tabControllers := kind.makeControllers s.pagers.length
      tabHeaderCells := kind.titles
      pagers := s.pagers ++
        [{ number := s.pagers.length
           kind := kind
           items := kind.titles.length
           handed := [⟨s.pagers.length, kind, 0⟩, ⟨s.pagers.length, kind, 0⟩] }] }
      (.pager s.pagers.length)) := by
  unfold navigateToPager
  simp only [PagerKind.makeModels_makeControllers]
  cases kind <;> rfl

/-- A controller on the stack changes neither the pagers nor what the flow answers. -/
theorem Arranged.push (h : s.Arranged) (controller : ViewController) :
    (s.push controller).Arranged := ⟨h.numbered, h.last⟩

/-- Opening a pager makes its pages and hands them to it, and from then on the flow answers
for it. The pages of the pagers before stay as they are. -/
theorem arranged_navigateToPager (h : s.Arranged) (kind : PagerKind) :
    ∃ t, s.navigateToPager kind = .ok t ∧ t.Arranged ∧
      ((∀ other ∈ s.pagers, other.Own) → ∀ other ∈ t.pagers, other.Own) := by
  refine ⟨_, s.navigateToPager_eq kind, ⟨?_, ?_⟩, ?_⟩
  · intro i other hother
    have hget : (s.pagers ++ _)[i]? = some other := hother
    rcases Nat.lt_or_ge i s.pagers.length with hlt | hge
    · rw [List.getElem?_append_left hlt] at hget
      exact h.numbered i other hget
    · rw [List.getElem?_append_right hge, List.getElem?_singleton] at hget
      split at hget
      · next hzero =>
          obtain rfl := Option.some.inj hget
          exact ⟨by dsimp only; omega, rfl⟩
      · cases hget
  · intro other hother
    have hlast : (s.pagers ++ _).getLast? = some other := hother
    rw [List.getLast?_append_of_ne_nil _ (List.cons_ne_nil _ _)] at hlast
    obtain rfl := Option.some.inj hlast
    exact ⟨rfl, rfl⟩
  · intro hown other hother
    have hmem : other ∈ s.pagers ++ _ := hother
    rcases List.mem_append.mp hmem with hbefore | hnew
    · exact hown other hbefore
    · rw [List.mem_singleton.mp hnew]
      refine ⟨fun page hpage => ?_, by simp⟩
      have hcases : page = ⟨s.pagers.length, kind, 0⟩ := by simpa using hpage
      rw [hcases]

/-- Every step of the flow either opens a pager or only puts controllers onto the stack; none
traps. -/
theorem navigate_spec (h : s.Arranged) (appStep : AppStep) :
    ∃ t, s.navigate appStep = .ok t ∧ t.Arranged ∧
      ((∀ other ∈ s.pagers, other.Own) → ∀ other ∈ t.pagers, other.Own) := by
  have hpush : ∀ controller, ∃ t, (.ok (s.push controller) : Result InitFlow) = .ok t ∧
      t.Arranged ∧ ((∀ other ∈ s.pagers, other.Own) → ∀ other ∈ t.pagers, other.Own) :=
    fun controller => ⟨s.push controller, rfl, h.push controller, fun hown => hown⟩
  cases appStep with
  | multiSelectTable => exact arranged_navigateToPager h .activity
  | multiSelectCollection => exact arranged_navigateToPager h .moreSee
  | close =>
      refine ⟨s.popView, rfl, ?_⟩
      unfold popView
      split <;> exact ⟨⟨h.numbered, h.last⟩, fun hown => hown⟩
  | initializeStep => exact hpush _
  | webSchemeTest => exact hpush _
  | linkCollection => exact hpush _
  | linkImageZoom => exact hpush _
  | assetImageZoom => exact hpush _
  | horizontalStackScroll => exact hpush _
  | rotate => exact hpush _
  | playerSlider => exact hpush _
  | filterSlider => exact hpush _
  | rotateStackScroll => exact hpush _
  | toastWithView => exact hpush _
  | _ => exact ⟨s, rfl, h, fun hown => hown⟩

/-- One step, and what it keeps if the pagers have their own pages: they still do exactly if
whatever was asked of the flow was asked by the last pager, or by one to which the same is
answered. -/
theorem step_spec (h : s.Arranged) {e : FlowEvent} {after : Result InitFlow}
    (hstep : step (.ok s) e = some after) :
    RunArranged after ∧
      (RunOwn (.ok s) → (RunOwn after ↔ AskedByLast (.ok s) e after)) := by
  have hkept : ∀ t : InitFlow, t.Arranged → (RunOwn (.ok s) → RunOwn (.ok t)) →
      RunArranged (.ok t) ∧ (RunOwn (.ok s) → (RunOwn (.ok t) ↔ True)) :=
    fun t ht htown => ⟨ht, fun hown => iff_of_true (htown hown) trivial⟩
  cases e with
  | select place screen =>
      unfold step at hstep
      dsimp only at hstep
      split at hstep
      · obtain ⟨t, hnavigate, ht, htown⟩ := navigate_spec h (emitStep screen)
        rw [hnavigate] at hstep
        obtain rfl := Option.some.inj hstep
        exact hkept t ht htown
      · obtain rfl := Option.some.inj hstep
        exact hkept s h id
  | selectImage place =>
      unfold step at hstep
      dsimp only at hstep
      split at hstep
      · obtain rfl := Option.some.inj hstep
        exact hkept _ (h.push _) id
      · obtain rfl := Option.some.inj hstep
        exact hkept s h id
  | viewDidAppear place =>
      obtain rfl := Option.some.inj hstep
      exact hkept _ ⟨h.numbered, h.last⟩ id
  | viewDidDisappear place =>
      obtain rfl := Option.some.inj hstep
      exact hkept _ ⟨h.numbered, h.last⟩ id
  | back =>
      obtain rfl := Option.some.inj hstep
      unfold popView
      split
      · exact hkept _ ⟨h.numbered, h.last⟩ id
      · exact hkept s h id
  | tapHeader number item =>
      obtain ⟨pager, hget, htap⟩ := Option.bind_eq_some_iff.mp hstep
      split at htap
      · obtain ⟨new, hnew, hupdates, hiff⟩ :=
          changeIndex_spec h hget (TabPagerView.Updates.refl pager) item
        rw [hnew] at htap
        obtain rfl := Option.some.inj htap
        refine ⟨h.setPager hget hupdates, fun hown => ?_⟩
        rw [h.own_setPager_iff hown hget hupdates, hiff (hown pager (List.mem_of_getElem? hget))]
        simp [AskedByLast, hget]
      · cases htap
  | changeLater number =>
      obtain ⟨pager, hget, hblock⟩ := Option.bind_eq_some_iff.mp hstep
      split at hblock
      · obtain ⟨new, hnew, hupdates, hiff⟩ :=
          changeIndex_spec h hget pager.updates_changedLater 0
        rw [hnew] at hblock
        obtain rfl := Option.some.inj hblock
        refine ⟨h.setPager hget hupdates, fun hown => ?_⟩
        have hpager := hown pager (List.mem_of_getElem? hget)
        rw [h.own_setPager_iff hown hget hupdates, hiff ⟨hpager.handed, hpager.cells⟩]
        simp [AskedByLast, hget]
      · cases hblock
  | headerCell number item =>
      obtain ⟨pager, hget, hcell⟩ := Option.bind_eq_some_iff.mp hstep
      split at hcell
      · next hitem =>
          obtain ⟨last, hlast, -⟩ := h.getLast hget
          rw [(h.numbered number pager hget).2] at hitem
          have hasked : AskedByLast (.ok s) (.headerCell number item) after ↔
              last.kind = pager.kind := by
            simp [AskedByLast, hget, hlast]
          rw [hasked]
          by_cases hkind : last.kind = pager.kind
          · obtain ⟨new, hnew, hupdates, hnewOwn⟩ := cellForItem_of_kind h hlast hkind hitem
            rw [hnew] at hcell
            obtain rfl := Option.some.inj hcell
            refine ⟨h.setPager hget hupdates, fun hown => ?_⟩
            rw [h.own_setPager_iff hown hget hupdates]
            exact iff_of_true (hnewOwn (hown pager (List.mem_of_getElem? hget))) hkind
          · rcases cellForItem_of_other_kind h hlast hkind hitem with
              htrap | ⟨new, hnew, hupdates, hnotOwn⟩
            · rw [htrap] at hcell
              obtain rfl := Option.some.inj hcell
              exact ⟨trivial, fun _ => iff_of_false (fun hfalse => hfalse) hkind⟩
            · rw [hnew] at hcell
              obtain rfl := Option.some.inj hcell
              refine ⟨h.setPager hget hupdates, fun hown => ?_⟩
              rw [h.own_setPager_iff hown hget hupdates]
              exact iff_of_false hnotOwn hkind
      · cases hcell

end InitFlow

end Pagers

section Runs

/-- At the launch there is no pager. -/
theorem arranged_launched : InitFlow.launched.Arranged :=
  ⟨fun i pager hget => by simp [InitFlow.launched, InitFlow.push] at hget,
    fun pager hlast => by simp [InitFlow.launched, InitFlow.push] at hlast⟩

/-- So none has pages of another one. -/
theorem own_launched : ∀ pager ∈ InitFlow.launched.pagers, pager.Own := by
  intro pager hpager
  simp [InitFlow.launched, InitFlow.push] at hpager

/-- **Each pager has its own pages**, and nothing traps, along the runs in which only the
pager opened last asks for controllers, and only pagers of its kind ask for titles. -/
theorem own_pages_iff (es : List FlowEvent) :
    Throughout step RunOwn (.ok .launched) es ↔
      StepsMeet step AskedByLast (.ok .launched) es := by
  apply throughout_iff_stepsMeet (J := fun before => RunArranged before)
  · intro before e after h hstep
    cases before with
    | error trap => cases hstep
    | ok s => exact (InitFlow.step_spec h hstep).1
  · intro before e after h hown hstep
    cases before with
    | error trap => exact absurd hown id
    | ok s => exact (InitFlow.step_spec h hstep).2 hown
  · exact arranged_launched
  · exact own_launched

namespace InitFlow

variable {s t : InitFlow} {pager new : TabPagerView} {number : ℕ}

/-- The controllers on the navigation stack. -/
def controllers (s : InitFlow) : List ViewController := s.viewControllers.map Presented.controller

/-- Only the pager opened last is on the stack, and only its block may wait. -/
structure OneOpen (s : InitFlow) : Prop where
  arranged : s.Arranged
  shown : ∀ number, .pager number ∈ s.controllers → number + 1 = s.pagers.length
  waiting : ∀ pager ∈ s.pagers, pager.changesLater = true → pager.number + 1 = s.pagers.length

/-- A change of a pager that keeps its number opens nothing. -/
theorem OneOpen.setPager (h : s.OneOpen) (hget : s.pagers[number]? = some pager)
    (hnew : new.Updates pager) : (s.setPager new).OneOpen := by
  have hlength : (s.setPager new).pagers.length = s.pagers.length := List.length_set
  refine ⟨h.arranged.setPager hget hnew, ?_, ?_⟩
  · intro shownNumber hshown
    rw [hlength]
    exact h.shown shownNumber hshown
  · intro other hother hlater
    rw [hlength]
    rcases List.mem_or_eq_of_mem_set hother with hmem | rfl
    · exact h.waiting other hmem hlater
    · rw [hnew.number]
      exact h.waiting pager (List.mem_of_getElem? hget) (hnew.later hlater)

/-- What leaves the pagers and brings no pager on the stack opens none, so the one that may
be open is the same. -/
theorem OneOpen.of_controllers (h : s.OneOpen) (ht : t.Arranged) (hpagers : t.pagers = s.pagers)
    (hcontrollers : ∀ number, .pager number ∈ t.controllers → .pager number ∈ s.controllers) :
    t.OneOpen := by
  refine ⟨ht, ?_, ?_⟩
  · intro number hshown
    rw [hpagers]
    exact h.shown number (hcontrollers number hshown)
  · rw [hpagers]
    exact h.waiting

/-- The pushed controller is the top one. -/
theorem controllers_push (s : InitFlow) (controller : ViewController) :
    (s.push controller).controllers = s.controllers ++ [controller] := by
  unfold controllers push
  simp

/-- Whether a controller is displayed is no matter of which one it is. -/
theorem controllers_setDisplayed (s : InitFlow) (place : ℕ) (isDisplayed : Bool) :
    (s.setDisplayed place isDisplayed).controllers = s.controllers := by
  unfold controllers setDisplayed
  apply List.ext_getElem?
  intro i
  simp only [List.getElem?_map, List.getElem?_modify]
  split <;> cases s.viewControllers[i]? <;> rfl

/-- Going back takes a controller off the stack. If it is a pager, none is open then. -/
theorem OneOpen.popView (h : s.OneOpen) : s.popView.OneOpen := by
  unfold InitFlow.popView
  split
  · refine h.of_controllers ⟨h.arranged.numbered, h.arranged.last⟩ rfl (fun number hshown => ?_)
    unfold controllers at hshown ⊢
    rw [List.map_dropLast] at hshown
    exact (List.dropLast_sublist _).subset hshown
  · exact h

/-- A screen without a pager. -/
theorem OneOpen.push (h : s.OneOpen) {controller : ViewController}
    (hcontroller : ∀ number, controller ≠ .pager number) : (s.push controller).OneOpen := by
  refine h.of_controllers (h.arranged.push controller) rfl (fun number hshown => ?_)
  rw [controllers_push] at hshown
  rcases List.mem_append.mp hshown with hmem | hnew
  · exact hmem
  · exact absurd (List.mem_singleton.mp hnew).symm (hcontroller number)

/-- A pager opened from the main list alone on the stack, with no block waiting. The one that
asks from then on is the new one, which is the last. -/
theorem OneOpen.navigateToPager (h : s.OneOpen) (kind : PagerKind)
    (halone : ∀ number, .pager number ∉ s.controllers)
    (hwaiting : ∀ pager ∈ s.pagers, pager.changesLater = false)
    (hnavigate : s.navigateToPager kind = .ok t) : t.OneOpen := by
  obtain ⟨u, hu, hup, -⟩ := arranged_navigateToPager h.arranged kind
  rw [hu] at hnavigate
  obtain rfl := Except.ok.inj hnavigate
  rw [s.navigateToPager_eq kind] at hu
  obtain rfl := Except.ok.inj hu
  refine ⟨hup, ?_, ?_⟩
  · intro number hshown
    rw [controllers_push] at hshown
    rcases List.mem_append.mp hshown with hmem | hnew
    · exact absurd hmem (halone number)
    · obtain rfl := ViewController.pager.inj (List.mem_singleton.mp hnew)
      simp [InitFlow.push]
  · intro other hother hlater
    have hmem : other ∈ s.pagers ++ _ := hother
    rcases List.mem_append.mp hmem with hbefore | hnew
    · rw [hwaiting other hbefore] at hlater
      cases hlater
    · rw [List.mem_singleton.mp hnew]
      simp [InitFlow.push]

end InitFlow

/-- A pager is opened from the main list alone on the stack, once the block of the pager before
has run, and only the pagers on the stack are tapped and laid out. -/
def Apart (before : Result InitFlow) (e : FlowEvent) (_ : Result InitFlow) : Prop :=
  match before, e with
  | .ok s, .select _ screen => screen = .multiTable ∨ screen = .multiCollection →
      s.viewControllers.length = 1 ∧ ∀ pager ∈ s.pagers, pager.changesLater = false
  | .ok s, .tapHeader number _ => .pager number ∈ s.controllers
  | .ok s, .headerCell number _ => .pager number ∈ s.controllers
  | _, _ => True

instance (before after : Result InitFlow) (e : FlowEvent) : Decidable (Apart before e after) := by
  unfold Apart
  split <;> infer_instance

/-- One pager is open at most, and all have their own pages. -/
def RunOneOpen : Result InitFlow → Prop
  | .error _ => False
  | .ok s => s.OneOpen ∧ RunOwn (.ok s)

namespace InitFlow

variable {s : InitFlow} {e : FlowEvent} {after : Result InitFlow}

/-- While the pagers are apart, the one on the stack is the one opened last; so it is the
only one that asks. -/
theorem OneOpen.asked (h : s.OneOpen) (hstep : step (.ok s) e = some after)
    (hapart : Apart (.ok s) e after) : AskedByLast (.ok s) e after := by
  cases e with
  | tapHeader number item => exact fun _ _ => .inr (h.shown number hapart)
  | headerCell number item =>
      intro pager hget last hlast
      rw [List.getLast?_eq_getElem?, ← h.shown number hapart, Nat.add_sub_cancel, hget] at hlast
      rw [Option.some.inj hlast]
  | changeLater number =>
      intro pager hget
      obtain ⟨found, hfound, hblock⟩ := Option.bind_eq_some_iff.mp hstep
      rw [hget] at hfound
      obtain rfl := Option.some.inj hfound
      split at hblock
      · next hlater =>
          have hlast := h.waiting pager (List.mem_of_getElem? hget) hlater
          rw [h.arranged.number_eq hget] at hlast
          exact .inr hlast
      · cases hblock
  | _ => trivial

/-- From the main list alone on the stack the flow opens one pager, or puts another
controller there. -/
theorem OneOpen.navigate (h : s.OneOpen) (screen : Screen) {place : ℕ} {isDisplayed : Bool}
    (hmain : s.viewControllers[place]? = some ⟨.main, isDisplayed⟩)
    (hapart : Apart (.ok s) (.select place screen) after) {t : InitFlow}
    (hnavigate : s.navigate (emitStep screen) = .ok t) : t.OneOpen := by
  have hopened : ∀ kind, s.viewControllers.length = 1 ∧
      (∀ pager ∈ s.pagers, pager.changesLater = false) →
        s.navigateToPager kind = .ok t → t.OneOpen := by
    intro kind hclear hkind
    refine h.navigateToPager kind (fun number hshown => ?_) hclear.2 hkind
    -- the one controller on the stack is the main list
    obtain ⟨presented, hpresented, hcontroller⟩ := List.mem_map.mp hshown
    obtain ⟨only, honly⟩ := List.length_eq_one_iff.mp hclear.1
    rw [honly, List.getElem?_singleton] at hmain
    rw [honly, List.mem_singleton] at hpresented
    split at hmain
    · rw [hpresented, Option.some.inj hmain] at hcontroller
      cases hcontroller
    · cases hmain
  have hpushed : ∀ controller, (∀ number, controller ≠ .pager number) →
      (.ok (s.push controller) : Result InitFlow) = .ok t → t.OneOpen := by
    intro controller hcontroller hpush
    rw [← Except.ok.inj hpush]
    exact h.push hcontroller
  cases screen with
  | multiTable => exact hopened _ (hapart (.inl rfl)) hnavigate
  | multiCollection => exact hopened _ (hapart (.inr rfl)) hnavigate
  | _ => exact hpushed _ (fun _ heq => by cases heq) hnavigate

/-- What a step leads to, if it traps nothing: at most one pager is open, and it is the last
one. -/
theorem OneOpen.step (h : s.OneOpen) {t : InitFlow} (hstep : step (.ok s) e = some (.ok t))
    (hapart : Apart (.ok s) e (.ok t)) : t.OneOpen := by
  cases e with
  | select place screen =>
      unfold FlowNavigation.step at hstep
      dsimp only at hstep
      split at hstep
      · next hmain => exact h.navigate screen hmain hapart (Option.some.inj hstep)
      · obtain rfl := Except.ok.inj (Option.some.inj hstep)
        exact h
  | selectImage place =>
      unfold FlowNavigation.step at hstep
      dsimp only at hstep
      split at hstep
      · obtain rfl := Except.ok.inj (Option.some.inj hstep)
        exact h.push (fun _ heq => by cases heq)
      · obtain rfl := Except.ok.inj (Option.some.inj hstep)
        exact h
  | viewDidAppear place =>
      obtain rfl := Except.ok.inj (Option.some.inj hstep)
      refine h.of_controllers ⟨h.arranged.numbered, h.arranged.last⟩ rfl (fun number hshown => ?_)
      rw [controllers_setDisplayed] at hshown
      exact hshown
  | viewDidDisappear place =>
      obtain rfl := Except.ok.inj (Option.some.inj hstep)
      refine h.of_controllers ⟨h.arranged.numbered, h.arranged.last⟩ rfl (fun number hshown => ?_)
      rw [controllers_setDisplayed] at hshown
      exact hshown
  | back =>
      obtain rfl := Except.ok.inj (Option.some.inj hstep)
      exact h.popView
  | tapHeader number item =>
      obtain ⟨pager, hget, htap⟩ := Option.bind_eq_some_iff.mp hstep
      split at htap
      · obtain ⟨new, hnew, hupdates, -⟩ :=
          changeIndex_spec h.arranged hget (TabPagerView.Updates.refl pager) item
        rw [hnew] at htap
        obtain rfl := Except.ok.inj (Option.some.inj htap)
        exact h.setPager hget hupdates
      · cases htap
  | changeLater number =>
      obtain ⟨pager, hget, hblock⟩ := Option.bind_eq_some_iff.mp hstep
      split at hblock
      · obtain ⟨new, hnew, hupdates, -⟩ :=
          changeIndex_spec h.arranged hget pager.updates_changedLater 0
        rw [hnew] at hblock
        obtain rfl := Except.ok.inj (Option.some.inj hblock)
        exact h.setPager hget hupdates
      · cases hblock
  | headerCell number item =>
      obtain ⟨pager, hget, hcell⟩ := Option.bind_eq_some_iff.mp hstep
      split at hcell
      · obtain ⟨title, -, hset⟩ := Result.bind_eq_ok.mp (Option.some.inj hcell)
        obtain rfl := Except.ok.inj hset
        exact h.setPager hget ⟨rfl, rfl, rfl, fun hlater => hlater⟩
      · cases hcell

end InitFlow

/-- One case for each event: what keeps pagers apart keeps one of them open at most, with its
own pages. -/
theorem runOneOpen_step {before after : Result InitFlow} {e : FlowEvent} (h : RunOneOpen before)
    (hstep : step before e = some after) (hapart : Apart before e after) : RunOneOpen after := by
  cases before with
  | error trap => exact absurd h id
  | ok s =>
      have hown := ((InitFlow.step_spec h.1.arranged hstep).2 h.2).mpr (h.1.asked hstep hapart)
      cases after with
      | error trap => exact absurd hown id
      | ok t => exact ⟨h.1.step hstep hapart, hown⟩

/-- After the launch there is only the main list. -/
theorem runOneOpen_launched : RunOneOpen (.ok .launched) := by
  refine ⟨⟨arranged_launched, fun number hshown => ?_, fun pager hpager => ?_⟩, own_launched⟩
  · simp [InitFlow.launched, InitFlow.controllers, InitFlow.push] at hshown
  · simp [InitFlow.launched, InitFlow.push] at hpager

/-- **Pagers that are opened apart** have their own pages, whatever is tapped, shown and left,
and nothing traps. -/
theorem own_pages_of_apart {es : List FlowEvent} (h : StepsMeet step Apart (.ok .launched) es) :
    Throughout step RunOwn (.ok .launched) es := by
  have hopen : Throughout step RunOneOpen (.ok .launched) es :=
    h.throughout (fun _ _ _ hs hstep hC => runOneOpen_step hs hstep hC) runOneOpen_launched
  refine Throughout.mono (J := fun _ => True) (fun _ _ _ _ _ => trivial) (fun s _ hs => ?_)
    trivial hopen
  cases s with
  | error trap => exact hs
  | ok s => exact hs.2

/-- Both pagers are opened, the second one after the first one is left and its block has run.
Each of them is shown its own pages and titles. -/
theorem own_pages_two_pagers :
    Throughout step RunOwn (.ok .launched)
      [.viewDidAppear 0, .select 0 .multiTable, .viewDidDisappear 0, .headerCell 0 3,
        .changeLater 0, .tapHeader 0 2, .back, .viewDidAppear 0, .select 0 .multiCollection,
        .headerCell 1 0, .changeLater 1] := by
  apply own_pages_of_apart
  decide +kernel

end Runs

end FlowNavigation
