import Pineone.RotatePicker

/-!
# The rotating picker over changing items

The selected item outlives a reload and the number of items is asked for at every use,
but neither is checked against the buttons there are.

* `picker_safe_iff`: a run does not trap, and leaves an item selected that there is, exactly
  when each reload finds more items than the number of the selected one, layout passes find
  buttons, and upright the items and the buttons have not come too far apart.
-/

namespace RotatePicker

open Swift Runs

/-- Nothing traps, and after a reload the selected item is one of the items, if there are
any. -/
def StaysSafe (_ : Result RotatePickerView) (e : PickerEvent) (after : Result RotatePickerView) :
    Prop :=
  match after with
  | .error _ => False
  | .ok t => ∀ orientation, e = .reloadData orientation → ∀ dataSource,
      t.dataSource = some dataSource → 1 ≤ dataSource.items.length →
        dataSource.HasItem t.currentSelectItem

namespace RotatePickerView

/-- The place of `item` among the items of now is one among the buttons of the last reload:
in portrait it always is, in landscape the places are counted from the end. -/
def Fits (s : RotatePickerView) (item : ℤ) : Prop :=
  let totalCount := (s.dataSource.map RPDataSource.rotateSSItemCount).getD 3
  s.currentOrientation.isPortrait = true ∨
    (item < totalCount ∧ totalCount ≤ item + s.stackSubViews.length)

end RotatePickerView

/-- A reload finds the selected item among the items, a layout pass finds buttons and the
selected item among them, a tap the item of its button. -/
def ItemsFit (before : Result RotatePickerView) (e : PickerEvent)
    (_ : Result RotatePickerView) : Prop :=
  match before, e with
  | .ok s, .reloadData _ => ∀ dataSource, s.dataSource = some dataSource →
      s.currentSelectItem < dataSource.items.length
  | .ok s, .layoutSubviews => s.stackSubViews ≠ [] ∧ s.Fits s.currentSelectItem
  | .ok s, .tap place => ∀ view index, s.stackSubViews[place]? = some view →
      view.index = some index → s.Fits index
  | _, _ => True

namespace RotatePickerView

variable {s t : RotatePickerView} {dataSource : RPDataSource} {item : ℤ}

/-- The buttons have indices of as many items as there are buttons. -/
def Tagged (s : RotatePickerView) : Prop :=
  ∀ (place : ℕ) view, s.stackSubViews[place]? = some view →
    ∃ index, view.index = some index ∧ 0 ≤ index ∧ index < s.stackSubViews.length

/-- What holds between the buttons and the selected item along every run. -/
structure Kept (s : RotatePickerView) : Prop where
  tagged : s.Tagged
  current : 0 ≤ s.currentSelectItem
  among : s.stackSubViews ≠ [] → s.currentSelectItem < s.stackSubViews.length

/-- The place of an item among the buttons of the last reload is found exactly if it fits
among the items of now. -/
theorem hasPlace_iff (hlow : 0 ≤ item) (hhigh : item < s.stackSubViews.length) :
    s.HasPlace item ↔ s.Fits item := by
  unfold HasPlace Fits indexForOrientation
  dsimp only
  cases s.currentOrientation.isPortrait with
  | true => exact iff_of_true ⟨hlow, hhigh⟩ (Or.inl rfl)
  | false =>
      simp only [Bool.false_eq_true, if_false, false_or]
      omega

/-- Selecting changes which button is selected, not what the buttons are for. The item that
is selected now has a button. -/
theorem Tagged.select (h : s.Tagged) (hlow : 0 ≤ item) (hhigh : item < s.stackSubViews.length) :
    (s.select item).Kept := by
  have hlength : (s.select item).stackSubViews.length = s.stackSubViews.length := by
    rw [RotatePickerView.select, List.length_mapIdx]
  refine ⟨?_, hlow, fun _ => hlength.symm ▸ hhigh⟩
  intro place view hview
  rw [hlength]
  rw [RotatePickerView.select, List.getElem?_mapIdx] at hview
  obtain ⟨before, hbefore, rfl⟩ := Option.map_eq_some_iff.mp hview
  exact h place before hbefore

/-- A reload builds one button for each item and gives each the index of its item, in either
orientation. By this index a tap finds the item again. -/
theorem tagged_rebuilt (hsource : s.dataSource = some dataSource)
    (orientation : UIDeviceOrientation) : (s.rebuilt dataSource orientation).Tagged := by
  intro place view hview
  rw [length_rebuilt]
  have hlt := (List.getElem?_eq_some_iff.mp hview).1
  rw [length_rebuilt] at hlt
  rw [rebuilt, List.getElem?_mapIdx] at hview
  obtain ⟨images, -, rfl⟩ := Option.map_eq_some_iff.mp hview
  have hturned : ({ s with currentOrientation := orientation } : RotatePickerView).dataSource =
      some dataSource := hsource
  exact ⟨_, rfl, (hasItem_indexForOrientation hturned place).mpr ⟨by omega, by omega⟩⟩

/-- A selection does not trap exactly if the item has a place. -/
theorem selectedItem_cases (s : RotatePickerView) (item : ℤ) :
    (s.HasPlace item ∧ s.selectedItem item = .ok (s.select item)) ∨
      (¬ s.HasPlace item ∧ s.selectedItem item = .error .indexOutOfRange) := by
  by_cases h : s.HasPlace item
  · exact Or.inl ⟨h, selectedItem_of_place h⟩
  · exact Or.inr ⟨h, selectedItem_of_no_place h⟩

/-- A reload does not trap exactly if the selected item is among the items. The item is kept
over the reload, and the items need not be those it was chosen from. -/
theorem reloadData_cases (h : s.Kept) (hsource : s.dataSource = some dataSource)
    (orientation : UIDeviceOrientation) :
    (dataSource.HasItem s.currentSelectItem ∧ s.reloadData orientation =
        .ok ((s.rebuilt dataSource orientation).select s.currentSelectItem)) ∨
      (¬ dataSource.HasItem s.currentSelectItem ∧
        ∃ trap, s.reloadData orientation = .error trap) := by
  rw [reloadData_eq hsource]
  by_cases hitems : dataSource.items = []
  · refine Or.inr ⟨fun hitem => ?_, .invalidRange, if_pos hitems⟩
    have hcount : dataSource.items.length = 0 := List.length_eq_zero_iff.mpr hitems
    have hlow := h.current
    have hhigh := hitem.2
    omega
  · rw [if_neg hitems]
    have hplace : (s.rebuilt dataSource orientation).HasPlace s.currentSelectItem ↔
        dataSource.HasItem s.currentSelectItem := by
      rw [HasPlace, length_rebuilt]
      have hrebuilt : (s.rebuilt dataSource orientation).dataSource = some dataSource := hsource
      exact hasItem_indexForOrientation hrebuilt _
    rcases selectedItem_cases (s.rebuilt dataSource orientation) s.currentSelectItem with
      ⟨hyes, hok⟩ | ⟨hno, herror⟩
    · exact Or.inl ⟨hplace.mp hyes, hok⟩
    · exact Or.inr ⟨fun hitem => hno (hplace.mpr hitem), .indexOutOfRange, herror⟩

/-- What holds along every run: nothing after a trap. -/
def RunKept : Result RotatePickerView → Prop
  | .error _ => True
  | .ok s => s.Kept

/-- A selection of one of as many items as there are buttons. -/
theorem Tagged.selectedItem (h : s.Tagged) (hlow : 0 ≤ item)
    (hhigh : item < s.stackSubViews.length) {e : PickerEvent}
    (he : ∀ orientation, e ≠ .reloadData orientation) :
    RunKept (s.selectedItem item) ∧
      (StaysSafe (.ok s) e (s.selectedItem item) ↔ s.Fits item) := by
  rw [← hasPlace_iff hlow hhigh]
  rcases selectedItem_cases s item with ⟨hyes, hok⟩ | ⟨hno, herror⟩
  · rw [hok]
    exact ⟨h.select hlow hhigh,
      iff_of_true (fun orientation h => absurd h (he orientation)) hyes⟩
  · rw [herror]
    exact ⟨trivial, iff_of_false id hno⟩

/-- A step to `after` keeps what holds along every run, and is safe exactly if the items
fit. -/
def SafeIffFits (s : RotatePickerView) (e : PickerEvent) (after : Result RotatePickerView) :
    Prop :=
  RunKept after ∧ (StaysSafe (.ok s) e after ↔ ItemsFit (.ok s) e after)

/-- Without a data source the buttons go. -/
theorem Kept.reload_of_none (h : s.Kept) (hsource : s.dataSource = none)
    (orientation : UIDeviceOrientation) :
    s.SafeIffFits (.reloadData orientation) (s.reloadData orientation) := by
  have hnone : s.reloadData orientation =
      .ok { s with currentOrientation := orientation, stackSubViews := [] } := by
    simp only [reloadData, hsource]
    rfl
  rw [hnone]
  refine ⟨⟨nofun, h.current, absurd rfl⟩, iff_of_true ?_ ?_⟩
  · intro _ _ dataSource hsome
    rw [hsource] at hsome
    cases hsome
  · intro dataSource hsome
    rw [hsource] at hsome
    cases hsome

/-- A reload with a data source builds a button for each of its items and selects the current
one again, which is safe exactly if that is one of the items. -/
theorem Kept.reload_of_some (h : s.Kept) (hsource : s.dataSource = some dataSource)
    (orientation : UIDeviceOrientation) :
    s.SafeIffFits (.reloadData orientation) (s.reloadData orientation) := by
  have hfit : ItemsFit (.ok s) (.reloadData orientation) (s.reloadData orientation) ↔
      dataSource.HasItem s.currentSelectItem := by
    constructor
    · exact fun hall => ⟨h.current, hall dataSource hsource⟩
    · rintro ⟨-, hhigh⟩ other hother
      obtain rfl := Option.some.inj (hsource.symm.trans hother)
      exact hhigh
  rw [SafeIffFits, hfit]
  rcases reloadData_cases h hsource orientation with ⟨hitem, hok⟩ | ⟨hno, trap, herror⟩
  · rw [hok]
    refine ⟨(tagged_rebuilt hsource orientation).select h.current ?_, iff_of_true ?_ hitem⟩
    · rw [length_rebuilt]
      exact hitem.2
    · intro _ _ other hother _
      obtain rfl := Option.some.inj (hsource.symm.trans hother)
      exact hitem
  · rw [herror]
    exact ⟨trivial, iff_of_false id hno⟩

/-- A layout pass scrolls to the button of the selected item, which must be there. It selects
the item anew, so that the items may have changed under it. -/
theorem Kept.layoutSubviews (h : s.Kept) : s.SafeIffFits .layoutSubviews s.layoutSubviews := by
  by_cases hempty : s.stackSubViews = []
  · have hno : ¬ s.HasPlace s.currentSelectItem := by
      rintro ⟨hlow, hhigh⟩
      rw [hempty, List.length_nil] at hhigh
      omega
    rw [RotatePickerView.layoutSubviews, selectedItem_of_no_place hno]
    exact ⟨trivial, iff_of_false id fun hfit => hfit.1 hempty⟩
  · obtain ⟨hkept, hsafe⟩ :=
      h.tagged.selectedItem (e := .layoutSubviews) h.current (h.among hempty) nofun
    exact ⟨hkept, hsafe.trans ⟨fun hfit => ⟨hempty, hfit⟩, fun hfit => hfit.2⟩⟩

/-- A tap selects the item of its button, as the data source counts the items now. In
landscape the place is counted from the other end, by the number of items of now. -/
theorem Kept.tap (h : s.Kept) {place : ℕ} {view : RPImageButton}
    (hview : s.stackSubViews[place]? = some view) : s.SafeIffFits (.tap place) (s.tap view) := by
  obtain ⟨index, hindex, hlow, hhigh⟩ := h.tagged place view hview
  have htap : s.tap view = s.selectedItem index := by
    rw [RotatePickerView.tap, hindex]
    rfl
  rw [htap]
  obtain ⟨hkept, hsafe⟩ := h.tagged.selectedItem (e := .tap place) hlow hhigh nofun
  refine ⟨hkept, hsafe.trans ⟨fun hfit other number hother hnumber => ?_,
    fun hfit => hfit view index hview hindex⟩⟩
  obtain rfl := Option.some.inj (hview.symm.trans hother)
  obtain rfl := Option.some.inj (hindex.symm.trans hnumber)
  exact hfit

/-- One case for each event; setting a data source or scrolling asks nothing of the items.
The other events select an item, and are safe exactly if it fits. -/
theorem Kept.step (h : s.Kept) {e : PickerEvent} {after : Result RotatePickerView}
    (hstep : RotatePickerView.step (.ok s) e = some after) : s.SafeIffFits e after := by
  cases e with
  | setDataSource source =>
      obtain rfl := Option.some.inj hstep
      exact ⟨⟨h.tagged, h.current, h.among⟩, iff_of_true nofun trivial⟩
  | reloadData orientation =>
      obtain rfl := Option.some.inj hstep
      cases hsource : s.dataSource with
      | none => exact h.reload_of_none hsource orientation
      | some dataSource => exact h.reload_of_some hsource orientation
  | layoutSubviews =>
      obtain rfl := Option.some.inj hstep
      exact h.layoutSubviews
  | tap place =>
      obtain ⟨view, hview, rfl⟩ := Option.map_eq_some_iff.mp hstep
      exact h.tap hview
  | scroll =>
      obtain ⟨posted, scrolls, contentOffset, -, rfl⟩ := step_scroll hstep
      exact ⟨⟨h.tagged, h.current, h.among⟩, iff_of_true nofun trivial⟩

end RotatePickerView

/-- Over changing items the picker is safe as long as the items fit its selection and its
buttons. -/
theorem picker_safe_iff (dataSource : Option RPDataSource) (es : List PickerEvent) :
    StepsMeet RotatePickerView.step StaysSafe (.ok { dataSource := dataSource }) es ↔
      StepsMeet RotatePickerView.step ItemsFit (.ok { dataSource := dataSource }) es := by
  have hstart : RotatePickerView.RunKept (.ok { dataSource := dataSource }) :=
    ⟨nofun, Int.le_refl 0, absurd rfl⟩
  refine stepsMeet_iff_of_invariant (J := RotatePickerView.RunKept) ?_ ?_ hstart
  · rintro (trap | s) e t hs hstep
    · cases hstep
    · exact (RotatePickerView.Kept.step hs hstep).1
  · rintro (trap | s) e t hs hstep
    · cases hstep
    · exact (RotatePickerView.Kept.step hs hstep).2

/-- Three items, one of which goes away while the last is selected: the reload traps. The
selection is not corrected when the items change. -/
theorem fewer_items_trap :
    ¬ ∀ (dataSource : RPDataSource) (es : List PickerEvent),
      StepsMeet RotatePickerView.step StaysSafe (.ok { dataSource := some dataSource })
        (.reloadData .portrait :: es) := by
  intro hall
  have hsafe := hall (RotateSSView.dataSource ["Video", "Gif", "Photo"])
    [.layoutSubviews, .tap 2,
      .setDataSource (some (RotateSSView.dataSource ["Video", "Gif"])), .reloadData .portrait]
  obtain ⟨-, hsafe⟩ := hsafe _ rfl
  obtain ⟨-, hsafe⟩ := hsafe _ rfl
  obtain ⟨-, hsafe⟩ := hsafe _ rfl
  obtain ⟨-, hsafe⟩ := hsafe _ rfl
  exact (hsafe _ rfl).1

end RotatePicker
