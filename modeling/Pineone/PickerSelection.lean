import Pineone.RotatePicker

/-!
# The selection of the rotating picker

* `picker_shows_selection`: with a data source whose items stay the same, from the first
  reload on nothing traps, the one selected button is that of the selected item, and a
  tap on a button selects the item it displays.
-/

namespace RotatePicker

open Swift Runs

namespace RotatePickerView

variable {s t : RotatePickerView} {dataSource : RPDataSource} {item : ℤ}

/-! ### The items and their places -/

/-- The same map leads from items to places and from places to items: it is the identity in
portrait and counts from the other end in landscape. -/
theorem indexForOrientation_self (s : RotatePickerView) (index : ℤ) :
    s.indexForOrientation (s.indexForOrientation index) = index := by
  unfold indexForOrientation
  dsimp only
  split <;> omega

/-- What is asked of the data source and the delegate is about items they have. -/
structure Valid (dataSource : RPDataSource) (s : RotatePickerView) : Prop where
  source : s.dataSource = some dataSource
  current : dataSource.HasItem s.currentSelectItem
  scrolls : ∀ scroll ∈ s.scrolls, dataSource.HasItem scroll.1
  told : ∀ item ∈ s.told, dataSource.HasItem item

/-- The buttons are those of the items, each in its place and with its index. -/
structure Built (dataSource : RPDataSource) (s : RotatePickerView) : Prop
    extends s.Valid dataSource where
  count : s.stackSubViews.length = dataSource.items.length
  button : ∀ (place : ℕ) view, s.stackSubViews[place]? = some view →
    view.index = some (s.indexForOrientation place) ∧
      dataSource.rotateSSItemImage (s.indexForOrientation place) (axisOf s.currentOrientation) =
        .ok view.name

/-- And the one of the selected item is the selected one. -/
structure Shows (dataSource : RPDataSource) (s : RotatePickerView) : Prop
    extends s.Built dataSource where
  selected : ∀ (place : ℕ) view, s.stackSubViews[place]? = some view →
    (view.isSelected = true ↔ (place : ℤ) = s.indexForOrientation s.currentSelectItem)

/-- With the buttons built for the items of now, every item has its place among them. -/
theorem Built.hasPlace (h : s.Built dataSource) (hitem : dataSource.HasItem item) :
    s.HasPlace item := by
  unfold HasPlace
  rw [h.count]
  exact (hasItem_indexForOrientation h.source item).mpr hitem

/-- The selection of an item shows it: its button is selected and no other, and the scroll to
it is posted. -/
theorem Built.select (h : s.Built dataSource) (hitem : dataSource.HasItem item) :
    (s.select item).Shows dataSource where
  source := h.source
  current := hitem
  scrolls := by
    intro scroll hscroll
    rcases List.mem_append.mp hscroll with hscroll | hscroll
    · exact h.scrolls scroll hscroll
    · obtain rfl := List.mem_singleton.mp hscroll
      exact hitem
  told := by
    intro told htold
    rcases List.mem_append.mp htold with htold | htold
    · exact h.told told htold
    · obtain rfl := List.mem_singleton.mp htold
      exact hitem
  count := by rw [RotatePickerView.select, List.length_mapIdx, h.count]
  button := by
    intro place view hview
    rw [RotatePickerView.select, List.getElem?_mapIdx] at hview
    obtain ⟨before, hbefore, rfl⟩ := Option.map_eq_some_iff.mp hview
    exact h.button place before hbefore
  selected := by
    intro place view hview
    rw [RotatePickerView.select, List.getElem?_mapIdx] at hview
    obtain ⟨before, -, rfl⟩ := Option.map_eq_some_iff.mp hview
    exact decide_eq_true_iff

/-- In its place each item is shown. -/
theorem getElem?_arranged {orientation : UIDeviceOrientation} (h : orientation.Upright)
    {place : ℕ} (hplace : place < dataSource.items.length) :
    subscript dataSource.items (if orientation.isPortrait then (place : ℤ)
      else (dataSource.items.length : ℤ) - 1 - place) =
        (subscript (dataSource.arranged orientation) place) := by
  unfold RPDataSource.arranged
  rw [UIDeviceOrientation.isLandscape_eq h]
  cases orientation.isPortrait with
  | true => rfl
  | false =>
      have hmirror : (dataSource.items.length : ℤ) - 1 - place =
          (dataSource.items.length - 1 - place : ℕ) := by omega
      have hreversed := List.getElem?_reverse hplace
      have hlt : dataSource.items.length - 1 - place < dataSource.items.length := by omega
      rw [List.getElem?_eq_getElem hlt] at hreversed
      show subscript dataSource.items ((dataSource.items.length : ℤ) - 1 - place) =
        subscript dataSource.items.reverse place
      rw [hmirror, subscript_natCast hreversed,
        subscript_natCast (List.getElem?_eq_getElem hlt)]

/-- A reload builds the buttons. Each one is for the item at its place, with the image for
the axis of the orientation. -/
theorem Valid.rebuilt (h : s.Valid dataSource) {orientation : UIDeviceOrientation}
    (horientation : orientation.Upright) : (s.rebuilt dataSource orientation).Built dataSource where
  source := h.source
  current := h.current
  scrolls := h.scrolls
  told := h.told
  count := length_rebuilt s dataSource orientation
  button := by
    intro place view hview
    rw [RotatePickerView.rebuilt, List.getElem?_mapIdx] at hview
    obtain ⟨images, himages, rfl⟩ := Option.map_eq_some_iff.mp hview
    have hplace : place < dataSource.items.length := by
      rw [← RPDataSource.length_arranged dataSource orientation]
      exact (List.getElem?_eq_some_iff.mp himages).1
    have hsource : (s.rebuilt dataSource orientation).dataSource = some dataSource := h.source
    refine ⟨rfl, ?_⟩
    rw [indexForOrientation_of_source hsource, RPDataSource.rotateSSItemImage]
    show (subscript dataSource.items (if orientation.isPortrait then (place : ℤ)
      else (dataSource.items.length : ℤ) - 1 - place)).map _ = _
    rw [getElem?_arranged horientation hplace, subscript_natCast himages]
    rfl

/-- A reload shows the selected item, which is one of the items as long as these do not
change. -/
theorem Valid.reloadData (h : s.Valid dataSource) {orientation : UIDeviceOrientation}
    (horientation : orientation.Upright) :
    ∃ t, s.reloadData orientation = .ok t ∧ t.Shows dataSource := by
  have hbuilt := h.rebuilt horientation
  have hitems : dataSource.items ≠ [] := by
    intro hempty
    obtain ⟨hlow, hhigh⟩ := h.current
    rw [hempty, List.length_nil] at hhigh
    omega
  refine ⟨(s.rebuilt dataSource orientation).select s.currentSelectItem, ?_,
    hbuilt.select h.current⟩
  rw [reloadData_eq h.source, if_neg hitems, selectedItem_of_place (hbuilt.hasPlace h.current)]

/-- A tap on a button selects its item: the index that the button carries is that of its
place in the present orientation. -/
theorem Built.tap (h : s.Built dataSource) {place : ℕ} {view : RPImageButton}
    (hview : s.stackSubViews[place]? = some view) :
    dataSource.HasItem (s.indexForOrientation place) ∧
      s.tap view = .ok (s.select (s.indexForOrientation place)) := by
  have hlt := (List.getElem?_eq_some_iff.mp hview).1
  rw [h.count] at hlt
  have hitem : dataSource.HasItem (s.indexForOrientation place) :=
    (hasItem_indexForOrientation h.source place).mpr ⟨by omega, by omega⟩
  refine ⟨hitem, ?_⟩
  rw [RotatePickerView.tap, (h.button place view hview).1]
  exact selectedItem_of_place (h.hasPlace hitem)

/-! ### Runs with the same items -/

/-- The image of `item`, for this orientation, is on the button. -/
def Displays (s : RotatePickerView) (view : RPImageButton) (item : ℤ) : Prop :=
  ∃ dataSource, s.dataSource = some dataSource ∧
    dataSource.rotateSSItemImage item (axisOf s.currentOrientation) = .ok view.name

/-- One button is selected, the one that displays the selected item, and a tap on any button
selects the item it displays.  Scrolls go to the button of their item, and the delegate is
told of items there are. -/
structure ShowsSelection (s : RotatePickerView) : Prop where
  selected : ∃ (place : ℕ) (view : RPImageButton), s.stackSubViews[place]? = some view ∧
    view.isSelected = true ∧ s.Displays view s.currentSelectItem ∧
      ∀ (other : ℕ) (button : RPImageButton), s.stackSubViews[other]? = some button →
        button.isSelected = true → other = place
  tap : ∀ (place : ℕ) (view : RPImageButton), s.stackSubViews[place]? = some view →
    ∃ t, s.tap view = .ok t ∧ s.Displays view t.currentSelectItem ∧
      t.stackSubViews[place]? = some { view with isSelected := true }
  scroll : ∀ scroll ∈ s.scrolls, ∃ view,
    get s.stackSubViews (s.indexForOrientation scroll.1) = some view ∧ s.Displays view scroll.1
  told : ∀ item ∈ s.told, ∃ dataSource images,
    s.dataSource = some dataSource ∧ subscript dataSource.items item = .ok images

/-- The button at a place has the image of the item that is counted to that place. -/
theorem Built.displays (h : s.Built dataSource) {place : ℕ} {view : RPImageButton}
    (hview : s.stackSubViews[place]? = some view) :
    s.Displays view (s.indexForOrientation place) :=
  ⟨dataSource, h.source, (h.button place view hview).2⟩

/-- The button of an item. -/
theorem Built.exists_button (h : s.Built dataSource) (hitem : dataSource.HasItem item) :
    ∃ (place : ℕ) (view : RPImageButton), s.indexForOrientation item = place ∧
      s.stackSubViews[place]? = some view ∧ s.Displays view item := by
  obtain ⟨hlow, hhigh⟩ := h.hasPlace hitem
  obtain ⟨place, hplace⟩ := Int.eq_ofNat_of_zero_le hlow
  rw [hplace] at hhigh
  have hlt : place < s.stackSubViews.length := by omega
  have hview := List.getElem?_eq_getElem hlt
  have hdisplays := h.displays hview
  rw [← hplace, indexForOrientation_self] at hdisplays
  exact ⟨place, s.stackSubViews[place], hplace, hview, hdisplays⟩

/-- What holds of the buttons as they were built is what the user sees: one of them is
selected, and taps and scrolls go to the right ones. -/
theorem Shows.showsSelection (h : s.Shows dataSource) : s.ShowsSelection where
  selected := by
    obtain ⟨place, view, hplace, hview, hdisplays⟩ := h.exists_button h.current
    refine ⟨place, view, hview, (h.selected place view hview).mpr hplace.symm, hdisplays, ?_⟩
    intro other button hbutton hselected
    have hother := (h.selected other button hbutton).mp hselected
    omega
  tap := by
    intro place view hview
    obtain ⟨-, htap⟩ := h.tap hview
    refine ⟨s.select (s.indexForOrientation place), htap, h.displays hview, ?_⟩
    rw [RotatePickerView.select, List.getElem?_mapIdx, hview, indexForOrientation_self]
    simp
  scroll := by
    intro scroll hscroll
    obtain ⟨place, view, hplace, hview, hdisplays⟩ := h.exists_button (h.scrolls scroll hscroll)
    refine ⟨view, ?_, hdisplays⟩
    have hlt := (List.getElem?_eq_some_iff.mp hview).1
    rw [get, hplace, if_pos (by omega), Int.toNat_natCast, hview]
  told := by
    intro item hitem
    obtain ⟨hlow, hhigh⟩ := h.told item hitem
    obtain ⟨place, rfl⟩ := Int.eq_ofNat_of_zero_le hlow
    have hlt : place < dataSource.items.length := by omega
    exact ⟨dataSource, dataSource.items[place], h.source,
      subscript_natCast (List.getElem?_eq_getElem hlt)⟩

end RotatePickerView

/-- The data source keeps its items, and reloads are for the orientations of rows. -/
def PickerEvent.KeepsItems : PickerEvent → Prop
  | .setDataSource _ => False
  | .reloadData orientation => orientation.Upright
  | .layoutSubviews | .tap _ | .scroll => True

namespace RotatePickerView

variable {s t : RotatePickerView} {dataSource : RPDataSource} {item : ℤ}

/-- Nothing has trapped, and the picker shows its selection. -/
def RunShows (dataSource : RPDataSource) : Result RotatePickerView → Prop
  | .error _ => False
  | .ok s => s.Shows dataSource

/-- Every event that keeps the items keeps this, since a turn of the device changes the order
of the buttons only with a reload. -/
theorem Shows.step (h : s.Shows dataSource) {e : PickerEvent} (he : e.KeepsItems)
    {after : Result RotatePickerView} (hstep : RotatePickerView.step (.ok s) e = some after) :
    RunShows dataSource after := by
  cases e with
  | setDataSource source => cases he
  | reloadData orientation =>
      obtain rfl := Option.some.inj hstep
      obtain ⟨t, ht, hshows⟩ := h.reloadData he
      show RunShows dataSource (s.reloadData orientation)
      rw [ht]
      exact hshows
  | layoutSubviews =>
      obtain rfl := Option.some.inj hstep
      show RunShows dataSource (s.selectedItem s.currentSelectItem)
      rw [selectedItem_of_place (h.hasPlace h.current)]
      exact h.select h.current
  | tap place =>
      obtain ⟨view, hview, rfl⟩ := Option.map_eq_some_iff.mp hstep
      obtain ⟨hitem, htap⟩ := h.tap hview
      rw [htap]
      exact h.select hitem
  | scroll =>
      obtain ⟨posted, scrolls, contentOffset, hscrolls, rfl⟩ := step_scroll hstep
      have hrest : ∀ scroll ∈ scrolls, dataSource.HasItem scroll.1 := fun scroll hmem =>
        h.scrolls scroll (hscrolls ▸ List.mem_cons_of_mem _ hmem)
      exact ⟨⟨⟨h.source, h.current, hrest, h.told⟩, h.count, h.button⟩, h.selected⟩

/-- Nothing has trapped, and the picker shows its selection. -/
def RunShowsSelection : Result RotatePickerView → Prop
  | .error _ => False
  | .ok s => s.ShowsSelection

end RotatePickerView

/-- With the items of the data source as they are, from the first reload on the picker
shows its selection, whatever is reloaded, laid out and tapped. -/
theorem picker_shows_selection {dataSource : RPDataSource}
    (hitems : 1 ≤ dataSource.items.length) {orientation : UIDeviceOrientation}
    (horientation : orientation.Upright) {es : List PickerEvent}
    (hes : ∀ e ∈ es, e.KeepsItems) :
    Throughout RotatePickerView.step RotatePickerView.RunShowsSelection
      (RotatePickerView.reloadData { dataSource := some dataSource } orientation) es := by
  have hfirst : dataSource.HasItem 0 := ⟨by omega, by omega⟩
  have hvalid : RotatePickerView.Valid dataSource { dataSource := some dataSource } :=
    ⟨rfl, hfirst, nofun, nofun⟩
  obtain ⟨first, hreload, hshows⟩ := hvalid.reloadData horientation
  rw [hreload]
  have hstart : RotatePickerView.RunShows dataSource (.ok first) := hshows
  have hrun : Throughout RotatePickerView.step (RotatePickerView.RunShows dataSource)
      (.ok first) es := by
    refine throughout_of_events (fun s e t hs he hstep => ?_) hstart hes
    cases s with
    | error trap => cases hs
    | ok s => exact hs.step he hstep
  refine Throughout.mono (J := fun _ => True) (fun _ _ _ _ _ => trivial) ?_ trivial hrun
  rintro (_ | s) - hs
  · exact hs.elim
  · exact hs.showsSelection

/-- The three items of the capture screen. -/
def captureItems : RPDataSource :=
  RotateSSView.dataSource ["btnTapVideo", "btnTapGif", "btnTapPhoto"]

/-- The three items of the capture screen, with taps and turns of the device. The picker
shows its selection after each of them. -/
theorem picker_shows_selection_capture :
    Throughout RotatePickerView.step RotatePickerView.RunShowsSelection
      (RotatePickerView.reloadData { dataSource := some captureItems } .portrait)
      [.layoutSubviews, .tap 2, .reloadData .landscapeRight, .scroll, .tap 2,
        .reloadData .portrait] :=
  picker_shows_selection (by decide) (Or.inl rfl) (by
    simp only [List.forall_mem_cons, PickerEvent.KeepsItems]
    exact ⟨trivial, trivial, Or.inr rfl, trivial, trivial, Or.inl rfl, nofun⟩)

end RotatePicker
