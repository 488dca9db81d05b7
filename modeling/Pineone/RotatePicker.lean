import Pineone.Runs
import Pineone.SwiftText

/-!
# The rotating picker

A row of buttons, one for each item of a data source.  In portrait the items run from
left to right, in landscape the row stands upright and they run the other way; the
selection is kept as an item.  A picker is rotated by a reload, which builds all buttons
anew.

* `selectedItem_of_place`, `selectedItem_of_no_place`: what a selection does;
* `reloadData_eq`: a reload is the selection of the selected item in a row of new buttons.
-/

namespace RotatePicker

open Swift Runs

inductive UIDeviceOrientation
  | unknown
  | portrait
  | portraitUpsideDown
  | landscapeLeft
  | landscapeRight
  | faceUp
  | faceDown
  deriving DecidableEq, Repr

def UIDeviceOrientation.isPortrait : UIDeviceOrientation → Bool
  | .portrait | .portraitUpsideDown => true
  | _ => false

def UIDeviceOrientation.isLandscape : UIDeviceOrientation → Bool
  | .landscapeLeft | .landscapeRight => true
  | _ => false

/-- The orientations a picker has rows for. -/
def UIDeviceOrientation.Upright (orientation : UIDeviceOrientation) : Prop :=
  orientation.isPortrait = true ∨ orientation.isLandscape = true

/-- The picker has rows for upright orientations only, and each of these is either portrait
or landscape. -/
theorem UIDeviceOrientation.isLandscape_eq {orientation : UIDeviceOrientation}
    (h : orientation.Upright) : orientation.isLandscape = !orientation.isPortrait := by
  cases orientation <;> simp_all [Upright, isPortrait, isLandscape]

/-- `NSLayoutConstraint.Axis` -/
inductive Axis
  | horizontal
  | vertical
  deriving DecidableEq, Repr

/-- The image names of an item, for either axis. -/
structure ItemImages where
  horizontal : String
  vertical : String
  deriving DecidableEq, Repr

def ItemImages.name (images : ItemImages) : Axis → String
  | .horizontal => images.horizontal
  | .vertical => images.vertical

/-- A data source with these items.  It is asked for images of them only: an index out of
range traps, as that of an array does. -/
structure RPDataSource where
  items : List ItemImages
  deriving DecidableEq, Repr

namespace RPDataSource

def rotateSSItemCount (dataSource : RPDataSource) : ℤ := dataSource.items.length

def rotateSSItemImage (dataSource : RPDataSource) (item : ℤ) (orient : Axis) : Result String :=
  (subscript dataSource.items item).map fun images => images.name orient

end RPDataSource

/-- The data source of the capture screen. -/
def RotateSSView.dataSource (borderButtonImageNamed : List String) : RPDataSource :=
  { items := borderButtonImageNamed.map fun name =>
      { horizontal := name ++ "W", vertical := name ++ "H" } }

structure RPImageButton where
  name : String
  index : Option ℤ := none
  isSelected : Bool := false
  deriving DecidableEq, Repr

/-- A picker, with the scrolls that have been posted, the place the last of them went to
and the items its delegate has been told. -/
structure RotatePickerView where
  dataSource : Option RPDataSource := none
  currentSelectItem : ℤ := 0
  stackSubViews : List RPImageButton := []
  currentOrientation : UIDeviceOrientation := .portrait
  scrolls : List (ℤ × UIDeviceOrientation) := []
  contentOffset : Option (Axis × ℤ) := none
  told : List ℤ := []
  deriving DecidableEq, Repr

/-- `lower ... upper` -/
def closedRange (lower upper : ℤ) : Result (List ℤ) :=
  if lower ≤ upper then
    .ok ((List.range (upper - lower + 1).toNat).map fun offset : ℕ => lower + (offset : ℤ))
  else .error .invalidRange

/-- The subscript that does not trap. -/
def get {α : Type} (array : List α) (index : ℤ) : Option α :=
  if 0 ≤ index ∧ index < array.length then array[index.toNat]? else none

def axisOf (orientation : UIDeviceOrientation) : Axis :=
  if orientation.isPortrait then .horizontal else .vertical

def makeRSSImageButton (name : String) : RPImageButton := { name := name }

namespace RotatePickerView

def indexForOrientation (s : RotatePickerView) (index : ℤ) : ℤ :=
  let totalCount := (s.dataSource.map RPDataSource.rotateSSItemCount).getD 3
  if s.currentOrientation.isPortrait then index else totalCount - 1 - index

def addingStackItem (s : RotatePickerView) (view : RPImageButton) (index : ℤ) :
    RotatePickerView :=
  { s with stackSubViews :=
      s.stackSubViews ++ [{ view with index := some (s.indexForOrientation index) }] }

/-- The scroll is posted for a moment later. -/
def scrollToIndex (s : RotatePickerView) (index : ℤ) (orientation : UIDeviceOrientation) :
    RotatePickerView :=
  { s with scrolls := s.scrolls ++ [(index, orientation)] }

def selectedItem (s : RotatePickerView) (item : ℤ) : Result RotatePickerView := do
  let stackSubViews := s.stackSubViews.map fun view => { view with isSelected := false }
  let orientItem := s.indexForOrientation item
  let view ← subscript stackSubViews orientItem
  let s := { s with
    currentSelectItem := item
    stackSubViews := stackSubViews.set orientItem.toNat { view with isSelected := true } }
  let s := s.scrollToIndex item s.currentOrientation
  return { s with told := s.told ++ [item] }

def reloadData (s : RotatePickerView) (orientation : UIDeviceOrientation) :
    Result RotatePickerView :=
  let s := { s with currentOrientation := orientation, stackSubViews := [] }
  match s.dataSource with
  | none => return s
  | some dataSource => do
      let items ← closedRange 0 (dataSource.rotateSSItemCount - 1)
      let items := if orientation.isLandscape then items.reverse else items
      let names ← items.mapM fun item =>
        dataSource.rotateSSItemImage item (axisOf orientation)
      let s := (names.map makeRSSImageButton).zipIdx.foldl
        (fun s button => s.addingStackItem button.1 button.2) s
      s.selectedItem s.currentSelectItem

def layoutSubviews (s : RotatePickerView) : Result RotatePickerView :=
  s.selectedItem s.currentSelectItem

/-- What a tap on a button does. -/
def tap (s : RotatePickerView) (view : RPImageButton) : Result RotatePickerView := do
  let index ← unwrap "view.index" view.index
  s.selectedItem index

/-- What the posted scroll to `index` does when it runs. -/
def scroll (s : RotatePickerView) (index : ℤ) (orientation : UIDeviceOrientation) :
    RotatePickerView :=
  match get s.stackSubViews (s.indexForOrientation index) with
  | none => s
  | some _ =>
      if orientation.isPortrait then
        { s with contentOffset := some (.horizontal, s.indexForOrientation index) }
      else if orientation.isLandscape then
        { s with contentOffset := some (.vertical, s.indexForOrientation index) }
      else s

end RotatePickerView

inductive PickerEvent
  /-- The items of the data source become others, or there is no data source any more. -/
  | setDataSource (dataSource : Option RPDataSource)
  | reloadData (orientation : UIDeviceOrientation)
  | layoutSubviews
  /-- The button at this place is tapped. -/
  | tap (place : ℕ)
  /-- The first of the posted scrolls runs. -/
  | scroll
  deriving DecidableEq, Repr

namespace RotatePickerView

/-- One event; after a trap nothing happens any more. -/
def step : Result RotatePickerView → PickerEvent → Option (Result RotatePickerView)
  | .error _, _ => none
  | .ok s, .setDataSource dataSource => some (.ok { s with dataSource := dataSource })
  | .ok s, .reloadData orientation => some (s.reloadData orientation)
  | .ok s, .layoutSubviews => some s.layoutSubviews
  | .ok s, .tap place => s.stackSubViews[place]?.map s.tap
  | .ok s, .scroll =>
      match s.scrolls with
      | [] => none
      | (index, orientation) :: scrolls =>
          some (.ok (scroll { s with scrolls := scrolls } index orientation))

variable {s t : RotatePickerView} {dataSource : RPDataSource} {item : ℤ}

/-! ### Selecting an item -/

/-- A picker after the selection of `item`, whose button is the one in its place. -/
def select (s : RotatePickerView) (item : ℤ) : RotatePickerView :=
  { s with
    currentSelectItem := item
    stackSubViews := s.stackSubViews.mapIdx fun place view =>
      { view with isSelected := decide ((place : ℤ) = s.indexForOrientation item) }
    scrolls := s.scrolls ++ [(item, s.currentOrientation)]
    told := s.told ++ [item] }

/-- There is a button in the place of `item`. -/
def HasPlace (s : RotatePickerView) (item : ℤ) : Prop :=
  0 ≤ s.indexForOrientation item ∧ s.indexForOrientation item < s.stackSubViews.length

/-- Selecting an item that has a place selects its button, posts the scroll to it and tells
the delegate. -/
theorem selectedItem_of_place (h : s.HasPlace item) :
    s.selectedItem item = .ok (s.select item) := by
  obtain ⟨hlow, hhigh⟩ := h
  obtain ⟨place, hplace⟩ := Int.eq_ofNat_of_zero_le hlow
  rw [hplace] at hhigh
  have hlt : place < s.stackSubViews.length := by omega
  have hview : subscript (s.stackSubViews.map fun view => { view with isSelected := false })
      (s.indexForOrientation item) = .ok { s.stackSubViews[place] with isSelected := false } := by
    rw [hplace]
    exact subscript_natCast (by simp [hlt])
  have hset : (s.stackSubViews.map fun view => { view with isSelected := false }).set
      (s.indexForOrientation item).toNat { s.stackSubViews[place] with isSelected := true } =
      s.stackSubViews.mapIdx fun place view =>
        { view with isSelected := decide ((place : ℤ) = s.indexForOrientation item) } := by
    apply List.ext_getElem?
    intro other
    rw [List.getElem?_mapIdx, hplace, Int.toNat_natCast, List.getElem?_set]
    by_cases hother : place = other
    · subst hother
      simp [hlt]
    · have hne : ¬ (other : ℤ) = place := by omega
      simp [hother, hne]
  unfold selectedItem
  dsimp only
  rw [hview]
  exact congrArg (fun views => Except.ok { s with
    currentSelectItem := item
    stackSubViews := views
    scrolls := s.scrolls ++ [(item, s.currentOrientation)]
    told := s.told ++ [item] }) hset

/-- Without a place the subscript traps. The buttons are deselected in a copy of the array
before that, so nothing of the selection is seen and the delegate is told nothing. -/
theorem selectedItem_of_no_place (h : ¬ s.HasPlace item) :
    s.selectedItem item = .error .indexOutOfRange := by
  have hview : subscript (s.stackSubViews.map fun view => { view with isSelected := false })
      (s.indexForOrientation item) = .error .indexOutOfRange := by
    unfold HasPlace at h
    cases hplace : s.indexForOrientation item with
    | negSucc place => rfl
    | ofNat place =>
        rw [hplace] at h
        refine subscript_natCast_none (List.getElem?_eq_none ?_)
        rw [List.length_map]
        simp only [Int.ofNat_eq_natCast] at h
        omega
  unfold selectedItem
  dsimp only
  rw [hview]
  rfl

/-! ### Building the buttons -/

/-- The range of a reload counts the items from zero; with no items it ends before it begins,
and building it traps. -/
theorem closedRange_count (count : ℕ) : closedRange 0 ((count : ℤ) - 1) =
    if count = 0 then .error .invalidRange
    else .ok ((List.range count).map fun item : ℕ => (item : ℤ)) := by
  unfold closedRange
  by_cases hcount : count = 0
  · rw [if_pos hcount, if_neg (by omega)]
  · have hlength : ((count : ℤ) - 1 - 0 + 1).toNat = count := by omega
    rw [if_neg hcount, if_pos (by omega), hlength]
    simp

end RotatePickerView

/-- `item` is the index of an item. -/
def RPDataSource.HasItem (dataSource : RPDataSource) (item : ℤ) : Prop :=
  0 ≤ item ∧ item < dataSource.items.length

/-- The images of the items in the order of the buttons. -/
def RPDataSource.arranged (dataSource : RPDataSource) (orientation : UIDeviceOrientation) :
    List ItemImages :=
  if orientation.isLandscape then dataSource.items.reverse else dataSource.items

/-- In every orientation there is one name for each item. The landscape row turns the items
around and drops none. -/
theorem RPDataSource.length_arranged (dataSource : RPDataSource)
    (orientation : UIDeviceOrientation) :
    (dataSource.arranged orientation).length = dataSource.items.length := by
  unfold arranged
  split
  · exact List.length_reverse
  · rfl

/-- All items have images: a reload asks the data source for the items of its range, which
are its own, from the first to the last or in landscape from the last to the first. -/
theorem RPDataSource.mapM_image (dataSource : RPDataSource) (orientation : UIDeviceOrientation) :
    (if orientation.isLandscape then
        ((List.range dataSource.items.length).map fun item : ℕ => (item : ℤ)).reverse
      else (List.range dataSource.items.length).map fun item : ℕ => (item : ℤ)).mapM
        (fun item => dataSource.rotateSSItemImage item (axisOf orientation)) =
      .ok ((dataSource.arranged orientation).map fun images =>
        images.name (axisOf orientation)) := by
  set image : ℤ → String := fun item =>
    ((dataSource.items[item.toNat]?).map fun images => images.name (axisOf orientation)).getD ""
    with himage
  have hok : ∀ item ∈ (List.range dataSource.items.length).map fun item : ℕ => (item : ℤ),
      dataSource.rotateSSItemImage item (axisOf orientation) = .ok (image item) := by
    intro item hitem
    obtain ⟨place, hplace, rfl⟩ := List.mem_map.mp hitem
    have hlt := List.mem_range.mp hplace
    rw [rotateSSItemImage, subscript_natCast (List.getElem?_eq_getElem hlt)]
    simp [himage, hlt, Except.map]
  have hnames : ((List.range dataSource.items.length).map fun item : ℕ => (item : ℤ)).map image =
      dataSource.items.map fun images => images.name (axisOf orientation) := by
    apply List.ext_getElem
    · simp
    · intro place _ hplace
      rw [List.length_map] at hplace
      simp [himage, hplace]
  unfold arranged
  split
  · rw [Result.mapM_eq_ok (fun item hitem => hok item (List.mem_reverse.mp hitem)),
      List.map_reverse, hnames, List.map_reverse]
  · rw [Result.mapM_eq_ok hok, hnames]

namespace RotatePickerView

variable {s t : RotatePickerView} {dataSource : RPDataSource} {item : ℤ}

/-- Adding the buttons one after the other is appending them all, numbered from the first
place on. -/
theorem foldl_addingStackItem (views : List RPImageButton) (s : RotatePickerView) (first : ℕ) :
    (views.zipIdx first).foldl (fun s button => s.addingStackItem button.1 button.2) s =
      { s with stackSubViews := s.stackSubViews ++ (views.zipIdx first).map fun button =>
          { button.1 with index := some (s.indexForOrientation button.2) } } := by
  induction views generalizing s first with
  | nil => simp
  | cons view views ih =>
      rw [List.zipIdx_cons, List.foldl_cons, ih]
      simp [addingStackItem, indexForOrientation]

/-- A picker with the buttons of a reload, before the selection. -/
def rebuilt (s : RotatePickerView) (dataSource : RPDataSource)
    (orientation : UIDeviceOrientation) : RotatePickerView :=
  { s with
    currentOrientation := orientation
    stackSubViews := (dataSource.arranged orientation).mapIdx fun place images =>
      { name := images.name (axisOf orientation)
        index := some (indexForOrientation { s with currentOrientation := orientation } place) } }

/-- A reload traps without items, and otherwise builds the buttons anew and selects the item
that was selected. -/
theorem reloadData_eq (hsource : s.dataSource = some dataSource)
    (orientation : UIDeviceOrientation) :
    s.reloadData orientation =
      if dataSource.items = [] then .error .invalidRange
      else (s.rebuilt dataSource orientation).selectedItem s.currentSelectItem := by
  obtain ⟨source, current, views, before, scrolls, contentOffset, told⟩ := s
  obtain rfl : source = some dataSource := hsource
  unfold reloadData
  simp only [RPDataSource.rotateSSItemCount, closedRange_count, List.length_eq_zero_iff]
  by_cases hitems : dataSource.items = []
  · rw [if_pos hitems, if_pos hitems]
    rfl
  · rw [if_neg hitems, if_neg hitems]
    simp only [bind, Except.bind]
    rw [RPDataSource.mapM_image]
    dsimp only
    rw [foldl_addingStackItem]
    refine congrArg (fun views => selectedItem
      ⟨some dataSource, current, views, orientation, scrolls, contentOffset, told⟩ current) ?_
    apply List.ext_getElem?
    intro place
    cases himages : (dataSource.arranged orientation)[place]? with
    | none => simp [himages, List.getElem?_zipIdx]
    | some images =>
        simp [himages, List.getElem?_zipIdx, makeRSSImageButton, indexForOrientation]

/-- A reload builds one button for each item, whatever the row held before. The buttons of
earlier items do not stay behind. -/
theorem length_rebuilt (s : RotatePickerView) (dataSource : RPDataSource)
    (orientation : UIDeviceOrientation) :
    (s.rebuilt dataSource orientation).stackSubViews.length = dataSource.items.length := by
  rw [rebuilt, List.length_mapIdx, RPDataSource.length_arranged]

/-- In portrait items and places are counted alike, in landscape against each other. The
number of items is read from the data source at that moment, not from the row of buttons. -/
theorem indexForOrientation_of_source (hsource : s.dataSource = some dataSource) (index : ℤ) :
    s.indexForOrientation index =
      if s.currentOrientation.isPortrait then index
      else (dataSource.items.length : ℤ) - 1 - index := by
  simp [indexForOrientation, hsource, RPDataSource.rotateSSItemCount]

/-- The items are turned into places, and the places into items: counting from the other end
stays within the same bounds. -/
theorem hasItem_indexForOrientation (hsource : s.dataSource = some dataSource) (index : ℤ) :
    dataSource.HasItem (s.indexForOrientation index) ↔ dataSource.HasItem index := by
  rw [indexForOrientation_of_source hsource]
  unfold RPDataSource.HasItem
  split <;> omega

/-- A scroll that runs moves the content only. The selection, the buttons and what the
delegate was told stay as the event that posted it has left them. -/
theorem step_scroll {after : Result RotatePickerView} (hstep : step (.ok s) .scroll = some after) :
    ∃ posted scrolls contentOffset, s.scrolls = posted :: scrolls ∧
      after = .ok { s with scrolls := scrolls, contentOffset := contentOffset } := by
  rw [step] at hstep
  split at hstep
  · cases hstep
  · next index orientation scrolls hscrolls =>
      obtain rfl := Option.some.inj hstep
      refine ⟨(index, orientation), scrolls, ?_⟩
      unfold scroll
      split
      · exact ⟨s.contentOffset, hscrolls, rfl⟩
      · split_ifs
        · exact ⟨_, hscrolls, rfl⟩
        · exact ⟨_, hscrolls, rfl⟩
        · exact ⟨s.contentOffset, hscrolls, rfl⟩

end RotatePickerView

end RotatePicker
