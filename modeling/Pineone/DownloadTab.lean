import Pineone.ActivityStore
import Pineone.StableSort
import Mathlib.Data.Rat.Defs
import Mathlib.Algebra.Order.Ring.Rat
import Mathlib.Data.Nat.Cast.Order.Ring

/-!
# Deleting on the download tab

The download tab shows the files of the local database sorted, the newest or the
largest first, while the database deletes by the position in its own, unsorted
list.  A selected row `r` therefore deletes the file *stored* at `r`, which is
shown at `displayedRow files r`, the rank of the stored file in the sort.

* `deletesDisplayedRows_iff`: a deletion followed by the reload takes away what
  was displayed at the selected rows exactly when these displayed rows are
  selected rows again.
-/

namespace Activity

open Swift Rows

/-- The comparisons the two sorts of the download tab are called with. -/
def displayedBefore (sortType : DownloadSortingType) (a b : RealmMyDownloadFile) :
    Bool :=
  match sortType with
  | .download => decide (b.createDate.getD 0 < a.createDate.getD 0)
  | .size => decide (b.allDownloadFilesByte < a.allDownloadFilesByte)

/-- The files as `loadDownloadDataAction` sorts them.  A sort of two or more
files compares each of them, and the comparison by date force-unwraps
`createDate`. -/
def sortedDownloads (sortType : DownloadSortingType)
    (data : List RealmMyDownloadFile) : Result (List RealmMyDownloadFile) :=
  if sortType = .download ∧ 2 ≤ data.length ∧ ∃ file ∈ data, file.createDate = none then
    .error (.unwrapNil "createDate")
  else .ok (sorted (displayedBefore sortType) data)

/-- What `loadDownloadDataAction` puts into `tableRelay`. -/
def loadDownloadDataAction (sortType : DownloadSortingType) (localDB : RealmLocalDB) :
    Result (List CompactCellItem) :=
  (sortedDownloads sortType localDB.getUserDownloadContents).map fun data =>
    data.map CompactCellItem.ofDownload

/-- The row at which the file stored at position `i` is displayed: the number of
files that sort before it, or tie with it and are stored before it. -/
def displayedRow (sortType : DownloadSortingType) (files : List RealmMyDownloadFile)
    (i : Nat) : Nat :=
  StableSort.rank (fun a b => !displayedBefore sortType b a) files i

section Sorting

variable (sortType : DownloadSortingType)

/-- What merge sort needs of the comparison: being displayed no later carries over from file
to file, for each sort type. -/
theorem not_displayedBefore_trans (a b c : RealmMyDownloadFile)
    (hab : (!displayedBefore sortType b a) = true)
    (hbc : (!displayedBefore sortType c b) = true) :
    (!displayedBefore sortType c a) = true := by
  cases sortType with
  | download =>
      simp only [displayedBefore, Bool.not_eq_true', decide_eq_false_iff_not, not_lt] at *
      exact le_trans hbc hab
  | size =>
      simp only [displayedBefore, Bool.not_eq_true', decide_eq_false_iff_not, not_lt] at *
      exact le_trans hbc hab

/-- Of two files one is displayed no later than the other. Two files may tie, and then
neither is displayed before the other. -/
theorem not_displayedBefore_total (a b : RealmMyDownloadFile) :
    (!displayedBefore sortType b a || !displayedBefore sortType a b) = true := by
  cases sortType with
  | download =>
      simp only [displayedBefore, Bool.or_eq_true, Bool.not_eq_true',
        decide_eq_false_iff_not, not_lt]
      exact le_total _ _
  | size =>
      simp only [displayedBefore, Bool.or_eq_true, Bool.not_eq_true',
        decide_eq_false_iff_not, not_lt]
      exact le_total _ _

/-- Sorting and then filtering shows the same as filtering first, since the sort is stable
and compares two files without regard to the others. -/
theorem sorted_filter (p : RealmMyDownloadFile → Bool) (files : List RealmMyDownloadFile) :
    sorted (displayedBefore sortType) (files.filter p) =
      (sorted (displayedBefore sortType) files).filter p :=
  StableSort.mergeSort_filter (not_displayedBefore_trans sortType)
    (not_displayedBefore_total sortType) p files

/-- The stored rows are found at their displayed rows: the sort renumbers the files, and the
row that is tapped need not be the row that is stored. -/
theorem renumbers_displayedRow (files : List RealmMyDownloadFile) :
    Renumbers (displayedRow sortType files) files (sorted (displayedBefore sortType) files) :=
  fun _ _ hr => StableSort.getElem?_mergeSort_rank (not_displayedBefore_trans sortType)
    (not_displayedBefore_total sortType) hr

/-- Sorting loses no file and makes none up. -/
theorem sorted_perm (files : List RealmMyDownloadFile) :
    (sorted (displayedBefore sortType) files).Perm files :=
  List.mergeSort_perm _ _

/-- Fewer files never bring the sort to a missing date it did not meet before. So a reload
after a deletion succeeds where the load before it did. -/
theorem sortedDownloads_filter {files shown : List RealmMyDownloadFile}
    (h : sortedDownloads sortType files = .ok shown) (p : RealmMyDownloadFile → Bool) :
    sortedDownloads sortType (files.filter p) = .ok (shown.filter p) := by
  unfold sortedDownloads at h
  split at h
  · cases h
  · next hdates =>
      obtain rfl := Except.ok.inj h
      have hless : ¬ (sortType = .download ∧ 2 ≤ (files.filter p).length ∧
          ∃ file ∈ files.filter p, file.createDate = none) := by
        intro hfiltered
        obtain ⟨hdate, hlength, file, hfile, hnone⟩ := hfiltered
        have := List.length_filter_le p files
        exact hdates ⟨hdate, by omega, file, List.mem_of_mem_filter hfile, hnone⟩
      rw [sortedDownloads, if_neg hless, sorted_filter]

end Sorting

/-- Where loading the downloads succeeds, they come in the displayed order of the sort type.
The dates it unwraps are all there then. -/
theorem sortedDownloads_eq_sorted {sortType : DownloadSortingType}
    {files shown : List RealmMyDownloadFile}
    (h : sortedDownloads sortType files = .ok shown) :
    shown = sorted (displayedBefore sortType) files := by
  unfold sortedDownloads at h
  split at h
  · cases h
  · exact (Except.ok.inj h).symm

/-- Deleting the rows and reloading has removed exactly the files that were
displayed at these rows and shows the others in the displayed order. -/
def DeletesDisplayedRows (sortType : DownloadSortingType) (backend : Backend)
    (shown : List CompactCellItem) (rows : List Nat) : Prop :=
  ∃ after, deleteItems .download rows backend = .ok after ∧
    after.server = backend.server ∧
    after.localDB.downloadFiles = backend.localDB.downloadFiles.filter
      (fun file => decide (CompactCellItem.ofDownload file ∉ pickRows rows shown)) ∧
    loadDownloadDataAction sortType after.localDB = .ok (dropRows rows shown)

section DeleteAndReload

variable {sortType : DownloadSortingType} {backend : Backend} {rows : List Nat}

/-- The files the database removes: those with the key of a file stored at one of
the rows. -/
def removedByRows (files : List RealmMyDownloadFile) (rows : List Nat)
    (file : RealmMyDownloadFile) : Bool :=
  ((pickRows rows files).map RealmMyDownloadFile.key).contains file.key

/-- A file that was stored at one of the rows has its key among theirs and is removed. The
database takes the rows as rows of its own list. -/
theorem removedByRows_of_mem {files : List RealmMyDownloadFile}
    {file : RealmMyDownloadFile} (h : file ∈ pickRows rows files) :
    removedByRows files rows file = true := by
  simpa [removedByRows] using ⟨file, h, rfl⟩

/-- With distinct keys, only the files at the rows are removed. Where two files share a key
the deletion of one removes both. -/
theorem mem_pickRows_of_removed {files picked : List RealmMyDownloadFile}
    (hkeys : (files.map RealmMyDownloadFile.key).Nodup) (hperm : picked.Perm files)
    {file : RealmMyDownloadFile} (hfile : file ∈ files)
    (h : removedByRows picked rows file = true) : file ∈ pickRows rows picked := by
  obtain ⟨other, hother, hkey⟩ : ∃ other ∈ pickRows rows picked,
      other.key = file.key := by simpa [removedByRows] using h
  have hstored : other ∈ files := hperm.mem_iff.mp (mem_of_mem_pickRows hother)
  obtain rfl := List.inj_on_of_nodup_map hkeys hstored hfile hkey
  exact hother

/-- The database after the deletion, and the list the reload displays. -/
theorem deleteItems_download (hrange : ∀ r ∈ rows, r < backend.localDB.downloadFiles.length) :
    deleteItems .download rows backend =
      .ok { backend with localDB := ⟨backend.localDB.downloadFiles.filter (fun file =>
        !removedByRows backend.localDB.downloadFiles rows file)⟩ } := by
  have h := deleteContents_keys RealmMyDownloadFile.key "" hrange
  simp only [deleteItems, RealmLocalDB.deleteDownloadContents, h]
  rfl

/-- What a reload displays once the files satisfying `p` are left. -/
theorem loadDownloadDataAction_filter {files : List RealmMyDownloadFile}
    {shown : List CompactCellItem}
    (hload : loadDownloadDataAction sortType ⟨files⟩ = .ok shown)
    (p : RealmMyDownloadFile → Bool) :
    loadDownloadDataAction sortType ⟨files.filter p⟩ =
      .ok (((sorted (displayedBefore sortType) files).filter p).map
        CompactCellItem.ofDownload) := by
  unfold loadDownloadDataAction at hload
  cases hsort : sortedDownloads sortType files with
  | error t =>
      rw [RealmLocalDB.getUserDownloadContents, hsort] at hload
      cases hload
  | ok data =>
      have hdata := sortedDownloads_eq_sorted hsort
      have hfilter := sortedDownloads_filter sortType hsort p
      rw [loadDownloadDataAction, RealmLocalDB.getUserDownloadContents, hfilter, ← hdata]
      rfl

/-- The displayed list is the sorted one. -/
theorem shown_eq_sorted {files : List RealmMyDownloadFile} {shown : List CompactCellItem}
    (hload : loadDownloadDataAction sortType ⟨files⟩ = .ok shown) :
    shown = (sorted (displayedBefore sortType) files).map CompactCellItem.ofDownload := by
  have h := loadDownloadDataAction_filter hload fun _ => true
  rw [List.filter_true, List.filter_true, hload] at h
  exact Except.ok.inj h

/-- Where the rows are displayed rows of the stored files, removing by stored or
by displayed rows is the same. -/
theorem removedByRows_sorted {files : List RealmMyDownloadFile}
    (hkeys : (files.map RealmMyDownloadFile.key).Nodup)
    (hrange : ∀ r ∈ rows, r < files.length)
    (hrows : ∀ r ∈ rows, displayedRow sortType files r ∈ rows)
    (file : RealmMyDownloadFile) :
    removedByRows files rows file =
      removedByRows (sorted (displayedBefore sortType) files) rows file := by
  have hsame := pickRows_eq_of_rows (renumbers_displayedRow sortType files) hkeys
    hrange hrows
  rw [Bool.eq_iff_iff]
  simp [removedByRows, hsame]

/-- **The reload after a deletion** shows the list without the selected rows
exactly when the stored rows are displayed at selected rows. -/
theorem reload_eq_dropRows_iff {files : List RealmMyDownloadFile}
    (hkeys : (files.map RealmMyDownloadFile.key).Nodup)
    (hrange : ∀ r ∈ rows, r < files.length) :
    ((sorted (displayedBefore sortType) files).filter
          fun file => !removedByRows files rows file).map CompactCellItem.ofDownload =
        dropRows rows
          ((sorted (displayedBefore sortType) files).map CompactCellItem.ofDownload) ↔
      ∀ r ∈ rows, displayedRow sortType files r ∈ rows := by
  have hperm := sorted_perm sortType files
  have hsortedKeys :
      ((sorted (displayedBefore sortType) files).map RealmMyDownloadFile.key).Nodup :=
    (hperm.map RealmMyDownloadFile.key).nodup_iff.mpr hkeys
  rw [dropRows_map]
  constructor
  · intro hreload
    refine (pickRows_subset_iff (renumbers_displayedRow sortType files) hsortedKeys
      hrange).mp ?_
    intro file hfile
    have hmem := hperm.mem_iff.mpr (mem_of_mem_pickRows hfile)
    rcases mem_pickRows_or_mem_dropRows rows hmem with hpicked | hdropped
    · exact hpicked
    · -- A file that is still displayed has kept its key.
      have hshown := List.mem_map_of_mem (f := CompactCellItem.ofDownload) hdropped
      rw [← hreload] at hshown
      obtain ⟨other, hother, hitem⟩ := List.mem_map.mp hshown
      have hkey : other.key = file.key :=
        Option.some.inj (congrArg CompactCellItem.key hitem)
      have hstays : removedByRows files rows other = false := by
        simpa using (List.mem_filter.mp hother).2
      have hgoes := removedByRows_of_mem hfile
      rw [removedByRows, hkey] at hstays
      rw [removedByRows, hstays] at hgoes
      cases hgoes
  · intro hrows
    rw [dropRows_eq_filter RealmMyDownloadFile.key hsortedKeys]
    congr 1
    apply List.filter_congr
    intro file _
    rw [removedByRows_sorted hkeys hrange hrows]
    rfl

/-- The files left are those that were not displayed at the rows, if every row is displayed
at one of the rows again: then the rows of the two orders pick the same files. -/
theorem filter_removed_eq_not_displayed {files : List RealmMyDownloadFile}
    (hkeys : (files.map RealmMyDownloadFile.key).Nodup)
    (hrange : ∀ r ∈ rows, r < files.length)
    (hrows : ∀ r ∈ rows, displayedRow sortType files r ∈ rows) :
    files.filter (fun file => !removedByRows files rows file) =
      files.filter fun file => decide (CompactCellItem.ofDownload file ∉
        pickRows rows ((sorted (displayedBefore sortType) files).map
          CompactCellItem.ofDownload)) := by
  apply List.filter_congr
  intro file hfile
  rw [removedByRows_sorted hkeys hrange hrows, pickRows_map]
  rw [Bool.eq_iff_iff, Bool.not_eq_true', decide_eq_true_eq, ← Bool.not_eq_true]
  apply not_congr
  constructor
  · intro hremoved
    exact List.mem_map_of_mem
      (mem_pickRows_of_removed hkeys (sorted_perm sortType files) hfile hremoved)
  · intro hdisplayed
    obtain ⟨other, hother, hitem⟩ := List.mem_map.mp hdisplayed
    have hkey : other.key = file.key :=
      Option.some.inj (congrArg CompactCellItem.key hitem)
    have hremoved := removedByRows_of_mem hother
    rw [removedByRows, hkey] at hremoved
    exact hremoved

/-- **Deleting on the download tab.**  For files with distinct keys, any sort
type and any rows of the list as it is displayed, the delete action followed by
the reload removes exactly what was displayed at the rows if and only if every
file stored at one of the rows is displayed at one of the rows. -/
theorem deletesDisplayedRows_iff {shown : List CompactCellItem}
    (hkeys : (backend.localDB.downloadFiles.map RealmMyDownloadFile.key).Nodup)
    (hload : loadDownloadDataAction sortType backend.localDB = .ok shown)
    (hrange : ∀ r ∈ rows, r < shown.length) :
    DeletesDisplayedRows sortType backend shown rows ↔
      ∀ r ∈ rows, displayedRow sortType backend.localDB.downloadFiles r ∈ rows := by
  obtain rfl := shown_eq_sorted hload
  have hstored : ∀ r ∈ rows, r < backend.localDB.downloadFiles.length := by
    intro r hr
    have hlength := (sorted_perm sortType backend.localDB.downloadFiles).length_eq
    have hshown := hrange r hr
    rw [List.length_map, hlength] at hshown
    exact hshown
  have hreload := loadDownloadDataAction_filter hload
    fun file => !removedByRows backend.localDB.downloadFiles rows file
  constructor
  · intro hdeletes
    obtain ⟨after, hdelete, _, _, hshown⟩ := hdeletes
    rw [deleteItems_download hstored] at hdelete
    obtain rfl := Except.ok.inj hdelete
    rw [hreload] at hshown
    exact (reload_eq_dropRows_iff hkeys hstored).mp (Except.ok.inj hshown)
  · intro hrows
    refine ⟨_, deleteItems_download hstored, rfl,
      filter_removed_eq_not_displayed hkeys hstored hrows, ?_⟩
    rw [hreload, (reload_eq_dropRows_iff hkeys hstored).mpr hrows]

/-- Two files of equal size, the older one stored first. -/
def twoDownloads : Backend where
  localDB := { downloadFiles :=
    [{ key := "0", createDate := some 0 }, { key := "1", createDate := some 1000 }] }

/-- The two files sorted by size, where they tie: the first row can be deleted, since a
stable sort displays them as they are stored. -/
theorem deletesDisplayedRows_by_size :
    DeletesDisplayedRows .size twoDownloads
        (twoDownloads.localDB.downloadFiles.map CompactCellItem.ofDownload) [0] ↔
      ∀ r ∈ [0], displayedRow .size twoDownloads.localDB.downloadFiles r ∈ [0] :=
  deletesDisplayedRows_iff (by decide)
    (by simp [loadDownloadDataAction, sortedDownloads, sorted, twoDownloads,
      RealmLocalDB.getUserDownloadContents, displayedBefore, List.mergeSort, Except.map])
    (by decide)

/-- **The download tab can delete the wrong file.**  Sorted by date the newer
file is in the first row, but deleting this row removes the older one. -/
theorem download_tab_deletes_other_file :
    ¬ ∀ (sortType : DownloadSortingType) (backend : Backend)
        (shown : List CompactCellItem) (rows : List Nat),
      (backend.localDB.downloadFiles.map RealmMyDownloadFile.key).Nodup →
      loadDownloadDataAction sortType backend.localDB = .ok shown →
      rows ≠ [] → (∀ r ∈ rows, r < shown.length) →
      DeletesDisplayedRows sortType backend shown rows := by
  intro hdeletesDisplayed
  have hload : loadDownloadDataAction .download twoDownloads.localDB =
      .ok (twoDownloads.localDB.downloadFiles.reverse.map CompactCellItem.ofDownload) := by
    simp [loadDownloadDataAction, sortedDownloads, sorted, twoDownloads,
      RealmLocalDB.getUserDownloadContents, displayedBefore, List.mergeSort, Except.map]
  obtain ⟨after, hdelete, _, hleft, _⟩ :=
    hdeletesDisplayed .download twoDownloads _ [0] (by decide) hload (by decide) (by decide)
  have hafter : deleteItems .download [0] twoDownloads =
      .ok { localDB := ⟨twoDownloads.localDB.downloadFiles.tail⟩ } := by rfl
  rw [hafter] at hdelete
  obtain rfl := Except.ok.inj hdelete
  revert hleft
  decide

end DeleteAndReload

end Activity
