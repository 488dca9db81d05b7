import Pineone.ActivityItems
import Pineone.Rows
import Pineone.SwiftText
import Mathlib.Data.Rat.Cast.Defs

/-!
# The stores behind the activity table

`Server` keeps the recently-viewed, liked and reply lists, `RealmLocalDB` the
downloaded files.  A deletion names its items by their rows: `deleteItems`
prints the rows as one text, the store splits the text, reads the numbers,
looks the keys up at these positions of its own list and filters by key.

* `deleteContents_rows`: for rows in range and distinct keys this drops exactly
  the elements at the rows;
* `deleteContents_out_of_range`: any row past the end is a trap.
-/

namespace Activity

open Swift Rows

/-- The text `deleteItems` sends: the row numbers, joined by commas. -/
def encodeRows (indexPaths : List Nat) : String :=
  joined "," (indexPaths.map fun row => toString row)

section DeleteContents

variable {α κ : Type} [BEq κ] (keyOf : α → κ) (missing : κ)

/-- The key a store looks up for one piece of the text. -/
def keyAt (list : List α) (string : String) : Result κ :=
  match intOfString string with
  | some index => (subscript list index).map keyOf
  | none => .ok missing

/-- The body the four delete functions share: `keyOf` is the key of an element
of their list, `missing` the key that stands for an unreadable number. -/
def deleteContents (list : List α) (indexPathString : String) :
    Result (List α) := do
  let splitedIndexPathString := split ',' indexPathString
  let keys ← splitedIndexPathString.mapM (keyAt keyOf missing list)
  return list.filter fun x => !keys.contains (keyOf x)

/-- The store gets back the row numbers that were sent: they are decimal numbers, joined by a
comma that none of them contains. -/
theorem split_encodeRows (rows : List Nat) :
    split ',' (encodeRows rows) = rows.map fun row => toString row := by
  apply split_joined
  intro piece hpiece
  obtain ⟨n, _, rfl⟩ := List.mem_map.mp hpiece
  refine ⟨fun hempty => toString_toList_ne_nil n (by simp [hempty]), fun hcomma => ?_⟩
  exact absurd (isDigit_of_mem_toString hcomma) (by decide)

omit [BEq κ] in
/-- The number that the row was printed as is read back, and the key of the element in that
row is found. -/
theorem keyAt_toString {list : List α} {row : Nat} {x : α}
    (h : list[row]? = some x) :
    keyAt keyOf missing list (toString row) = .ok (keyOf x) := by
  unfold keyAt
  rw [intOfString_toString]
  simp [subscript_natCast h, Except.map]

omit [BEq κ] in
/-- A row past the end of the list is read back as well, and the subscript traps. The store
checks neither the row nor the length of its list. -/
theorem keyAt_toString_none {list : List α} {row : Nat}
    (h : list[row]? = none) :
    keyAt keyOf missing list (toString row) = .error .indexOutOfRange := by
  unfold keyAt
  rw [intOfString_toString]
  simp [subscript_natCast_none h, Except.map]

omit [BEq κ] in
/-- Rows in range are turned into the keys of the picked elements, one for each row, in the
order in which the rows were sent. -/
theorem mapM_keyAt {list : List α} {rows : List Nat}
    (h : ∀ r ∈ rows, r < list.length) :
    (rows.map fun row => toString row).mapM (keyAt keyOf missing list) =
      .ok ((pickRows rows list).map keyOf) := by
  induction rows with
  | nil => rfl
  | cons r rows ih =>
      obtain ⟨x, hr⟩ : ∃ x, list[r]? = some x :=
        ⟨_, List.getElem?_eq_getElem (h r List.mem_cons_self)⟩
      have hpick : pickRows (r :: rows) list = x :: pickRows rows list := by
        simp [pickRows, hr]
      rw [List.map_cons, List.mapM_cons, keyAt_toString keyOf missing hr,
        ih fun s hs => h s (List.mem_cons_of_mem r hs), hpick]
      rfl

omit [BEq κ] in
/-- One row past the end is enough: the rows before it are looked up, and then the subscript
traps. -/
theorem mapM_keyAt_out_of_range {list : List α} {rows : List Nat}
    (h : ∃ r ∈ rows, list.length ≤ r) :
    (rows.map fun row => toString row).mapM (keyAt keyOf missing list) =
      .error .indexOutOfRange := by
  induction rows with
  | nil => obtain ⟨r, hr, _⟩ := h; cases hr
  | cons r rows ih =>
      rw [List.map_cons, List.mapM_cons]
      cases hr : list[r]? with
      | none =>
          rw [keyAt_toString_none keyOf missing hr]
          rfl
      | some x =>
          have htail : ∃ s ∈ rows, list.length ≤ s := by
            obtain ⟨s, hs, hlen⟩ := h
            rcases List.mem_cons.mp hs with rfl | hs
            · have := (List.getElem?_eq_some_iff.mp hr).1
              omega
            · exact ⟨s, hs, hlen⟩
          rw [keyAt_toString keyOf missing hr, ih htail]
          rfl

/-- The keys are looked up first; the filter never fails. So a deletion either traps and
removes nothing, or removes every element with one of the keys. -/
theorem deleteContents_eq_map (list : List α) (indexPathString : String) :
    deleteContents keyOf missing list indexPathString =
      ((split ',' indexPathString).mapM (keyAt keyOf missing list)).map fun keys =>
        list.filter fun x => !keys.contains (keyOf x) :=
  Result.bind_pure_eq_map _ _

/-- **What a store does with rows in range.**  It keeps the elements whose keys
are not among those at the rows. -/
theorem deleteContents_keys {list : List α} {rows : List Nat}
    (h : ∀ r ∈ rows, r < list.length) :
    deleteContents keyOf missing list (encodeRows rows) =
      .ok (list.filter fun x =>
        !((pickRows rows list).map keyOf).contains (keyOf x)) := by
  rw [deleteContents_eq_map, split_encodeRows, mapM_keyAt keyOf missing h]
  rfl

/-- **Deleting rows in range.**  With distinct keys exactly the elements at the
rows go. -/
theorem deleteContents_rows [LawfulBEq κ] {list : List α} {rows : List Nat}
    (hnd : (list.map keyOf).Nodup) (h : ∀ r ∈ rows, r < list.length) :
    deleteContents keyOf missing list (encodeRows rows) =
      .ok (dropRows rows list) := by
  rw [deleteContents_keys keyOf missing h, dropRows_eq_filter keyOf hnd]

/-- **Deleting a row past the end** is a trap, however many of the other rows are in range. -/
theorem deleteContents_out_of_range {list : List α} {rows : List Nat}
    (h : ∃ r ∈ rows, list.length ≤ r) :
    deleteContents keyOf missing list (encodeRows rows) =
      .error .indexOutOfRange := by
  rw [deleteContents_eq_map, split_encodeRows, mapM_keyAt_out_of_range keyOf missing h]
  rfl

omit [BEq κ] in
/-- Looking up a key can only fail by running past the end of the list. -/
theorem keyAt_error {list : List α} {string : String} {t : Trap}
    (h : keyAt keyOf missing list string = .error t) : t = .indexOutOfRange := by
  unfold keyAt at h
  split at h
  · have hindex := Result.map_eq_error.mp h
    unfold subscript at hindex
    split at hindex
    · split at hindex
      · cases hindex
      · exact (Except.error.inj hindex).symm
    · exact (Except.error.inj hindex).symm
  · cases h

/-- A deletion traps for no other reason than a row past the end of the list, whatever text
of rows it is given. -/
theorem deleteContents_error {list : List α} {indexPathString : String} {t : Trap}
    (h : deleteContents keyOf missing list indexPathString = .error t) :
    t = .indexOutOfRange := by
  rw [deleteContents_eq_map] at h
  have hkeys := Result.map_eq_error.mp h
  generalize split ',' indexPathString = pieces at hkeys
  induction pieces with
  | nil => cases hkeys
  | cons piece pieces ih =>
      rw [List.mapM_cons] at hkeys
      rcases Result.bind_eq_error.mp hkeys with hpiece | ⟨key, _, hrest⟩
      · exact keyAt_error keyOf missing hpiece
      · rcases Result.bind_eq_error.mp hrest with hpieces | ⟨keys, _, hpure⟩
        · exact ih hpieces
        · cases hpure

end DeleteContents

/-- `$0.key ?? -1` of the server's lists. -/
def RecentlyLikeList.storeKey (item : RecentlyLikeList) : Int := item.key.getD (-1)

/-- `$0.key ?? -1` of the reply list. -/
def ReplyList.storeKey (item : ReplyList) : Int := item.key.getD (-1)

structure Server where
  recentlyList : List RecentlyLikeList := []
  likeList : List RecentlyLikeList := []
  replyList : List ReplyList := []
  deriving DecidableEq, Repr

namespace Server

/-- The element `setServerData` appends to the recently-viewed list. -/
def recentlyData (i : Nat) : RecentlyLikeList where
  key := some i
  name := some ("최근" ++ toString i)
  type := some .performance
  image_url := none
  playtime := some (toString i)
  req_date := some ((((i : Int) - 1) * 86400000 : Int) : Rat)
  visible_yn := some (if i % 4 ≠ 0 then "Y" else "N")
  sb_info := some {
    view_cnt := some i
    like_cnt := some (i * 2 : Nat)
    reply_cnt := some (i * 3 : Nat) }
  type_badge_url := none
  event_badge_url := none
  start_dt := some (i : Rat)
  end_dt := some 200000000000000000
  adult_yn := some (if i % 2 = 0 then .N else .Y)
  downloadable := some (if i % 2 = 0 then .N else .Y)

/-- The element `setServerData` appends to the liked list. -/
def likeData (i : Nat) : RecentlyLikeList where
  key := some (i * 10 : Nat)
  name := some ("찜" ++ toString (i * 10))
  type := some .performance
  image_url := none
  playtime := some (toString (i * 10))
  req_date := some ((((i : Int) - 1) * 86400000 * 31 : Int) : Rat)
  visible_yn := some (if i % 5 ≠ 0 then "Y" else "N")
  sb_info := some {
    view_cnt := some (i * 10 : Nat)
    like_cnt := some (i * 20 : Nat)
    reply_cnt := some (i * 30 : Nat) }
  type_badge_url := none
  event_badge_url := none
  start_dt := some (i : Rat)
  end_dt := some 200000000000000000
  adult_yn := some (if i % 2 ≠ 0 then .N else .Y)
  downloadable := some (if i % 2 ≠ 0 then .N else .Y)

/-- The element `setServerData` appends to the reply list. -/
def replyData (i : Nat) : ReplyList where
  key := some i
  user_key := some (i * 10000 : Nat)
  user_name := some ("유저" ++ toString i)
  reply_text := some ("댓글내용" ++ toString i)
  reply_status := some ("댓글상태" ++ toString i)
  mod_date := some ((((i : Int) - 1) * 86400000 : Int) : Rat)
  contents_info := some {
    key := some (toString i)
    name := some ("컨텐츠이름" ++ toString i)
    start_dt := some (i : Rat)
    end_dt := some 200000000000000000 }

/-- One turn of the loop of `setServerData`. -/
def appendData (server : Server) (i : Nat) : Server where
  recentlyList := server.recentlyList ++ [recentlyData i]
  likeList := server.likeList ++ [likeData i]
  replyList := server.replyList ++ [replyData i]

/-- `setServerData(dataAmount:)`; the range `0..<dataAmount` of a negative
amount cannot be formed. -/
def setServerData (server : Server) (dataAmount : Int) : Result Server :=
  if dataAmount < 0 then .error .invalidRange
  else .ok ((List.range dataAmount.toNat).foldl appendData server)

def getUserRecentlyContents (server : Server) : List RecentlyLikeList :=
  server.recentlyList

def getUserLikeContents (server : Server) : List RecentlyLikeList :=
  server.likeList

def getUserReplyContents (server : Server) : List ReplyList :=
  server.replyList

def deleteUserRecentlyContents (server : Server) (indexPathString : String) :
    Result Server :=
  (deleteContents RecentlyLikeList.storeKey (-1) server.recentlyList
    indexPathString).map fun list => { server with recentlyList := list }

def deleteUserLikeContents (server : Server) (indexPathString : String) :
    Result Server :=
  (deleteContents RecentlyLikeList.storeKey (-1) server.likeList
    indexPathString).map fun list => { server with likeList := list }

def deleteUserReplyContents (server : Server) (indexPathString : String) :
    Result Server :=
  (deleteContents ReplyList.storeKey (-1) server.replyList
    indexPathString).map fun list => { server with replyList := list }

/-- The keys of each list are pairwise distinct. -/
structure KeysDistinct (server : Server) : Prop where
  recently : (server.recentlyList.map RecentlyLikeList.storeKey).Nodup
  like : (server.likeList.map RecentlyLikeList.storeKey).Nodup
  reply : (server.replyList.map ReplyList.storeKey).Nodup

end Server

structure RealmLocalDB where
  downloadFiles : List RealmMyDownloadFile := []
  deriving DecidableEq, Repr

namespace RealmLocalDB

def getUserDownloadContents (db : RealmLocalDB) : List RealmMyDownloadFile :=
  db.downloadFiles

def deleteDownloadContents (db : RealmLocalDB) (indexPathString : String) :
    Result RealmLocalDB :=
  (deleteContents RealmMyDownloadFile.key "" db.downloadFiles
    indexPathString).map fun list => { db with downloadFiles := list }

end RealmLocalDB

/-- The two shared stores, `Server.shared` and `RealmLocalDB.shared`. -/
structure Backend where
  server : Server := {}
  localDB : RealmLocalDB := {}
  deriving DecidableEq, Repr

/-- `CompactViewModel.deleteItems` with the delete action it feeds: the rows are
printed and the store of the tab removes them. -/
def deleteItems (activityDetail : ActivityDetail) (indexPaths : List Nat)
    (backend : Backend) : Result Backend :=
  let result := encodeRows indexPaths
  match activityDetail with
  | .recently =>
      (backend.server.deleteUserRecentlyContents result).map fun server =>
        { backend with server := server }
  | .download =>
      (backend.localDB.deleteDownloadContents result).map fun localDB =>
        { backend with localDB := localDB }
  | .like =>
      (backend.server.deleteUserLikeContents result).map fun server =>
        { backend with server := server }
  | .reply =>
      (backend.server.deleteUserReplyContents result).map fun server =>
        { backend with server := server }

/-- A deletion can only fail by running past the end of a list, whichever of the stores it is
for. -/
theorem deleteItems_error {activityDetail : ActivityDetail} {indexPaths : List Nat}
    {backend : Backend} {t : Trap}
    (h : deleteItems activityDetail indexPaths backend = .error t) :
    t = .indexOutOfRange := by
  cases activityDetail <;>
    exact deleteContents_error _ _ (Result.map_eq_error.mp (Result.map_eq_error.mp h))

end Activity
