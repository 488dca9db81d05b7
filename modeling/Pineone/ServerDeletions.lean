import Pineone.ActivityStore
import Std.Data.String.ToInt

/-!
# Deletions on the server's lists

What the server is for, on the level of rows: a deletion takes the items at some
rows of one of the three lists and leaves everything else alone
(`Backend.dropRows`).  The code reaches this through text, numbers and keys, so
it needs the keys of a list to stay pairwise distinct.  They are after
`setServerData` and a removal keeps them so; hence every run of deletions in
range is, step by step, the run of positional removals.
-/

namespace Activity

open Swift Rows

/-- The three lists the server keeps. -/
inductive ServerList
  | recently
  | like
  | reply
  deriving DecidableEq, Repr

/-- The tab that shows a list. -/
def ServerList.activityDetail : ServerList → ActivityDetail
  | .recently => .recently
  | .like => .like
  | .reply => .reply

/-- One deletion: the rows `rows` of the list `list`. -/
structure Deletion where
  list : ServerList
  rows : List Nat
  deriving DecidableEq, Repr

namespace Server

def count (server : Server) : ServerList → Nat
  | .recently => server.recentlyList.length
  | .like => server.likeList.length
  | .reply => server.replyList.length

/-- What the load actions of the server's tabs put into `tableRelay`. -/
def items (server : Server) : ServerList → List CompactCellItem
  | .recently => server.getUserRecentlyContents.map CompactCellItem.ofRecentlyLike
  | .like => server.getUserLikeContents.map CompactCellItem.ofRecentlyLike
  | .reply => server.getUserReplyContents.map CompactCellItem.ofReply

/-- A tab shows as many items as the server has in its list. -/
theorem length_items (server : Server) (list : ServerList) :
    (server.items list).length = server.count list := by
  cases list <;> simp [items, count, getUserRecentlyContents, getUserLikeContents,
    getUserReplyContents]

/-- The server without the items at the rows of a deletion. -/
def dropRows (server : Server) (d : Deletion) : Server :=
  match d.list with
  | .recently =>
      { server with recentlyList := Rows.dropRows d.rows server.recentlyList }
  | .like => { server with likeList := Rows.dropRows d.rows server.likeList }
  | .reply => { server with replyList := Rows.dropRows d.rows server.replyList }

/-- A removal keeps the keys of each list distinct; two of the lists it does not touch at
all. -/
theorem KeysDistinct.dropRows {server : Server} (h : server.KeysDistinct)
    (d : Deletion) : (server.dropRows d).KeysDistinct := by
  obtain ⟨list, rows⟩ := d
  cases list with
  | recently => exact ⟨nodup_keys_dropRows h.recently rows, h.like, h.reply⟩
  | like => exact ⟨h.recently, nodup_keys_dropRows h.like rows, h.reply⟩
  | reply => exact ⟨h.recently, h.like, nodup_keys_dropRows h.reply rows⟩

/-- The tab of the list then shows its items without those rows. -/
theorem items_dropRows (server : Server) (d : Deletion) :
    (server.dropRows d).items d.list = Rows.dropRows d.rows (server.items d.list) := by
  obtain ⟨list, rows⟩ := d
  cases list <;> exact (dropRows_map _ _ _).symm

/-- The displayed keys are the printed keys, so they are distinct as well. -/
theorem KeysDistinct.items {server : Server} (h : server.KeysDistinct)
    (list : ServerList) : ((server.items list).map CompactCellItem.key).Nodup := by
  have hprint : Function.Injective fun key : Int => some (toString key) :=
    fun _ _ hkey => Int.repr_injective (Option.some.inj hkey)
  cases list with
  | recently =>
      have hkeys := h.recently.map hprint
      rw [List.map_map] at hkeys
      rw [Server.items, List.map_map]
      exact hkeys
  | like =>
      have hkeys := h.like.map hprint
      rw [List.map_map] at hkeys
      rw [Server.items, List.map_map]
      exact hkeys
  | reply =>
      have hkeys := h.reply.map hprint
      rw [List.map_map] at hkeys
      rw [Server.items, List.map_map]
      exact hkeys

/-- The loop of `setServerData` appends one element for each number. -/
theorem foldl_appendData (server : Server) (n : Nat) :
    (List.range n).foldl appendData server =
      { recentlyList := server.recentlyList ++ (List.range n).map recentlyData
        likeList := server.likeList ++ (List.range n).map likeData
        replyList := server.replyList ++ (List.range n).map replyData } := by
  induction n with
  | zero => simp
  | succ n ih =>
      rw [List.range_succ, List.foldl_append, ih]
      simp [appendData, List.append_assoc]

/-- What `setServerData` makes of empty lists. -/
def demo (n : Nat) : Server where
  recentlyList := (List.range n).map recentlyData
  likeList := (List.range n).map likeData
  replyList := (List.range n).map replyData

/-- The loop of the set-up runs from zero to below `n`, and traps for no `n`. -/
theorem setServerData_empty (n : Nat) :
    ({} : Server).setServerData n = .ok (demo n) := by
  have hnonneg : ¬ (n : Int) < 0 := by omega
  rw [setServerData, if_neg hnonneg, Int.toNat_natCast, foldl_appendData]
  rfl

/-- The demo data has pairwise distinct keys in each list: the key of an element is made from
its number. -/
theorem keysDistinct_demo (n : Nat) : (demo n).KeysDistinct := by
  have hnd : (List.range n).Nodup := List.nodup_range
  constructor
  · rw [demo, List.map_map]
    exact hnd.map fun i j h => by
      simpa [recentlyData, RecentlyLikeList.storeKey] using h
  · rw [demo, List.map_map]
    exact hnd.map fun i j h => by
      simpa [likeData, RecentlyLikeList.storeKey] using h
  · rw [demo, List.map_map]
    exact hnd.map fun i j h => by
      simpa [replyData, ReplyList.storeKey] using h

end Server

namespace Backend

def dropRows (backend : Backend) (d : Deletion) : Backend :=
  { backend with server := backend.server.dropRows d }

end Backend

/-- The rows of the deletion are rows of its list, and there is one. -/
def Deletion.InRange (d : Deletion) (server : Server) : Prop :=
  d.rows ≠ [] ∧ ∀ r ∈ d.rows, r < server.count d.list

/-- Each deletion of the sequence is in range of its list at that time. -/
def InRangeRun : Server → List Deletion → Prop
  | _, [] => True
  | server, d :: ds => d.InRange server ∧ InRangeRun (server.dropRows d) ds

/-- The deletions of a sequence, carried out in turn by the code. -/
def runDeletions (backend : Backend) (ds : List Deletion) : Result Backend :=
  ds.foldlM (fun backend d => deleteItems d.list.activityDetail d.rows backend)
    backend

/-- **One deletion in range** removes exactly the items at its rows. The store removes by
keys, and with distinct keys these are the items of the rows. -/
theorem deleteItems_eq_dropRows {backend : Backend} {d : Deletion}
    (hkeys : backend.server.KeysDistinct) (hrange : d.InRange backend.server) :
    deleteItems d.list.activityDetail d.rows backend =
      .ok (backend.dropRows d) := by
  obtain ⟨list, rows⟩ := d
  cases list with
  | recently =>
      have h := deleteContents_rows RecentlyLikeList.storeKey (-1) hkeys.recently hrange.2
      simp only [deleteItems, ServerList.activityDetail, Server.deleteUserRecentlyContents, h]
      rfl
  | like =>
      have h := deleteContents_rows RecentlyLikeList.storeKey (-1) hkeys.like hrange.2
      simp only [deleteItems, ServerList.activityDetail, Server.deleteUserLikeContents, h]
      rfl
  | reply =>
      have h := deleteContents_rows ReplyList.storeKey (-1) hkeys.reply hrange.2
      simp only [deleteItems, ServerList.activityDetail, Server.deleteUserReplyContents, h]
      rfl

/-- **One deletion out of range** is a trap, and nothing is removed by it: the keys are
looked up before the list is filtered. -/
theorem deleteItems_out_of_range {backend : Backend} {d : Deletion}
    (hout : ∃ r ∈ d.rows, backend.server.count d.list ≤ r) :
    deleteItems d.list.activityDetail d.rows backend = .error .indexOutOfRange := by
  obtain ⟨list, rows⟩ := d
  cases list with
  | recently =>
      have h := deleteContents_out_of_range RecentlyLikeList.storeKey (-1) hout
      simp only [deleteItems, ServerList.activityDetail, Server.deleteUserRecentlyContents, h]
      rfl
  | like =>
      have h := deleteContents_out_of_range RecentlyLikeList.storeKey (-1) hout
      simp only [deleteItems, ServerList.activityDetail, Server.deleteUserLikeContents, h]
      rfl
  | reply =>
      have h := deleteContents_out_of_range ReplyList.storeKey (-1) hout
      simp only [deleteItems, ServerList.activityDetail, Server.deleteUserReplyContents, h]
      rfl

/-- **A run of deletions** in range is the run of positional removals, and keeps
the keys distinct. -/
theorem runDeletions_eq_dropRows {backend : Backend} {ds : List Deletion}
    (hkeys : backend.server.KeysDistinct) (hrange : InRangeRun backend.server ds) :
    runDeletions backend ds = .ok (ds.foldl Backend.dropRows backend) ∧
      (ds.foldl Backend.dropRows backend).server.KeysDistinct := by
  induction ds generalizing backend with
  | nil => exact ⟨rfl, hkeys⟩
  | cons d ds ih =>
      obtain ⟨hd, hds⟩ := hrange
      have hafter : (backend.dropRows d).server.KeysDistinct := hkeys.dropRows d
      obtain ⟨hrun, hdistinct⟩ := ih hafter hds
      refine ⟨?_, hdistinct⟩
      rw [runDeletions, List.foldlM_cons, deleteItems_eq_dropRows hkeys hd]
      exact hrun

/-- **The recently-viewed, liked and reply tabs delete what was selected.**
Fill the empty lists once; then every sequence of deletions, each of a nonempty
set of rows in range of its list at that time, runs without a trap, removes at
each step exactly the items at the given rows of that list, and leaves the keys
of every list pairwise distinct. -/
theorem deletions_drop_selected_rows (n : Nat) (localDB : RealmLocalDB) :
    ∃ server, ({} : Server).setServerData n = .ok server ∧
      ∀ ds, InRangeRun server ds →
        runDeletions { server, localDB } ds =
            .ok (ds.foldl Backend.dropRows { server, localDB }) ∧
          (ds.foldl Backend.dropRows { server, localDB }).server.KeysDistinct := by
  refine ⟨_, Server.setServerData_empty n, fun ds hrange => ?_⟩
  exact runDeletions_eq_dropRows (Server.keysDistinct_demo n) hrange

/-- Three contents in each list.  The first and the last recently-viewed ones go, then the
second liked one, and then the recently-viewed content that is left: it is in the first
row now. -/
theorem deletions_drop_selected_rows_three :
    ∃ server, ({} : Server).setServerData 3 = .ok server ∧
      runDeletions { server, localDB := ⟨[]⟩ }
          [⟨.recently, [0, 2]⟩, ⟨.like, [1]⟩, ⟨.recently, [0]⟩] =
        .ok ([⟨.recently, [0, 2]⟩, ⟨.like, [1]⟩, ⟨.recently, [0]⟩].foldl Backend.dropRows
          { server, localDB := ⟨[]⟩ }) := by
  obtain ⟨server, hfill, hdeletions⟩ := deletions_drop_selected_rows 3 ⟨[]⟩
  obtain rfl := Except.ok.inj ((Server.setServerData_empty 3).symm.trans hfill)
  have hrange : InRangeRun (Server.demo 3)
      [⟨.recently, [0, 2]⟩, ⟨.like, [1]⟩, ⟨.recently, [0]⟩] := by
    refine ⟨⟨by decide, by decide⟩, ⟨by decide, by decide⟩, ⟨by decide, by decide⟩, trivial⟩
  exact ⟨_, hfill, (hdeletions _ hrange).1⟩

end Activity
