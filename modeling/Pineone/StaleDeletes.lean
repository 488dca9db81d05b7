import Pineone.Runs
import Pineone.ServerDeletions
import Mathlib.Data.List.NodupEquivFin
import Mathlib.Logic.Function.Basic

/-!
# Delete requests on a list that has changed

Several view models can work on the same list of the server, and one view can
have several delete confirmations open.  A request names rows of the list its
requester had loaded, `shown`, but the server looks the rows up in the list it
has when the request is confirmed.

What the server has left of a list is always a sublist of what any pending
request was chosen from (`Consistent`).  Under this invariant a confirmed
request deletes only what its requester selected exactly when nothing displayed
at or above its rows has been removed meanwhile; otherwise it removes other
items or runs past the end of the list.
-/

namespace Activity

open Swift Rows Runs

section

variable {ι : Type}

/-- A delete confirmation waiting for its answer: who asks, for which rows, and
what was displayed when they were chosen. -/
structure DeleteRequest (ι : Type) where
  requester : ι
  rows : List Nat
  shown : List CompactCellItem

/-- The view models `ι` working on one list, each with the list it has loaded,
and the confirmations on the screen. -/
structure Session (ι : Type) where
  backend : Backend
  tableRelay : ι → List CompactCellItem
  alerts : List (DeleteRequest ι)

/-- Before any view model has loaded. -/
def Session.start (backend : Backend) : Session ι where
  backend := backend
  tableRelay := fun _ => []
  alerts := []

inductive SessionEvent (ι : Type)
  /-- A view model loads the list. -/
  | load (viewModel : ι)
  /-- The user selects rows and taps the delete button. -/
  | choose (viewModel : ι) (rows : List Nat)
  /-- The user confirms one of the confirmations. -/
  | confirm (alert : Nat)
  /-- The user dismisses one of the confirmations. -/
  | dismiss (alert : Nat)

namespace Session

variable (list : ServerList)

def items (s : Session ι) : List CompactCellItem := s.backend.server.items list

/-- `refreshData` -/
def refreshData [DecidableEq ι] (s : Session ι) (viewModel : ι) : Session ι :=
  { s with tableRelay := Function.update s.tableRelay viewModel (s.items list) }

/-- `deleteItems`, then the reload of the requester. -/
def confirm [DecidableEq ι] (s : Session ι) (alert : Nat) (request : DeleteRequest ι) :
    Result (Session ι) :=
  (deleteItems list.activityDetail request.rows s.backend).map fun backend =>
    refreshData list { s with backend := backend, alerts := s.alerts.eraseIdx alert }
      request.requester

/-- One step of the session; after a trap nothing happens any more. -/
def step [DecidableEq ι] : Result (Session ι) → SessionEvent ι → Option (Result (Session ι))
  | .error _, _ => none
  | .ok s, .load viewModel => some (.ok (s.refreshData list viewModel))
  | .ok s, .choose viewModel rows =>
      if rows ≠ [] ∧ ∀ r ∈ rows, r < (s.tableRelay viewModel).length then
        some (.ok { s with alerts := s.alerts ++ [⟨viewModel, rows, s.tableRelay viewModel⟩] })
      else none
  | .ok s, .confirm alert =>
      (s.alerts[alert]?).map fun request => s.confirm list alert request
  | .ok s, .dismiss alert =>
      (s.alerts[alert]?).map fun _ => .ok { s with alerts := s.alerts.eraseIdx alert }

/-- A confirmed request does not trap, and removes only items that its requester
was displaying at the selected rows. -/
def DeletesSelected (s : Result (Session ι)) (e : SessionEvent ι)
    (t : Result (Session ι)) : Prop :=
  match s, e with
  | .ok s, .confirm alert => ∀ request ∈ s.alerts[alert]?, ∃ after, t = .ok after ∧
      ∀ item ∈ s.items list, item ∉ after.items list →
        item ∈ pickRows request.rows request.shown
  | _, _ => True

/-- Nothing the requester of a confirmed request displayed at or above its rows
has been removed from the server. -/
def NothingGone (s : Result (Session ι)) (e : SessionEvent ι)
    (_ : Result (Session ι)) : Prop :=
  match s, e with
  | .ok s, .confirm alert => ∀ request ∈ s.alerts[alert]?,
      ∀ r ∈ request.rows, ∀ j ≤ r, ∀ item, request.shown[j]? = some item →
        item ∈ s.items list
  | _, _ => True

/-- The older list `shown` still has everything in `items`, under distinct
keys. -/
structure Older (items shown : List CompactCellItem) : Prop where
  sublist : items.Sublist shown
  keys : (shown.map CompactCellItem.key).Nodup

/-- An older list stays older when the server loses more items: what is left is still a part
of what is shown, in the same order. -/
theorem Older.after {items shown left : List CompactCellItem} (h : Older items shown)
    (hleft : left.Sublist items) : Older left shown :=
  ⟨hleft.trans h.sublist, h.keys⟩

/-- A request names rows, at least one, of a list the server has a part of. -/
structure Pending (items : List CompactCellItem) (request : DeleteRequest ι) : Prop where
  nonempty : request.rows ≠ []
  inRange : ∀ r ∈ request.rows, r < request.shown.length
  older : Older items request.shown

/-- What holds in every state a session reaches. -/
structure Consistent (s : Session ι) : Prop where
  keys : s.backend.server.KeysDistinct
  relays : ∀ viewModel, s.tableRelay viewModel = [] ∨
    Older (s.items list) (s.tableRelay viewModel)
  pending : ∀ request ∈ s.alerts, Pending (s.items list) request

/-- The invariant as a property of the states of a run. -/
def Invariant (s : Result (Session ι)) : Prop :=
  ∀ session, s = .ok session → Consistent list session

variable {list} {s : Session ι}

/-- At the start the relays are empty and nothing is asked for. -/
theorem consistent_start {backend : Backend} (hkeys : backend.server.KeysDistinct) :
    Consistent list (start backend : Session ι) where
  keys := hkeys
  relays := fun _ => Or.inl rfl
  pending := fun _ h => absurd h List.not_mem_nil

/-- A load brings the list of its view model up to date; the lists of the others get no
younger. -/
theorem Consistent.refreshData [DecidableEq ι] (h : Consistent list s) (viewModel : ι) :
    Consistent list (s.refreshData list viewModel) where
  keys := h.keys
  relays := by
    intro other
    by_cases hother : other = viewModel
    · subst hother
      right
      have hitems : (s.refreshData list other).tableRelay other = s.items list :=
        Function.update_self ..
      rw [hitems]
      exact ⟨List.Sublist.refl _, h.keys.items list⟩
    · have hitems : (s.refreshData list viewModel).tableRelay other = s.tableRelay other :=
        Function.update_of_ne hother ..
      rw [hitems]
      exact h.relays other
  pending := h.pending

/-- A request that is asked for now is about the list its view model shows. -/
theorem Consistent.choose (h : Consistent list s) {viewModel : ι} {rows : List Nat}
    (hrows : rows ≠ []) (hrange : ∀ r ∈ rows, r < (s.tableRelay viewModel).length) :
    Consistent list
      { s with alerts := s.alerts ++ [⟨viewModel, rows, s.tableRelay viewModel⟩] } where
  keys := h.keys
  relays := h.relays
  pending := by
    intro request hrequest
    rcases List.mem_append.mp hrequest with hold | hnew
    · exact h.pending request hold
    · obtain rfl := List.mem_singleton.mp hnew
      rcases h.relays viewModel with hempty | holder
      · obtain ⟨r, hr⟩ := List.exists_mem_of_ne_nil rows hrows
        have := hrange r hr
        simp [hempty] at this
      · exact ⟨hrows, hrange, holder⟩

/-- Taking back a request leaves the other ones. -/
theorem Consistent.dismiss (h : Consistent list s) (alert : Nat) :
    Consistent list { s with alerts := s.alerts.eraseIdx alert } where
  keys := h.keys
  relays := h.relays
  pending := fun request hrequest => h.pending request (List.mem_of_mem_eraseIdx hrequest)

/-- What a removal of rows leaves of the list. -/
theorem items_dropRows (rows : List Nat) :
    (s.backend.dropRows ⟨list, rows⟩).server.items list =
      Rows.dropRows rows (s.items list) :=
  Server.items_dropRows _ ⟨list, rows⟩

/-- A removal of rows leaves every list that was loaded earlier older, that of the view model
that asked for it included until it reloads. -/
theorem Consistent.dropRows (h : Consistent list s) (rows : List Nat) :
    Consistent list { s with backend := s.backend.dropRows ⟨list, rows⟩ } := by
  have hless := dropRows_sublist rows (s.items list)
  rw [← items_dropRows] at hless
  constructor
  · exact h.keys.dropRows _
  · intro viewModel
    rcases h.relays viewModel with hempty | holder
    · exact Or.inl hempty
    · exact Or.inr (holder.after hless)
  · intro request hrequest
    obtain ⟨hnonempty, hrange, holder⟩ := h.pending request hrequest
    exact ⟨hnonempty, hrange, holder.after hless⟩

/-- **What confirming does.**  With all rows in range of the present list the
items at these rows go; otherwise the request traps. -/
theorem confirm_cases [DecidableEq ι] (h : Consistent list s) {alert : Nat}
    {request : DeleteRequest ι} (hrequest : request ∈ s.alerts) :
    ((∀ r ∈ request.rows, r < (s.items list).length) ∧
        s.confirm list alert request = .ok (Session.refreshData list
          { s with backend := s.backend.dropRows ⟨list, request.rows⟩,
                   alerts := s.alerts.eraseIdx alert } request.requester)) ∨
      ((∃ r ∈ request.rows, (s.items list).length ≤ r) ∧
        s.confirm list alert request = .error .indexOutOfRange) := by
  have hcount : (s.items list).length = s.backend.server.count list :=
    Server.length_items _ _
  by_cases hrange : ∀ r ∈ request.rows, r < (s.items list).length
  · left
    have hinRange : (⟨list, request.rows⟩ : Deletion).InRange s.backend.server :=
      ⟨(h.pending request hrequest).nonempty, hcount ▸ hrange⟩
    have hdelete := deleteItems_eq_dropRows h.keys hinRange
    refine ⟨hrange, ?_⟩
    rw [confirm, hdelete]
    rfl
  · right
    have hout : ∃ r ∈ request.rows, (s.items list).length ≤ r := by
      simpa using hrange
    have hdelete := @deleteItems_out_of_range s.backend ⟨list, request.rows⟩ (hcount ▸ hout)
    refine ⟨hout, ?_⟩
    rw [confirm, hdelete]
    rfl

/-- **What a request means on the list that is left.**  A pending request whose
rows are still in range names items its requester displayed at these rows
exactly when nothing at or above the rows has gone. -/
theorem pickRows_subset_iff_nothing_gone {items : List CompactCellItem}
    {request : DeleteRequest ι} (h : Pending items request) :
    ((∀ r ∈ request.rows, r < items.length) ∧
        ∀ item ∈ pickRows request.rows items, item ∈ pickRows request.rows request.shown) ↔
      ∀ r ∈ request.rows, ∀ j ≤ r, ∀ item, request.shown[j]? = some item →
        item ∈ items := by
  obtain ⟨f, hf⟩ := List.sublist_iff_exists_orderEmbedding_getElem?_eq.mp h.older.sublist
  have hmono : StrictMono f := f.strictMono
  have hrenumbers : Renumbers f items request.shown :=
    fun r item hr => (hf r).symm.trans hr
  rw [← fixed_iff_nothing_gone hf hmono h.older.keys h.inRange]
  constructor
  · intro hsame
    have hrows := (pickRows_subset_iff hrenumbers h.older.keys hsame.1).mp hsame.2
    exact fixed_of_rows_subset hmono hrows
  · intro hfixed
    have hrange : ∀ r ∈ request.rows, r < items.length := by
      intro r hr
      have hshown := List.getElem?_eq_getElem (h.inRange r hr)
      have hleft : items[r]? = request.shown[r]? := by
        rw [hf, hfixed r hr r (Nat.le_refl r)]
      exact (List.getElem?_eq_some_iff.mp (hleft.trans hshown)).1
    refine ⟨hrange, (pickRows_subset_iff hrenumbers h.older.keys hrange).mpr ?_⟩
    intro r hr
    rw [hfixed r hr r (Nat.le_refl r)]
    exact hr

/-- **One step.**  In a consistent session a step deletes what was selected
exactly when nothing at or above the rows has gone. -/
theorem deletesSelected_iff_nothingGone [DecidableEq ι] (h : Consistent list s)
    {e : SessionEvent ι} {t : Result (Session ι)} (hstep : step list (.ok s) e = some t) :
    DeletesSelected list (.ok s) e t ↔ NothingGone list (.ok s) e t := by
  cases e with
  | load viewModel => exact Iff.rfl
  | choose viewModel rows => exact Iff.rfl
  | dismiss alert => exact Iff.rfl
  | confirm alert =>
      obtain ⟨request, halert, rfl⟩ := Option.map_eq_some_iff.mp hstep
      have hrequest : request ∈ s.alerts := List.mem_of_getElem? halert
      simp only [DeletesSelected, NothingGone, halert, Option.mem_some_iff, forall_eq']
      rw [← pickRows_subset_iff_nothing_gone (h.pending request hrequest)]
      rcases confirm_cases h hrequest with ⟨hrange, hconfirm⟩ | ⟨hout, hconfirm⟩
      · have hgone : ∀ item, (item ∈ s.items list ∧
            item ∉ Rows.dropRows request.rows (s.items list)) ↔
              item ∈ pickRows request.rows (s.items list) :=
          fun item => gone_iff_mem_pickRows (h.keys.items list)
        rw [hconfirm]
        constructor
        · intro hdeletes
          obtain ⟨after, hafter, honly⟩ := hdeletes
          obtain rfl := Except.ok.inj hafter
          refine ⟨hrange, fun item hitem => ?_⟩
          obtain ⟨hthere, hnot⟩ := (hgone item).mpr hitem
          refine honly item hthere ?_
          rw [← items_dropRows] at hnot
          exact hnot
        · intro honly
          refine ⟨_, rfl, fun item hthere hnot => honly.2 item ?_⟩
          refine (hgone item).mp ⟨hthere, ?_⟩
          rw [← items_dropRows]
          exact hnot
      · rw [hconfirm]
        constructor
        · intro hdeletes
          obtain ⟨after, hafter, _⟩ := hdeletes
          cases hafter
        · intro honly
          obtain ⟨r, hr, hlength⟩ := hout
          have := honly.1 r hr
          omega

/-- The invariant holds along every run: the server's keys are distinct, and every list that
is shown or asked about is an older one of the server's. -/
theorem consistent_step [DecidableEq ι] (h : Consistent list s) {e : SessionEvent ι}
    {t : Session ι} (hstep : step list (.ok s) e = some (.ok t)) : Consistent list t := by
  cases e with
  | load viewModel =>
      obtain rfl := Except.ok.inj (Option.some.inj hstep)
      exact h.refreshData viewModel
  | choose viewModel rows =>
      rw [step] at hstep
      split at hstep
      · next hrows =>
          obtain rfl := Except.ok.inj (Option.some.inj hstep)
          exact h.choose hrows.1 hrows.2
      · cases hstep
  | dismiss alert =>
      obtain ⟨request, _, ht⟩ := Option.map_eq_some_iff.mp hstep
      obtain rfl := Except.ok.inj ht
      exact h.dismiss alert
  | confirm alert =>
      obtain ⟨request, halert, ht⟩ := Option.map_eq_some_iff.mp hstep
      rcases confirm_cases h (List.mem_of_getElem? halert) with ⟨_, hconfirm⟩ | ⟨_, hconfirm⟩
      · rw [hconfirm] at ht
        obtain rfl := Except.ok.inj ht
        exact ((h.dropRows request.rows).dismiss alert).refreshData request.requester
      · rw [hconfirm] at ht
        cases ht

end Session

/-- **Stale delete requests.**  From a server with distinct keys, in every
interleaving of loads, selections, confirmations and dismissals, every confirmed
request deletes only what its requester displayed at the selected rows, without
a trap, if and only if no request is confirmed after something displayed at or
above its rows has been removed. -/
theorem stale_deletes_iff [DecidableEq ι] (list : ServerList) {backend : Backend}
    (hkeys : backend.server.KeysDistinct) (es : List (SessionEvent ι)) :
    StepsMeet (Session.step list) (Session.DeletesSelected list)
        (.ok (Session.start backend)) es ↔
      StepsMeet (Session.step list) (Session.NothingGone list)
        (.ok (Session.start backend)) es := by
  apply stepsMeet_iff_of_invariant (J := Session.Invariant list)
  · intro s e t hs hstep session hsession
    cases s with
    | error trap => cases hstep
    | ok s =>
        subst hsession
        exact Session.consistent_step (hs s rfl) hstep
  · intro s e t hs hstep
    cases s with
    | error trap => cases hstep
    | ok s => exact Session.deletesSelected_iff_nothingGone (hs s rfl) hstep
  · intro session hsession
    obtain rfl := Except.ok.inj hsession
    exact Session.consistent_start hkeys

/-- The equivalence for one view of the demo data that deletes its first row. -/
theorem stale_deletes_iff_demo :
    StepsMeet (Session.step .recently) (Session.DeletesSelected .recently)
        (.ok (Session.start { server := Server.demo 2 }))
        [.load true, .choose true [0], .confirm 0] ↔
      StepsMeet (Session.step .recently) (Session.NothingGone .recently)
        (.ok (Session.start { server := Server.demo 2 }))
        [.load true, .choose true [0], .confirm 0] :=
  stale_deletes_iff .recently (Server.keysDistinct_demo 2) _

/-- **A stale request runs past the end.**  Two views show the only content of
the list and both ask to delete it; the second confirmation traps. -/
theorem stale_delete_out_of_range :
    ¬ ∀ es : List (SessionEvent Bool), StepsMeet (Session.step .recently)
      (Session.DeletesSelected .recently)
      (.ok (Session.start { server := Server.demo 1 })) es := by
  intro hdeletesSelected
  have hload := hdeletesSelected [.load false, .load true, .choose false [0], .choose true [0],
    .confirm 0, .confirm 0]
  have hload' := (hload _ rfl).2
  have hchoose := (hload' _ rfl).2
  have hchoose' := (hchoose _ rfl).2
  have hconfirm := (hchoose' _ rfl).2
  have hconfirm' := (hconfirm _ rfl).2
  obtain ⟨after, hafter, _⟩ := (hconfirm' _ rfl).1 _ rfl
  cases hafter

end

end Activity
