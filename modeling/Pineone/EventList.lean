import Pineone.Clocked
import Pineone.SwiftText
import Mathlib.Order.Lattice
import Mathlib.Order.Monotone.Defs
import Mathlib.Data.Int.ConditionallyCompleteOrder
import Mathlib.Order.ConditionallyCompleteLattice.Basic
import Mathlib.Data.Nat.Basic
import Mathlib.Data.List.Count
import Mathlib.Data.List.Perm.Basic

/-!
# The event list

`sortEvents` lists the fixed events that run, the other events that run and the
events that do not.  Each of its filters asks the clock again whether an event
runs.  The clock is a sequence of readings that never goes back.

* `sortEvents_eq_listing`: an event is followed through the list by its row;
* `listedOnce_iff`: every event to be shown is listed exactly once if and only if
  the filters agree whether it runs, in the sense of `StatusKept`.
-/

namespace EventList

open Swift Clocked

/-! ## Events -/

/-- A Firestore timestamp; its range is checked when it is made. -/
structure Timestamp where
  seconds : Int
  nanoseconds : Fin 1000000000
  seconds_inRange : -62135596800 ≤ seconds ∧ seconds < 253402300800
  deriving DecidableEq

/-- `compare(_:)` of timestamps. -/
def Timestamp.compare (timestamp other : Timestamp) : Ordering :=
  if timestamp.seconds < other.seconds then .lt
  else if timestamp.seconds > other.seconds then .gt
  else if timestamp.nanoseconds < other.nanoseconds then .lt
  else if timestamp.nanoseconds > other.nanoseconds then .gt
  else .eq

structure FDEvent where
  title : Option String
  bannerFileURL : Option String
  is_fixed : Option Bool
  «show» : Option Bool
  startAt : Option Timestamp
  stopAt : Option Timestamp
  deriving DecidableEq

/-- The event has both dates and is to be shown. -/
structure FDEvent.IsShown (event : FDEvent) : Prop where
  hasStopAt : event.stopAt.isSome = true
  hasStartAt : event.startAt.isSome = true
  shows : event.«show» = some true

/-- The three checks of the list, in the order the code makes them in. -/
theorem FDEvent.isShown_iff {event : FDEvent} :
    event.IsShown ↔
      event.stopAt.isSome = true ∧ event.startAt.isSome = true ∧ event.«show» = some true :=
  ⟨fun h => ⟨h.hasStopAt, h.hasStartAt, h.shows⟩, fun h => ⟨h.1, h.2.1, h.2.2⟩⟩

instance (event : FDEvent) : Decidable event.IsShown :=
  decidable_of_iff' _ FDEvent.isShown_iff

/-- An event that passes the first three filters; its dates may be unwrapped. -/
abbrev ShownEvent := {event : FDEvent // event.IsShown}

namespace ShownEvent

def startAt (event : ShownEvent) : Timestamp := event.val.startAt.get event.property.hasStartAt

def stopAt (event : ShownEvent) : Timestamp := event.val.stopAt.get event.property.hasStopAt

end ShownEvent

section

-- `dateValue` rounds a timestamp to a date; nothing below depends on how.
variable {Date : Type} [LinearOrder Date] (dateValue : Timestamp → Date) (clock : ℕ → Date)

def isRunningEvent (event : FDEvent) : StateM ℕ Bool := do
  let isStarted ← match event.startAt with
    | some startAt => do
        let date ← read clock
        pure (compare (dateValue startAt) date == .lt)
    | none => pure false
  let isNotStoped ← match event.stopAt with
    | some stopAt => do
        let date ← read clock
        pure (compare (dateValue stopAt) date == .gt)
    | none => pure false
  return isStarted && event.«show».getD false && isNotStoped

def isFixedEvent (event : FDEvent) : StateM ℕ Bool := do
  let isRunning ← isRunningEvent dateValue clock event
  return isRunning && event.is_fixed.getD false

/-! ## Sorting -/

def showList (events : List FDEvent) : List ShownEvent :=
  let showList := ((events.filter fun event => event.stopAt.isSome).filter
    fun event => event.startAt.isSome).filter fun event => event.«show» == some true
  showList.attachWith FDEvent.IsShown fun event h => by
    simp only [showList, List.mem_filter, beq_iff_eq] at h
    exact ⟨h.1.1.2, h.1.2, h.2⟩

def sortFuc (lfe rfe : ShownEvent) : Bool :=
  if lfe.startAt.compare rfe.startAt == .eq then lfe.stopAt.compare rfe.stopAt == .gt
  else lfe.startAt.compare rfe.startAt == .gt

/-- `$0.isFixedEvent() != true` -/
def isNotFixedEvent (event : FDEvent) : StateM ℕ Bool := do
  let isFixed ← isFixedEvent dateValue clock event
  return isFixed != true

/-- `$0.isRunningEvent() != true` -/
def isNotRunningEvent (event : FDEvent) : StateM ℕ Bool := do
  let isRunning ← isRunningEvent dateValue clock event
  return isRunning != true

/-- `sortEvents` after its first three filters, on items that carry the events. -/
def sortShown {ε : Type} (event : ε → ShownEvent) (showList : List ε) : StateM ℕ (List ε) := do
  let sortFuc := fun lfe rfe => sortFuc (event lfe) (event rfe)
  let fixedList ← filter (fun item => isFixedEvent dateValue clock (event item).val) showList
  let runningList ← filter (fun item => isRunningEvent dateValue clock (event item).val) showList
  let runningList ← filter (fun item => isNotFixedEvent dateValue clock (event item).val)
    runningList
  let notRunningList ← filter (fun item => isNotRunningEvent dateValue clock (event item).val)
    showList
  return sorted sortFuc fixedList ++ sorted sortFuc runningList ++ sorted sortFuc notRunningList

def sortEvents (events : List FDEvent) : List FDEvent :=
  ((sortShown dateValue clock id (showList events)) 0).1.map Subtype.val

/-! ## Rows -/

/-- The listed events with their rows among the events to be shown. -/
def listing (events : List FDEvent) : List (ShownEvent × ℕ) :=
  ((sortShown dateValue clock Prod.fst (showList events).zipIdx) 0).1

/-- The events that are kept for the list are those of the argument that are to be shown, in
their order. -/
theorem showList_val (events : List FDEvent) :
    (showList events).map Subtype.val = events.filter fun event => event.IsShown := by
  rw [showList, List.attachWith_map_subtype_val, List.filter_filter, List.filter_filter]
  apply List.filter_congr
  intro event _
  rw [Bool.eq_iff_iff]
  simp only [Bool.and_eq_true, beq_iff_eq, decide_eq_true_eq, FDEvent.isShown_iff]
  tauto

/-- Sorting by a value that is computed for each element is sorting the values, since the
sort is stable and looks at nothing else. -/
theorem sorted_map {α β : Type} (f : α → β) (areInIncreasingOrder : β → β → Bool) (as : List α) :
    (sorted (fun a b => areInIncreasingOrder (f a) (f b)) as).map f =
      sorted areInIncreasingOrder (as.map f) := by
  exact List.map_mergeSort fun _ _ _ _ => rfl

/-- The four filters, each of which starts at the reading where the one before ends. The
clock is read by every test, and moves on between the filters. -/
theorem sortShown_fst {ε : Type} (event : ε → ShownEvent) (showList : List ε) (n : ℕ) :
    (sortShown dateValue clock event showList n).1 =
      let fixed := filter (fun item => isFixedEvent dateValue clock (event item).val) showList n
      let running := filter (fun item => isRunningEvent dateValue clock (event item).val)
        showList fixed.2
      let notFixed := filter (fun item => isNotFixedEvent dateValue clock (event item).val)
        running.1 running.2
      let notRunning := filter (fun item => isNotRunningEvent dateValue clock (event item).val)
        showList notFixed.2
      let sortFuc := fun lfe rfe => sortFuc (event lfe) (event rfe)
      sorted sortFuc fixed.1 ++ sorted sortFuc notFixed.1 ++ sorted sortFuc notRunning.1 :=
  rfl

/-- Sorting the items sorts the events that they carry. -/
theorem sortShown_map {ε : Type} (event : ε → ShownEvent) (showList : List ε) (n : ℕ) :
    (sortShown dateValue clock event showList n).1.map event =
      (sortShown dateValue clock id (showList.map event) n).1 := by
  simp only [sortShown_fst, filter_map, id, List.map_append, sorted_map event sortFuc]

/-- **The rows follow the events.** The list of the screen is the list of numbered events
without the numbers, so that what is proved of rows holds of what is shown. -/
theorem sortEvents_eq_listing (events : List FDEvent) :
    sortEvents dateValue clock events =
      (listing dateValue clock events).map fun entry => entry.1.val := by
  rw [sortEvents, listing, ← List.zipIdx_map_fst 0 (showList events), ← sortShown_map,
    List.map_map, List.zipIdx_map_fst]
  rfl

/-! ## Readings -/

/-- Whether an event runs, by the two readings from the reading `n` on. -/
def runningAt (event : ShownEvent) (n : ℕ) : Bool :=
  dateValue event.startAt < clock n && clock (n + 1) < dateValue event.stopAt

def fixed (event : ShownEvent) : Bool := event.val.is_fixed.getD false

/-- An event to be shown has both dates, so that asking whether it runs takes two readings of
the clock, one for each date. -/
theorem isRunningEvent_shown (event : ShownEvent) (n : ℕ) :
    isRunningEvent dateValue clock event.val n = (runningAt dateValue clock event n, n + 2) := by
  obtain ⟨⟨title, bannerFileURL, is_fixed, shows, startAt, stopAt⟩, hstop, hstart, hshows⟩ := event
  obtain ⟨start, rfl⟩ := Option.isSome_iff_exists.mp hstart
  obtain ⟨stop, rfl⟩ := Option.isSome_iff_exists.mp hstop
  obtain rfl : shows = some true := hshows
  have hstarted : (compare (dateValue start) (clock n) == .lt) =
      decide (dateValue start < clock n) := by
    rw [Bool.eq_iff_iff, beq_iff_eq, decide_eq_true_eq, compare_lt_iff_lt]
  have hnotStoped : (compare (dateValue stop) (clock (n + 1)) == .gt) =
      decide (clock (n + 1) < dateValue stop) := by
    rw [Bool.eq_iff_iff, beq_iff_eq, decide_eq_true_eq, compare_gt_iff_gt]
  show ((compare (dateValue start) (clock n) == .lt) && true &&
    (compare (dateValue stop) (clock (n + 1)) == .gt), n + 2) = _
  rw [hstarted, hnotStoped, Bool.and_true]
  rfl

/-- Whether it is fixed takes no reading of its own. The filter reads the clock twice for an
event, as it asks first whether the event runs. -/
theorem isFixedEvent_shown (event : ShownEvent) (n : ℕ) :
    isFixedEvent dateValue clock event.val n =
      (runningAt dateValue clock event n && fixed event, n + 2) := by
  show ((isRunningEvent dateValue clock event.val n).1 && fixed event,
    (isRunningEvent dateValue clock event.val n).2) = _
  rw [isRunningEvent_shown]

/-- The negated filter asks the same, again with two readings. -/
theorem isNotFixedEvent_shown (event : ShownEvent) (n : ℕ) :
    isNotFixedEvent dateValue clock event.val n =
      (!(runningAt dateValue clock event n && fixed event), n + 2) := by
  show ((isFixedEvent dateValue clock event.val n).1 != true,
    (isFixedEvent dateValue clock event.val n).2) = _
  rw [isFixedEvent_shown, Bool.bne_true]

/-- So does the filter of the events that do not run, at readings that come after those of
the other filters. -/
theorem isNotRunningEvent_shown (event : ShownEvent) (n : ℕ) :
    isNotRunningEvent dateValue clock event.val n =
      (!runningAt dateValue clock event n, n + 2) := by
  show ((isRunningEvent dateValue clock event.val n).1 != true,
    (isRunningEvent dateValue clock event.val n).2) = _
  rw [isRunningEvent_shown, Bool.bne_true]

/-- An event that runs at two readings runs between them: it has started by the first and has
not stopped at the last, and the clock does not go back. -/
theorem runningAt_between (hclock : Monotone clock) {event : ShownEvent} {i j k : ℕ}
    (hij : i ≤ j) (hjk : j ≤ k) (hi : runningAt dateValue clock event i = true)
    (hk : runningAt dateValue clock event k = true) : runningAt dateValue clock event j = true := by
  simp only [runningAt, Bool.and_eq_true, decide_eq_true_eq] at hi hk ⊢
  exact ⟨lt_of_lt_of_le hi.1 (hclock hij),
    lt_of_le_of_lt (hclock (Nat.add_le_add_right hjk 1)) hk.2⟩

/-! ## The four filters -/

section

variable (shown : List ShownEvent)

/-- The first reading for a row in the filter of the fixed events. -/
def fixedReading (row : ShownEvent × ℕ) : ℕ := 2 * row.2

/-- The first reading for a row in the filter of the running events. -/
def runningReading (row : ShownEvent × ℕ) : ℕ := 2 * shown.length + 2 * row.2

/-- The rows that run when they are asked the second time. -/
def runningRows : List (ShownEvent × ℕ) :=
  shown.zipIdx.filter fun row => runningAt dateValue clock row.1 (runningReading shown row)

/-- The first reading for a row in the filter that drops the fixed events from
the running ones. -/
def notFixedReading (row : ShownEvent × ℕ) : ℕ :=
  4 * shown.length + 2 * (runningRows dateValue clock shown).idxOf row

/-- The first reading for a row in the filter of the events that do not run. -/
def notRunningReading (row : ShownEvent × ℕ) : ℕ :=
  4 * shown.length + 2 * (runningRows dateValue clock shown).length + 2 * row.2

/-- The filters agree whether the event of a row runs: the second and the last one
for an event that is not fixed, the first and the last one for a fixed event, which
also must not run for the second one alone. -/
def StatusKept (row : ShownEvent × ℕ) : Prop :=
  let first := runningAt dateValue clock row.1 (fixedReading row)
  let second := runningAt dateValue clock row.1 (runningReading shown row)
  let third := runningAt dateValue clock row.1 (notFixedReading dateValue clock shown row)
  let fourth := runningAt dateValue clock row.1 (notRunningReading dateValue clock shown row)
  if fixed row.1 then first = fourth ∧ (second = true → first = true ∨ third = true)
  else second = fourth

/-- The first filter asks each row at the reading for its number, and it takes two readings
for each row. -/
theorem filter_isFixedEvent :
    filter (fun row => isFixedEvent dateValue clock (Prod.fst row).val) shown.zipIdx 0 =
      (shown.zipIdx.filter fun row =>
        runningAt dateValue clock row.1 (fixedReading row) && fixed row.1, 2 * shown.length) := by
  rw [filter_zipIdx fun row n => isFixedEvent_shown dateValue clock (Prod.fst row) n]
  simp only [Nat.zero_add, fixedReading]

/-- The second filter starts where the first one has ended, and asks every row again, so at a
later reading than before. -/
theorem filter_isRunningEvent :
    filter (fun row => isRunningEvent dateValue clock (Prod.fst row).val) shown.zipIdx
        (2 * shown.length) =
      (runningRows dateValue clock shown, 4 * shown.length) := by
  have hlength : 2 * shown.length + 2 * shown.length = 4 * shown.length := by omega
  rw [filter_zipIdx fun row n => isRunningEvent_shown dateValue clock (Prod.fst row) n, hlength]
  rfl

/-- A row is found running once, if at all. -/
theorem nodup_runningRows : (runningRows dateValue clock shown).Nodup :=
  (nodup_zipIdx shown).filter _

/-- The third filter asks the running rows only; a row stands among these at the position it
was found at. -/
theorem filter_isNotFixedEvent :
    filter (fun row => isNotFixedEvent dateValue clock (Prod.fst row).val)
        (runningRows dateValue clock shown) (4 * shown.length) =
      ((runningRows dateValue clock shown).filter fun row =>
        !(runningAt dateValue clock row.1 (notFixedReading dateValue clock shown row) &&
          fixed row.1),
        4 * shown.length + 2 * (runningRows dateValue clock shown).length) := by
  rw [filter_eq (fun row n => isNotFixedEvent_shown dateValue clock (Prod.fst row) n)
    (nodup_runningRows dateValue clock shown)]
  rfl

/-- The last filter starts after as many readings as the third one made, and asks every row
once more. -/
theorem filter_isNotRunningEvent :
    (filter (fun row => isNotRunningEvent dateValue clock (Prod.fst row).val) shown.zipIdx
        (4 * shown.length + 2 * (runningRows dateValue clock shown).length)).1 =
      shown.zipIdx.filter fun row =>
        !runningAt dateValue clock row.1 (notRunningReading dateValue clock shown row) := by
  rw [filter_zipIdx fun row n => isNotRunningEvent_shown dateValue clock (Prod.fst row) n]
  rfl

/-- How often a row is listed by each of the three parts: the fixed ones, those that run and
are not fixed, and those that do not run. Each part asks at readings of its own. -/
theorem count_listing {events : List FDEvent} {row : ShownEvent × ℕ} :
    (listing dateValue clock events).count row =
      ((showList events).zipIdx.filter fun row =>
        runningAt dateValue clock row.1 (fixedReading row) && fixed row.1).count row +
      ((runningRows dateValue clock (showList events)).filter fun row =>
        !(runningAt dateValue clock row.1
            (notFixedReading dateValue clock (showList events) row) && fixed row.1)).count row +
      ((showList events).zipIdx.filter fun row =>
        !runningAt dateValue clock row.1
          (notRunningReading dateValue clock (showList events) row)).count row := by
  rw [listing, sortShown_fst]
  simp only [filter_isFixedEvent, filter_isRunningEvent, filter_isNotFixedEvent,
    filter_isNotRunningEvent, List.count_append, sorted, (List.mergeSort_perm _ _).count_eq]

end

/-- An element of a list without duplicates is counted once in a filtered list, or not at
all. -/
theorem count_filter_of_nodup {α : Type} [BEq α] [LawfulBEq α] {as : List α} (hnd : as.Nodup)
    (p : α → Bool) {a : α} (ha : a ∈ as) :
    (as.filter p).count a = if p a = true then 1 else 0 := by
  by_cases hp : p a = true
  · rw [if_pos hp, List.count_filter hp, List.count_eq_one_of_mem hnd ha]
  · rw [if_neg hp]
    exact List.count_eq_zero_of_not_mem fun h => hp (List.mem_filter.mp h).2

/-- When an event that runs at the first or the second reading and at the fourth
runs at the third, the three parts list it once in these cases only. -/
theorem exactly_once_iff : ∀ fixed first second third fourth : Bool,
    (first = true → fourth = true → third = true) →
    (second = true → fourth = true → third = true) →
    ((if (first && fixed) = true then 1 else 0) +
        (if (second && !(third && fixed)) = true then 1 else 0) +
        (if (!fourth) = true then 1 else 0) = 1 ↔
      if fixed = true then first = fourth ∧ (second = true → first = true ∨ third = true)
      else second = fourth) := by
  decide

section

variable {dateValue clock}

/-- A row is listed once exactly if the filters agree about it. The rows are counted in the
three parts of the list and the cases of the readings compared. -/
theorem count_listing_eq_one_iff (hclock : Monotone clock) {events : List FDEvent}
    {row : ShownEvent × ℕ} (hrow : row ∈ (showList events).zipIdx) :
    (listing dateValue clock events).count row = 1 ↔
      StatusKept dateValue clock (showList events) row := by
  have hnumber : row.2 < (showList events).length := by
    have h := (List.mem_zipIdx hrow).2.1
    omega
  have hplace : (runningRows dateValue clock (showList events)).idxOf row ≤
      (runningRows dateValue clock (showList events)).length := List.idxOf_le_length
  have hsecond : ((runningRows dateValue clock (showList events)).filter fun row =>
      !(runningAt dateValue clock row.1
          (notFixedReading dateValue clock (showList events) row) && fixed row.1)).count row =
        if (runningAt dateValue clock row.1 (runningReading (showList events) row) &&
          !(runningAt dateValue clock row.1
            (notFixedReading dateValue clock (showList events) row) && fixed row.1)) = true
        then 1 else 0 := by
    rw [runningRows, List.filter_filter, count_filter_of_nodup (nodup_zipIdx _) _ hrow,
      Bool.and_comm]
  rw [count_listing, count_filter_of_nodup (nodup_zipIdx _) _ hrow, hsecond,
    count_filter_of_nodup (nodup_zipIdx _) _ hrow]
  apply exactly_once_iff
  · apply runningAt_between dateValue clock hclock
    · simp only [fixedReading, notFixedReading]
      omega
    · simp only [notFixedReading, notRunningReading]
      omega
  · apply runningAt_between dateValue clock hclock
    · simp only [runningReading, notFixedReading]
      omega
    · simp only [notFixedReading, notRunningReading]
      omega

/-- The list makes up no row: each of its parts is a filter of the numbered events. -/
theorem mem_of_mem_listing {events : List FDEvent} {row : ShownEvent × ℕ}
    (hrow : row ∈ listing dateValue clock events) : row ∈ (showList events).zipIdx := by
  have hcount := List.count_pos_iff.mpr hrow
  rw [count_listing] at hcount
  by_contra hnot
  have hnone : ∀ p : ShownEvent × ℕ → Bool, ((showList events).zipIdx.filter p).count row = 0 :=
    fun p => List.count_eq_zero_of_not_mem fun h => hnot (List.mem_of_mem_filter h)
  rw [hnone, hnone, runningRows, List.filter_filter, hnone] at hcount
  omega

/-- **Events are listed once.**  The list consists of events to be shown; each of
them is in it exactly once if and only if the filters agree about it. -/
theorem listedOnce_iff (hclock : Monotone clock) (events : List FDEvent) :
    sortEvents dateValue clock events =
        (listing dateValue clock events).map (fun row => row.1.val) ∧
      (events.filter fun event => event.IsShown) =
        (showList events).zipIdx.map (fun row => row.1.val) ∧
      ((listing dateValue clock events).Perm (showList events).zipIdx ↔
        ∀ row ∈ (showList events).zipIdx, StatusKept dateValue clock (showList events) row) := by
  refine ⟨sortEvents_eq_listing dateValue clock events, ?_, ?_⟩
  · rw [← showList_val]
    conv_lhs => rw [← List.zipIdx_map_fst 0 (showList events), List.map_map]
    rfl
  · rw [List.perm_iff_count]
    constructor
    · intro hperm row hrow
      rw [← count_listing_eq_one_iff hclock hrow, hperm,
        List.count_eq_one_of_mem (nodup_zipIdx _) hrow]
    · intro hkept row
      by_cases hrow : row ∈ (showList events).zipIdx
      · rw [(count_listing_eq_one_iff hclock hrow).mpr (hkept row hrow),
          List.count_eq_one_of_mem (nodup_zipIdx _) hrow]
      · rw [List.count_eq_zero_of_not_mem hrow,
          List.count_eq_zero_of_not_mem fun h => hrow (mem_of_mem_listing h)]

end

section

/-- The date of a timestamp, in nanoseconds. -/
def exactDate (timestamp : Timestamp) : Int :=
  timestamp.seconds * 1000000000 + timestamp.nanoseconds.val

/-- An event that starts after one second and stops after ten. -/
def sampleEvent : FDEvent where
  title := some "event"
  bannerFileURL := none
  is_fixed := none
  «show» := some true
  startAt := some ⟨1, 0, by decide⟩
  stopAt := some ⟨10, 0, by decide⟩

/-- An event that starts two seconds later. -/
def laterEvent : FDEvent := { sampleEvent with startAt := some ⟨3, 0, by decide⟩ }

/-- Two seconds pass between the fourth reading and the fifth. -/
def lateClock (n : ℕ) : Int := if n < 4 then 0 else 2000000000

/-- The clock goes on once, and never back. -/
theorem monotone_lateClock : Monotone lateClock := by
  intro i j hij
  unfold lateClock
  split <;> split <;> omega

/-- Two events and a clock that moves on after the first filter, which makes four readings:
from the second filter on `sampleEvent` runs, and `laterEvent` never does. -/
theorem listedOnce_iff_sample :
    sortEvents exactDate lateClock [laterEvent, sampleEvent] =
        (listing exactDate lateClock [laterEvent, sampleEvent]).map (fun row => row.1.val) ∧
      ([laterEvent, sampleEvent].filter fun event => event.IsShown) =
        (showList [laterEvent, sampleEvent]).zipIdx.map (fun row => row.1.val) ∧
      ((listing exactDate lateClock [laterEvent, sampleEvent]).Perm
          (showList [laterEvent, sampleEvent]).zipIdx ↔
        ∀ row ∈ (showList [laterEvent, sampleEvent]).zipIdx,
          StatusKept exactDate lateClock (showList [laterEvent, sampleEvent]) row) :=
  listedOnce_iff monotone_lateClock [laterEvent, sampleEvent]

/-- Alone, the event makes the first two filters take the four readings: it starts after the
filter of the running events and before the filter of the events that do not run. -/
theorem event_starting_between_is_lost :
    ¬ ∀ (clock : ℕ → Int) (events : List FDEvent), Monotone clock →
      (sortEvents exactDate clock events).Perm (events.filter fun event => event.IsShown) := by
  intro hlisted
  have hperm := hlisted lateClock [sampleEvent] monotone_lateClock
  have hlost : sortEvents exactDate lateClock [sampleEvent] = [] := by decide +kernel
  have hshown : ([sampleEvent].filter fun event => event.IsShown) = [sampleEvent] := by decide
  rw [hlost, hshown] at hperm
  exact List.cons_ne_nil _ _ hperm.symm.eq_nil

end

end

end EventList
