import Pineone.EventList

/-!
# The order of the event list

At one fixed reading of the clock the filters of `sortEvents` split the events to
be shown into three groups, and the comparison that sorts a group is an order on
the dates.  The dates are compared through `exactDate`, their nanoseconds.

* `sortEvents_perm`: the list is the events to be shown, in some order;
* `sortEvents_pairwise`: the groups follow each other, and in a group the later
  dates come first;
* `sortEvents_inOrder`: the order of the input, or sorting once more, matters for
  events with the same group and dates only.
-/

namespace EventList

open Swift Clocked

/-! ## Dates in order -/

/-- Timestamps compare as their exact dates do: first by the seconds, then by the
nanoseconds. -/
theorem Timestamp.compare_eq (timestamp other : Timestamp) :
    timestamp.compare other = Ord.compare (exactDate timestamp) (exactDate other) := by
  have hnanoseconds := timestamp.nanoseconds.isLt
  have hother := other.nanoseconds.isLt
  unfold Timestamp.compare
  split
  · exact (compare_lt_iff_lt.mpr (by simp only [exactDate]; omega)).symm
  · split
    · exact (compare_gt_iff_gt.mpr (by simp only [exactDate]; omega)).symm
    · have hseconds : timestamp.seconds = other.seconds := by omega
      split
      · next h =>
          rw [Fin.lt_def] at h
          exact (compare_lt_iff_lt.mpr (by simp only [exactDate]; omega)).symm
      · split
        · next h =>
            rw [gt_iff_lt, Fin.lt_def] at h
            exact (compare_gt_iff_gt.mpr (by simp only [exactDate]; omega)).symm
        · next hlt hgt =>
            rw [Fin.lt_def] at hlt
            rw [gt_iff_lt, Fin.lt_def] at hgt
            exact (compare_eq_iff_eq.mpr (by simp only [exactDate]; omega)).symm

/-- The exact date tells timestamps apart, since the nanoseconds stay below a second. -/
theorem exactDate_injective {timestamp other : Timestamp}
    (h : exactDate timestamp = exactDate other) : timestamp = other := by
  obtain ⟨seconds, ⟨nanoseconds, hnanoseconds⟩, hseconds⟩ := timestamp
  obtain ⟨otherSeconds, ⟨otherNanoseconds, hother⟩, hotherSeconds⟩ := other
  simp only [exactDate] at h
  obtain ⟨rfl, rfl⟩ : seconds = otherSeconds ∧ nanoseconds = otherNanoseconds := by omega
  rfl

/-- The comparison sorts the later start first, and the later stop among equal starts. On two
events with the same dates it says false both ways. -/
theorem sortFuc_eq_true_iff {lfe rfe : ShownEvent} :
    sortFuc lfe rfe = true ↔
      exactDate rfe.startAt < exactDate lfe.startAt ∨
        exactDate lfe.startAt = exactDate rfe.startAt ∧
          exactDate rfe.stopAt < exactDate lfe.stopAt := by
  simp only [sortFuc, Timestamp.compare_eq]
  split
  · next h =>
      rw [beq_iff_eq, compare_eq_iff_eq] at h
      rw [beq_iff_eq, compare_gt_iff_gt]
      omega
  · next h =>
      rw [beq_iff_eq, compare_eq_iff_eq] at h
      rw [beq_iff_eq, compare_gt_iff_gt]
      omega

/-- **A sorted group.**  The comparison is a strict weak order, so that no event is
followed by one that it should follow. -/
theorem pairwise_sorted_sortFuc (events : List ShownEvent) :
    (sorted sortFuc events).Pairwise fun lfe rfe => sortFuc rfe lfe = false := by
  have htrans : ∀ a b c : ShownEvent, (!sortFuc b a) = true → (!sortFuc c b) = true →
      (!sortFuc c a) = true := by
    intro a b c hab hbc
    simp only [Bool.not_eq_true', ← Bool.not_eq_true, sortFuc_eq_true_iff] at hab hbc ⊢
    omega
  have htotal : ∀ a b : ShownEvent, ((!sortFuc b a) || !sortFuc a b) = true := by
    intro a b
    simp only [Bool.or_eq_true, Bool.not_eq_true', ← Bool.not_eq_true, sortFuc_eq_true_iff]
    omega
  unfold sorted
  simpa only [Bool.not_eq_true'] using List.pairwise_mergeSort htrans htotal events

/-! ## One reading -/

/-- What places an event in the list: its group, and its dates in the group. -/
structure SortKey where
  group : ℕ
  startAt : Option Timestamp
  stopAt : Option Timestamp

/-- `rfe` may stand behind `lfe`: it is in a later group, or in the same one and does
not start later, nor stop later when both start together. -/
def SortKey.MayPrecede (lfe rfe : SortKey) : Prop :=
  lfe.group < rfe.group ∨ lfe.group = rfe.group ∧
    ∀ lfeStart ∈ lfe.startAt, ∀ rfeStart ∈ rfe.startAt,
      lfeStart.compare rfeStart = .gt ∨ lfeStart.compare rfeStart = .eq ∧
        ∀ lfeStop ∈ lfe.stopAt, ∀ rfeStop ∈ rfe.stopAt, lfeStop.compare rfeStop ≠ .lt

section

variable {Date : Type} [LinearOrder Date] (dateValue : Timestamp → Date) (now : Date)

/-- The part of the list for an event at the reading `now`: the fixed events that
run, the other events that run, the events that do not run. -/
def group (event : FDEvent) : ℕ :=
  if (isFixedEvent dateValue (fun _ => now) event 0).1 then 0
  else if (isRunningEvent dateValue (fun _ => now) event 0).1 then 1
  else 2

def sortKey (event : FDEvent) : SortKey where
  group := group dateValue now event
  startAt := event.startAt
  stopAt := event.stopAt

/-- The same events, with the same group and dates at each place. -/
def EqUpToTies (events events' : List FDEvent) : Prop :=
  events.Perm events' ∧ events.map (sortKey dateValue now) = events'.map (sortKey dateValue now)

/-- Whether an event to be shown runs at the reading `now`. -/
def runningNow (event : ShownEvent) : Bool := runningAt dateValue (fun _ => now) event 0

/-- The group of an event to be shown, in terms of its dates: it runs and is fixed, it runs,
or it does not run. -/
theorem group_shown (event : ShownEvent) :
    group dateValue now event.val =
      if runningNow dateValue now event && fixed event then 0
      else if runningNow dateValue now event then 1
      else 2 := by
  rw [group, isFixedEvent_shown, isRunningEvent_shown]
  rfl

/-- The three parts of the list at one reading. With the clock standing still, the filters
ask the same question each time. -/
theorem sortShown_now (shown : List ShownEvent) :
    (sortShown dateValue (fun _ => now) id shown 0).1 =
      sorted sortFuc (shown.filter fun event => runningNow dateValue now event && fixed event) ++
      sorted sortFuc ((shown.filter fun event => runningNow dateValue now event).filter
        fun event => !(runningNow dateValue now event && fixed event)) ++
      sorted sortFuc (shown.filter fun event => !runningNow dateValue now event) := by
  have hfixed : ∀ (event : ShownEvent) n, isFixedEvent dateValue (fun _ => now) event.val n =
      (runningNow dateValue now event && fixed event, n + 2) :=
    isFixedEvent_shown dateValue fun _ => now
  have hrunning : ∀ (event : ShownEvent) n, isRunningEvent dateValue (fun _ => now) event.val n =
      (runningNow dateValue now event, n + 2) :=
    isRunningEvent_shown dateValue fun _ => now
  have hnotFixed : ∀ (event : ShownEvent) n,
      isNotFixedEvent dateValue (fun _ => now) event.val n =
        (!(runningNow dateValue now event && fixed event), n + 2) :=
    isNotFixedEvent_shown dateValue fun _ => now
  have hnotRunning : ∀ (event : ShownEvent) n,
      isNotRunningEvent dateValue (fun _ => now) event.val n =
        (!runningNow dateValue now event, n + 2) :=
    isNotRunningEvent_shown dateValue fun _ => now
  simp only [sortShown_fst, id]
  rw [filter_of_steady hfixed, filter_of_steady hrunning, filter_of_steady hnotFixed,
    filter_of_steady hnotRunning]

/-! ## The list -/

/-- **The list is the events to be shown.** At one reading each of them is in exactly one of
the three parts, so none is lost or listed twice. -/
theorem sortEvents_perm (events : List FDEvent) :
    (sortEvents dateValue (fun _ => now) events).Perm
      (events.filter fun event => event.IsShown) := by
  rw [sortEvents, sortShown_now, ← showList_val]
  apply List.Perm.map
  set shown := showList events
  set running := fun event => runningNow dateValue now event
  have hparts : ∀ part : List ShownEvent, (sorted sortFuc part).Perm part :=
    fun part => List.mergeSort_perm part _
  have hfixed : (shown.filter fun event => running event && fixed event) =
      (shown.filter running).filter fun event => running event && fixed event := by
    rw [List.filter_filter]
    apply List.filter_congr
    intro event _
    cases running event <;> cases fixed event <;> rfl
  refine (((hparts _).append (hparts _)).append (hparts _)).trans ?_
  rw [hfixed]
  exact ((List.filter_append_perm _ _).append_right _).trans (List.filter_append_perm _ _)

/-- Only events to be shown are listed. -/
theorem isShown_of_mem_sortEvents {events : List FDEvent} {event : FDEvent}
    (hevent : event ∈ sortEvents dateValue (fun _ => now) events) : event.IsShown := by
  have h := (sortEvents_perm dateValue now events).mem_iff.mp hevent
  exact of_decide_eq_true (List.mem_filter.mp h).2

/-- The key of an event to be shown has both dates. -/
theorem sortKey_shown (event : ShownEvent) :
    sortKey dateValue now event.val =
      ⟨group dateValue now event.val, some event.startAt, some event.stopAt⟩ := by
  simp only [sortKey, ShownEvent.startAt, ShownEvent.stopAt, Option.some_get]

/-- Between events to be shown the keys say what the comparison says: an earlier group goes
first, and in one group the comparison decides. -/
theorem mayPrecede_shown (lfe rfe : ShownEvent) :
    (sortKey dateValue now lfe.val).MayPrecede (sortKey dateValue now rfe.val) ↔
      group dateValue now lfe.val < group dateValue now rfe.val ∨
        group dateValue now lfe.val = group dateValue now rfe.val ∧ sortFuc rfe lfe = false := by
  rw [sortKey_shown, sortKey_shown, ← Bool.not_eq_true, sortFuc_eq_true_iff]
  simp only [SortKey.MayPrecede, Option.mem_def, Option.some.injEq, forall_eq', ne_eq,
    Timestamp.compare_eq, compare_gt_iff_gt, compare_eq_iff_eq, compare_lt_iff_lt]
  omega

/-- Keys that may precede each other are the same, so the order of the keys leaves open only
how events with the same key are placed. -/
theorem sortKey_eq_of_mayPrecede (lfe rfe : ShownEvent)
    (h : (sortKey dateValue now lfe.val).MayPrecede (sortKey dateValue now rfe.val))
    (h' : (sortKey dateValue now rfe.val).MayPrecede (sortKey dateValue now lfe.val)) :
    sortKey dateValue now lfe.val = sortKey dateValue now rfe.val := by
  rw [mayPrecede_shown, ← Bool.not_eq_true, sortFuc_eq_true_iff] at h h'
  have hgroup : group dateValue now lfe.val = group dateValue now rfe.val := by omega
  have hstart : lfe.startAt = rfe.startAt := exactDate_injective (by omega)
  have hstop : lfe.stopAt = rfe.stopAt := exactDate_injective (by omega)
  rw [sortKey_shown, sortKey_shown, hgroup, hstart, hstop]

/-- Sorting keeps the events of a group. -/
theorem group_sorted {part : List ShownEvent} {n : ℕ}
    (hpart : ∀ event ∈ part, group dateValue now event.val = n) :
    ∀ event ∈ sorted sortFuc part, group dateValue now event.val = n :=
  fun event hevent => hpart event ((List.mergeSort_perm part _).mem_iff.mp hevent)

/-- The events of one group, sorted. -/
theorem pairwise_group {part : List ShownEvent} {n : ℕ}
    (hpart : ∀ event ∈ part, group dateValue now event.val = n) :
    (sorted sortFuc part).Pairwise fun lfe rfe =>
      (sortKey dateValue now lfe.val).MayPrecede (sortKey dateValue now rfe.val) := by
  apply (pairwise_sorted_sortFuc part).imp_of_mem
  intro lfe rfe hlfe hrfe hsorted
  have hmem := group_sorted dateValue now hpart
  rw [mayPrecede_shown]
  exact Or.inr ⟨(hmem lfe hlfe).trans (hmem rfe hrfe).symm, hsorted⟩

/-- The events of an earlier group stand before those of a later one, whatever their dates
are: the three parts are appended in this order. -/
theorem mayPrecede_of_groups {part part' : List ShownEvent} {m n : ℕ} (hmn : m < n)
    (hpart : ∀ event ∈ part, group dateValue now event.val = m)
    (hpart' : ∀ event ∈ part', group dateValue now event.val = n) :
    ∀ lfe ∈ sorted sortFuc part, ∀ rfe ∈ sorted sortFuc part',
      (sortKey dateValue now lfe.val).MayPrecede (sortKey dateValue now rfe.val) := by
  intro lfe hlfe rfe hrfe
  have hfirst := group_sorted dateValue now hpart lfe hlfe
  have hsecond := group_sorted dateValue now hpart' rfe hrfe
  rw [mayPrecede_shown]
  left
  omega

/-- **The order of the list.** Each of the three parts is sorted, and every key of an earlier
part may precede those of the later ones. -/
theorem sortEvents_pairwise (events : List FDEvent) :
    ((sortEvents dateValue (fun _ => now) events).map (sortKey dateValue now)).Pairwise
      SortKey.MayPrecede := by
  rw [sortEvents, sortShown_now, List.pairwise_map, List.pairwise_map]
  set shown := showList events
  have hfixed : ∀ event ∈ shown.filter fun event =>
      runningNow dateValue now event && fixed event, group dateValue now event.val = 0 := by
    intro event hevent
    rw [group_shown, if_pos (List.mem_filter.mp hevent).2]
  have hrunning : ∀ event ∈ (shown.filter fun event => runningNow dateValue now event).filter
      fun event => !(runningNow dateValue now event && fixed event),
      group dateValue now event.val = 1 := by
    intro event hevent
    obtain ⟨hmem, hnotFixed⟩ := List.mem_filter.mp hevent
    rw [Bool.not_eq_true', ← Bool.not_eq_true] at hnotFixed
    rw [group_shown, if_neg hnotFixed, if_pos (List.mem_filter.mp hmem).2]
  have hnotRunning : ∀ event ∈ shown.filter fun event => !runningNow dateValue now event,
      group dateValue now event.val = 2 := by
    intro event hevent
    have hnot : runningNow dateValue now event = false := by
      simpa using (List.mem_filter.mp hevent).2
    rw [group_shown, hnot]
    rfl
  rw [List.pairwise_append, List.pairwise_append]
  refine ⟨⟨pairwise_group dateValue now hfixed, pairwise_group dateValue now hrunning,
    mayPrecede_of_groups dateValue now (by omega) hfixed hrunning⟩,
    pairwise_group dateValue now hnotRunning, ?_⟩
  intro lfe hlfe
  rcases List.mem_append.mp hlfe with hlfe | hlfe
  · exact mayPrecede_of_groups dateValue now (by omega) hfixed hnotRunning lfe hlfe
  · exact mayPrecede_of_groups dateValue now (by omega) hrunning hnotRunning lfe hlfe

/-- Two lists of the same events to be shown, both in order. They can differ only in how
events with equal keys are placed. -/
theorem eqUpToTies_of_perm {events events' : List FDEvent} (hperm : events.Perm events')
    (hshown : ∀ event ∈ events, event.IsShown)
    (hevents : (events.map (sortKey dateValue now)).Pairwise SortKey.MayPrecede)
    (hevents' : (events'.map (sortKey dateValue now)).Pairwise SortKey.MayPrecede) :
    EqUpToTies dateValue now events events' := by
  refine ⟨hperm, List.Perm.eq_of_pairwise ?_ hevents hevents' (hperm.map _)⟩
  intro key key' hkey hkey' h h'
  obtain ⟨lfe, hlfe, rfl⟩ := List.mem_map.mp hkey
  obtain ⟨rfe, hrfe, rfl⟩ := List.mem_map.mp hkey'
  exact sortKey_eq_of_mayPrecede dateValue now ⟨lfe, hshown lfe hlfe⟩
    ⟨rfe, hshown rfe (hperm.mem_iff.mpr hrfe)⟩ h h'

/-- **The event list at one reading of the clock.**  It is the events to be shown in
the order of their groups and dates, which leaves only events with the same group and
dates to the order of the input, also when the list is sorted again. -/
theorem sortEvents_inOrder (events : List FDEvent) :
    (sortEvents dateValue (fun _ => now) events).Perm (events.filter fun event => event.IsShown) ∧
      ((sortEvents dateValue (fun _ => now) events).map (sortKey dateValue now)).Pairwise
        SortKey.MayPrecede ∧
      (∀ events' : List FDEvent, events.Perm events' →
        EqUpToTies dateValue now (sortEvents dateValue (fun _ => now) events)
          (sortEvents dateValue (fun _ => now) events')) ∧
      EqUpToTies dateValue now
        (sortEvents dateValue (fun _ => now) (sortEvents dateValue (fun _ => now) events))
        (sortEvents dateValue (fun _ => now) events) := by
  have hperm := sortEvents_perm dateValue now
  have hpairwise := sortEvents_pairwise dateValue now
  have hshown : ∀ events, ∀ event ∈ sortEvents dateValue (fun _ => now) events, event.IsShown :=
    fun events event => isShown_of_mem_sortEvents dateValue now
  refine ⟨hperm events, hpairwise events, ?_, ?_⟩
  · intro events' h
    apply eqUpToTies_of_perm dateValue now _ (hshown events) (hpairwise _) (hpairwise _)
    exact (hperm events).trans ((h.filter _).trans (hperm events').symm)
  · apply eqUpToTies_of_perm dateValue now _ (hshown _) (hpairwise _) (hpairwise _)
    have hkept : ((sortEvents dateValue (fun _ => now) events).filter fun event => event.IsShown) =
        sortEvents dateValue (fun _ => now) events := by
      rw [List.filter_eq_self]
      exact fun event hevent => decide_eq_true (hshown events event hevent)
    have hagain := hperm (sortEvents dateValue (fun _ => now) events)
    rwa [hkept] at hagain

end

end EventList
