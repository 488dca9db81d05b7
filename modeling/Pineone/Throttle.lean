import Pineone.Runs
import Mathlib.Data.List.Chain
import Mathlib.Data.Rat.Floor
import Mathlib.Tactic.Linarith

/-!
# Throttling

The throttle of RxSwift over a sequence that does not end.  An element is forwarded at once
if the due time is over since the last one was sent, and otherwise, for `latest`, the newest
element is kept for a timer.  What is left of the due time is rounded to whole units of it,
so that the due time can be missed by half a unit.  All times are in this unit.

* `spaced`: two elements are never sent half a unit closer than the due time, or more;
* `sent_of_nothing_kept`: with `latest`, the last element sent is the last one that came,
  unless that one is kept;
* `timer_of_kept`: a kept element has a timer, which is due half a unit after the due time at
  the latest.
-/

namespace RxSwift

open Runs

structure Throttle where
  dueTime : ℕ
  latest : Bool := true
  deriving DecidableEq, Repr

/-- The state of a throttle.  `timer` is the deadline of the timer that was started last and
has not fired; `received` and `sent` record the elements that came in, and those sent with
their times; `clock` is the time of the last event. -/
structure ThrottleSink (α : Type) where
  lastUnsentElement : Option α := none
  lastSentTime : Option ℚ := none
  timer : Option ℚ := none
  received : List α := []
  sent : List (α × ℚ) := []
  clock : ℚ := 0

/-- An event at the time `now`; if it sends an element, its observers are done at `after`. -/
inductive ThrottleEvent (α : Type)
  | next (element : α) (now after : ℚ)
  | propagate (now after : ℚ)

def ThrottleEvent.now {α : Type} : ThrottleEvent α → ℚ
  | .next _ now _ => now
  | .propagate now _ => now

def ThrottleEvent.after {α : Type} : ThrottleEvent α → ℚ
  | .next _ _ after => after
  | .propagate _ after => after

/-- The elements that come with an event. -/
def ThrottleEvent.elements {α : Type} : ThrottleEvent α → List α
  | .next element _ _ => [element]
  | .propagate _ _ => []

/-- `reduceWithSpanBetween(earlierDate:laterDate:)`: the remainder is rounded to whole units,
halves up. -/
def reduceWithSpanBetween (value : ℕ) (earlierDate laterDate : ℚ) : ℕ :=
  let remainder := value - (laterDate - earlierDate)
  if remainder > 0 then ⌊remainder + 1 / 2⌋.toNat else 0

namespace ThrottleSink

variable {α : Type}

def sendNow (s : ThrottleSink α) (element : α) (now after : ℚ) : ThrottleSink α :=
  { s with
    lastUnsentElement := none
    lastSentTime := some after
    sent := s.sent ++ [(element, now)] }

/-- What is left of the due time. -/
def reducedScheduledTime (p : Throttle) (s : ThrottleSink α) (now : ℚ) : ℕ :=
  s.lastSentTime.elim 0 fun lastSendingTime => reduceWithSpanBetween p.dueTime lastSendingTime now

/-- `on(.next(element))`.  A timer that is started cancels the one before. -/
def next (p : Throttle) (s : ThrottleSink α) (element : α) (now after : ℚ) : ThrottleSink α :=
  if s.reducedScheduledTime p now = 0 then s.sendNow element now after
  else if p.latest = false then s
  else if s.lastUnsentElement.isSome then { s with lastUnsentElement := some element }
  else
    { s with
      lastUnsentElement := some element
      timer := some (now + s.reducedScheduledTime p now) }

def propagate (s : ThrottleSink α) (now after : ℚ) : ThrottleSink α :=
  match s.lastUnsentElement with
  | some lastUnsentElement => sendNow { s with timer := none } lastUnsentElement now after
  | none => { s with timer := none }

/-- One event; the clock does not go back, and a timer does not fire before it is due. -/
def step (p : Throttle) (s : ThrottleSink α) (e : ThrottleEvent α) : Option (ThrottleSink α) :=
  if s.clock ≤ e.now ∧ e.now ≤ e.after then
    match e with
    | .next element now after =>
        some { s.next p element now after with
          received := s.received ++ [element]
          clock := after }
    | .propagate now after =>
        match s.timer with
        | some deadline =>
            if deadline ≤ now then some { s.propagate now after with clock := after } else none
        | none => none
  else none

variable {p : Throttle} {s t : ThrottleSink α} {e : ThrottleEvent α}

section Rounding

/-- Half a unit before the due time is over nothing is left. -/
theorem reduce_eq_zero_iff (value : ℕ) (earlier later : ℚ) :
    reduceWithSpanBetween value earlier later = 0 ↔ value - 1 / 2 < later - earlier := by
  unfold reduceWithSpanBetween
  dsimp only
  split
  · next hpositive =>
      rw [Int.toNat_eq_zero, ← Int.lt_add_one_iff, Int.floor_lt]
      constructor <;> intro h <;> push_cast at * <;> linarith
  · next hover => exact iff_of_true rfl (by linarith)

/-- What is left is right up to half a unit. -/
theorem reduce_bounds {value : ℕ} {earlier later : ℚ}
    (h : reduceWithSpanBetween value earlier later ≠ 0) :
    value - (later - earlier) - 1 / 2 < reduceWithSpanBetween value earlier later ∧
      (reduceWithSpanBetween value earlier later : ℚ) ≤ value - (later - earlier) + 1 / 2 := by
  unfold reduceWithSpanBetween at h ⊢
  dsimp only at h ⊢
  split at h
  · next hpositive =>
      rw [if_pos hpositive]
      have hnonneg : 0 ≤ ⌊(value : ℚ) - (later - earlier) + 1 / 2⌋ := by
        apply Int.floor_nonneg.mpr
        linarith
      have hcast : ((⌊(value : ℚ) - (later - earlier) + 1 / 2⌋.toNat : ℕ) : ℚ) =
          (⌊(value : ℚ) - (later - earlier) + 1 / 2⌋ : ℚ) := by
        exact_mod_cast congrArg (Int.cast : ℤ → ℚ) (Int.toNat_of_nonneg hnonneg)
      rw [hcast]
      have hfloor := Int.floor_le ((value : ℚ) - (later - earlier) + 1 / 2)
      have hnext := Int.lt_floor_add_one ((value : ℚ) - (later - earlier) + 1 / 2)
      constructor <;> linarith
  · exact absurd rfl h

end Rounding

section Runs

/-- Two sends are less than half a unit short of the due time apart. -/
def Apart (p : Throttle) (earlier later : α × ℚ) : Prop :=
  earlier.2 + p.dueTime - 1 / 2 < later.2

/-- The sends keep their distance, and an element that is kept has a timer. -/
structure Paced (p : Throttle) (s : ThrottleSink α) : Prop where
  past : ∀ last ∈ s.lastSentTime, last ≤ s.clock
  sentAt : ∀ entry ∈ s.sent.getLast?, ∃ last ∈ s.lastSentTime, entry.2 ≤ last
  kept : s.lastUnsentElement.isSome → ∃ deadline ∈ s.timer, ∃ last ∈ s.lastSentTime,
    last + p.dueTime - 1 / 2 < deadline ∧ deadline ≤ last + p.dueTime + 1 / 2
  spaced : s.sent.IsChain (Apart p)

/-- An element may be sent when half a unit before the due time is over. -/
theorem Paced.of_sent {element : α} {now after : ℚ} (h : s.Paced p)
    (hdue : ∀ last ∈ s.lastSentTime, last + p.dueTime - 1 / 2 < now) (hnow : now ≤ after)
    (hsent : t.sent = s.sent ++ [(element, now)]) (hlast : t.lastSentTime = some after)
    (hunsent : t.lastUnsentElement = none) (hclock : t.clock = after) : t.Paced p := by
  refine ⟨?_, ?_, ?_, ?_⟩
  · intro last hmem
    obtain rfl : after = last := Option.some.inj (hlast ▸ hmem)
    exact hclock.ge
  · intro entry hentry
    rw [hsent, List.getLast?_concat] at hentry
    obtain rfl := Option.some.inj hentry
    exact ⟨after, hlast, hnow⟩
  · intro hkept
    rw [hunsent] at hkept
    cases hkept
  · rw [hsent, List.isChain_append]
    refine ⟨h.spaced, List.isChain_singleton _, ?_⟩
    intro earlier hearlier later hlater
    obtain rfl := Option.some.inj hlater
    obtain ⟨last, hmem, hle⟩ := h.sentAt earlier hearlier
    have := hdue last hmem
    show earlier.2 + p.dueTime - 1 / 2 < now
    linarith

/-- What an element that comes does. -/
theorem next_cases (p : Throttle) (s : ThrottleSink α) (element : α) (now after : ℚ) :
    ((∀ last ∈ s.lastSentTime, last + p.dueTime - 1 / 2 < now) ∧
        s.next p element now after = s.sendNow element now after) ∨
      (p.latest = false ∧ s.next p element now after = s) ∨
      (s.lastUnsentElement.isSome ∧
        s.next p element now after = { s with lastUnsentElement := some element }) ∨
      ∃ last ∈ s.lastSentTime, ∃ deadline,
        last + p.dueTime - 1 / 2 < deadline ∧ deadline ≤ last + p.dueTime + 1 / 2 ∧
        s.next p element now after =
          { s with lastUnsentElement := some element, timer := some deadline } := by
  unfold next
  by_cases hnow : s.reducedScheduledTime p now = 0
  · rw [if_pos hnow]
    refine Or.inl ⟨fun last hlast => ?_, rfl⟩
    unfold reducedScheduledTime at hnow
    rw [show s.lastSentTime = some last from hlast, Option.elim_some,
      reduce_eq_zero_iff] at hnow
    linarith
  · rw [if_neg hnow]
    split
    · next hlatest => exact Or.inr (Or.inl ⟨hlatest, rfl⟩)
    · split
      · next hflight => exact Or.inr (Or.inr (Or.inl ⟨hflight, rfl⟩))
      · refine Or.inr (Or.inr (Or.inr ?_))
        cases hlast : s.lastSentTime with
        | none =>
            unfold reducedScheduledTime at hnow
            rw [hlast] at hnow
            exact absurd rfl hnow
        | some last =>
            have hleft : s.reducedScheduledTime p now =
                reduceWithSpanBetween p.dueTime last now := by
              unfold reducedScheduledTime
              rw [hlast, Option.elim_some]
            rw [hleft] at hnow ⊢
            have hbounds := reduce_bounds hnow
            refine ⟨last, rfl, _, ?_, ?_, rfl⟩
            · linarith [hbounds.1]
            · linarith [hbounds.2]

/-- The timer with nothing to send only goes out. -/
theorem propagate_of_none {now after : ℚ} (h : s.lastUnsentElement = none) :
    s.propagate now after = { s with timer := none } := by
  unfold propagate
  rw [h]

/-- The timer sends the element that is kept, as of now, and goes out. -/
theorem propagate_of_some {element : α} {now after : ℚ} (h : s.lastUnsentElement = some element) :
    s.propagate now after = sendNow { s with timer := none } element now after := by
  unfold propagate
  rw [h]

/-- What an event does, by what it was. -/
theorem step_cases (hstep : step p s e = some t) :
    s.clock ≤ e.now ∧ e.now ≤ e.after ∧ t.clock = e.after ∧
      ((∃ element now after, e = .next element now after ∧
          t = { s.next p element now after with
            received := s.received ++ [element]
            clock := after }) ∨
        ∃ now after deadline, e = .propagate now after ∧ s.timer = some deadline ∧
          deadline ≤ now ∧ t = { s.propagate now after with clock := after }) := by
  unfold step at hstep
  split at hstep
  · next htime =>
      refine ⟨htime.1, htime.2, ?_⟩
      cases e with
      | next element now after =>
          obtain rfl := Option.some.inj hstep
          exact ⟨rfl, Or.inl ⟨element, now, after, rfl, rfl⟩⟩
      | propagate now after =>
          dsimp only at hstep
          split at hstep
          · next deadline htimer =>
              split at hstep
              · next hdue =>
                  obtain rfl := Option.some.inj hstep
                  exact ⟨rfl, Or.inr ⟨now, after, deadline, rfl, htimer, hdue, rfl⟩⟩
              · cases hstep
          · cases hstep
  · cases hstep

/-- The sends keep their distance in every step. An element is sent at once only if no less
than the due time has passed, up to the rounding of the remaining time, and else by a timer
set for what remains. -/
theorem Paced.step (h : s.Paced p) (hstep : ThrottleSink.step p s e = some t) : t.Paced p := by
  obtain ⟨hclock, hafter, -, hcase⟩ := step_cases hstep
  rcases hcase with ⟨element, now, after, rfl, rfl⟩ | ⟨now, after, deadline, rfl, htimer, hdue, rfl⟩
  · have hpast : ∀ last ∈ s.lastSentTime, last ≤ after := fun last hlast =>
      (h.past last hlast).trans (hclock.trans hafter)
    rcases next_cases p s element now after with ⟨hsend, heq⟩ | ⟨-, heq⟩ | ⟨hflight, heq⟩ |
      ⟨last, hlast, due, hlow, hhigh, heq⟩
    · rw [heq]
      exact h.of_sent hsend hafter rfl rfl rfl rfl
    · rw [heq]
      exact ⟨hpast, h.sentAt, h.kept, h.spaced⟩
    · rw [heq]
      exact ⟨hpast, h.sentAt, fun _ => h.kept hflight, h.spaced⟩
    · rw [heq]
      exact ⟨hpast, h.sentAt, fun _ => ⟨due, rfl, last, hlast, hlow, hhigh⟩, h.spaced⟩
  · cases hunsent : s.lastUnsentElement with
    | none =>
        rw [propagate_of_none hunsent]
        refine ⟨fun last hlast => (h.past last hlast).trans (hclock.trans hafter), h.sentAt, ?_,
          h.spaced⟩
        intro hkept
        rw [show ({ s with timer := none, clock := after } : ThrottleSink α).lastUnsentElement =
          none from hunsent] at hkept
        cases hkept
    | some element =>
        rw [propagate_of_some hunsent]
        obtain ⟨due, hmem, last, hlast, hlow, -⟩ := h.kept (by rw [hunsent]; rfl)
        obtain rfl : deadline = due := Option.some.inj (htimer.symm.trans hmem)
        refine h.of_sent (fun other hother => ?_) hafter rfl rfl rfl rfl
        obtain rfl : last = other := Option.some.inj (hlast.symm.trans hother)
        exact hlow.trans_le hdue

/-- Nothing has been sent at the start. -/
theorem paced_start : ({} : ThrottleSink α).Paced p :=
  ⟨nofun, nofun, nofun, List.isChain_nil⟩

/-- **The distance of two elements** in a row is less than half a unit short of the due
time. -/
theorem spaced {es : List (ThrottleEvent α)} (h : runFrom (step p) {} es = some s) :
    s.sent.IsChain (Apart p) :=
  (runFrom_of_step (fun _ _ _ => Paced.step) paced_start h).spaced

/-- The element that came last is kept, or was the last one sent. -/
def Follows (s : ThrottleSink α) : Prop :=
  s.received.getLast? = s.lastUnsentElement.or (s.sent.getLast?.map Prod.fst)

/-- With `latest`, each element that comes in is sent at once or replaces the one that is
kept, so that none but the last can be waiting. -/
theorem Follows.step (hlatest : p.latest = true) (h : s.Follows)
    (hstep : ThrottleSink.step p s e = some t) : t.Follows := by
  obtain ⟨-, -, -, hcase⟩ := step_cases hstep
  rcases hcase with ⟨element, now, after, rfl, rfl⟩ | ⟨now, after, deadline, rfl, -, -, rfl⟩
  · unfold Follows
    rcases next_cases p s element now after with ⟨-, heq⟩ | ⟨hdrop, -⟩ | ⟨-, heq⟩ |
      ⟨last, -, deadline, -, -, heq⟩
    · rw [heq]
      simp [sendNow]
    · rw [hlatest] at hdrop
      cases hdrop
    · rw [heq]
      simp
    · rw [heq]
      simp
  · unfold Follows at h ⊢
    cases hunsent : s.lastUnsentElement with
    | none =>
        rw [propagate_of_none hunsent]
        exact h
    | some element =>
        rw [propagate_of_some hunsent]
        rw [hunsent] at h
        simpa [sendNow] using h

/-- **The last element comes through**: it was sent last, unless it is kept. -/
theorem sent_of_nothing_kept {es : List (ThrottleEvent α)} (hlatest : p.latest = true)
    (h : runFrom (step p) {} es = some s) (hnone : s.lastUnsentElement = none) :
    s.sent.getLast?.map Prod.fst = s.received.getLast? := by
  have hstart : ({} : ThrottleSink α).Follows := rfl
  have hfollows : s.Follows :=
    runFrom_of_step (fun _ _ _ (hs : Follows _) => hs.step hlatest) hstart h
  rw [hfollows, hnone, Option.none_or]

/-- **A kept element is sent in time**: it has a timer, which is due half a unit after the due
time at the latest. -/
theorem timer_of_kept {es : List (ThrottleEvent α)} (h : runFrom (step p) {} es = some s)
    (hkept : s.lastUnsentElement.isSome) :
    ∃ deadline ∈ s.timer, ∃ last ∈ s.lastSentTime, deadline ≤ last + p.dueTime + 1 / 2 := by
  have hpaced : s.Paced p := runFrom_of_step (fun _ _ _ => Paced.step) paced_start h
  obtain ⟨deadline, htimer, last, hlast, -, hdue⟩ := hpaced.kept hkept
  exact ⟨deadline, htimer, last, hlast, hdue⟩

/-- What is kept or was sent has come in. -/
structure Received (s : ThrottleSink α) : Prop where
  kept : ∀ element ∈ s.lastUnsentElement, element ∈ s.received
  sent : ∀ entry ∈ s.sent, entry.1 ∈ s.received

/-- An event adds one element to those received, or none, and one to those sent, or none. -/
theorem step_frame (hstep : ThrottleSink.step p s e = some t) :
    (t.sent = s.sent ∨ ∃ entry, t.sent = s.sent ++ [entry]) ∧
      t.received = s.received ++ e.elements := by
  obtain ⟨-, -, -, hcase⟩ := step_cases hstep
  rcases hcase with ⟨element, now, after, rfl, rfl⟩ | ⟨now, after, deadline, rfl, -, -, rfl⟩
  · refine ⟨?_, rfl⟩
    rcases next_cases p s element now after with ⟨-, heq⟩ | ⟨-, heq⟩ | ⟨-, heq⟩ |
      ⟨last, -, deadline, -, -, heq⟩
    · exact Or.inr ⟨(element, now), by rw [heq]; rfl⟩
    · exact Or.inl (by rw [heq])
    · exact Or.inl (by rw [heq])
    · exact Or.inl (by rw [heq])
  · cases hunsent : s.lastUnsentElement with
    | none =>
        rw [propagate_of_none hunsent]
        exact ⟨Or.inl rfl, (List.append_nil _).symm⟩
    | some element =>
        rw [propagate_of_some hunsent]
        exact ⟨Or.inr ⟨(element, now), rfl⟩, (List.append_nil _).symm⟩

/-- Elements are kept and sent as they came: no step makes one up. -/
theorem Received.step (h : s.Received) (hstep : ThrottleSink.step p s e = some t) :
    t.Received := by
  obtain ⟨-, -, -, hcase⟩ := step_cases hstep
  rcases hcase with ⟨element, now, after, rfl, rfl⟩ | ⟨now, after, deadline, rfl, -, -, rfl⟩
  · have hkept : ∀ other ∈ s.lastUnsentElement, other ∈ s.received ++ [element] :=
      fun other hother => List.mem_append_left _ (h.kept other hother)
    have hsent : ∀ entry ∈ s.sent, entry.1 ∈ s.received ++ [element] :=
      fun entry hentry => List.mem_append_left _ (h.sent entry hentry)
    rcases next_cases p s element now after with ⟨-, heq⟩ | ⟨-, heq⟩ | ⟨-, heq⟩ |
      ⟨last, -, deadline, -, -, heq⟩
    · rw [heq]
      refine ⟨nofun, fun entry hentry => ?_⟩
      rcases List.mem_append.mp hentry with hearly | hlast
      · exact hsent entry hearly
      · simp [List.mem_singleton.mp hlast]
    · rw [heq]
      exact ⟨hkept, hsent⟩
    · rw [heq]
      exact ⟨by simp, hsent⟩
    · rw [heq]
      exact ⟨by simp, hsent⟩
  · cases hunsent : s.lastUnsentElement with
    | none =>
        rw [propagate_of_none hunsent]
        exact ⟨h.kept, h.sent⟩
    | some element =>
        rw [propagate_of_some hunsent]
        refine ⟨nofun, fun entry hentry => ?_⟩
        rcases List.mem_append.mp hentry with hearly | hlast
        · exact h.sent entry hearly
        · obtain rfl := List.mem_singleton.mp hlast
          exact h.kept element hunsent

/-- Nothing is sent that has not come. -/
theorem received_of_sent {es : List (ThrottleEvent α)} (h : runFrom (step p) {} es = some s)
    {entry : α × ℚ} (hentry : entry ∈ s.sent) : entry.1 ∈ s.received := by
  have hstart : ({} : ThrottleSink α).Received := ⟨nofun, nofun⟩
  exact (runFrom_of_step (fun _ _ _ (hs : Received _) => hs.step) hstart h).sent entry hentry

end Runs

end ThrottleSink

end RxSwift
