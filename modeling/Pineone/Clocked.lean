import Mathlib.Data.List.Nodup
import Mathlib.Tactic.Common

/-!
# Filtering while a clock runs

A computation that reads a clock is a `StateM ℕ`: the state counts the readings
taken so far, and the reading with number `n` is `clock n`.

* `filter_eq`: when the test takes a fixed number of readings, filtering a list
  without repetitions keeps the elements that pass at their own readings
  (`filter_zipIdx` for the rows of a list);
* `filter_map`: filtering commutes with maps.
-/

namespace Clocked

variable {α β Date : Type}

/-- The next reading of the clock. -/
def read (clock : ℕ → Date) : StateM ℕ Date := fun n => (clock n, n + 1)

/-- The elements that pass a test, which is made on one after the other. -/
def filter (p : α → StateM ℕ Bool) : List α → StateM ℕ (List α)
  | [] => pure []
  | a :: as => do
      let kept ← p a
      let rest ← filter p as
      return if kept then a :: rest else rest

/-- The first element is asked first, and the rest is filtered from the reading at which that
ends. -/
theorem filter_cons (p : α → StateM ℕ Bool) (a : α) (as : List α) (n : ℕ) :
    filter p (a :: as) n =
      (if (p a n).1 then a :: (filter p as (p a n).2).1 else (filter p as (p a n).2).1,
        (filter p as (p a n).2).2) :=
  rfl

/-- A test that does not depend on its readings filters as usual. The readings are taken all
the same, and later tests begin after them. -/
theorem filter_of_steady {p : α → StateM ℕ Bool} {q : α → Bool} {k : ℕ}
    (hp : ∀ a n, p a n = (q a, n + k)) (as : List α) (n : ℕ) :
    filter p as n = (as.filter q, n + k * as.length) := by
  induction as generalizing n with
  | nil => rfl
  | cons a as ih =>
      have hlength : n + k + k * as.length = n + k * (a :: as).length := by
        rw [List.length_cons, Nat.mul_succ]
        omega
      rw [filter_cons, hp, ih, hlength, List.filter_cons]

/-- **Filtering while a clock runs.**  Each element is tested at the readings
that its row in the list gives it. -/
theorem filter_eq [BEq α] [LawfulBEq α] {p : α → StateM ℕ Bool} {q : α → ℕ → Bool} {k : ℕ}
    (hp : ∀ a n, p a n = (q a n, n + k)) {as : List α} (hnd : as.Nodup) (n : ℕ) :
    filter p as n = (as.filter fun a => q a (n + k * as.idxOf a), n + k * as.length) := by
  induction as generalizing n with
  | nil => rfl
  | cons a as ih =>
      rw [List.nodup_cons] at hnd
      have hrest : (as.filter fun b => q b (n + k + k * as.idxOf b)) =
          as.filter fun b => q b (n + k * (a :: as).idxOf b) := by
        apply List.filter_congr
        intro b hb
        have hne : a ≠ b := fun h => hnd.1 (h ▸ hb)
        rw [List.idxOf_cons_ne as hne, Nat.mul_succ, Nat.add_assoc, Nat.add_comm k]
      have hlength : n + k + k * as.length = n + k * (a :: as).length := by
        rw [List.length_cons, Nat.mul_succ]
        omega
      rw [filter_cons, hp, ih hnd.2, hrest, hlength, List.filter_cons, List.idxOf_cons_self,
        Nat.mul_zero, Nat.add_zero]

/-- Numbered elements differ in their numbers, also where the elements themselves are equal. -/
theorem nodup_zipIdx (as : List α) : as.zipIdx.Nodup := by
  have hrows : (as.zipIdx.map Prod.snd).Nodup := by
    rw [List.zipIdx_map_snd]
    exact List.nodup_range'
  exact hrows.of_map Prod.snd

/-- A numbered element stands at its number, so that its position in the list can be read off
it. -/
theorem idxOf_zipIdx [BEq α] [LawfulBEq α] {as : List α} {row : α × ℕ} (h : row ∈ as.zipIdx) :
    as.zipIdx.idxOf row = row.2 := by
  obtain ⟨i, hi, rfl⟩ := List.getElem_of_mem h
  rw [(nodup_zipIdx as).idxOf_getElem i hi, List.getElem_zipIdx, Nat.zero_add]

/-- Filtering the rows of a list: a row is tested at the readings of its number. So the test
of a row can be stated without the rows before it. -/
theorem filter_zipIdx [BEq α] [LawfulBEq α] {p : α × ℕ → StateM ℕ Bool}
    {q : α × ℕ → ℕ → Bool} {k : ℕ} (hp : ∀ row n, p row n = (q row n, n + k)) (as : List α)
    (n : ℕ) :
    filter p as.zipIdx n =
      (as.zipIdx.filter fun row => q row (n + k * row.2), n + k * as.length) := by
  have hrows : (as.zipIdx.filter fun row => q row (n + k * as.zipIdx.idxOf row)) =
      as.zipIdx.filter fun row => q row (n + k * row.2) := by
    apply List.filter_congr
    intro row hrow
    rw [idxOf_zipIdx hrow]
  rw [filter_eq hp (nodup_zipIdx as), hrows, List.length_zipIdx]

/-- Filtering the images of a list asks the same questions at the same readings as filtering
the list. -/
theorem filter_map (p : β → StateM ℕ Bool) (f : α → β) (as : List α) (n : ℕ) :
    filter p (as.map f) n =
      ((filter (fun a => p (f a)) as n).1.map f, (filter (fun a => p (f a)) as n).2) := by
  induction as generalizing n with
  | nil => rfl
  | cons a as ih =>
      rw [List.map_cons, filter_cons, filter_cons, ih]
      by_cases hkept : (p (f a) n).1 = true
      · simp only [if_pos hkept, List.map_cons]
      · simp only [if_neg hkept]

end Clocked
