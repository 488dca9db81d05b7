import Mathlib.Data.List.Basic
import Mathlib.Data.List.Nodup
import Mathlib.Tactic.Common

/-!
# The row an element takes in a stable sort

`List.mergeSort` is a stable sort.  For a total, transitive comparison:

* `mergeSort_filter`: sorting commutes with filtering, since the elements that
  stay keep their order in both;
* `getElem?_mergeSort_rank`: an element of the input is found in the sorted
  list at its *rank*, the number of elements that sort strictly ahead of it or
  tie with it and stand before it.
-/

namespace StableSort

variable {α : Type} {le : α → α → Bool}

/-- A list splits in one way only into a part that fails `q` and a part that
satisfies it. -/
private theorem append_split_unique {q : α → Bool} {a b c d : List α}
    (h : a ++ b = c ++ d) (ha : ∀ x ∈ a, q x = false) (hb : ∀ x ∈ b, q x = true)
    (hc : ∀ x ∈ c, q x = false) (hd : ∀ x ∈ d, q x = true) : a = c ∧ b = d := by
  have hfilter : ∀ xs ys : List α, (∀ x ∈ xs, q x = false) → (∀ x ∈ ys, q x = true) →
      (xs ++ ys).filter q = ys := by
    intro xs ys hxs hys
    rw [List.filter_append, List.filter_eq_nil_iff.mpr (by simpa using hxs),
      List.filter_eq_self.mpr hys, List.nil_append]
  have hbd : b = d := by
    rw [← hfilter a b ha hb, h, hfilter c d hc hd]
  subst hbd
  exact ⟨List.append_cancel_right h, rfl⟩

section

variable (htrans : ∀ a b c, le a b = true → le b c = true → le a c = true)
  (htotal : ∀ a b, (le a b || le b a) = true)

include htrans htotal

/-- **Sorting commutes with filtering.** The sort is stable, so that among equal elements
those that stay keep their order as well. -/
theorem mergeSort_filter (p : α → Bool) (l : List α) :
    (l.filter p).mergeSort le = (l.mergeSort le).filter p := by
  induction l with
  | nil => simp
  | cons a l ih =>
      obtain ⟨l₁, l₂, hsorted, hrest, hahead⟩ := List.mergeSort_cons htrans htotal a l
      by_cases hp : p a
      · obtain ⟨m₁, m₂, hm, hmrest, hmahead⟩ :=
          List.mergeSort_cons htrans htotal a (l.filter p)
        have hbehind : ∀ b ∈ l₂, le a b = true := by
          have hpair := List.pairwise_mergeSort htrans htotal (a :: l)
          rw [hsorted] at hpair
          exact (List.pairwise_cons.mp (List.pairwise_append.mp hpair).2.1).1
        have hmbehind : ∀ b ∈ m₂, le a b = true := by
          have hpair := List.pairwise_mergeSort htrans htotal (a :: l.filter p)
          rw [hm] at hpair
          exact (List.pairwise_cons.mp (List.pairwise_append.mp hpair).2.1).1
        have hsplit : m₁ ++ m₂ = l₁.filter p ++ l₂.filter p := by
          rw [← hmrest, ih, hrest, List.filter_append]
        obtain ⟨h₁, h₂⟩ := append_split_unique (q := le a) hsplit
          (by simpa using hmahead) hmbehind
          (fun b hb => by simpa using hahead b (List.mem_of_mem_filter hb))
          (fun b hb => hbehind b (List.mem_of_mem_filter hb))
        rw [List.filter_cons_of_pos hp, hm, hsorted, List.filter_append,
          List.filter_cons_of_pos hp, h₁, h₂]
      · rw [List.filter_cons_of_neg hp, ih, hsorted, hrest, List.filter_append,
          List.filter_append, List.filter_cons_of_neg hp]

end

/-- The entry `(b, j)` comes before `(a, i)` in a stable sort: it is strictly
smaller, or ties and stands first in the input. -/
def aheadOf (le : α → α → Bool) (a : α) (i : Nat) (entry : α × Nat) : Bool :=
  le entry.1 a && (!le a entry.1 || decide (entry.2 < i))

/-- How many elements of `l` a stable sort puts before the one at row `i`. -/
def rank (le : α → α → Bool) (l : List α) (i : Nat) : Nat :=
  match l[i]? with
  | some a => l.zipIdx.countP (aheadOf le a i)
  | none => l.length

/-- The row of an entry is the number of entries satisfying `q`, when `q` holds
of the entries before it and of no entry from it on. -/
private theorem countP_eq_of_split {q : α → Bool} {l : List α} {k : Nat}
    (hk : k ≤ l.length)
    (hbefore : ∀ j x, j < k → l[j]? = some x → q x = true)
    (hfrom : ∀ j x, k ≤ j → l[j]? = some x → q x = false) :
    l.countP q = k := by
  have htake : (l.take k).countP q = (l.take k).length := by
    apply List.countP_eq_length.mpr
    intro x hx
    obtain ⟨j, hj⟩ := List.mem_iff_getElem?.mp hx
    rw [List.getElem?_take] at hj
    split at hj
    · next hjk => exact hbefore j x hjk hj
    · cases hj
  have hdrop : (l.drop k).countP q = 0 := by
    apply List.countP_eq_zero.mpr
    intro x hx
    obtain ⟨j, hj⟩ := List.mem_iff_getElem?.mp hx
    rw [List.getElem?_drop] at hj
    simp [hfrom (k + j) x (Nat.le_add_right k j) hj]
  calc l.countP q = (l.take k ++ l.drop k).countP q := by rw [List.take_append_drop]
    _ = (l.take k).length + 0 := by rw [List.countP_append, htake, hdrop]
    _ = k := by simp [hk]

/-- An entry that the order of the numbered list puts first is ahead. -/
private theorem aheadOf_of_zipIdxLE {a b : α} {i n : Nat}
    (hle : List.zipIdxLE le (b, n) (a, i) = true) (hne : n ≠ i) :
    aheadOf le a i (b, n) = true := by
  revert hle
  simp only [List.zipIdxLE, aheadOf]
  cases le b a <;> cases le a b <;> simp
  omega

/-- An entry that it puts second is not. -/
private theorem not_aheadOf_of_zipIdxLE {a b : α} {i n : Nat}
    (hle : List.zipIdxLE le (a, i) (b, n) = true) : aheadOf le a i (b, n) = false := by
  revert hle
  simp only [List.zipIdxLE, aheadOf]
  cases le b a <;> cases le a b <;> simp

/-- An entry is not ahead of itself. -/
private theorem not_aheadOf_self (a : α) (i : Nat) : aheadOf le a i (a, i) = false := by
  simp only [aheadOf, Nat.lt_irrefl, decide_false, Bool.or_false]
  cases le a a <;> rfl

/-- **Where an element is found after sorting**: behind those that are ahead of it, which are
the smaller ones and the equal ones that came before it. -/
theorem getElem?_mergeSort_rank
    (htrans : ∀ a b c, le a b = true → le b c = true → le a c = true)
    (htotal : ∀ a b, (le a b || le b a) = true)
    {l : List α} {i : Nat} {a : α} (hi : l[i]? = some a) :
    (l.mergeSort le)[rank le l i]? = some a := by
  -- The ranks are read off the sort of the numbered list, which has no ties.
  let entries := l.zipIdx.mergeSort (List.zipIdxLE le)
  have hperm : entries.Perm l.zipIdx := List.mergeSort_perm _ _
  have hsorted : entries.Pairwise fun p q => List.zipIdxLE le p q = true :=
    List.pairwise_mergeSort (List.zipIdxLE_trans htrans) (List.zipIdxLE_total htotal) _
  have hnumbers : (entries.map Prod.snd).Nodup := by
    rw [(hperm.map Prod.snd).nodup_iff, List.zipIdx_map_snd]
    exact List.nodup_range'
  have hmem : (a, i) ∈ entries :=
    hperm.mem_iff.mpr (List.mem_zipIdx_iff_getElem?.mpr hi)
  obtain ⟨k, hk⟩ := List.mem_iff_getElem?.mp hmem
  obtain ⟨hklt, hkeq⟩ := List.getElem?_eq_some_iff.mp hk
  have hrank : rank le l i = k := by
    simp only [rank, hi]
    rw [← hperm.countP_eq]
    apply countP_eq_of_split (Nat.le_of_lt hklt)
    · rintro j ⟨b, n⟩ hj hb
      obtain ⟨hjlt, hjeq⟩ := List.getElem?_eq_some_iff.mp hb
      have hle : List.zipIdxLE le (b, n) (a, i) = true := by
        have h := List.pairwise_iff_getElem.mp hsorted j k hjlt hklt hj
        rwa [hjeq, hkeq] at h
      apply aheadOf_of_zipIdxLE hle
      intro hni
      have hjk : j = k := (List.getElem?_inj (by simpa using hjlt) hnumbers).mp (by
        simp [hb, hk, hni])
      omega
    · rintro j ⟨b, n⟩ hj hb
      rcases Nat.lt_or_eq_of_le hj with hlt | rfl
      · obtain ⟨hjlt, hjeq⟩ := List.getElem?_eq_some_iff.mp hb
        have h := List.pairwise_iff_getElem.mp hsorted k j hklt hjlt hlt
        rw [hjeq, hkeq] at h
        exact not_aheadOf_of_zipIdxLE h
      · obtain ⟨rfl, rfl⟩ : b = a ∧ n = i := by simpa using hb.symm.trans hk
        exact not_aheadOf_self b n
  have hmap : l.mergeSort le = entries.map Prod.fst := List.mergeSort_zipIdx.symm
  rw [hmap, hrank, List.getElem?_map, hk]
  rfl

end StableSort
