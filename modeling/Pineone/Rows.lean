import Mathlib.Data.List.Nodup
import Mathlib.Data.List.NodupEquivFin
import Mathlib.Data.Finset.Card
import Mathlib.Data.Finset.Image
import Mathlib.Data.Finset.Max
import Mathlib.Order.WellFounded

/-!
# Rows of a list: picking and dropping by position

A table names the elements of a list by their rows.  `pickRows rows l` are the
elements at the given rows, `dropRows rows l` the elements at all other rows, in
order.  A store that only knows keys realises `dropRows` by a filter, which is
correct when the keys are pairwise distinct (`dropRows_eq_filter`).

The second part reads the same rows in two lists `l` and `m` when a renumbering
`f` tells where in `m` each row of `l` is found:

* `pickRows_subset_iff`: the rows mean elements of the same rows in `m` exactly
  when `f` maps the set of rows into itself, and then (`rows_surjOn`) onto itself;
* `fixed_iff_nothing_gone`: when `l` is what is left of `m`, that is the case
  exactly when nothing at or above these rows of `m` has gone.
-/

namespace Rows

variable {α β κ : Type}

/-- The elements of `l` at the rows `rows`; rows past the end give nothing. -/
def pickRows (rows : List Nat) (l : List α) : List α :=
  rows.filterMap fun r => l[r]?

/-- The elements of `l` at all rows but `rows`, in order. -/
def dropRows (rows : List Nat) (l : List α) : List α :=
  (l.zipIdx.filter fun p => !rows.contains p.2).map Prod.fst

/-- An element is picked if it stands at one of the rows. -/
theorem mem_pickRows {rows : List Nat} {l : List α} {x : α} :
    x ∈ pickRows rows l ↔ ∃ r ∈ rows, l[r]? = some x := by
  simp [pickRows]

/-- It is left if it stands at a row that is none of them. -/
theorem mem_dropRows {rows : List Nat} {l : List α} {x : α} :
    x ∈ dropRows rows l ↔ ∃ r, r ∉ rows ∧ l[r]? = some x := by
  simp [dropRows, List.mem_zipIdx_iff_getElem?, and_comm]

/-- Every element stands at a picked or at a dropped row. -/
theorem mem_pickRows_or_mem_dropRows (rows : List Nat) {l : List α} {x : α}
    (hx : x ∈ l) : x ∈ pickRows rows l ∨ x ∈ dropRows rows l := by
  obtain ⟨r, hr⟩ := List.mem_iff_getElem?.mp hx
  by_cases hrow : r ∈ rows
  · exact Or.inl (mem_pickRows.mpr ⟨r, hrow, hr⟩)
  · exact Or.inr (mem_dropRows.mpr ⟨r, hrow, hr⟩)

/-- Rows that the list does not have pick nothing. -/
theorem mem_of_mem_pickRows {rows : List Nat} {l : List α} {x : α}
    (hx : x ∈ pickRows rows l) : x ∈ l := by
  obtain ⟨r, _, hr⟩ := mem_pickRows.mp hx
  exact List.mem_of_getElem? hr

/-- Rows are picked by their position, whatever stands there. -/
theorem pickRows_map (f : α → β) (rows : List Nat) (l : List α) :
    pickRows rows (l.map f) = (pickRows rows l).map f := by
  simp only [pickRows, List.getElem?_map, List.map_filterMap]

/-- So it is with dropping them. -/
theorem dropRows_map (f : α → β) (rows : List Nat) (l : List α) :
    dropRows rows (l.map f) = (dropRows rows l).map f := by
  unfold dropRows
  rw [List.zipIdx_map, List.filter_map, List.map_map, List.map_map]
  rfl

/-- What is left keeps its order. -/
theorem dropRows_sublist (rows : List Nat) (l : List α) :
    (dropRows rows l).Sublist l := by
  have h : (l.zipIdx.filter fun p => !rows.contains p.2).Sublist l.zipIdx :=
    List.filter_sublist
  simpa [dropRows] using h.map Prod.fst

/-- Filtering a list is filtering its numbered elements and forgetting the numbers. -/
theorem filter_eq_map_fst_zipIdx (q : α → Bool) (l : List α) :
    l.filter q = (l.zipIdx.filter fun p => q p.1).map Prod.fst := by
  have h := List.filter_map (f := Prod.fst) (p := q) (l := l.zipIdx)
  rw [List.zipIdx_map_fst] at h
  exact h

/-- Two rows of a list with distinct keys that show the same key are the same
row. -/
theorem row_eq_of_key_eq {keyOf : α → κ} {l : List α}
    (hnd : (l.map keyOf).Nodup) {i j : Nat} {x y : α}
    (hi : l[i]? = some x) (hj : l[j]? = some y) (hkey : keyOf x = keyOf y) :
    i = j := by
  have hx : (l.map keyOf)[i]? = some (keyOf x) := by simp [hi]
  have hy : (l.map keyOf)[j]? = some (keyOf x) := by simp [hj, hkey]
  have hlt : i < (l.map keyOf).length := (List.getElem?_eq_some_iff.mp hx).1
  exact (List.getElem?_inj hlt hnd).mp (hx.trans hy.symm)

/-- **Dropping rows by key.**  With distinct keys, filtering out the keys of the
picked rows drops exactly those rows. -/
theorem dropRows_eq_filter [BEq κ] [LawfulBEq κ] (keyOf : α → κ) {l : List α}
    (hnd : (l.map keyOf).Nodup) (rows : List Nat) :
    dropRows rows l =
      l.filter fun x => !((pickRows rows l).map keyOf).contains (keyOf x) := by
  rw [filter_eq_map_fst_zipIdx, dropRows]
  congr 1
  apply List.filter_congr
  rintro ⟨x, i⟩ hmem
  have hi : l[i]? = some x := List.mem_zipIdx_iff_getElem?.mp hmem
  have hiff : i ∈ rows ↔ keyOf x ∈ (pickRows rows l).map keyOf := by
    constructor
    · intro hrow
      exact List.mem_map_of_mem (mem_pickRows.mpr ⟨i, hrow, hi⟩)
    · intro hkey
      obtain ⟨y, hy, hxy⟩ := List.mem_map.mp hkey
      obtain ⟨r, hr, hry⟩ := mem_pickRows.mp hy
      exact row_eq_of_key_eq hnd hry hi hxy ▸ hr
  by_cases hrow : i ∈ rows
  · simp [hrow, hiff.mp hrow]
  · have hkey : keyOf x ∉ (pickRows rows l).map keyOf := fun h => hrow (hiff.mpr h)
    simp [hrow, hkey]

/-- With distinct keys, the elements that dropping the rows takes away are those
at the rows. -/
theorem gone_iff_mem_pickRows {keyOf : α → κ} {l : List α}
    (hnd : (l.map keyOf).Nodup) {rows : List Nat} {x : α} :
    x ∈ l ∧ x ∉ dropRows rows l ↔ x ∈ pickRows rows l := by
  constructor
  · intro hgone
    rcases mem_pickRows_or_mem_dropRows rows hgone.1 with hpicked | hdropped
    · exact hpicked
    · exact absurd hdropped hgone.2
  · intro hpicked
    refine ⟨mem_of_mem_pickRows hpicked, fun hdropped => ?_⟩
    obtain ⟨r, hr, hrx⟩ := mem_pickRows.mp hpicked
    obtain ⟨s, hs, hsx⟩ := mem_dropRows.mp hdropped
    exact hs (row_eq_of_key_eq hnd hrx hsx rfl ▸ hr)

/-- Removing elements with the listed keys from a list with distinct keys. -/
theorem nodup_keys_dropRows {keyOf : α → κ} {l : List α}
    (hnd : (l.map keyOf).Nodup) (rows : List Nat) :
    ((dropRows rows l).map keyOf).Nodup :=
  hnd.sublist ((dropRows_sublist rows l).map keyOf)

section Renumbering

variable {l m : List α} {f : Nat → Nat} {keyOf : α → κ} {rows : List Nat}

/-- The row `r` of `l` is the row `f r` of `m`. -/
def Renumbers (f : Nat → Nat) (l m : List α) : Prop :=
  ∀ r x, l[r]? = some x → m[f r]? = some x

/-- **Reading rows in two lists.**  What `l` has at the rows is found at the same
rows of `m` exactly when the renumbering maps the rows into themselves. -/
theorem pickRows_subset_iff (hf : Renumbers f l m) (hnd : (m.map keyOf).Nodup)
    (hrange : ∀ r ∈ rows, r < l.length) :
    (∀ x ∈ pickRows rows l, x ∈ pickRows rows m) ↔ ∀ r ∈ rows, f r ∈ rows := by
  constructor
  · intro hsub r hr
    obtain ⟨x, hx⟩ : ∃ x, l[r]? = some x :=
      ⟨_, List.getElem?_eq_getElem (hrange r hr)⟩
    obtain ⟨s, hs, hsx⟩ := mem_pickRows.mp (hsub x (mem_pickRows.mpr ⟨r, hr, hx⟩))
    exact row_eq_of_key_eq hnd hsx (hf r x hx) rfl ▸ hs
  · intro hrows x hx
    obtain ⟨r, hr, hrx⟩ := mem_pickRows.mp hx
    exact mem_pickRows.mpr ⟨f r, hrows r hr, hf r x hrx⟩

/-- A map that is injective on finitely many rows and stays within them reaches
all of them. -/
theorem rows_surjOn (hinj : ∀ r ∈ rows, ∀ s ∈ rows, f r = f s → r = s)
    (hrows : ∀ r ∈ rows, f r ∈ rows) : ∀ s ∈ rows, ∃ r ∈ rows, f r = s := by
  have hsub : rows.toFinset.image f ⊆ rows.toFinset := by
    intro s hs
    obtain ⟨r, hr, rfl⟩ := Finset.mem_image.mp hs
    exact List.mem_toFinset.mpr (hrows r (List.mem_toFinset.mp hr))
  have hcard : (rows.toFinset.image f).card = rows.toFinset.card := by
    apply Finset.card_image_of_injOn
    intro r hr s hs
    exact hinj r (by simpa using hr) s (by simpa using hs)
  have himage : rows.toFinset.image f = rows.toFinset :=
    Finset.eq_of_subset_of_card_le hsub (Nat.le_of_eq hcard.symm)
  intro s hs
  have hmem : s ∈ rows.toFinset.image f := by
    rw [himage]
    exact List.mem_toFinset.mpr hs
  obtain ⟨r, hr, hrs⟩ := Finset.mem_image.mp hmem
  exact ⟨r, List.mem_toFinset.mp hr, hrs⟩

/-- The two lists mean the same elements by the rows as soon as every element of
`l` at the rows is one of `m` at the rows. -/
theorem pickRows_eq_of_rows (hf : Renumbers f l m) (hnd : (l.map keyOf).Nodup)
    (hrange : ∀ r ∈ rows, r < l.length) (hrows : ∀ r ∈ rows, f r ∈ rows) (x : α) :
    x ∈ pickRows rows l ↔ x ∈ pickRows rows m := by
  constructor
  · intro hx
    obtain ⟨r, hr, hrx⟩ := mem_pickRows.mp hx
    exact mem_pickRows.mpr ⟨f r, hrows r hr, hf r x hrx⟩
  · intro hx
    obtain ⟨s, hs, hsx⟩ := mem_pickRows.mp hx
    have hinj : ∀ r ∈ rows, ∀ s ∈ rows, f r = f s → r = s := by
      intro r hr s hs hrs
      have hxr := List.getElem?_eq_getElem (hrange r hr)
      have hxs := List.getElem?_eq_getElem (hrange s hs)
      have hsame := (hf r _ hxr).symm.trans (hrs ▸ hf s _ hxs)
      exact row_eq_of_key_eq hnd hxr hxs (congrArg keyOf (Option.some.inj hsame))
    obtain ⟨r, hr, rfl⟩ := rows_surjOn hinj hrows s hs
    obtain ⟨y, hy⟩ : ∃ y, l[r]? = some y :=
      ⟨_, List.getElem?_eq_getElem (hrange r hr)⟩
    have hxy : y = x := Option.some.inj ((hf r y hy).symm.trans hsx)
    exact mem_pickRows.mpr ⟨r, hr, hxy ▸ hy⟩

/-- A strictly increasing renumbering that maps rows into themselves moves no row
up to the last of them. -/
theorem fixed_of_rows_subset (hmono : StrictMono f) (hrows : ∀ r ∈ rows, f r ∈ rows) :
    ∀ r ∈ rows, ∀ j ≤ r, f j = j := by
  intro r hr j hj
  obtain ⟨s, hs, hlast⟩ := Finset.exists_max_image rows.toFinset id
    ⟨r, List.mem_toFinset.mpr hr⟩
  have hrs : r ≤ s := hlast r (List.mem_toFinset.mpr hr)
  have hfs : f s ≤ s :=
    hlast (f s) (List.mem_toFinset.mpr (hrows s (List.mem_toFinset.mp hs)))
  have hle : j ≤ f j := hmono.le_apply
  have hclimb : ∀ k, f j + k ≤ f (j + k) := by
    intro k
    induction k with
    | zero => exact Nat.le_refl _
    | succ k ih =>
        have : f (j + k) < f (j + (k + 1)) := hmono (by omega)
        omega
  have := hclimb (s - j)
  rw [Nat.add_sub_cancel' (Nat.le_trans hj hrs)] at this
  omega

/-- **Nothing gone above the rows.**  When `f` embeds what is left of `m` into
`m`, the rows are left where they were exactly when `m` still has everything at
or above them. -/
theorem fixed_iff_nothing_gone (hf : ∀ r, l[r]? = m[f r]?) (hmono : StrictMono f)
    (hnd : (m.map keyOf).Nodup) (hrange : ∀ r ∈ rows, r < m.length) :
    (∀ r ∈ rows, ∀ j ≤ r, f j = j) ↔
      ∀ r ∈ rows, ∀ j ≤ r, ∀ x, m[j]? = some x → x ∈ l := by
  constructor
  · intro hfix r hr j hj x hx
    have hl : l[j]? = some x := by rw [hf, hfix r hr j hj, hx]
    exact List.mem_of_getElem? hl
  · intro hkept r hr j
    induction j using Nat.strong_induction_on with
    | _ j ih =>
        intro hj
        obtain ⟨x, hx⟩ : ∃ x, m[j]? = some x :=
          ⟨_, List.getElem?_eq_getElem (Nat.lt_of_le_of_lt hj (hrange r hr))⟩
        obtain ⟨i, hi⟩ := List.mem_iff_getElem?.mp (hkept r hr j hj x hx)
        have hij : f i = j := row_eq_of_key_eq hnd (hf i ▸ hi) hx rfl
        have hle : i ≤ f i := hmono.le_apply
        rcases Nat.lt_or_eq_of_le (hij ▸ hle) with hlt | rfl
        · have := ih i hlt (by omega)
          omega
        · exact hij

end Renumbering

end Rows
