import Mathlib.Data.List.Basic
import Mathlib.Data.List.Infix
import Mathlib.Tactic.Common

/-!
# Leftmost matches

A matcher says how long the match is that starts at the head of a text, if there is one.
The leftmost matches of a text are found from left to right, each search going on behind
the match before.

* `find_take`: a window that holds all matches of a text has the same matches;
* `replaceRanges_find`: replacing the matches by nothing leaves what is outside of them;
* `find_outside`: where matches end at a stop, no match is left then.
-/

namespace LeftmostMatches

structure Range where
  location : ℕ
  length : ℕ
  deriving DecidableEq, Repr

/-- The length of the match at the head of a text.  It depends on the match alone, so a
window that holds the match has it too, and no window makes a match. -/
structure Matcher (α : Type) where
  matchLength : List α → Option ℕ
  fits : ∀ {w n}, matchLength w = some n → 0 < n ∧ n ≤ w.length
  take : ∀ {w n k}, matchLength w = some n → n ≤ k → matchLength (w.take k) = some n
  take_none : ∀ {w} k, matchLength w = none → matchLength (w.take k) = none

variable {α : Type}

/-- The leftmost matches of a text that starts at `location` and whose first `skip` units
belong to a match already found. -/
def find (m : Matcher α) : ℕ → ℕ → List α → List Range
  | _, _, [] => []
  | location, skip + 1, _ :: w => find m (location + 1) skip w
  | location, 0, u :: w =>
      match m.matchLength (u :: w) with
      | some n => ⟨location, n⟩ :: find m (location + 1) (n - 1) w
      | none => find m (location + 1) 0 w

/-- A text that starts at `location` with its `ranges` replaced, from left to right. -/
def replaceRanges (replacement : Range → List α) : ℕ → List Range → List α → List α
  | _, [], w => w
  | location, r :: ranges, w =>
      w.take (r.location - location) ++ replacement r ++
        replaceRanges replacement (r.location + r.length) ranges
          (w.drop (r.location + r.length - location))

/-- What is outside of the leftmost matches. -/
def outside (m : Matcher α) : ℕ → List α → List α
  | _, [] => []
  | skip + 1, _ :: w => outside m skip w
  | 0, u :: w =>
      match m.matchLength (u :: w) with
      | some n => outside m (n - 1) w
      | none => u :: outside m 0 w

variable {m : Matcher α} {location skip k n : ℕ} {u : α} {w : List α}

/-- A match at the front is found there, and the search goes on behind it. The matches of one
search do not overlap. -/
theorem find_of_match (h : m.matchLength (u :: w) = some n) :
    find m location 0 (u :: w) = ⟨location, n⟩ :: find m (location + 1) (n - 1) w := by
  rw [find, h]

/-- Without one the search goes on at the next place. -/
theorem find_of_no_match (h : m.matchLength (u :: w) = none) :
    find m location 0 (u :: w) = find m (location + 1) 0 w := by
  rw [find, h]

/-- The elements of a match are not outside. -/
theorem outside_of_match (h : m.matchLength (u :: w) = some n) :
    outside m 0 (u :: w) = outside m (n - 1) w := by
  rw [outside, h]

/-- An element where no match begins, and which no earlier one reaches, is outside. -/
theorem outside_of_no_match (h : m.matchLength (u :: w) = none) :
    outside m 0 (u :: w) = u :: outside m 0 w := by
  rw [outside, h]

/-- A match lies behind the units skipped, is not empty and inside the text. These bounds are
what the ranges of a replacement have to meet. -/
theorem mem_find {r : Range} (hr : r ∈ find m location skip w) :
    location + skip ≤ r.location ∧ 0 < r.length ∧ r.location + r.length ≤ location + w.length := by
  induction w generalizing location skip with
  | nil => cases hr
  | cons u w ih =>
      rw [List.length_cons]
      cases skip with
      | succ skip =>
          have := ih hr
          omega
      | zero =>
          cases hmatch : m.matchLength (u :: w) with
          | none =>
              rw [find_of_no_match hmatch] at hr
              have := ih hr
              omega
          | some n =>
              rw [find_of_match hmatch] at hr
              have hfits := m.fits hmatch
              rw [List.length_cons] at hfits
              rcases List.mem_cons.mp hr with rfl | hrest
              · have hend : location + n ≤ location + (w.length + 1) := by omega
                exact ⟨Nat.le_refl _, hfits.1, hend⟩
              · have := ih hrest
                omega

/-- **A window with all matches.** If every match of the whole text lies in the window, then
searching the window finds the same matches. -/
theorem find_take (h : ∀ r ∈ find m location skip w, r.location + r.length ≤ location + k) :
    find m location skip (w.take k) = find m location skip w := by
  induction w generalizing location skip k with
  | nil => rw [List.take_nil]
  | cons u w ih =>
      cases k with
      | zero =>
          -- no match fits into an empty window, so there is none
          have hnone : find m location skip (u :: w) = [] := by
            apply List.eq_nil_iff_forall_not_mem.mpr
            intro r hr
            have hplace := mem_find hr
            have hwindow := h r hr
            omega
          rw [hnone, List.take_zero]
          rfl
      | succ k =>
          rw [List.take_succ_cons]
          cases skip with
          | succ skip =>
              refine ih fun r hr => ?_
              have := h r hr
              omega
          | zero =>
              cases hmatch : m.matchLength (u :: w) with
              | none =>
                  have hwindow := m.take_none (k + 1) hmatch
                  rw [List.take_succ_cons] at hwindow
                  rw [find_of_no_match hmatch] at h ⊢
                  rw [find_of_no_match hwindow]
                  refine ih fun r hr => ?_
                  have := h r hr
                  omega
              | some n =>
                  rw [find_of_match hmatch] at h ⊢
                  obtain ⟨hfirst, hrest⟩ := List.forall_mem_cons.mp h
                  have hn : n ≤ k + 1 := by
                    have : location + n ≤ location + (k + 1) := hfirst
                    omega
                  have hwindow := m.take hmatch hn
                  rw [List.take_succ_cons] at hwindow
                  rw [find_of_match hwindow, ih]
                  intro r hr
                  have := hrest r hr
                  omega

/-- Replacing goes on behind a unit that no range contains. -/
theorem replaceRanges_cons {replacement : Range → List α} {ranges : List Range}
    (h : ∀ r ∈ ranges, location + 1 ≤ r.location) :
    replaceRanges replacement location ranges (u :: w) =
      u :: replaceRanges replacement (location + 1) ranges w := by
  cases ranges with
  | nil => rfl
  | cons r ranges =>
      have hr := h r List.mem_cons_self
      have htake : r.location - location = (r.location - (location + 1)) + 1 := by omega
      have hdrop : r.location + r.length - location =
          (r.location + r.length - (location + 1)) + 1 := by omega
      rw [replaceRanges, replaceRanges, htake, hdrop, List.take_succ_cons, List.drop_succ_cons]
      rfl

/-- **The matches replaced by nothing.** What stays of a text is what lies outside of the
matches. -/
theorem replaceRanges_find (m : Matcher α) (location skip : ℕ) (w : List α) :
    replaceRanges (fun _ => []) (location + skip) (find m location skip w) (w.drop skip) =
      outside m skip w := by
  induction w generalizing location skip with
  | nil =>
      rw [List.drop_nil]
      cases skip <;> rfl
  | cons u w ih =>
      cases skip with
      | succ skip =>
          rw [List.drop_succ_cons, show location + (skip + 1) = (location + 1) + skip by omega]
          exact ih (location + 1) skip
      | zero =>
          rw [List.drop_zero, Nat.add_zero]
          cases hmatch : m.matchLength (u :: w) with
          | none =>
              rw [find_of_no_match hmatch, outside_of_no_match hmatch, replaceRanges_cons]
              · rw [← ih, Nat.add_zero, List.drop_zero]
              · intro r hr
                have := (mem_find hr).1
                omega
          | some n =>
              have hn := (m.fits hmatch).1
              have hbehind : location + n = (location + 1) + (n - 1) := by omega
              have hdrop : location + n - location = (n - 1) + 1 := by omega
              rw [find_of_match hmatch, outside_of_match hmatch, replaceRanges, hdrop,
                List.drop_succ_cons, hbehind, ih, Nat.sub_self]
              rfl

section Stops

/-- A matcher whose matches end at a stop or at the end of the text; a stop starts no match,
and no match is made by a stop that comes earlier. -/
structure StopMatcher (α : Type) extends Matcher α where
  stop : α → Bool
  ends : ∀ {w n}, matchLength w = some n → ∀ u ∈ (w.drop n).head?, stop u = true
  not_stop : ∀ {u w}, stop u = true → matchLength (u :: w) = none
  seals : ∀ {a b rest}, matchLength (a ++ b) = none →
    (∀ u ∈ rest.head?, stop u = true) → matchLength (a ++ rest) = none

variable {m : StopMatcher α}

/-- Skipping the rest of a match is leaving its elements out, so the outside of a text can be
computed from the place where the match ends. -/
theorem outside_drop : outside m.toMatcher skip w = outside m.toMatcher 0 (w.drop skip) := by
  induction w generalizing skip with
  | nil => cases skip <;> rfl
  | cons u w ih =>
      cases skip with
      | zero => rfl
      | succ skip => exact ih

/-- A stop is outside of every match: a text that begins with one keeps it at the front. -/
theorem head_outside (h : ∀ u ∈ w.head?, m.stop u = true) :
    ∀ u ∈ (outside m.toMatcher 0 w).head?, m.stop u = true := by
  cases w with
  | nil => exact nofun
  | cons u w =>
      have hu := h u rfl
      rw [outside_of_no_match (m.not_stop hu)]
      intro v hv
      obtain rfl := Option.some.inj hv
      exact hu

/-- Up to the first match nothing changes, and a stop comes next. A match ends only before a
stop or at the end of the text. -/
theorem outside_shape (w : List α) : ∃ a b rest, w = a ++ b ∧
    outside m.toMatcher 0 w = a ++ rest ∧ ∀ u ∈ rest.head?, m.stop u = true := by
  induction w with
  | nil => exact ⟨[], [], [], rfl, rfl, nofun⟩
  | cons u w ih =>
      cases hmatch : m.matchLength (u :: w) with
      | none =>
          obtain ⟨a, b, rest, hw, houtside, hstop⟩ := ih
          refine ⟨u :: a, b, rest, by rw [List.cons_append, ← hw], ?_, hstop⟩
          rw [outside_of_no_match hmatch, houtside, List.cons_append]
      | some n =>
          have hn := (m.fits hmatch).1
          have hdrop : (u :: w).drop n = w.drop (n - 1) := by
            have hsucc : n = (n - 1) + 1 := by omega
            rw [hsucc, List.drop_succ_cons, ← hsucc]
          refine ⟨[], u :: w, outside m.toMatcher 0 (w.drop (n - 1)), rfl, ?_, ?_⟩
          · rw [outside_of_match hmatch, outside_drop, List.nil_append]
          · exact head_outside (hdrop ▸ m.ends hmatch)

/-- **No match is left** outside of the matches. Leaving a match out joins what was before it
to a stop, and no head reaches over a stop. -/
theorem find_outside (m : StopMatcher α) (location skip : ℕ) (w : List α) :
    find m.toMatcher location 0 (outside m.toMatcher skip w) = [] := by
  induction w generalizing location skip with
  | nil => cases skip <;> rfl
  | cons u w ih =>
      cases skip with
      | succ skip => exact ih location skip
      | zero =>
          cases hmatch : m.matchLength (u :: w) with
          | some n =>
              rw [outside_of_match hmatch]
              exact ih location (n - 1)
          | none =>
              obtain ⟨a, b, rest, hw, houtside, hstop⟩ := outside_shape (m := m) w
              have hstill : m.matchLength (u :: outside m.toMatcher 0 w) = none := by
                rw [houtside, ← List.cons_append]
                apply m.seals (b := b) _ hstop
                rw [List.cons_append, ← hw, hmatch]
              rw [outside_of_no_match hmatch, find_of_no_match hstill]
              exact ih (location + 1) 0

end Stops

section Heads

/-- The spellings of a literal.  They have no stop, and none begins another one. -/
structure Heads (α : Type) (stop : α → Bool) where
  spellings : List (List α)
  ne_nil : ∀ h ∈ spellings, h ≠ []
  no_stop : ∀ h ∈ spellings, ∀ u ∈ h, stop u = false
  prefix_free : ∀ h ∈ spellings, ∀ h' ∈ spellings, h <+: h' → h = h'

namespace Heads

variable [DecidableEq α] {stop : α → Bool} (heads : Heads α stop)

/-- The spelling that a text begins with. -/
def headOf (w : List α) : Option (List α) := heads.spellings.find? fun h => h.isPrefixOf w

/-- The literal and everything up to the next stop. -/
def matchLength (w : List α) : Option ℕ :=
  (heads.headOf w).map fun h =>
    h.length + ((w.drop h.length).takeWhile fun u => !stop u).length

variable {heads} {h : List α}

/-- The head that is found is one of the spellings, and stands at the front. -/
theorem spelling_of_headOf (hfind : heads.headOf w = some h) :
    h ∈ heads.spellings ∧ h <+: w := by
  have hbegins : h.isPrefixOf w = true :=
    List.find?_some (p := fun h : List α => h.isPrefixOf w) hfind
  exact ⟨List.mem_of_find?_eq_some hfind, List.isPrefixOf_iff_prefix.mp hbegins⟩

/-- Conversely a spelling at the front is the one that is found: no spelling is a prefix of
another one. -/
theorem headOf_eq_some_iff : heads.headOf w = some h ↔ h ∈ heads.spellings ∧ h <+: w := by
  constructor
  · exact spelling_of_headOf
  · rintro ⟨hmem, hbegins⟩
    cases hfind : heads.headOf w with
    | none =>
        have hnot := List.find?_eq_none.mp hfind h hmem
        exact absurd (List.isPrefixOf_iff_prefix.mpr hbegins) hnot
    | some h' =>
        obtain ⟨hmem', hbegins'⟩ := spelling_of_headOf hfind
        -- of two beginnings of one text one begins the other
        rcases List.prefix_or_prefix_of_prefix hbegins hbegins' with hle | hle
        · rw [heads.prefix_free h hmem h' hmem' hle]
        · rw [heads.prefix_free h' hmem' h hmem hle]

/-- No head is found exactly if no spelling stands at the front. -/
theorem headOf_eq_none_iff : heads.headOf w = none ↔ ∀ h ∈ heads.spellings, ¬ h <+: w := by
  rw [headOf, List.find?_eq_none]
  simp only [List.isPrefixOf_iff_prefix]

/-- A match is a head with everything up to the first stop after it. -/
theorem matchLength_eq_some (hmatch : heads.matchLength w = some n) :
    ∃ h rest, h ∈ heads.spellings ∧ w = h ++ rest ∧
      n = h.length + (rest.takeWhile fun u => !stop u).length := by
  obtain ⟨h, hhead, rfl⟩ := Option.map_eq_some_iff.mp hmatch
  obtain ⟨hmem, rest, rfl⟩ := headOf_eq_some_iff.mp hhead
  exact ⟨h, rest, hmem, rfl, by rw [List.drop_left]⟩

/-- Behind a head the match goes on to the first stop, or to the end. No other spelling is
found in its place, since none begins another one. -/
theorem matchLength_append (hmem : h ∈ heads.spellings) (rest : List α) :
    heads.matchLength (h ++ rest) =
      some (h.length + (rest.takeWhile fun u => !stop u).length) := by
  rw [matchLength, headOf_eq_some_iff.mpr ⟨hmem, List.prefix_append h rest⟩, Option.map_some,
    List.drop_left]

/-- There is a match exactly where there is a head. -/
theorem matchLength_eq_none : heads.matchLength w = none ↔ heads.headOf w = none :=
  Option.map_eq_none_iff

omit [DecidableEq α] in
/-- A spelling ends before a stop. -/
theorem prefix_of_stop {a rest : List α} (hmem : h ∈ heads.spellings)
    (hstop : ∀ u ∈ rest.head?, stop u = true) (hbegins : h <+: a ++ rest) : h <+: a := by
  rcases List.prefix_or_prefix_of_prefix hbegins (List.prefix_append a rest) with hfront | hover
  · exact hfront
  · obtain ⟨t, rfl⟩ := hover
    rw [List.prefix_append_right_inj] at hbegins
    cases t with
    | nil => rw [List.append_nil]
    | cons u t =>
        obtain ⟨tail, rfl⟩ := hbegins
        have hu := heads.no_stop _ hmem u (List.mem_append_right a List.mem_cons_self)
        rw [hstop u rfl] at hu
        cases hu

omit [DecidableEq α] in
/-- What is read up to the first stop does not change if the text is cut off behind it, or at
it. -/
theorem takeWhile_take {p : α → Bool} {rest : List α}
    (hk : (rest.takeWhile p).length ≤ k) : (rest.take k).takeWhile p = rest.takeWhile p := by
  rw [← List.take_takeWhile, List.take_of_length_le hk]

omit [DecidableEq α] in
/-- Dropping as many elements as were taken leaves what comes from the first stop on. -/
theorem drop_length_takeWhile (p : α → Bool) (rest : List α) :
    rest.drop (rest.takeWhile p).length = rest.dropWhile p := by
  have hsplit := List.takeWhile_append_dropWhile (p := p) (l := rest)
  calc rest.drop (rest.takeWhile p).length
      = (rest.takeWhile p ++ rest.dropWhile p).drop (rest.takeWhile p).length := by rw [hsplit]
    _ = rest.dropWhile p := List.drop_left' rfl

/-- So a match stays as long as it was if the text is cut off behind it. -/
theorem matchLength_take (hmatch : heads.matchLength w = some n) (hk : n ≤ k) :
    heads.matchLength (w.take k) = some n := by
  obtain ⟨h, rest, hmem, rfl, rfl⟩ := matchLength_eq_some hmatch
  obtain ⟨j, rfl⟩ : ∃ j, k = h.length + j := ⟨k - h.length, by omega⟩
  rw [List.take_length_add_append, matchLength_append hmem, takeWhile_take (by omega)]

variable (heads) in
/-- The matcher of a literal and everything up to the next stop. -/
def matcher : StopMatcher α where
  matchLength := heads.matchLength
  stop := stop
  fits {w n} hmatch := by
    obtain ⟨h, rest, hmem, rfl, rfl⟩ := matchLength_eq_some hmatch
    have hpos : 0 < h.length := List.length_pos_iff.mpr (heads.ne_nil h hmem)
    have hle := (List.takeWhile_prefix (l := rest) fun u => !stop u).length_le
    rw [List.length_append]
    omega
  take := matchLength_take
  take_none {w} k hnone := by
    rw [matchLength_eq_none, headOf_eq_none_iff] at hnone ⊢
    intro h hmem hbegins
    exact hnone h hmem (hbegins.trans (List.take_prefix k w))
  ends {w n} hmatch u hu := by
    obtain ⟨h, rest, hmem, rfl, rfl⟩ := matchLength_eq_some hmatch
    rw [List.drop_length_add_append, drop_length_takeWhile] at hu
    have hhead := List.head?_dropWhile_not (fun u => !stop u) rest
    rw [hu] at hhead
    simpa using hhead
  not_stop {u w} hstop := by
    rw [matchLength_eq_none, headOf_eq_none_iff]
    intro h hmem hbegins
    have hempty : h <+: [] := by
      refine prefix_of_stop hmem (fun v hv => ?_) hbegins
      obtain rfl := Option.some.inj hv
      exact hstop
    exact heads.ne_nil h hmem (List.prefix_nil.mp hempty)
  seals {a b rest} hnone hstop := by
    rw [matchLength_eq_none, headOf_eq_none_iff] at hnone ⊢
    intro h hmem hbegins
    exact hnone h hmem ((prefix_of_stop hmem hstop hbegins).trans (List.prefix_append a b))

end Heads

end Heads

end LeftmostMatches
