import Pineone.Numerals

/-!
# The texts of times and counts

How the cells print a play time and a count of views, and how the seeker prints the time it
jumps by.  A printed count is cut off to the places shown.

* `play_time_read_iff`: a play time reads back unless it is an hour or more below zero, or
  longer than the format can tell;
* `setupValue_injective`: image and text of the seeker tell every time apart;
* `counts_shown_alike_iff`: two counts are printed alike exactly when they agree up to the
  places shown.
-/

namespace NumberTexts

open Swift

/-- `getPlayTime()` -/
def getPlayTime (n : ℤ) : String :=
  let h := n.tdiv 3600
  let m := (n.tmod 3600).tdiv 60
  let s := (n.tmod 3600).tmod 60
  if h > 0 then padded h ++ ":" ++ padded m ++ ":" ++ padded s else padded m ++ ":" ++ padded s

/-- `Int.timeString` -/
def timeString (n : ℤ) : String :=
  let absInt := n.natAbs
  if absInt = 0 then "00"
  else if 1 ≤ absInt ∧ absInt < 10 then "0" ++ toString absInt
  else toString absInt

/-- `SeekerView.makeTimeStr(_:)` -/
def makeTimeStr (time : ℤ) : String :=
  timeString (time.tdiv 60) ++ ":" ++ timeString (time.tmod 60)

inductive SeekerImage
  | imgPlayBack
  | imgPlayForward
  deriving DecidableEq, Repr

structure SeekerView where
  image : SeekerImage
  text : String
  deriving DecidableEq, Repr

/-- `setupValue(time:)` -/
def setupValue (time : ℤ) : SeekerView :=
  { image := if time < 0 then .imgPlayBack else .imgPlayForward, text := makeTimeStr time }

/-- `getContentsDetailCount()`; the division by 100 is one of integers, so there is nothing to
round. -/
def getContentsDetailCount (n : ℤ) : String :=
  if n ≥ 1000 ∧ n < 10000 then
    toString (n.tdiv 1000) ++ "." ++ toString ((n.tmod 1000).tdiv 100) ++ "천"
  else if n ≥ 10000 ∧ n < 100000 then
    toString (n.tdiv 10000) ++ "." ++ toString ((n.tmod 10000).tdiv 1000) ++ "만"
  else if n ≥ 100000 ∧ n < 100000000 then toString (n.tdiv 10000) ++ "만"
  else if n ≥ 100000000 then toString (n.tdiv 100000000) ++ "억"
  else toString n

section Times

/-- The parts of a time that are printed. -/
def shownParts (n : ℤ) : List ℤ :=
  if n.tdiv 3600 > 0 then [n.tdiv 3600, (n.tmod 3600).tdiv 60, (n.tmod 3600).tmod 60]
  else [(n.tmod 3600).tdiv 60, (n.tmod 3600).tmod 60]

/-- A play time is its parts, two digits each, with colons between them. -/
theorem getPlayTime_eq (n : ℤ) : getPlayTime n = joined ":" ((shownParts n).map padded) := by
  unfold getPlayTime shownParts
  split
  · rw [if_pos ‹_›]
    simp [joined, String.append_assoc]
  · rw [if_neg ‹_›]
    simp [joined, String.append_assoc]

/-- The hours of a time that has any, and the minutes and seconds, as they are read back. The
parts go through 32 bits on their way into the format. -/
theorem sexagesimal_shownParts (n : ℤ) :
    sexagesimal ((shownParts n).map (Int.bmod · (2 ^ 32))) =
      if 3600 ≤ n then (n.tdiv 3600).bmod (2 ^ 32) * 3600 + n.tmod 3600 else n.tmod 3600 := by
  have hhours := tdiv_tmod_range n (d := 3600) (by omega)
  have hminutes := tdiv_tmod_range (n.tmod 3600) (d := 60) (by omega)
  have hm := (bmod_range ((n.tmod 3600).tdiv 60)).2.2 (by omega) (by omega)
  have hs := (bmod_range ((n.tmod 3600).tmod 60)).2.2 (by omega) (by omega)
  unfold shownParts sexagesimal
  split
  · next hpositive =>
      rw [if_pos (by omega)]
      simp only [List.map_cons, List.map_nil, List.foldl_cons, List.foldl_nil, hm, hs]
      omega
  · next hnone =>
      rw [if_neg (by omega)]
      simp only [List.map_cons, List.map_nil, List.foldl_cons, List.foldl_nil, hm, hs]
      omega

/-- **A play time reads back** exactly when it is less than an hour below zero, since hours
below zero are not printed, and has less than 2^31 hours, since the format cuts them off. -/
theorem play_time_read_iff (n : ℤ) :
    readTime (getPlayTime n) = some n ↔ -3600 < n ∧ n < 3600 * 2 ^ 31 := by
  have hparts : (shownParts n).map padded =
      ((shownParts n).map (Int.bmod · (2 ^ 32))).map twoDigits := by
    rw [List.map_map]
    rfl
  rw [getPlayTime_eq, hparts, readTime_joined, sexagesimal_shownParts, Option.some_inj]
  have hhours := tdiv_tmod_range n (d := 3600) (by omega)
  have hbits := bmod_range (n.tdiv 3600)
  split <;> omega

/-- Hours, minutes and seconds are printed by their absolute value, in two digits at least.
The sign of a time is not in its text. -/
theorem timeString_eq (n : ℤ) : timeString n = twoDigits n.natAbs := by
  unfold timeString twoDigits
  by_cases hzero : n.natAbs = 0
  · rw [hzero]
    rfl
  · by_cases hdigit : n.natAbs < 10
    · rw [if_neg hzero, if_pos (by omega), if_pos (by omega)]
      rfl
    · rw [if_neg hzero, if_neg (by omega), if_neg (by omega)]
      rfl

/-- **The seeker tells every time apart.** The image tells the sign, the minutes are not
bounded, and the seconds stay below sixty. -/
theorem setupValue_injective : Function.Injective setupValue := by
  intro t u h
  have hsign : t < 0 ↔ u < 0 := by
    have himage := congrArg SeekerView.image h
    unfold setupValue at himage
    split at himage <;> split at himage <;> simp at himage <;> omega
  have hjoined : ∀ time : ℤ, makeTimeStr time =
      joined ":" ([((time.tdiv 60).natAbs : ℤ), ((time.tmod 60).natAbs : ℤ)].map twoDigits) := by
    intro time
    unfold makeTimeStr
    rw [timeString_eq, timeString_eq]
    simp [joined, String.append_assoc]
  have htext : makeTimeStr t = makeTimeStr u := congrArg SeekerView.text h
  rw [hjoined, hjoined] at htext
  have hparts := congrArg (fun text => (split ':' text).mapM intOfString) htext
  simp only [split_joined_twoDigits, mapM_twoDigits, Option.some.injEq, List.cons.injEq] at hparts
  have ht := tdiv_tmod_range t (d := 60) (by omega)
  have hu := tdiv_tmod_range u (d := 60) (by omega)
  omega

end Times

section Counts

/-- What one step of the last place shown is worth. -/
def precision (n : ℤ) : ℤ :=
  if n < 1000 then 1
  else if n < 10000 then 100
  else if n < 100000 then 1000
  else if n < 100000000 then 10000
  else 100000000

/-- A printed count: a number, a digit after the point, and a unit. -/
structure ShownCount where
  number : ℤ
  digit : Option ℤ
  unit : List Char
  deriving DecidableEq, Repr

namespace ShownCount

/-- The characters after the number. -/
def rest (s : ShownCount) : List Char :=
  s.digit.elim s.unit fun digit => '.' :: ((toString digit).toList ++ s.unit)

def toList (s : ShownCount) : List Char := (toString s.number).toList ++ s.rest

/-- The unit is no part of the number before it. -/
def Separated (s : ShownCount) : Prop := ∀ c ∈ s.unit.head?, isNumeral c = false ∧ c ≠ '.'

/-- What follows the number of a count begins with the point or the unit, and with no digit. -/
theorem Separated.rest {s : ShownCount} (h : s.Separated) :
    ∀ c ∈ s.rest.head?, isNumeral c = false := by
  intro c hc
  unfold ShownCount.rest at hc
  cases hdigit : s.digit with
  | none =>
      rw [hdigit] at hc
      exact (h c hc).1
  | some digit =>
      rw [hdigit] at hc
      obtain rfl : '.' = c := Option.some.inj hc
      decide

/-- So the digit after the point and the unit can be told from it. -/
theorem rest_inj {s t : ShownCount} (hs : s.Separated) (ht : t.Separated)
    (h : s.rest = t.rest) : s.digit = t.digit ∧ s.unit = t.unit := by
  unfold ShownCount.rest at h
  cases hdigit : s.digit with
  | none =>
      cases hother : t.digit with
      | none =>
          rw [hdigit, hother] at h
          exact ⟨rfl, h⟩
      | some digit =>
          rw [hdigit, hother] at h
          have hpoint : '.' ∈ s.unit.head? := by simp [show s.unit = _ from h]
          exact absurd rfl (hs '.' hpoint).2
  | some digit =>
      cases hother : t.digit with
      | none =>
          rw [hdigit, hother] at h
          have hpoint : '.' ∈ t.unit.head? := by simp [show t.unit = _ from h.symm]
          exact absurd rfl (ht '.' hpoint).2
      | some other =>
          rw [hdigit, hother] at h
          obtain ⟨hsame, hunit⟩ := toString_append_inj (fun c hc => (hs c hc).1)
            (fun c hc => (ht c hc).1) (List.cons.inj h).2
          exact ⟨congrArg some hsame, hunit⟩

/-- A printed count is known by its text: the number ends where the digits do. So two counts
with the same text have the same number, digit and unit. -/
theorem toList_inj {s t : ShownCount} (hs : s.Separated) (ht : t.Separated)
    (h : s.toList = t.toList) : s = t := by
  obtain ⟨hnumber, hrest⟩ := toString_append_inj hs.rest ht.rest h
  obtain ⟨hdigit, hunit⟩ := rest_inj hs ht hrest
  cases s
  cases t
  simp_all

/-- The precision of a printed count, and how often it was counted. -/
def read (s : ShownCount) : ℤ × ℤ :=
  match s.digit with
  | some digit => (if s.unit = ['천'] then 100 else 1000, s.number * 10 + digit)
  | none =>
      (if s.unit = ['만'] then 10000 else if s.unit = ['억'] then 100000000 else 1, s.number)

end ShownCount

/-- What `getContentsDetailCount` prints for a count of that precision. -/
def shownCount (precision count : ℤ) : ShownCount :=
  if precision = 100 then ⟨count.tdiv 10, some (count.tmod 10), ['천']⟩
  else if precision = 1000 then ⟨count.tdiv 10, some (count.tmod 10), ['만']⟩
  else if precision = 10000 then ⟨count, none, ['만']⟩
  else if precision = 100000000 then ⟨count, none, ['억']⟩
  else ⟨count, none, []⟩

/-- The units are words, or there is none. -/
theorem shownCount_separated (precision count : ℤ) : (shownCount precision count).Separated := by
  intro c hc
  unfold shownCount at hc
  split at hc
  · obtain rfl : '천' = c := Option.some.inj hc
    decide
  · split at hc
    · obtain rfl : '만' = c := Option.some.inj hc
      decide
    · split at hc
      · obtain rfl : '만' = c := Option.some.inj hc
        decide
      · split at hc
        · obtain rfl : '억' = c := Option.some.inj hc
          decide
        · simp at hc

/-- The unit and the number of places tell the precision, and with it the count in steps of
that precision. -/
theorem read_shownCount (n count : ℤ) :
    (shownCount (precision n) count).read = (precision n, count) := by
  have hcount := tdiv_tmod_range count (d := 10) (by omega)
  have hvalue : count.tdiv 10 * 10 + count.tmod 10 = count := by omega
  unfold precision
  split
  · rfl
  · split
    · simp [shownCount, ShownCount.read, hvalue]
    · split
      · simp [shownCount, ShownCount.read, hvalue]
      · split <;> rfl

/-- The text of a count, in its five ranges, is the one for its precision. -/
theorem toList_getContentsDetailCount (n : ℤ) :
    (getContentsDetailCount n).toList =
      (shownCount (precision n) (n.tdiv (precision n))).toList := by
  have hpoint : ∀ number digit : ℤ, ∀ unit : String,
      (toString number ++ "." ++ toString digit ++ unit).toList =
        (⟨number, some digit, unit.toList⟩ : ShownCount).toList := by
    intro number digit unit
    simp [ShownCount.toList, ShownCount.rest, String.toList_append, List.append_assoc]
  have hwhole : ∀ number : ℤ, ∀ unit : String, (toString number ++ unit).toList =
      (⟨number, none, unit.toList⟩ : ShownCount).toList := by
    intro number unit
    rw [String.toList_append]
    rfl
  have hplaces : ∀ place : ℤ, 0 < place → 0 ≤ n →
      (n.tdiv place).tdiv 10 = n.tdiv (place * 10) ∧
        (n.tdiv place).tmod 10 = (n.tmod (place * 10)).tdiv place := by
    intro place hplace hn
    obtain ⟨count, rfl⟩ := Int.eq_ofNat_of_zero_le hn
    obtain ⟨p, rfl⟩ := Int.eq_ofNat_of_zero_le (Int.le_of_lt hplace)
    constructor
    · exact congrArg Int.ofNat (Nat.div_div_eq_div_mul count p 10)
    · exact congrArg Int.ofNat (Nat.mod_mul_right_div_self count p 10).symm
  unfold getContentsDetailCount precision
  split
  · next hthousands =>
      rw [hpoint, if_neg (by omega), if_pos (by omega)]
      simp [shownCount, hplaces 100 (by omega) (by omega)]
  · split
    · next htens =>
        rw [hpoint, if_neg (by omega), if_neg (by omega), if_pos (by omega)]
        simp [shownCount, hplaces 1000 (by omega) (by omega)]
    · split
      · next hmany =>
          rw [hwhole, if_neg (by omega), if_neg (by omega), if_neg (by omega),
            if_pos (by omega)]
          simp [shownCount]
      · split
        · next hmillions =>
            rw [hwhole, if_neg (by omega), if_neg (by omega), if_neg (by omega),
              if_neg (by omega)]
            simp [shownCount]
        · next hfew =>
            rw [if_pos (by omega)]
            simp [shownCount, ShownCount.toList, ShownCount.rest]

/-- **Two counts are printed alike** exactly when they are cut off at the same place and agree
up to it. -/
theorem counts_shown_alike_iff (n m : ℤ) :
    getContentsDetailCount n = getContentsDetailCount m ↔
      precision n = precision m ∧ n.tdiv (precision n) = m.tdiv (precision m) := by
  rw [← String.toList_inj, toList_getContentsDetailCount, toList_getContentsDetailCount]
  constructor
  · intro h
    have hshown := ShownCount.toList_inj (shownCount_separated _ _) (shownCount_separated _ _) h
    have hread := congrArg ShownCount.read hshown
    rw [read_shownCount, read_shownCount] at hread
    exact Prod.mk.inj hread
  · rintro ⟨hprecision, hcount⟩
    rw [hcount, hprecision]

end Counts

end NumberTexts
