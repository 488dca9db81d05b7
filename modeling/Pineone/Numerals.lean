import Pineone.SwiftText
import Mathlib

/-!
# Numbers in texts

Texts that are put together from printed numbers, and what they tell about the numbers.

* `toString_append_inj`: a number followed by something else than a numeral can be read off;
* `readTime_joined`: parts printed with two digits and joined by colons read back as the time
  they are the parts of.
-/

namespace Swift

/-- A character of a printed integer. -/
def isNumeral (c : Char) : Bool := c.isDigit || c = '-'

/-- A negative number is printed with a minus sign in front of its absolute value. -/
theorem toList_toString_negSucc (n : ℕ) :
    (toString (Int.negSucc n)).toList = '-' :: (toString (n + 1)).toList := by
  show ("-" ++ toString (n + 1)).toList = _
  rw [String.toList_append]
  rfl

/-- A printed number has nothing but digits and the minus sign. -/
theorem isNumeral_of_mem_toString {n : ℤ} {c : Char} (h : c ∈ (toString n).toList) :
    isNumeral c = true := by
  unfold isNumeral
  cases n with
  | ofNat n =>
      have hdigit := isDigit_of_mem_toString (n := n) h
      simp [hdigit]
  | negSucc n =>
      rw [toList_toString_negSucc] at h
      rcases List.mem_cons.mp h with rfl | hdigits
      · rfl
      · simp [isDigit_of_mem_toString hdigits]

/-- **Printing and reading an integer.** -/
theorem intOfString_toString_int (n : ℤ) : intOfString (toString n) = some n := by
  cases n with
  | ofNat n => exact intOfString_toString n
  | negSucc n =>
      unfold intOfString
      rw [toList_toString_negSucc]
      simp only [natOfDigits_toString]
      rfl

/-- Different numbers are printed differently, negative ones too, since reading gives them
back. -/
theorem toString_int_inj {m n : ℤ} (h : toString m = toString n) : m = n := by
  have hread := congrArg intOfString h
  rw [intOfString_toString_int, intOfString_toString_int] at hread
  exact Option.some.inj hread

/-- Two texts that begin with what satisfies `p` and go on with what does not agree part by
part. -/
theorem append_inj_of_not_head {α : Type} {p : α → Bool} {xs ys rest others : List α}
    (hxs : ∀ a ∈ xs, p a) (hys : ∀ a ∈ ys, p a) (hrest : ∀ a ∈ rest.head?, p a = false)
    (hothers : ∀ a ∈ others.head?, p a = false) (h : xs ++ rest = ys ++ others) :
    xs = ys ∧ rest = others := by
  have hstop : ∀ l : List α, (∀ a ∈ l.head?, p a = false) → l.takeWhile p = [] := by
    intro l hl
    cases l with
    | nil => rfl
    | cons a l => simp [hl a rfl]
  have htake := congrArg (List.takeWhile p) h
  rw [List.takeWhile_append_of_pos hxs, List.takeWhile_append_of_pos hys, hstop rest hrest,
    hstop others hothers, List.append_nil, List.append_nil] at htake
  refine ⟨htake, ?_⟩
  rw [htake] at h
  exact List.append_cancel_left h

/-- **A number can be read off** a text that goes on with something else. What goes on must
not begin with a digit or a minus sign. -/
theorem toString_append_inj {m n : ℤ} {rest others : List Char}
    (hrest : ∀ c ∈ rest.head?, isNumeral c = false)
    (hothers : ∀ c ∈ others.head?, isNumeral c = false)
    (h : (toString m).toList ++ rest = (toString n).toList ++ others) :
    m = n ∧ rest = others := by
  obtain ⟨htext, hsame⟩ := append_inj_of_not_head (p := isNumeral)
    (fun _ => isNumeral_of_mem_toString) (fun _ => isNumeral_of_mem_toString) hrest hothers h
  exact ⟨toString_int_inj (String.toList_inj.mp htext), hsame⟩

/-- At least two digits. -/
def twoDigits (n : ℤ) : String :=
  if 0 ≤ n ∧ n < 10 then "0" ++ toString n else toString n

/-- A number in two digits is read back as it is, is not empty, and has nothing but digits
and the minus sign. -/
theorem twoDigits_spec (n : ℤ) :
    intOfString (twoDigits n) = some n ∧ twoDigits n ≠ "" ∧
      ∀ c ∈ (twoDigits n).toList, isNumeral c = true := by
  have hdigits : ∀ digit : ℕ, digit < 10 →
      intOfString ("0" ++ toString (digit : ℤ)) = some (digit : ℤ) := by decide
  unfold twoDigits
  split
  · next hdigit =>
      obtain ⟨digit, rfl⟩ := Int.eq_ofNat_of_zero_le hdigit.1
      refine ⟨hdigits digit (by omega), by simp, fun c hc => ?_⟩
      rw [String.toList_append, List.mem_append] at hc
      rcases hc with hzero | hnumeral
      · obtain rfl : c = '0' := by simpa using hzero
        rfl
      · exact isNumeral_of_mem_toString hnumeral
  · refine ⟨intOfString_toString_int n, ?_, fun _ => isNumeral_of_mem_toString⟩
    intro hempty
    have hread := intOfString_toString_int n
    rw [hempty] at hread
    cases hread

/-- Texts of at least two digits, joined by colons, fall apart into the texts. No digit is a
colon, and no text is empty. -/
theorem split_joined_twoDigits (parts : List ℤ) :
    split ':' (joined ":" (parts.map twoDigits)) = parts.map twoDigits := by
  have hpieces : ∀ piece ∈ parts.map twoDigits, piece ≠ "" ∧ ':' ∉ piece.toList := by
    intro piece hpiece
    obtain ⟨part, -, rfl⟩ := List.mem_map.mp hpiece
    obtain ⟨-, hne, hnumeral⟩ := twoDigits_spec part
    refine ⟨hne, fun hcolon => ?_⟩
    exact absurd (hnumeral ':' hcolon) (by decide)
  exact split_joined hpieces

/-- The number that has these digits in base 60. -/
def sexagesimal (parts : List ℤ) : ℤ :=
  parts.foldl (fun total part => total * 60 + part) 0

/-- Hours, minutes and seconds, or minutes and seconds, separated by colons, as seconds. -/
def readTime (text : String) : Option ℤ :=
  ((split ':' text).mapM intOfString).map sexagesimal

/-- So a list of them is read back, one by one. -/
theorem mapM_twoDigits (parts : List ℤ) :
    (parts.map twoDigits).mapM intOfString = some parts := by
  induction parts with
  | nil => rfl
  | cons part parts ih =>
      rw [List.map_cons, List.mapM_cons, (twoDigits_spec part).1, ih]
      rfl

/-- **A printed time reads back.** -/
theorem readTime_joined (parts : List ℤ) :
    readTime (joined ":" (parts.map twoDigits)) = some (sexagesimal parts) := by
  unfold readTime
  rw [split_joined_twoDigits, mapM_twoDigits, Option.map_some]

/-! ## Machine integers -/

/-- `String(format: "%02d", n)`; the format reads the lower 32 bits of the number. -/
def padded (n : ℤ) : String := twoDigits (n.bmod (2 ^ 32))

/-- Cut off to 32 bits a number lies in the range of these, and in that range it stays as it
is. -/
theorem bmod_range (n : ℤ) :
    -2 ^ 31 ≤ n.bmod (2 ^ 32) ∧ n.bmod (2 ^ 32) < 2 ^ 31 ∧
      (-2 ^ 31 ≤ n → n < 2 ^ 31 → n.bmod (2 ^ 32) = n) := by
  have hdef := Int.bmod_def n (2 ^ 32)
  omega

/-- Quotient and remainder as the machine has them: the quotient is rounded towards zero, and
the remainder has the sign of the dividend. -/
theorem tdiv_tmod_range (n : ℤ) {d : ℤ} (hd : 0 < d) :
    d * n.tdiv d + n.tmod d = n ∧ -d < n.tmod d ∧ n.tmod d < d ∧
      (0 ≤ n → 0 ≤ n.tmod d) ∧ (n ≤ 0 → n.tmod d ≤ 0) := by
  refine ⟨Int.mul_tdiv_add_tmod n d, Int.lt_tmod_of_pos n hd, Int.tmod_lt_of_pos n hd,
    Int.tmod_nonneg d, fun hn => ?_⟩
  have hneg := Int.tmod_nonneg d (a := -n) (by omega)
  rw [Int.neg_tmod] at hneg
  omega

end Swift
