import Mathlib.Data.List.TakeWhile
import Mathlib.Tactic.Common

/-!
# Swift values: traps, arrays and text

The few parts of Swift's standard library that the modelled code computes with.
A runtime failure is a `Trap`, so a function that can fail returns a `Result`.

Text is a Lean `String`; `split`, `joined`, `String(n)` and `Int(s)` follow
their documentation.  `Int(s)` is taken without its 64-bit bound: it is only
ever applied to array positions.

* `split_joined`: splitting at a separator inverts joining with it, for
  nonempty pieces that do not contain it;
* `intOfString_toString`: a printed number reads back as itself.
-/

namespace Swift

/-- The runtime failures of the modelled code.  `unwrapNil` carries the
expression that was force-unwrapped. -/
inductive Trap
  | indexOutOfRange
  | invalidRange
  | unwrapNil (expression : String)
  deriving DecidableEq, Repr

/-- The value of a Swift expression, or the trap that ends the process. -/
abbrev Result (α : Type) := Except Trap α

theorem Result.bind_pure_eq_map {α β : Type} (x : Result α) (f : α → β) :
    (do let a ← x; return f a) = x.map f := by
  cases x <;> rfl

/-- A mapped result is there if the result is, with the image of its value. -/
theorem Result.map_eq_ok {α β : Type} {x : Result α} {f : α → β} {b : β} :
    x.map f = .ok b ↔ ∃ a, x = .ok a ∧ f a = b := by
  cases x <;> simp [Except.map]

/-- Mapping keeps the trap. -/
theorem Result.map_eq_error {α β : Type} {x : Result α} {f : α → β} {t : Trap} :
    x.map f = .error t ↔ x = .error t := by
  cases x <;> simp [Except.map]

/-- Two computations in turn succeed if both do, the second one with the value of the first. -/
theorem Result.bind_eq_ok {α β : Type} {x : Result α} {f : α → Result β} {b : β} :
    x >>= f = .ok b ↔ ∃ a, x = .ok a ∧ f a = .ok b := by
  cases x <;> simp [bind, Except.bind]

/-- They trap if the first one does, or the second one after it. -/
theorem Result.bind_eq_error {α β : Type} {x : Result α} {f : α → Result β} {t : Trap} :
    x >>= f = .error t ↔ x = .error t ∨ ∃ a, x = .ok a ∧ f a = .error t := by
  cases x <;> simp [bind, Except.bind]

/-- `array[index]`. -/
def subscript {α : Type} (array : List α) (index : Int) : Result α :=
  match index with
  | .ofNat n =>
      match array[n]? with
      | some value => .ok value
      | none => .error .indexOutOfRange
  | .negSucc _ => .error .indexOutOfRange

/-- A position inside an array is read. -/
theorem subscript_natCast {α : Type} {array : List α} {n : Nat} {value : α}
    (h : array[n]? = some value) : subscript array (n : Int) = .ok value := by
  show (match array[n]? with
    | some value => Except.ok value
    | none => Except.error Trap.indexOutOfRange) = Except.ok value
  rw [h]

/-- A position past its end traps. -/
theorem subscript_natCast_none {α : Type} {array : List α} {n : Nat}
    (h : array[n]? = none) :
    subscript array (n : Int) = .error .indexOutOfRange := by
  show (match array[n]? with
    | some value => Except.ok value
    | none => Except.error Trap.indexOutOfRange) = Except.error Trap.indexOutOfRange
  rw [h]

/-- Where the function succeeds on every element, so does the list. -/
theorem Result.mapM_eq_ok {α β : Type} {f : α → Result β} {g : α → β} {list : List α}
    (h : ∀ a ∈ list, f a = .ok (g a)) : list.mapM f = .ok (list.map g) := by
  induction list with
  | nil => rfl
  | cons a list ih =>
      obtain ⟨hfirst, hrest⟩ := List.forall_mem_cons.mp h
      rw [List.mapM_cons, hfirst, ih hrest]
      rfl

/-- `value!`, for the expression `expression`. -/
def unwrap {α : Type} (expression : String) : Option α → Result α
  | some value => .ok value
  | none => .error (.unwrapNil expression)

/-- A forced unwrapping gives the value that is there. -/
theorem unwrap_eq_ok {α : Type} {expression : String} {x : Option α} {a : α} :
    unwrap expression x = .ok a ↔ x = some a := by
  cases x <;> simp [unwrap]

/-- And traps exactly where there is none. -/
theorem unwrap_eq_error {α : Type} {expression : String} {x : Option α} {t : Trap} :
    unwrap expression x = .error t ↔ x = none ∧ t = .unwrapNil expression := by
  cases x <;> simp [unwrap, eq_comm]

/-- `array.sorted(by: areInIncreasingOrder)`; the sort is stable. -/
def sorted {α : Type} (areInIncreasingOrder : α → α → Bool) (array : List α) :
    List α :=
  array.mergeSort fun a b => !areInIncreasingOrder b a

/-- `text.split(separator: c)`, which omits empty pieces. -/
def split (separator : Char) (text : String) : List String :=
  ((text.toList.splitOn separator).filter fun piece => !piece.isEmpty).map
    String.ofList

/-- `pieces.joined(separator: s)`. -/
def joined (separator : String) (pieces : List String) : String :=
  separator.intercalate pieces

/-- The characters of `text` with every occurrence of the nonempty `target`
replaced, from left to right; `skip` characters belong to an occurrence already
replaced. -/
def replaceChars (target replacement : List Char) : Nat → List Char → List Char
  | _, [] => []
  | skip + 1, _ :: text => replaceChars target replacement skip text
  | 0, c :: text =>
      if target.isPrefixOf (c :: text) then
        replacement ++ replaceChars target replacement (target.length - 1) text
      else c :: replaceChars target replacement 0 text

section

variable {first : Char} {target replacement : List Char}

/-- The characters of an occurrence are skipped. -/
theorem replaceChars_skip (target replacement xs text : List Char) :
    replaceChars target replacement xs.length (xs ++ text) =
      replaceChars target replacement 0 text := by
  induction xs with
  | nil => rfl
  | cons c xs ih => rw [List.length_cons, List.cons_append, replaceChars, ih]

/-- An occurrence at the front is replaced, and the search goes on behind it. -/
theorem replaceChars_of_prefix (text : List Char) :
    replaceChars (first :: target) replacement 0 (first :: (target ++ text)) =
      replacement ++ replaceChars (first :: target) replacement 0 text := by
  have hprefix : (first :: target).isPrefixOf (first :: (target ++ text)) = true := by
    rw [List.isPrefixOf_iff_prefix]
    exact List.prefix_append (first :: target) text
  rw [replaceChars, if_pos hprefix, List.length_cons, Nat.add_sub_cancel, replaceChars_skip]

/-- Where none begins, the character stays and the search goes on at the next one. -/
theorem replaceChars_of_not_prefix {c : Char} {text : List Char} (h : ¬ target <+: c :: text) :
    replaceChars target replacement 0 (c :: text) =
      c :: replaceChars target replacement 0 text := by
  rw [replaceChars, if_neg (mt List.isPrefixOf_iff_prefix.mp h)]

/-- No occurrence starts in characters that are not the first one of the target. -/
theorem replaceChars_append_of_not_mem {xs : List Char} (h : first ∉ xs) (text : List Char) :
    replaceChars (first :: target) replacement 0 (xs ++ text) =
      xs ++ replaceChars (first :: target) replacement 0 text := by
  induction xs with
  | nil => rfl
  | cons c xs ih =>
      rw [List.mem_cons, not_or] at h
      have hprefix : ¬ first :: target <+: c :: (xs ++ text) := fun hprefix =>
        h.1 (List.cons_prefix_cons.mp hprefix).1
      rw [List.cons_append, replaceChars_of_not_prefix hprefix, ih h.2, List.cons_append]

/-- An occurrence of a target that ends in `last` does not reach into characters that are
not `last`. -/
theorem prefix_of_prefix_append {last : Char} {xs ys : List Char} (hlast : last ∉ ys)
    (hoccurs : target ++ [last] <+: xs ++ ys) : target ++ [last] <+: xs := by
  rcases List.prefix_or_prefix_of_prefix hoccurs (List.prefix_append xs ys) with h | h
  · exact h
  · obtain ⟨zs, hzs⟩ := h
    rcases List.eq_nil_or_concat zs with rfl | ⟨zs, c, rfl⟩
    · rw [List.append_nil] at hzs
      exact hzs ▸ List.prefix_rfl
    · rw [← hzs, List.prefix_append_right_inj] at hoccurs
      rw [List.concat_eq_append, ← List.append_assoc] at hzs
      obtain rfl := List.singleton_inj.mp (List.append_inj_right' hzs rfl)
      exact absurd (hoccurs.subset (by simp)) hlast

/-- A text without the last character of the target has no occurrence of it, and is left as
it is. -/
theorem replaceChars_of_last_not_mem {last : Char} {text : List Char} (hlast : last ∉ text) :
    replaceChars (target ++ [last]) replacement 0 text = text := by
  induction text with
  | nil => rfl
  | cons c text ih =>
      have hoccurs : ¬ target ++ [last] <+: c :: text :=
        fun hoccurs => hlast (hoccurs.subset (by simp))
      have hhead : replaceChars (target ++ [last]) replacement 0 (c :: text) =
          c :: replaceChars (target ++ [last]) replacement 0 text :=
        replaceChars_of_not_prefix hoccurs
      rw [hhead, ih fun hmem => hlast (List.mem_cons_of_mem c hmem)]

/-- Characters that are not the last one of the target may be taken off the end of a text
before its occurrences are replaced. -/
theorem replaceChars_append {last : Char} {ys : List Char} (hlast : last ∉ ys) (skip : ℕ)
    {xs : List Char} (hskip : skip ≤ xs.length) :
    replaceChars (target ++ [last]) replacement skip (xs ++ ys) =
      replaceChars (target ++ [last]) replacement skip xs ++ ys := by
  induction xs generalizing skip with
  | nil =>
      obtain rfl := Nat.le_zero.mp hskip
      exact replaceChars_of_last_not_mem hlast
  | cons c xs ih =>
      cases skip with
      | succ skip => exact ih skip (Nat.le_of_succ_le_succ hskip)
      | zero =>
          by_cases hoccurs : target ++ [last] <+: c :: xs
          · have hlonger : target ++ [last] <+: c :: (xs ++ ys) :=
              hoccurs.trans (List.prefix_append (c :: xs) ys)
            have hinside : (target ++ [last]).length - 1 ≤ xs.length :=
              Nat.sub_le_of_le_add hoccurs.length_le
            rw [List.cons_append, replaceChars, if_pos (List.isPrefixOf_iff_prefix.mpr hlonger),
              replaceChars, if_pos (List.isPrefixOf_iff_prefix.mpr hoccurs), ih _ hinside,
              List.append_assoc]
          · have hshorter : ¬ target ++ [last] <+: (c :: xs) ++ ys :=
              fun h => hoccurs (prefix_of_prefix_append hlast h)
            rw [List.cons_append] at hshorter
            rw [List.cons_append, replaceChars_of_not_prefix hshorter,
              replaceChars_of_not_prefix hoccurs, ih 0 (Nat.zero_le _), List.cons_append]

end

/-- `text.replacingOccurrences(of: target, with: replacement)`.  Occurrences are looked for
by scalars; Foundation finds none that a combining mark follows. -/
def replacingOccurrences (target replacement text : String) : String :=
  String.ofList (replaceChars target.toList replacement.toList 0 text.toList)

/-- What follows a text stays as it is, and changes nothing before it, if it does not have
the last character of the target. -/
theorem replacingOccurrences_append {target rest : String} {last : Char}
    (htarget : target.toList.getLast? = some last) (hlast : last ∉ rest.toList)
    (replacement text : String) :
    replacingOccurrences target replacement (text ++ rest) =
      replacingOccurrences target replacement text ++ rest := by
  obtain ⟨word, hword⟩ := List.getLast?_eq_some_iff.mp htarget
  unfold replacingOccurrences
  rw [hword, String.toList_append, replaceChars_append hlast 0 (Nat.zero_le _),
    String.ofList_append, String.ofList_toList]

/-- `CharacterSet.whitespacesAndNewlines` -/
def isWhitespaceOrNewline (c : Char) : Bool :=
  (0x09 ≤ c.toNat && c.toNat ≤ 0x0D) || (0x2000 ≤ c.toNat && c.toNat ≤ 0x200A) ||
    [0x20, 0x85, 0xA0, 0x1680, 0x2028, 0x2029, 0x202F, 0x205F, 0x3000].contains c.toNat

/-- `text.trimmingCharacters(in: .whitespacesAndNewlines)` -/
def trimmingWhitespacesAndNewlines (text : String) : String :=
  String.ofList (((text.toList.dropWhile isWhitespaceOrNewline).reverse.dropWhile
    isWhitespaceOrNewline).reverse)

/-- White space at the end of a text is trimmed with it. -/
theorem trimmingWhitespacesAndNewlines_append {rest : String}
    (hblank : rest.toList.all isWhitespaceOrNewline = true) (text : String) :
    trimmingWhitespacesAndNewlines (text ++ rest) = trimmingWhitespacesAndNewlines text := by
  have hrest : rest.toList.dropWhile isWhitespaceOrNewline = [] :=
    List.dropWhile_eq_nil_iff.2 fun c hc => List.all_eq_true.mp hblank c hc
  have hreverse : rest.toList.reverse.dropWhile isWhitespaceOrNewline = [] :=
    List.dropWhile_eq_nil_iff.2 fun c hc =>
      List.all_eq_true.mp hblank c (List.mem_reverse.mp hc)
  unfold trimmingWhitespacesAndNewlines
  rw [String.toList_append, List.dropWhile_append, hrest]
  split
  · next hempty => rw [List.isEmpty_iff.mp hempty]
  · rw [List.reverse_append, List.dropWhile_append, hreverse]
    rfl

/-- The value of a nonempty run of ASCII digits. -/
def natOfDigits (digits : List Char) : Option Nat :=
  if !digits.isEmpty && digits.all Char.isDigit then
    some (Nat.ofDigitChars 10 digits 0)
  else none

/-- `Int(text)`: an optional sign, then decimal digits; `nil` otherwise. -/
def intOfString (text : String) : Option Int :=
  match text.toList with
  | '-' :: digits => (natOfDigits digits).map fun n => -(n : Int)
  | '+' :: digits => (natOfDigits digits).map fun n => (n : Int)
  | digits => (natOfDigits digits).map fun n => (n : Int)

/-- Every character of a printed number is a digit. -/
theorem isDigit_of_mem_toString {n : Nat} {c : Char}
    (h : c ∈ (toString n).toList) : c.isDigit = true := by
  rw [Nat.toString_eq_repr, Nat.toList_repr] at h
  exact Nat.isDigit_of_mem_toDigits (by decide) (by decide) h

/-- A number is printed with one digit at least. -/
theorem toString_toList_ne_nil (n : Nat) : (toString n).toList ≠ [] := by
  rw [Nat.toString_eq_repr, Nat.toList_repr]
  exact List.ne_nil_of_length_pos Nat.length_toDigits_pos

/-- The digits of a printed number are read as that number. -/
theorem natOfDigits_toString (n : Nat) :
    natOfDigits (toString n).toList = some n := by
  have hall : (toString n).toList.all Char.isDigit = true :=
    List.all_eq_true.mpr fun c hc => isDigit_of_mem_toString hc
  have hne : (toString n).toList.isEmpty = false := by
    simp
  unfold natOfDigits
  rw [hall, hne]
  simp [Nat.toString_eq_repr, Nat.toList_repr]

/-- **Printing and reading a row number.** -/
theorem intOfString_toString (n : Nat) :
    intOfString (toString n) = some (n : Int) := by
  have hdigits : ∀ c ∈ (toString n).toList, c ≠ '-' ∧ c ≠ '+' := by
    intro c hc
    have hdigit := isDigit_of_mem_toString hc
    constructor <;> rintro rfl <;> exact absurd hdigit (by decide)
  have hvalue := natOfDigits_toString n
  unfold intOfString
  split
  · next digits hlist =>
      exact absurd rfl (hdigits '-' (hlist ▸ List.mem_cons_self)).1
  · next digits hlist =>
      exact absurd rfl (hdigits '+' (hlist ▸ List.mem_cons_self)).2
  · rw [hvalue]
    rfl

/-- **Joining, then splitting.**  Pieces that are nonempty and free of the
separator come back unchanged, in order. -/
theorem split_joined {separator : Char} {pieces : List String}
    (h : ∀ piece ∈ pieces, piece ≠ "" ∧ separator ∉ piece.toList) :
    split separator (joined (String.singleton separator) pieces) = pieces := by
  unfold split joined
  rw [String.toList_intercalate, String.toList_singleton]
  cases pieces with
  | nil => simp
  | cons piece rest =>
      rw [List.splitOn_intercalate separator (by simpa using fun p hp => (h p hp).2)
        (by simp)]
      have hkeep : ((piece :: rest).map String.toList).filter
          (fun p => !p.isEmpty) = (piece :: rest).map String.toList := by
        apply List.filter_eq_self.mpr
        intro p hp
        obtain ⟨s, hs, rfl⟩ := List.mem_map.mp hp
        simpa using (h s hs).1
      rw [hkeep, List.map_map]
      simp

end Swift
