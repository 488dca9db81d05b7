import Mathlib.Logic.Function.Basic
import Mathlib.Data.List.Basic
import Mathlib.Data.List.Induction

/-!
# Writing entries into a dictionary

A dictionary is a partial function from keys to values.  `writeAll entries d`
writes the entries in turn, so that the last one for a key counts:

* `writeAll_of_not_mem`: a key without an entry keeps its value;
* `writeAll_eq_lookup`: a key has the value of its last entry;
* `writeAll_of_nodup`: with one entry for each key, the key has the value of
  its entry;
* `writeAll_congr`: the value of a key with an entry does not depend on `d`.
-/

namespace Dictionaries

variable {κ β : Type} [DecidableEq κ]

/-- `d` with the entries written into it, in turn. -/
def writeAll (entries : List (κ × β)) (d : κ → Option β) : κ → Option β :=
  entries.foldl (fun d entry => Function.update d entry.1 (some entry.2)) d

/-- Writing entries in turn: the first one goes in before all the others. -/
theorem writeAll_cons (entry : κ × β) (entries : List (κ × β)) (d : κ → Option β) :
    writeAll (entry :: entries) d =
      writeAll entries (Function.update d entry.1 (some entry.2)) :=
  rfl

/-- A key without an entry keeps what it had. -/
theorem writeAll_of_not_mem {entries : List (κ × β)} {k : κ}
    (hk : ∀ entry ∈ entries, entry.1 ≠ k) (d : κ → Option β) :
    writeAll entries d k = d k := by
  induction entries generalizing d with
  | nil => rfl
  | cons entry entries ih =>
      have hne : k ≠ entry.1 := fun h => hk entry List.mem_cons_self h.symm
      rw [writeAll_cons, ih fun other hother => hk other (List.mem_cons_of_mem entry hother),
        Function.update_of_ne hne]

/-- The last entry of a key counts, or what was there before. -/
theorem writeAll_eq_lookup [BEq κ] [LawfulBEq κ] (entries : List (κ × β)) (d : κ → Option β)
    (k : κ) : writeAll entries d k = (entries.reverse.lookup k).or (d k) := by
  induction entries using List.reverseRecOn with
  | nil => rfl
  | append_singleton entries entry ih =>
      have hlast : writeAll (entries ++ [entry]) d =
          Function.update (writeAll entries d) entry.1 (some entry.2) := List.foldl_append
      rw [hlast, List.reverse_append, List.reverse_singleton, List.singleton_append,
        List.lookup_cons]
      by_cases hk : k = entry.1
      · rw [hk, Function.update_self, BEq.rfl]
        rfl
      · rw [Function.update_of_ne hk, ih, beq_false_of_ne hk]

/-- A value comes from an entry or was there before. -/
theorem mem_of_writeAll {entries : List (κ × β)} {d : κ → Option β} {k : κ} {v : β}
    (h : writeAll entries d k = some v) : (k, v) ∈ entries ∨ d k = some v := by
  induction entries generalizing d with
  | nil => exact Or.inr h
  | cons entry entries ih =>
      rw [writeAll_cons] at h
      rcases ih h with hmem | hbefore
      · exact Or.inl (List.mem_cons_of_mem entry hmem)
      · by_cases hk : k = entry.1
        · subst hk
          rw [Function.update_self] at hbefore
          obtain rfl := Option.some.inj hbefore
          exact Or.inl List.mem_cons_self
        · rw [Function.update_of_ne hk] at hbefore
          exact Or.inr hbefore

/-- Where no key has two entries, each key gets what its entry says. -/
theorem writeAll_of_nodup {entries : List (κ × β)} (hnd : (entries.map Prod.fst).Nodup)
    (d : κ → Option β) {entry : κ × β} (hentry : entry ∈ entries) :
    writeAll entries d entry.1 = some entry.2 := by
  induction entries generalizing d with
  | nil => cases hentry
  | cons first entries ih =>
      rw [List.map_cons, List.nodup_cons] at hnd
      rw [writeAll_cons]
      rcases List.mem_cons.mp hentry with rfl | hrest
      · have hlast : ∀ other ∈ entries, other.1 ≠ entry.1 :=
          fun other hother h => hnd.1 (h ▸ List.mem_map_of_mem hother)
        rw [writeAll_of_not_mem hlast, Function.update_self]
      · exact ih hnd.2 _ hrest

/-- **The entries decide.**  A key with an entry gets a value that does not
depend on the dictionary the entries are written into. -/
theorem writeAll_congr {entries : List (κ × β)} {entry : κ × β} (hentry : entry ∈ entries)
    (d d' : κ → Option β) :
    writeAll entries d entry.1 = writeAll entries d' entry.1 ∧
      (writeAll entries d entry.1).isSome = true := by
  induction entries generalizing entry d d' with
  | nil => cases hentry
  | cons first entries ih =>
      rw [writeAll_cons, writeAll_cons]
      by_cases hlater : ∃ other ∈ entries, other.1 = entry.1
      · obtain ⟨other, hother, hkey⟩ := hlater
        rw [← hkey]
        exact ih hother _ _
      · have hlast : ∀ other ∈ entries, other.1 ≠ entry.1 :=
          fun other hother h => hlater ⟨other, hother, h⟩
        have hfirst : first = entry := by
          rcases List.mem_cons.mp hentry with h | h
          · exact h.symm
          · exact absurd rfl (hlast entry h)
        subst hfirst
        rw [writeAll_of_not_mem hlast, writeAll_of_not_mem hlast, Function.update_self,
          Function.update_self]
        exact ⟨rfl, rfl⟩

end Dictionaries
