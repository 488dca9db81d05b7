import Mathlib.Logic.Basic
import Mathlib.Data.Option.Basic

/-!
# Records that are used again

A record is mapped onto from one datum after the other and is prepared for its next use
in between.  What is read of it leaves no trace of the earlier data if it is the same after
the last datum, whichever data came before.

* `noTrace_of_determined`: what the last datum determines leaves no trace;
* `NoTrace.written_isSome`: what a datum writes only if it has it leaves a trace unless the
  last one has it.
-/

namespace Reuse

variable {σ μ α β : Type} (map : σ → μ → σ) (prepare : σ → σ)

/-- The record after the data of `history`, prepared after each of them. -/
def reused : σ → List μ → σ
  | s, [] => s
  | s, m :: history => reused (prepare (map s m)) history

/-- What is read after the last datum does not depend on the data before it. -/
def NoTrace (start : σ) (read : σ → α) (last : μ) : Prop :=
  ∀ history history', read (map (reused map prepare start history) last) =
    read (map (reused map prepare start history') last)

variable {map prepare} {start : σ} {read : σ → α} {last : μ}

/-- What a datum and the preparation keep holds of the record after every history. -/
theorem reused_of_step {J : σ → Prop} (hJ : ∀ s m, J s → J (prepare (map s m))) {s : σ}
    (hs : J s) (history : List μ) : J (reused map prepare s history) := by
  induction history generalizing s with
  | nil => exact hs
  | cons m history ih => exact ih (hJ s m hs)

/-- The last datum determines what is read. -/
theorem noTrace_of_determined {J : σ → Prop} (value : α)
    (hJ : ∀ s m, J s → J (prepare (map s m))) (hstart : J start)
    (hvalue : ∀ s, J s → read (map s last) = value) : NoTrace map prepare start read last := by
  intro history history'
  rw [hvalue _ (reused_of_step hJ hstart history), hvalue _ (reused_of_step hJ hstart history')]

/-- What is computed from what leaves no trace leaves none. -/
theorem NoTrace.comp (h : NoTrace map prepare start read last) (f : α → β) :
    NoTrace map prepare start (fun s => f (read s)) last :=
  fun history history' => congrArg f (h history history')

/-- What a datum writes only if it has it is written by a last datum that leaves no
trace. -/
theorem NoTrace.written_isSome (h : NoTrace map prepare start read last) {written : μ → Option α}
    (hread : ∀ s m, read (map s m) = (written m).getD (read s))
    (hprepare : ∀ s, read (prepare s) = read s)
    (hother : ∃ m value, written m = some value ∧ value ≠ read start) :
    (written last).isSome = true := by
  obtain ⟨m, value, hm, hne⟩ := hother
  have hsame := h [m] []
  rw [hread, hread] at hsame
  cases hlast : written last with
  | some _ => rfl
  | none =>
      -- what `m` has written is still read
      have hkept : read (prepare (map start m)) = value := by
        rw [hprepare, hread, hm, Option.getD_some]
      rw [hlast, Option.getD_none, Option.getD_none] at hsame
      exact absurd (hkept.symm.trans hsame) hne

end Reuse
