import Mathlib.Data.Int.Notation
import Mathlib.Data.Nat.Notation

/-!
# Runs of an event-driven component

A component is a partial step function `step : σ → ε → Option σ`: `none` says
that the event cannot happen in that state, so a run simply stops there.  The
step function is deterministic because every choice the environment has (which
button is tapped, which posted block runs next, when a timer fires) is part of
the event.

Two things are said about a run of the events `es` from `s`:

* `Throughout step P s es`: every state met on the way, the first one included,
  satisfies `P`;
* `StepsMeet step C s es`: every step taken on the way satisfies `C`, which may
  look at the state before the step, the event and the state after it.

Both are stated by recursion on the events, so that a concrete run is followed
event by event.

* `throughout_of_step`: an invariant holds throughout every run;
* `throughout_iff_stepsMeet`: a property that one step keeps exactly under `C`
  holds throughout the runs whose steps meet `C`;
* `StepsMeet.of_kept`, `stepsMeet_iff_of_kept`: step conditions may be exchanged
  under what they keep,
  `stepsMeet_iff_of_invariant`: under an invariant;
* `measure_balance`: what the steps add to a measure and take from it adds up along a
  run; `sumSteps_eq_zero_iff`: nothing does if no step adds anything.
-/

namespace Runs

variable {σ ε : Type} (step : σ → ε → Option σ)

/-- Every state met on the run of `es` from `s` satisfies `P`. -/
def Throughout (P : σ → Prop) : σ → List ε → Prop
  | s, [] => P s
  | s, e :: es => P s ∧ ∀ t ∈ step s e, Throughout P t es

/-- Every step taken on the run of `es` from `s` satisfies `C`. -/
def StepsMeet (C : σ → ε → σ → Prop) : σ → List ε → Prop
  | _, [] => True
  | s, e :: es => ∀ t ∈ step s e, C s e t ∧ StepsMeet C t es

/-- Where the step condition can be decided, so can that of a run. -/
def decidableStepsMeet (C : σ → ε → σ → Prop) [∀ s e t, Decidable (C s e t)] :
    ∀ s es, Decidable (StepsMeet step C s es)
  | _, [] => isTrue trivial
  | s, e :: es =>
      match h : step s e with
      | none => isTrue (by simp [StepsMeet, h])
      | some t =>
          have := decidableStepsMeet C t es
          decidable_of_iff (C s e t ∧ StepsMeet step C t es) (by simp [StepsMeet, h])

instance (C : σ → ε → σ → Prop) [∀ s e t, Decidable (C s e t)] (s : σ) (es : List ε) :
    Decidable (StepsMeet step C s es) := decidableStepsMeet step C s es

/-- A property that can be decided can be followed along a run. -/
def decidableThroughout (P : σ → Prop) [∀ s, Decidable (P s)] :
    ∀ s es, Decidable (Throughout step P s es)
  | s, [] => decidable_of_iff (P s) (by simp [Throughout])
  | s, e :: es =>
      match h : step s e with
      | none => decidable_of_iff (P s) (by simp [Throughout, h])
      | some t =>
          have := decidableThroughout P t es
          decidable_of_iff (P s ∧ Throughout step P t es) (by simp [Throughout, h])

instance (P : σ → Prop) [∀ s, Decidable (P s)] (s : σ) (es : List ε) :
    Decidable (Throughout step P s es) := decidableThroughout step P s es

variable {step}

/-- A run begins in its first state. -/
theorem Throughout.head {P : σ → Prop} {s : σ} {es : List ε}
    (h : Throughout step P s es) : P s := by
  cases es with
  | nil => exact h
  | cons e es => exact h.1

/-- **An invariant and the steps that keep it.**  Where a step from a state with
`P` leads to `P` exactly when it meets `C`, the runs on which `P` holds throughout
are those whose steps all meet `C`.  `J` is what holds along every run. -/
theorem throughout_iff_stepsMeet {J P : σ → Prop} {C : σ → ε → σ → Prop}
    (hJ : ∀ s e t, J s → step s e = some t → J t)
    (hPC : ∀ s e t, J s → P s → step s e = some t → (P t ↔ C s e t))
    {s : σ} {es : List ε} (hs : J s) (hP : P s) :
    Throughout step P s es ↔ StepsMeet step C s es := by
  induction es generalizing s with
  | nil => exact ⟨fun _ => trivial, fun _ => hP⟩
  | cons e es ih =>
      constructor
      · intro h t ht
        have hrest := h.2 t ht
        exact ⟨(hPC s e t hs hP ht).mp hrest.head,
          (ih (hJ s e t hs ht) hrest.head).mp hrest⟩
      · intro h
        refine ⟨hP, fun t ht => ?_⟩
        obtain ⟨hC, hrest⟩ := h t ht
        exact (ih (hJ s e t hs ht) ((hPC s e t hs hP ht).mpr hC)).mpr hrest

/-- A property that the steps of the events in `E` keep holds throughout the runs of such
events. -/
theorem throughout_of_events {P : σ → Prop} {E : ε → Prop}
    (hstep : ∀ s e t, P s → E e → step s e = some t → P t) {s : σ} (hs : P s) {es : List ε}
    (hE : ∀ e ∈ es, E e) : Throughout step P s es := by
  induction es generalizing s with
  | nil => exact hs
  | cons e es ih =>
      obtain ⟨hEe, hEes⟩ := List.forall_mem_cons.mp hE
      exact ⟨hs, fun t ht => ih (hstep s e t hs hEe ht) hEes⟩

/-- A property that every step keeps holds throughout every run. It is the induction on runs,
which the invariants of a system are proved by. -/
theorem throughout_of_step {P : σ → Prop} (hstep : ∀ s e t, P s → step s e = some t → P t)
    {s : σ} (hs : P s) (es : List ε) : Throughout step P s es :=
  throughout_of_events (E := fun _ => True) (fun s e t hs _ => hstep s e t hs) hs
    (fun _ _ => trivial)

/-- What every step out of an invariant state meets, every run meets. The condition may be
about the event and the next state as well. -/
theorem stepsMeet_of_invariant {J : σ → Prop} {C : σ → ε → σ → Prop}
    (hJ : ∀ s e t, J s → step s e = some t → J t)
    (hC : ∀ s e t, J s → step s e = some t → C s e t)
    {s : σ} (hs : J s) (es : List ε) : StepsMeet step C s es := by
  induction es generalizing s with
  | nil => trivial
  | cons e es ih => exact fun t ht => ⟨hC s e t hs ht, ih (hJ s e t hs ht)⟩

/-- What follows from `P` under an invariant holds wherever `P` does. So a law can be
restated with the help of what is known of all reachable states. -/
theorem Throughout.mono {J P Q : σ → Prop} (hJ : ∀ s e t, J s → step s e = some t → J t)
    (hPQ : ∀ s, J s → P s → Q s) {s : σ} {es : List ε} (hs : J s)
    (h : Throughout step P s es) : Throughout step Q s es := by
  induction es generalizing s with
  | nil => exact hPQ s hs h
  | cons e es ih => exact ⟨hPQ s hs h.1, fun t ht => ih (hJ s e t hs ht) (h.2 t ht)⟩

/-- What the steps that meet `C` keep holds throughout the runs of such steps. Nothing is
said of the other runs. -/
theorem StepsMeet.throughout {J : σ → Prop} {C : σ → ε → σ → Prop}
    (hJ : ∀ s e t, J s → step s e = some t → C s e t → J t)
    {s : σ} {es : List ε} (hs : J s) (h : StepsMeet step C s es) : Throughout step J s es := by
  induction es generalizing s with
  | nil => exact hs
  | cons e es ih =>
      refine ⟨hs, fun t ht => ?_⟩
      obtain ⟨hC, htail⟩ := h t ht
      exact ih (hJ s e t hs ht hC) htail

/-- Where `C` keeps `J` and implies `D` on the steps out of `J`, the runs from `J`
whose steps meet `C` meet `D`. -/
theorem StepsMeet.of_kept {J : σ → Prop} {C D : σ → ε → σ → Prop}
    (hCD : ∀ s e t, J s → step s e = some t → C s e t → D s e t)
    (hJ : ∀ s e t, J s → step s e = some t → C s e t → J t)
    {s : σ} {es : List ε} (hs : J s) (h : StepsMeet step C s es) : StepsMeet step D s es := by
  induction es generalizing s with
  | nil => exact h
  | cons e es ih =>
      intro t ht
      obtain ⟨hC, htail⟩ := h t ht
      exact ⟨hCD s e t hs ht hC, ih (hJ s e t hs ht hC) htail⟩

/-- **Exchanging a step condition under what it keeps.**  Where a step out of a
state with `J` meets `C` exactly when it meets `D`, and then leads to `J` again, the
runs from `J` whose steps meet `C` are those whose steps meet `D`. -/
theorem stepsMeet_iff_of_kept {J : σ → Prop} {C D : σ → ε → σ → Prop}
    (hCD : ∀ s e t, J s → step s e = some t → (C s e t ↔ D s e t))
    (hJ : ∀ s e t, J s → step s e = some t → C s e t → J t)
    {s : σ} {es : List ε} (hs : J s) :
    StepsMeet step C s es ↔ StepsMeet step D s es := by
  constructor
  · exact StepsMeet.of_kept (fun s e t h ht => (hCD s e t h ht).mp) hJ hs
  · exact StepsMeet.of_kept (fun s e t h ht => (hCD s e t h ht).mpr)
      (fun s e t h ht hD => hJ s e t h ht ((hCD s e t h ht).mpr hD)) hs

/-- **Exchanging a step condition under an invariant.**  Where every step out
of an invariant state meets `C` exactly when it meets `D`, so do the runs. -/
theorem stepsMeet_iff_of_invariant {J : σ → Prop} {C D : σ → ε → σ → Prop}
    (hJ : ∀ s e t, J s → step s e = some t → J t)
    (hCD : ∀ s e t, J s → step s e = some t → (C s e t ↔ D s e t))
    {s : σ} {es : List ε} (hs : J s) :
    StepsMeet step C s es ↔ StepsMeet step D s es :=
  stepsMeet_iff_of_kept hCD (fun s e t h ht _ => hJ s e t h ht) hs

section Endpoints

variable (step)

/-- The state after the run of `es` from `s`, if all of its events could happen. -/
def runFrom : σ → List ε → Option σ
  | s, [] => some s
  | s, e :: es => (step s e).bind fun t => runFrom t es

variable {step}

/-- The first step of a run and the rest of it. -/
theorem runFrom_cons {s t : σ} {e : ε} {es : List ε}
    (h : runFrom step s (e :: es) = some t) :
    ∃ u, step s e = some u ∧ runFrom step u es = some t :=
  Option.bind_eq_some_iff.mp h

/-- A run goes on from where the first part of it ends. -/
theorem runFrom_append {s t : σ} {es fs : List ε} (h : runFrom step s es = some t) :
    runFrom step s (es ++ fs) = runFrom step t fs := by
  induction es generalizing s with
  | nil =>
      obtain rfl := Option.some.inj h
      rfl
  | cons e es ih =>
      obtain ⟨u, hu, hrest⟩ := runFrom_cons h
      rw [List.cons_append, runFrom, hu, Option.bind_some, ih hrest]

/-- What the steps of the events in `E` keep holds at the end of a run of such events. -/
theorem runFrom_of_events {J : σ → Prop} {E : ε → Prop}
    (hJ : ∀ s e t, J s → E e → step s e = some t → J t) {s t : σ} {es : List ε}
    (hs : J s) (hE : ∀ e ∈ es, E e) (h : runFrom step s es = some t) : J t := by
  induction es generalizing s with
  | nil =>
      obtain rfl := Option.some.inj h
      exact hs
  | cons e es ih =>
      obtain ⟨u, hu, hrest⟩ := runFrom_cons h
      obtain ⟨hEe, hEes⟩ := List.forall_mem_cons.mp hE
      exact ih (hJ s e u hs hEe hu) hEes hrest

/-- An invariant holds at the end of a run. -/
theorem runFrom_of_step {J : σ → Prop} (hJ : ∀ s e t, J s → step s e = some t → J t)
    {s t : σ} {es : List ε} (hs : J s) (h : runFrom step s es = some t) : J t :=
  runFrom_of_events (E := fun _ => True) (fun s e t hs _ => hJ s e t hs) hs
    (fun _ _ => trivial) h

/-- **A run of a component is a run of what it refines**, where each step is one of `f`
on the abstract side. -/
theorem runFrom_refines {α : Type} {R : σ → α → Prop} {f : α → ε → α}
    (hstep : ∀ s a e t, R s a → step s e = some t → R t (f a e)) {s t : σ} {a : α}
    {es : List ε} (hs : R s a) (h : runFrom step s es = some t) : R t (es.foldl f a) := by
  induction es generalizing s a with
  | nil =>
      obtain rfl := Option.some.inj h
      exact hs
  | cons e es ih =>
      obtain ⟨u, hu, hrest⟩ := runFrom_cons h
      exact ih (hstep s a e u hs hu) hrest

/-- What the steps into `P` keep holds at the end of a run on which `P` holds throughout. The
states before a step need not be looked at. -/
theorem runFrom_of_throughout {J P : σ → Prop}
    (hJ : ∀ s e t, J s → step s e = some t → P t → J t) {s t : σ} {es : List ε} (hs : J s)
    (hP : Throughout step P s es) (h : runFrom step s es = some t) : J t := by
  induction es generalizing s with
  | nil =>
      obtain rfl := Option.some.inj h
      exact hs
  | cons e es ih =>
      obtain ⟨u, hu, hrest⟩ := runFrom_cons h
      have hu' := hP.2 u hu
      exact ih (hJ s e u hs hu hu'.head) hu' hrest

/-- What holds throughout a run holds at its end. -/
theorem Throughout.last {P : σ → Prop} {s t : σ} {es : List ε} (h : Throughout step P s es)
    (hrun : runFrom step s es = some t) : P t := by
  induction es generalizing s with
  | nil =>
      obtain rfl := Option.some.inj hrun
      exact h
  | cons e es ih =>
      obtain ⟨u, hu, hrest⟩ := runFrom_cons hrun
      exact ih (h.2 u hu) hrest

end Endpoints

section Sums

variable (step)

/-- The sum of `g` over the steps taken on the run of `es` from `s`. -/
def sumSteps (g : σ → ε → σ → ℕ) : σ → List ε → ℕ
  | _, [] => 0
  | s, e :: es => (step s e).elim 0 fun t => g s e t + sumSteps g t es

variable {step} {g : σ → ε → σ → ℕ}

/-- The sum is zero if no step adds to it. -/
theorem sumSteps_eq_zero_iff {C : σ → ε → σ → Prop}
    (hC : ∀ s e t, step s e = some t → (g s e t = 0 ↔ C s e t)) (s : σ) (es : List ε) :
    sumSteps step g s es = 0 ↔ StepsMeet step C s es := by
  induction es generalizing s with
  | nil => exact iff_of_true rfl trivial
  | cons e es ih =>
      cases ht : step s e with
      | none => simp [sumSteps, StepsMeet, ht]
      | some t => simp [sumSteps, StepsMeet, ht, hC s e t ht, ih t]

/-- **The balance of a measure.**  Where each step adds `g` to `f` and takes `l` from it,
a run adds and takes the sums. -/
theorem measure_balance {f : σ → ℤ} {l : σ → ε → σ → ℕ}
    (hf : ∀ s e t, step s e = some t → f t + l s e t = f s + g s e t) {s t : σ} {es : List ε}
    (h : runFrom step s es = some t) :
    f t + sumSteps step l s es = f s + sumSteps step g s es := by
  induction es generalizing s with
  | nil =>
      obtain rfl := Option.some.inj h
      rfl
  | cons e es ih =>
      obtain ⟨u, hu, hrest⟩ := runFrom_cons h
      have hfirst := hf s e u hu
      have hlater := ih hrest
      simp only [sumSteps, hu, Option.elim_some, Int.natCast_add]
      omega

end Sums

end Runs
