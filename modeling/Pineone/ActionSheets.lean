import Pineone.Runs
import Mathlib.Data.List.Nodup

/-!
# Action sheets

The only strong reference to an `ARActionSheet` is the static `current`, which the next sheet
replaces and an answer clears; the alert controller of the sheet stays on the screen without
it.  A sheet hears its buttons, and the rows of its menu, as long as it is the current one.
The completions of its two callers show no sheet, and none that does is covered here.

* `answered_once`: along a run the completion of a sheet is called at most once, and with a
  text of its menu or `close`;
* `all_answer_iff`: all sheets on the screen answer exactly as long as each sheet is shown
  when no other one is on the screen.
-/

namespace ActionSheets

open Runs

inductive ActionSheetResult
  | close
  | text (text : String)
  deriving DecidableEq, Repr

/-- A sheet with the menu of its `MenuSortView`; `identity` tells the sheets apart. -/
structure ARActionSheet where
  identity : ℕ
  menu : List String
  deriving DecidableEq, Repr

/-- `presented` are the sheets whose alert controllers are on the screen, the front one last;
`answers` are the results that completions were called with. -/
structure SheetScreen where
  created : ℕ := 0
  current : Option ARActionSheet := none
  presented : List ARActionSheet := []
  answers : List (ARActionSheet × ActionSheetResult) := []
  deriving DecidableEq, Repr

inductive SheetEvent
  /-- A sheet is made and shown; `hasTop` tells whether there is a `topViewController`. -/
  | «show» (menu : List String) (hasTop : Bool)
  /-- A tap on a row of the menu in front. -/
  | selectRow (row : ℕ)
  | tapCancelButton
  /-- The cancel action of the alert controller, as by a tap beside the sheet. -/
  | cancelAction
  deriving DecidableEq, Repr

namespace SheetScreen

def newSheet (s : SheetScreen) (menu : List String) : ARActionSheet :=
  { identity := s.created, menu := menu }

def «show» (s : SheetScreen) (menu : List String) (hasTop : Bool) : SheetScreen :=
  { s with
    created := s.created + 1
    current := some (s.newSheet menu)
    presented := if hasTop then s.presented ++ [s.newSheet menu] else s.presented }

theorem show_presented (s : SheetScreen) (menu : List String) (hasTop : Bool) :
    (s.show menu hasTop).presented =
      if hasTop then s.presented ++ [s.newSheet menu] else s.presented := rfl

/-- `dismiss(_:)` of a sheet in front, which does nothing once the sheet is gone.  The answer
goes to the completion, which leaves the sheets alone. -/
def dismiss (s : SheetScreen) (sheet : ARActionSheet) (result : ActionSheetResult) : SheetScreen :=
  if s.current = some sheet then
    { s with
      current := none
      presented := s.presented.dropLast
      answers := s.answers ++ [(sheet, result)] }
  else s

def step (s : SheetScreen) : SheetEvent → Option SheetScreen
  | .show menu hasTop => some (s.show menu hasTop)
  | .selectRow row =>
      s.presented.getLast?.bind fun sheet =>
        sheet.menu[row]?.map fun text => s.dismiss sheet (.text text)
  | .tapCancelButton => s.presented.getLast?.map fun sheet => s.dismiss sheet .close
  | .cancelAction =>
      if s.presented = [] then none else some { s with presented := s.presented.dropLast }

variable {s t : SheetScreen} {e : SheetEvent}

/-- What an event does: it shows a sheet, takes a row or the cancel button of the sheet in
front, or closes that one by its cancel action, which brings no answer. -/
theorem step_cases (hstep : step s e = some t) :
    (∃ menu hasTop, e = .show menu hasTop ∧ t = s.show menu hasTop) ∨
      (∃ sheet result, s.presented.getLast? = some sheet ∧
        (result = .close ∨ ∃ text ∈ sheet.menu, result = .text text) ∧
        (∀ menu hasTop, e ≠ .show menu hasTop) ∧ t = s.dismiss sheet result) ∨
      (e = .cancelAction ∧ t = { s with presented := s.presented.dropLast }) := by
  cases e with
  | «show» menu hasTop => exact Or.inl ⟨menu, hasTop, rfl, (Option.some.inj hstep).symm⟩
  | selectRow row =>
      obtain ⟨sheet, hfront, hrow⟩ := Option.bind_eq_some_iff.mp hstep
      obtain ⟨text, htext, rfl⟩ := Option.map_eq_some_iff.mp hrow
      refine Or.inr (Or.inl ⟨sheet, .text text, hfront, Or.inr ⟨text, ?_, rfl⟩, by simp, rfl⟩)
      exact List.mem_of_getElem? htext
  | tapCancelButton =>
      obtain ⟨sheet, hfront, rfl⟩ := Option.map_eq_some_iff.mp hstep
      exact Or.inr (Or.inl ⟨sheet, .close, hfront, Or.inl rfl, by simp, rfl⟩)
  | cancelAction =>
      unfold step at hstep
      dsimp only at hstep
      split at hstep
      · cases hstep
      · exact Or.inr (Or.inr ⟨rfl, (Option.some.inj hstep).symm⟩)

/-- Sheets are numbered as they are made, and an answered sheet is not the current one. -/
structure Numbered (s : SheetScreen) : Prop where
  current : ∀ sheet ∈ s.current, sheet.identity < s.created ∧
    sheet.identity ∉ s.answers.map (·.1.identity)
  presented : ∀ sheet ∈ s.presented, sheet.identity < s.created
  answered : ∀ answer ∈ s.answers, answer.1.identity < s.created ∧
    (answer.2 = .close ∨ ∃ text ∈ answer.1.menu, answer.2 = .text text)
  once : (s.answers.map (·.1.identity)).Nodup
  distinct : s.presented.Nodup

/-- A new sheet gets the next number, which no sheet before it has, and it takes over the
reference to the current one. -/
theorem Numbered.show (h : s.Numbered) (menu : List String) (hasTop : Bool) :
    (s.show menu hasTop).Numbered := by
  refine ⟨?_, ?_, ?_, h.once, ?_⟩
  · intro sheet hsheet
    obtain rfl := Option.some.inj hsheet
    refine ⟨Nat.lt_succ_self _, fun hmem => ?_⟩
    obtain ⟨answer, hanswer, hsame⟩ := List.mem_map.mp hmem
    have hlt := (h.answered answer hanswer).1
    have hnew : answer.1.identity = s.created := hsame
    omega
  · intro sheet hsheet
    have hcases : sheet ∈ s.presented ∨ sheet.identity = s.created := by
      rw [show_presented] at hsheet
      cases hasTop with
      | false => exact Or.inl hsheet
      | true =>
          rcases List.mem_append.mp hsheet with hearly | hlast
          · exact Or.inl hearly
          · exact Or.inr (congrArg ARActionSheet.identity (List.mem_singleton.mp hlast))
    show sheet.identity < s.created + 1
    rcases hcases with hearly | hnew
    · have := h.presented sheet hearly
      omega
    · omega
  · intro answer hanswer
    obtain ⟨hlt, hresult⟩ := h.answered answer hanswer
    exact ⟨Nat.lt_succ_of_lt hlt, hresult⟩
  · rw [show_presented]
    cases hasTop with
    | false => exact h.distinct
    | true =>
        rw [if_pos rfl, ← List.concat_eq_append]
        refine h.distinct.concat fun hmem => ?_
        exact Nat.lt_irrefl _ (h.presented _ hmem)

/-- An answer of the current sheet is its first one. Every other sheet hears nothing, and the
state stays as it is. -/
theorem Numbered.dismiss {sheet : ARActionSheet} {result : ActionSheetResult} (h : s.Numbered)
    (hresult : result = .close ∨ ∃ text ∈ sheet.menu, result = .text text) :
    (s.dismiss sheet result).Numbered := by
  unfold SheetScreen.dismiss
  split
  · next hcurrent =>
      obtain ⟨hlt, hnew⟩ := h.current sheet hcurrent
      refine ⟨fun _ hnone => (by cases hnone), ?_, ?_, ?_,
        h.distinct.sublist (List.dropLast_sublist _)⟩
      · exact fun other hother => h.presented other (List.dropLast_subset _ hother)
      · intro answer hanswer
        rcases List.mem_append.mp hanswer with hearly | hlast
        · exact h.answered answer hearly
        · obtain rfl := List.mem_singleton.mp hlast
          exact ⟨hlt, hresult⟩
      · show ((s.answers ++ [(sheet, result)]).map _).Nodup
        rw [List.map_append, List.map_singleton, ← List.concat_eq_append]
        exact h.once.concat hnew
  · exact h

/-- Every event keeps the numbering, so that no sheet is answered twice; the cancel action of
a controller only takes a sheet off the screen. -/
theorem Numbered.step (h : s.Numbered) (hstep : SheetScreen.step s e = some t) :
    t.Numbered := by
  obtain ⟨menu, hasTop, -, rfl⟩ | ⟨sheet, result, -, hresult, -, rfl⟩ | ⟨-, rfl⟩ :=
    step_cases hstep
  · exact h.show menu hasTop
  · exact h.dismiss hresult
  · exact ⟨h.current, fun other hother => h.presented other (List.dropLast_subset _ hother),
      h.answered, h.once, h.distinct.sublist (List.dropLast_sublist _)⟩

/-- At the start no sheet was made, so none can have been answered. -/
theorem numbered_start : ({} : SheetScreen).Numbered :=
  ⟨fun _ h => (by cases h), fun _ h => (by cases h), fun _ h => (by cases h), List.nodup_nil,
    List.nodup_nil⟩

/-- **A sheet answers at most once**, with a text of its menu or with `close`. The sheets are
told apart by their number, since two of them may have the same menu. -/
theorem answered_once (es : List SheetEvent) :
    Throughout step (fun s => (s.answers.map (·.1.identity)).Nodup ∧
      ∀ answer ∈ s.answers,
        answer.2 = .close ∨ ∃ text ∈ answer.1.menu, answer.2 = .text text) {} es := by
  have hnumbered : Throughout step Numbered {} es :=
    throughout_of_step (fun _ _ _ => Numbered.step) numbered_start es
  exact hnumbered.mono (fun _ _ _ => Numbered.step)
    (fun _ hs _ => ⟨hs.once, fun answer hanswer => (hs.answered answer hanswer).2⟩) numbered_start

/-- Every sheet on the screen is the current one, and hears its buttons. -/
def AllAnswer (s : SheetScreen) : Prop := ∀ sheet ∈ s.presented, s.current = some sheet

/-- A sheet is shown only when none is on the screen. -/
def ShownAlone (s : SheetScreen) (e : SheetEvent) (_ : SheetScreen) : Prop :=
  match e with
  | .show _ _ => s.presented = []
  | _ => True

/-- Sheets on the screen that all answer are one sheet at most. -/
theorem dropLast_of_allAnswer (hs : s.Numbered) (h : s.AllAnswer) : s.presented.dropLast = [] := by
  cases hpresented : s.presented with
  | nil => rfl
  | cons sheet sheets =>
      cases sheets with
      | nil => rfl
      | cons other sheets =>
          have hfirst := h sheet (by simp [hpresented])
          have hsecond := h other (by simp [hpresented])
          have hsame := Option.some.inj (hfirst.symm.trans hsecond)
          have hdistinct := hs.distinct
          rw [hpresented, hsame] at hdistinct
          simp at hdistinct

/-- A sheet that is shown over another one makes it deaf: the static `current` is the new one
from then on, and the buttons of the old one find that they are not of the current sheet. -/
theorem allAnswer_show_iff (hs : s.Numbered) (menu : List String) (hasTop : Bool) :
    (s.show menu hasTop).AllAnswer ↔ s.presented = [] := by
  constructor
  · intro hafter
    apply List.eq_nil_iff_forall_not_mem.mpr
    intro sheet hsheet
    have hlt := hs.presented sheet hsheet
    have hstill : sheet ∈ (s.show menu hasTop).presented := by
      rw [show_presented]
      cases hasTop with
      | false => exact hsheet
      | true => exact List.mem_append_left _ hsheet
    have hsame := congrArg ARActionSheet.identity (Option.some.inj (hafter sheet hstill))
    have hnew : s.created = sheet.identity := hsame
    omega
  · intro hnone sheet hsheet
    rw [show_presented, hnone] at hsheet
    cases hasTop with
    | false => cases hsheet
    | true =>
        obtain rfl := List.mem_singleton.mp hsheet
        rfl

/-- One case for each thing an event can do. Only a sheet shown over another one can take the
reference away from one that stays on the screen. -/
theorem allAnswer_step_iff (hs : s.Numbered) (h : s.AllAnswer)
    (hstep : SheetScreen.step s e = some t) : t.AllAnswer ↔ ShownAlone s e t := by
  have hrest := dropLast_of_allAnswer hs h
  obtain ⟨menu, hasTop, rfl, rfl⟩ | ⟨sheet, result, hfront, -, hother, rfl⟩ | ⟨rfl, rfl⟩ :=
    step_cases hstep
  · exact allAnswer_show_iff hs menu hasTop
  · have hcurrent := h sheet (List.mem_of_getLast? hfront)
    refine iff_of_true ?_ ?_
    · unfold SheetScreen.dismiss AllAnswer
      rw [if_pos hcurrent, hrest]
      exact fun _ hmem => absurd hmem List.not_mem_nil
    · cases e with
      | «show» menu hasTop => exact absurd rfl (hother menu hasTop)
      | selectRow row => trivial
      | tapCancelButton => trivial
      | cancelAction => trivial
  · refine iff_of_true ?_ trivial
    unfold AllAnswer
    rw [hrest]
    exact fun _ hmem => absurd hmem List.not_mem_nil

/-- **Sheets answer as long as they are shown alone**: along a run all sheets on the screen
hear their buttons exactly if each one was shown when no other was on the screen. -/
theorem all_answer_iff (es : List SheetEvent) :
    Throughout step AllAnswer {} es ↔ StepsMeet step ShownAlone {} es :=
  throughout_iff_stepsMeet (J := Numbered) (fun _ _ _ hs hstep => hs.step hstep)
    (fun _ _ _ hs h hstep => allAnswer_step_iff hs h hstep) numbered_start
    fun _ hmem => absurd hmem List.not_mem_nil

end SheetScreen

end ActionSheets
