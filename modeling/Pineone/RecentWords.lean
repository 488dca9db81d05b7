import Pineone.Runs
import Pineone.SwiftText
import Mathlib.Data.List.Basic

/-!
# The recent search words

The views of the stack carry their place in the stored list of words in the tags of their
two buttons.  A tap on either button takes the word at the tag out of the list, but only
the delete mark has the views built again.

* `recent_words_agree_iff`: along a run each tap removes the word it shows, and the words
  shown are those stored, exactly when each handler of a title has the stack refreshed.
-/

namespace RecentWords

open Swift Runs

structure UIButton where
  title : Option String := none
  tag : ℤ
  deriving DecidableEq, Repr

structure RecentItemView where
  itemTitleButton : UIButton
  deleteButton : UIButton
  deriving DecidableEq, Repr

/-- The stack, with the list that the user defaults store under its search key and whether
a handler of title taps is set. -/
structure HorizontalStackView where
  recentSearchWords : Option (List String)
  stackSubViews : List RecentItemView := []
  completeHandler : Bool
  deriving DecidableEq, Repr

/-- A tap on the view at `place`; `refreshes`: the handler, which leaves the list alone, has
the stack refreshed. -/
inductive StackEvent
  | tapTitle (place : ℕ) (refreshes : Bool)
  | tapDelete (place : ℕ)
  deriving DecidableEq, Repr

def StackEvent.place : StackEvent → ℕ
  | .tapTitle place _ | .tapDelete place => place

/-- `words.remove(at: index)` -/
def remove (words : List String) : ℤ → Result (List String)
  | .ofNat n => if n < words.length then .ok (words.eraseIdx n) else .error .indexOutOfRange
  | .negSucc _ => .error .indexOutOfRange

def itemView (index : ℕ) (title : String) : RecentItemView where
  itemTitleButton := { title := some title, tag := index }
  deleteButton := { tag := index }

namespace HorizontalStackView

def refreshStackView (s : HorizontalStackView) : HorizontalStackView :=
  match s.recentSearchWords with
  | none => { s with stackSubViews := [] }
  | some arr => { s with stackSubViews := arr.mapIdx itemView }

/-- What both taps do to the stored list. -/
def removeWord (s : HorizontalStackView) (sender : UIButton) : Result HorizontalStackView :=
  match s.recentSearchWords with
  | none => .ok s
  | some recentArray =>
      (remove recentArray sender.tag).map fun recentArray =>
        { s with recentSearchWords := some recentArray }

def buttonTap (s : HorizontalStackView) (sender : UIButton) (refreshes : Bool) :
    Result HorizontalStackView :=
  match sender.title, s.completeHandler with
  | some _, true =>
      (s.removeWord sender).map fun s => if refreshes then s.refreshStackView else s
  | _, _ => .ok s

def removeView (s : HorizontalStackView) (sender : UIButton) : Result HorizontalStackView :=
  (s.removeWord sender).map refreshStackView

end HorizontalStackView

/-- A tap on a view of the stack; nothing happens after a trap. -/
def step : Result HorizontalStackView → StackEvent → Option (Result HorizontalStackView)
  | .error _, _ => none
  | .ok s, .tapTitle place refreshes =>
      (s.stackSubViews[place]?).map fun view => s.buttonTap view.itemTitleButton refreshes
  | .ok s, .tapDelete place =>
      (s.stackSubViews[place]?).map fun view => s.removeView view.deleteButton

namespace HorizontalStackView

/-- The words stored. -/
def words (s : HorizontalStackView) : List String := s.recentSearchWords.getD []

/-- The words shown, in order. -/
def shownWords (s : HorizontalStackView) : List (Option String) :=
  s.stackSubViews.map fun view => view.itemTitleButton.title

/-- The word that the view at `place` shows is taken out of the stored list, where it has
that place. -/
def RemovesShown (place : ℕ) (s t : HorizontalStackView) : Prop :=
  ∃ word, s.shownWords[place]? = some (some word) ∧ s.words[place]? = some word ∧
    t.recentSearchWords = some (s.words.eraseIdx place)

end HorizontalStackView

/-- A tap that removes a word removes the one it shows, no index is out of range, and the
words shown are then those stored. -/
def TapAgrees (before : Result HorizontalStackView) (e : StackEvent)
    (after : Result HorizontalStackView) : Prop :=
  match before, after with
  | .ok s, .ok t =>
      (t.recentSearchWords = s.recentSearchWords ∨ s.RemovesShown e.place t) ∧
        t.shownWords = t.words.map some
  | _, _ => False

/-- The handler of a title has the stack refreshed. -/
def HandlerRefreshes (before : Result HorizontalStackView) (e : StackEvent)
    (_ : Result HorizontalStackView) : Prop :=
  match before, e with
  | .ok s, .tapTitle _ refreshes => s.completeHandler = true → refreshes = true
  | _, _ => True

namespace HorizontalStackView

variable {s t : HorizontalStackView} {place : ℕ} {view : RecentItemView}

/-- The views are those of the stored words. -/
def Fresh (s : HorizontalStackView) : Prop := s.stackSubViews = s.words.mapIdx itemView

/-- A refresh builds the views of the stored words anew. -/
theorem fresh_refreshStackView (s : HorizontalStackView) : s.refreshStackView.Fresh := by
  unfold Fresh refreshStackView words
  split
  · next hnone => simp [hnone]
  · next arr hsome => simp [hsome]

/-- It only shows the words; the stored list stays as it is. -/
theorem refreshStackView_recentSearchWords (s : HorizontalStackView) :
    s.refreshStackView.recentSearchWords = s.recentSearchWords := by
  unfold refreshStackView
  split <;> rfl

/-- The views of the stored words show these, in their order. -/
theorem Fresh.shownWords (h : s.Fresh) : s.shownWords = s.words.map some := by
  rw [HorizontalStackView.shownWords, h]
  apply List.ext_getElem?
  intro place
  simp [itemView, Function.comp_def]

/-- A view shows the stored word at its place, and has its place in both tags. By the tag a
tap finds the word that it removes. -/
theorem Fresh.shows (h : s.Fresh) (hview : s.stackSubViews[place]? = some view) :
    ∃ word, s.words[place]? = some word ∧ view = itemView place word := by
  rw [h, List.getElem?_mapIdx] at hview
  obtain ⟨word, hword, hitem⟩ := Option.map_eq_some_iff.mp hview
  exact ⟨word, hword, hitem.symm⟩

/-- The list after the word at `place` was taken out. -/
def without (s : HorizontalStackView) (place : ℕ) : HorizontalStackView :=
  { s with recentSearchWords := some (s.words.eraseIdx place) }

/-- A tag that is a place in the list: its word is removed, and the views are not touched by
that. -/
theorem removeWord_of_place {word : String} (hword : s.words[place]? = some word)
    {sender : UIButton} (htag : sender.tag = place) :
    s.removeWord sender = .ok (s.without place) := by
  have hlt : place < s.words.length := (List.getElem?_eq_some_iff.mp hword).1
  unfold removeWord
  split
  · next hnone => simp [words, hnone] at hlt
  · next arr hsome =>
      have hwords : s.words = arr := by simp [words, hsome]
      rw [htag, without, hwords]
      show Except.map _ (if place < arr.length then _ else _) = _
      rw [if_pos (hwords ▸ hlt)]
      rfl

/-- On fresh views the tapped one shows the word that is stored at its place, and this is the
one removed. -/
theorem removesShown_without (h : s.Fresh) {word : String}
    (hword : s.words[place]? = some word) : s.RemovesShown place (s.without place) := by
  refine ⟨word, ?_, hword, rfl⟩
  rw [h.shownWords, List.getElem?_map, hword, Option.map_some]

/-- With the views of before, one word too many is shown, and the tags of the views behind it
are too large by one. -/
theorem shownWords_without_ne (h : s.Fresh) {word : String}
    (hword : s.words[place]? = some word) :
    (s.without place).shownWords ≠ (s.without place).words.map some := by
  have hlt : place < s.words.length := (List.getElem?_eq_some_iff.mp hword).1
  intro heq
  have hlength := congrArg List.length heq
  rw [show (s.without place).shownWords = s.shownWords from rfl, h.shownWords,
    show (s.without place).words = s.words.eraseIdx place from rfl, List.length_map,
    List.length_map, List.length_eraseIdx_of_lt hlt] at hlength
  omega

end HorizontalStackView

section Runs

variable {s : HorizontalStackView} {after : Result HorizontalStackView} {place : ℕ}
  {refreshes : Bool}

open HorizontalStackView

/-- What a tap on a title does to a stack with the views of its words: nothing without a
completion handler, and else the word is removed and the views are built again only if the
handler asks for it. -/
theorem step_tapTitle_cases (h : s.Fresh) (hstep : step (.ok s) (.tapTitle place refreshes) =
    some after) :
    (s.completeHandler = false ∧ after = .ok s) ∨
      ∃ word, s.words[place]? = some word ∧ s.completeHandler = true ∧ after =
        .ok (if refreshes then (s.without place).refreshStackView else s.without place) := by
  obtain ⟨view, hview, rfl⟩ := Option.map_eq_some_iff.mp hstep
  obtain ⟨word, hword, rfl⟩ := h.shows hview
  unfold buttonTap
  split
  · next hhandler =>
      refine Or.inr ⟨word, hword, hhandler, ?_⟩
      rw [removeWord_of_place hword rfl]
      rfl
  · next hnot =>
      have hhandler : s.completeHandler = false := by
        apply Bool.eq_false_iff.mpr
        intro hset
        exact hnot word rfl hset
      exact Or.inl ⟨hhandler, rfl⟩

/-- What a tap on a delete mark does to it. -/
theorem step_tapDelete (h : s.Fresh) (hstep : step (.ok s) (.tapDelete place) = some after) :
    ∃ word, s.words[place]? = some word ∧ after = .ok (s.without place).refreshStackView := by
  obtain ⟨view, hview, rfl⟩ := Option.map_eq_some_iff.mp hstep
  obtain ⟨word, hword, rfl⟩ := h.shows hview
  refine ⟨word, hword, ?_⟩
  show (s.removeWord (itemView place word).deleteButton).map refreshStackView = _
  rw [removeWord_of_place hword rfl]
  rfl

/-- Removing the word of a view and building the views again. -/
theorem tapAgrees_refreshed (h : s.Fresh) {word : String} {e : StackEvent}
    (hword : s.words[e.place]? = some word) :
    TapAgrees (.ok s) e (.ok (s.without e.place).refreshStackView) := by
  refine ⟨Or.inr ?_, (fresh_refreshStackView _).shownWords⟩
  obtain ⟨word, hshown, hstored, hafter⟩ := removesShown_without h hword
  exact ⟨word, hshown, hstored, (refreshStackView_recentSearchWords _).trans hafter⟩

/-- What holds along a run on which each tap agrees. -/
def RunFresh : Result HorizontalStackView → Prop
  | .error _ => False
  | .ok s => s.Fresh

/-- A tap on an x refreshes the stack itself. A tap on a title leaves that to its handler, so
that it agrees exactly if the handler does. -/
theorem tapAgrees_step_iff {before after : Result HorizontalStackView} {e : StackEvent}
    (h : RunFresh before) (hstep : step before e = some after) :
    TapAgrees before e after ↔ HandlerRefreshes before e after := by
  cases before with
  | error _ => cases h
  | ok s =>
      cases e with
      | tapTitle place refreshes =>
          rcases step_tapTitle_cases h hstep with ⟨hhandler, rfl⟩ | ⟨word, hword, hhandler, rfl⟩
          · refine iff_of_true ⟨Or.inl rfl, h.shownWords⟩ fun hset => ?_
            rw [hhandler] at hset
            cases hset
          · cases refreshes with
            | true => exact iff_of_true (tapAgrees_refreshed h hword) fun _ => rfl
            | false =>
                refine iff_of_false (fun hagrees => ?_) (fun hset => ?_)
                · exact shownWords_without_ne h hword hagrees.2
                · exact Bool.false_ne_true (hset hhandler)
      | tapDelete place =>
          obtain ⟨word, hword, rfl⟩ := step_tapDelete h hstep
          exact iff_of_true (tapAgrees_refreshed h hword) trivial

/-- After a tap that agrees the views are fresh again. -/
theorem runFresh_step {before after : Result HorizontalStackView} {e : StackEvent}
    (h : RunFresh before) (hstep : step before e = some after)
    (hrefreshes : HandlerRefreshes before e after) : RunFresh after := by
  cases before with
  | error _ => cases h
  | ok s =>
      cases e with
      | tapTitle place refreshes =>
          rcases step_tapTitle_cases h hstep with ⟨-, rfl⟩ | ⟨word, hword, hhandler, rfl⟩
          · exact h
          · obtain rfl : refreshes = true := hrefreshes hhandler
            exact fresh_refreshStackView (s.without place)
      | tapDelete place =>
          obtain ⟨word, hword, rfl⟩ := step_tapDelete h hstep
          exact fresh_refreshStackView (s.without place)

/-- **The words shown are those stored** along a run of taps, and each tap that removes a
word removes the one it shows, exactly when each handler of a title has the stack
refreshed. -/
theorem recent_words_agree_iff (s : HorizontalStackView) (es : List StackEvent) :
    StepsMeet step TapAgrees (.ok s.refreshStackView) es ↔
      StepsMeet step HandlerRefreshes (.ok s.refreshStackView) es := by
  apply stepsMeet_iff_of_kept (J := RunFresh)
  · intro before e after h hstep
    exact tapAgrees_step_iff h hstep
  · intro before e after h hstep hagrees
    exact runFresh_step h hstep ((tapAgrees_step_iff h hstep).mp hagrees)
  · exact fresh_refreshStackView s

/-- The five words of the view model, with a handler. -/
def initialStack : HorizontalStackView :=
  refreshStackView
    { recentSearchWords := some ["안녕하세요", "저는", "iOS", "개발자", "입니다"]
      completeHandler := true }

/-- Two taps on the last title: the second one has no word to remove, and its tag runs past
the end of the list. -/
theorem last_title_tapped_twice :
    ¬ ∀ (words : List String) (es : List StackEvent),
      StepsMeet step TapAgrees (.ok (refreshStackView
        { recentSearchWords := some words, completeHandler := true })) es := by
  intro h
  have hrun := h ["안녕하세요", "저는", "iOS", "개발자", "입니다"]
    [.tapTitle 4 false, .tapTitle 4 false]
  have hfirst : step (.ok initialStack) (.tapTitle 4 false) =
      some (.ok (initialStack.without 4)) := by decide
  have hsecond : step (.ok (initialStack.without 4)) (.tapTitle 4 false) =
      some (.error .indexOutOfRange) := by decide
  exact ((hrun _ hfirst).2 _ hsecond).1

end Runs

end RecentWords
