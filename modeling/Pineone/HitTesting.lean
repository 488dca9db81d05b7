import Pineone.RangeSlider
import Mathlib

/-!
# What a tap hits

`UIButton` and `Button` search their subviews for the view that a touch hits the way a
`UIView` does, but from an area with a margin around their bounds; a `ToastView` takes no
touches at all.

* `hit_is_frontmost`: the view that is hit is the one drawn last among those that take the
  touch together with all their superviews;
* `hitTest_withoutToasts`: toasts anywhere in the hierarchy do not change what is hit.
-/

namespace HitTesting

open Sliders (CGPoint CGRect)

/-- A rectangle has its left and upper edges, and not the right and lower ones. -/
theorem contains_iff {rect : CGRect} {point : CGPoint} :
    rect.contains point = true ↔ rect.x ≤ point.x ∧ point.x < rect.x + rect.width ∧
      rect.y ≤ point.y ∧ point.y < rect.y + rect.height := decide_eq_true_iff

/-- The class that a view takes its `hitTest` from. -/
inductive ViewKind
  | view
  | uiButton
  | button
  | toastView
  deriving DecidableEq, Repr

/-- A view without its subviews.  `origin` is the origin of its frame: a view has no
transform, so that its frame is as large as its bounds.  The hit test of a plain `view` is
the one that UIKit documents. -/
structure Layer (β : Type) where
  name : β
  kind : ViewKind := .view
  origin : CGPoint
  bounds : CGRect
  isUserInteractionEnabled : Bool := true
  isHidden : Bool := false
  alpha : ℚ := 1
  /-- The initializer of a toast turns its user interaction off, and nothing turns it on. -/
  toast_disabled : kind = .toastView → isUserInteractionEnabled = false := by decide

namespace Layer

variable {β : Type}

def frame (layer : Layer β) : CGRect :=
  { layer.bounds with x := layer.origin.x, y := layer.origin.y }

/-- `convert(_:from:)` from the superview. -/
def convertFrom (layer : Layer β) (point : CGPoint) : CGPoint :=
  { x := point.x - layer.origin.x + layer.bounds.x
    y := point.y - layer.origin.y + layer.bounds.y }

/-- `convert(_:to:)` to the superview. -/
def convertTo (layer : Layer β) (point : CGPoint) : CGPoint :=
  { x := point.x - layer.bounds.x + layer.origin.x
    y := point.y - layer.bounds.y + layer.origin.y }

/-- The checks that `UIButton` and `Button` start with. -/
def takesWithin (layer : Layer β) (margin : ℚ) (point : CGPoint) : Prop :=
  layer.isUserInteractionEnabled = true ∧ layer.isHidden = false ∧ 1 / 100 < layer.alpha ∧
    (layer.bounds.grownBy margin).contains point = true

/-- Whether a view lets a touch at a point come to itself and its subviews. -/
def takes (layer : Layer β) (point : CGPoint) : Prop :=
  match layer.kind with
  | .view =>
      layer.isUserInteractionEnabled = true ∧ layer.isHidden = false ∧ 1 / 100 ≤ layer.alpha ∧
        layer.bounds.contains point = true
  | .uiButton => layer.takesWithin 12 point
  | .button => layer.takesWithin 10 point
  | .toastView =>
      layer.frame.contains (layer.convertTo point) = true ∧ layer.isUserInteractionEnabled = true

instance (layer : Layer β) (point : CGPoint) : Decidable (layer.takes point) := by
  unfold takes takesWithin
  split <;> infer_instance

/-- A toast takes no touch, wherever it is: its hit test asks whether it is enabled, and its
initializer has disabled it. -/
theorem not_takes_of_toastView {layer : Layer β} (h : layer.kind = .toastView)
    (point : CGPoint) : ¬ layer.takes point := by
  intro htakes
  unfold takes at htakes
  rw [h] at htakes
  have hdisabled := layer.toast_disabled h
  rw [htakes.2] at hdisabled
  cases hdisabled

end Layer

/-- A view with its subviews, the front one last. -/
inductive View (β : Type)
  | node (layer : Layer β) (subviews : List (View β))

namespace View

variable {β : Type}

def layer : View β → Layer β
  | .node layer _ => layer

def subviews : View β → List (View β)
  | .node _ subviews => subviews

mutual

/-- Which view is hit by a touch at a point of the coordinates of the view. -/
def hitTest : View β → CGPoint → Option β
  | .node layer subviews, point =>
      if layer.takes point then
        match layer.kind with
        | .toastView => some layer.name
        | _ => some ((hitSubviews subviews point).getD layer.name)
      else none

/-- The loop over the subviews in reverse, with a point of the coordinates of the superview. -/
def hitSubviews : List (View β) → CGPoint → Option β
  | [], _ => none
  | subview :: front, point =>
      (hitSubviews front point).or (subview.hitTest (subview.layer.convertFrom point))

end

/-- The view at a path takes a touch together with all of its superviews. -/
inductive Taken : View β → CGPoint → List ℕ → β → Prop
  | here {view : View β} {point : CGPoint} (htakes : view.layer.takes point) :
      Taken view point [] view.layer.name
  | within {view subview : View β} {point : CGPoint} {i : ℕ} {path : List ℕ} {name : β}
      (htakes : view.layer.takes point) (hsubview : view.subviews[i]? = some subview)
      (hrest : Taken subview (subview.layer.convertFrom point) path name) :
      Taken view point (i :: path) name

/-- A view is drawn before its subviews, and these are drawn in their order. -/
abbrev DrawnBefore : List ℕ → List ℕ → Prop := List.Lex (· < ·)

/-- A view that takes a touch through its subviews takes it itself. Each view on the path to
the view that is hit has let the touch pass. -/
theorem Taken.takes {view : View β} {point : CGPoint} {path : List ℕ} {name : β}
    (h : Taken view point path name) : view.layer.takes point := by
  cases h with
  | here htakes => exact htakes
  | within htakes _ _ => exact htakes

/-- The path tells the view. -/
theorem Taken.name_unique {view : View β} {point : CGPoint} {path : List ℕ} {name other : β}
    (h : Taken view point path name) (hother : Taken view point path other) : name = other := by
  induction h with
  | here htakes =>
      cases hother with
      | here _ => rfl
  | within htakes hsubview _ ih =>
      cases hother with
      | within _ hsubview' hrest' =>
          rw [hsubview] at hsubview'
          obtain rfl := Option.some.inj hsubview'
          exact ih hrest'

/-- Nothing that takes the touch is drawn after the view at `path`. -/
def Frontmost (view : View β) (point : CGPoint) (path : List ℕ) : Prop :=
  ∀ other name, Taken view point other name → other = path ∨ DrawnBefore other path

/-- The same for the subviews of a view, numbered from `i`. -/
def FrontmostOf (subviews : List (View β)) (point : CGPoint) (i : ℕ) (path : List ℕ) : Prop :=
  ∀ j subview other name, subviews[j]? = some subview →
    Taken subview (subview.layer.convertFrom point) other name →
      j < i ∨ j = i ∧ (other = path ∨ DrawnBefore other path)

/-- The subviews in front are asked first, and the first hit counts. -/
theorem hitSubviews_cons_some {subview : View β} {front : List (View β)} {point : CGPoint}
    {name : β} (h : hitSubviews front point = some name) :
    hitSubviews (subview :: front) point = some name := by
  rw [hitSubviews, h, Option.some_or]

/-- Where nothing in front is hit, the subview behind is asked, at the point in its own
coordinates. -/
theorem hitSubviews_cons_none {subview : View β} {front : List (View β)} {point : CGPoint}
    (h : hitSubviews front point = none) :
    hitSubviews (subview :: front) point =
      subview.hitTest (subview.layer.convertFrom point) := by
  rw [hitSubviews, h, Option.none_or]

/-- A view that does not take a touch keeps it from its subviews as well, also from those
that lie outside of its bounds. -/
theorem hitTest_of_not_takes {view : View β} {point : CGPoint}
    (h : ¬ view.layer.takes point) : view.hitTest point = none := by
  cases view with
  | node layer subviews =>
      have hnot : ¬ layer.takes point := h
      rw [hitTest, if_neg hnot]

/-- No view with a margin or without one keeps a touch from its subviews. -/
theorem hitTest_of_takes {view : View β} {point : CGPoint} (h : view.layer.takes point) :
    view.hitTest point = some ((hitSubviews view.subviews point).getD view.layer.name) := by
  cases view with
  | node layer subviews =>
      have htakes : layer.takes point := h
      rw [hitTest, if_pos htakes]
      split
      · next htoast => exact absurd htakes (Layer.not_takes_of_toastView htoast point)
      · rfl

/-- A view without subviews. -/
theorem hitTest_leaf (layer : Layer β) (point : CGPoint) :
    (View.node layer []).hitTest point = if layer.takes point then some layer.name else none := by
  by_cases htakes : (View.node layer []).layer.takes point
  · rw [hitTest_of_takes htakes]
    exact (if_pos htakes).symm
  · rw [hitTest_of_not_takes htakes]
    exact (if_neg htakes).symm

mutual

/-- A view that is hit takes the touch, and nothing in front of it does. The induction is on
the hierarchy, together with that on the list of subviews. -/
theorem taken_of_hitTest : ∀ (view : View β) (point : CGPoint) (name : β),
    view.hitTest point = some name →
      ∃ path, Taken view point path name ∧ view.Frontmost point path
  | .node layer subviews, point, name => by
      intro hhit
      have htakes : (View.node layer subviews).layer.takes point := by
        by_contra hnot
        rw [hitTest_of_not_takes hnot] at hhit
        cases hhit
      rw [hitTest_of_takes htakes] at hhit
      cases hsub : hitSubviews subviews point with
      | none =>
          simp only [View.subviews, View.layer, hsub, Option.getD_none] at hhit
          have hname : layer.name = name := Option.some.inj hhit
          refine ⟨[], hname ▸ Taken.here htakes, ?_⟩
          intro other otherName hother
          cases hother with
          | here _ => exact .inl rfl
          | within _ hsubview hrest =>
              exact absurd hrest (not_taken_of_hitSubviews subviews point hsub _ _ _ _ hsubview)
      | some found =>
          simp only [View.subviews, hsub, Option.getD_some] at hhit
          have hname : found = name := Option.some.inj hhit
          obtain ⟨i, subview, path, hsubview, htaken, hfront⟩ :=
            taken_of_hitSubviews subviews point found hsub
          refine ⟨i :: path, hname ▸ Taken.within htakes hsubview htaken, ?_⟩
          intro other otherName hother
          cases hother with
          | here _ => exact .inr .nil
          | within _ hsubview' hrest =>
              rcases hfront _ _ _ _ hsubview' hrest with hlt | ⟨rfl, rfl | hbefore⟩
              · exact .inr (.rel hlt)
              · exact .inl rfl
              · exact .inr (.cons hbefore)

/-- The same for a list of subviews: what is hit takes the touch, and no subview in front of
it does. -/
theorem taken_of_hitSubviews : ∀ (subviews : List (View β)) (point : CGPoint) (name : β),
    hitSubviews subviews point = some name →
      ∃ i subview path, subviews[i]? = some subview ∧
        Taken subview (subview.layer.convertFrom point) path name ∧
        FrontmostOf subviews point i path
  | [], point, name => by
      intro hhit
      rw [hitSubviews] at hhit
      cases hhit
  | subview :: front, point, name => by
      intro hhit
      cases hfront : hitSubviews front point with
      | some found =>
          rw [hitSubviews_cons_some hfront] at hhit
          obtain rfl := Option.some.inj hhit
          obtain ⟨i, hitView, path, hget, htaken, hlast⟩ :=
            taken_of_hitSubviews front point found hfront
          refine ⟨i + 1, hitView, path, hget, htaken, ?_⟩
          intro j other otherPath otherName hother hotherTaken
          cases j with
          | zero => exact .inl (Nat.zero_lt_succ i)
          | succ j =>
              rcases hlast j other otherPath otherName hother hotherTaken with hlt | ⟨rfl, h⟩
              · exact .inl (Nat.succ_lt_succ hlt)
              · exact .inr ⟨rfl, h⟩
      | none =>
          rw [hitSubviews_cons_none hfront] at hhit
          obtain ⟨path, htaken, hlast⟩ :=
            taken_of_hitTest subview (subview.layer.convertFrom point) name hhit
          refine ⟨0, subview, path, rfl, htaken, ?_⟩
          intro j other otherPath otherName hother hotherTaken
          cases j with
          | zero =>
              obtain rfl := Option.some.inj hother
              exact .inr ⟨rfl, hlast otherPath otherName hotherTaken⟩
          | succ j =>
              exact absurd hotherTaken
                (not_taken_of_hitSubviews front point hfront j other otherPath otherName hother)

/-- If the loop over the subviews finds nothing, none of them takes the touch. So the touch
is left to the view itself. -/
theorem not_taken_of_hitSubviews : ∀ (subviews : List (View β)) (point : CGPoint),
    hitSubviews subviews point = none →
      ∀ (j : ℕ) (subview : View β) path name, subviews[j]? = some subview →
        ¬ Taken subview (subview.layer.convertFrom point) path name
  | [], point => by
      intro _ j subview path name hget
      rw [List.getElem?_nil] at hget
      cases hget
  | subview :: front, point => by
      intro hhit
      have hfront : hitSubviews front point = none := by
        cases hfound : hitSubviews front point with
        | none => rfl
        | some found =>
            rw [hitSubviews_cons_some hfound] at hhit
            cases hhit
      rw [hitSubviews_cons_none hfront] at hhit
      intro j other path name hother htaken
      cases j with
      | zero =>
          obtain rfl := Option.some.inj hother
          rw [hitTest_of_takes htaken.takes] at hhit
          cases hhit
      | succ j =>
          exact not_taken_of_hitSubviews front point hfront j other path name hother htaken

end

/-- **The view that is hit is the frontmost one**: among the views that take the touch
together with all of their superviews, the one that is drawn last. -/
theorem hit_is_frontmost (view : View β) (point : CGPoint) (name : β) :
    view.hitTest point = some name ↔
      ∃ path, Taken view point path name ∧ view.Frontmost point path := by
  constructor
  · exact taken_of_hitTest view point name
  · rintro ⟨path, htaken, hfront⟩
    have hhit := hitTest_of_takes htaken.takes
    obtain ⟨other, hother, hlast⟩ := taken_of_hitTest view point _ hhit
    have hpath : other = path := by
      rcases hfront other _ hother with heq | hbefore
      · exact heq
      · rcases hlast path name htaken with heq | hafter
        · exact heq.symm
        · exact absurd hafter (asymm hbefore)
    rw [hpath] at hother
    rw [hhit, hother.name_unique htaken]

mutual

/-- The hierarchy under a view without its toasts. -/
def withoutToasts : View β → View β
  | .node layer subviews => .node layer (removeToasts subviews)

def removeToasts : List (View β) → List (View β)
  | [] => []
  | subview :: front =>
      match subview.layer.kind with
      | .toastView => removeToasts front
      | _ => subview.withoutToasts :: removeToasts front

end

/-- A toast goes with all that is in it. -/
theorem removeToasts_of_toastView {subview : View β} (h : subview.layer.kind = .toastView)
    (front : List (View β)) : removeToasts (subview :: front) = removeToasts front := by
  rw [removeToasts, h]

/-- Another view stays, without the toasts inside it. Its place among its neighbours may
change, as toasts before it go. -/
theorem removeToasts_of_not_toastView {subview : View β} (h : subview.layer.kind ≠ .toastView)
    (front : List (View β)) :
    removeToasts (subview :: front) = subview.withoutToasts :: removeToasts front := by
  rw [removeToasts]
  split
  · next htoast => exact absurd htoast h
  · rfl

/-- Taking the toasts out of a view changes its subviews only. -/
theorem layer_withoutToasts (view : View β) : view.withoutToasts.layer = view.layer := by
  cases view with
  | node layer subviews =>
      rw [withoutToasts]
      rfl

/-- A subview and those in front of it may be replaced by others that are hit in the same
way. -/
theorem hitSubviews_congr {subview other : View β} {front others : List (View β)}
    {point : CGPoint} (hfront : hitSubviews others point = hitSubviews front point)
    (hhit : other.hitTest (other.layer.convertFrom point) =
      subview.hitTest (subview.layer.convertFrom point)) :
    hitSubviews (other :: others) point = hitSubviews (subview :: front) point := by
  rw [hitSubviews, hitSubviews, hfront, hhit]

mutual

/-- By induction on the hierarchy: a view takes the same touches without its toasts, and its
other subviews are hit as before. -/
theorem withoutToasts_hit : ∀ (view : View β) (point : CGPoint),
    view.withoutToasts.hitTest point = view.hitTest point
  | .node layer subviews, point => by
      have hlayer := layer_withoutToasts (View.node layer subviews)
      by_cases htakes : (View.node layer subviews).layer.takes point
      · have hwithout : (View.node layer subviews).withoutToasts.layer.takes point := by
          rw [hlayer]
          exact htakes
        rw [hitTest_of_takes hwithout, hitTest_of_takes htakes, hlayer, withoutToasts]
        have hsub := hitSubviews_removeToasts subviews point
        simp only [View.subviews, hsub]
      · have hwithout : ¬ (View.node layer subviews).withoutToasts.layer.takes point := by
          rw [hlayer]
          exact htakes
        rw [hitTest_of_not_takes hwithout, hitTest_of_not_takes htakes]

/-- A toast among the subviews is passed over, since it takes no touch; another subview is
hit as before by the induction. -/
theorem hitSubviews_removeToasts : ∀ (subviews : List (View β)) (point : CGPoint),
    hitSubviews (removeToasts subviews) point = hitSubviews subviews point
  | [], point => by rw [removeToasts]
  | subview :: front, point => by
      have hfront := hitSubviews_removeToasts front point
      by_cases htoast : subview.layer.kind = .toastView
      · rw [removeToasts_of_toastView htoast, hfront]
        have hpass : subview.hitTest (subview.layer.convertFrom point) = none :=
          hitTest_of_not_takes (Layer.not_takes_of_toastView htoast _)
        cases hhit : hitSubviews front point with
        | some name => rw [hitSubviews_cons_some hhit]
        | none => rw [hitSubviews_cons_none hhit, hpass]
      · rw [removeToasts_of_not_toastView htoast]
        refine hitSubviews_congr hfront ?_
        rw [layer_withoutToasts]
        exact withoutToasts_hit subview _

end

/-- **Toasts let touches through**: wherever toasts are in the hierarchy, each touch hits the
view that it hits without them. -/
theorem hitTest_withoutToasts (view : View β) : view.withoutToasts.hitTest = view.hitTest :=
  funext (withoutToasts_hit view)

end View

end HitTesting
