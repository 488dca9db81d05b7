import Pineone.StringsParser
import Mathlib.Data.List.DropRight

/-!
# Format specifiers

A text is read by `String(format:)` as ordinary characters and specifiers
(`FormatItem`).  `render` writes the items of a text and `readFrom` reads them back
(`readFrom_render`), so a text has at most one reading.

`didEndElement` turns `%s` into `%@` and `%1$s` into `%1$@` by replacing text.

* `replaceChars_render`: what such a replacement does to the items of a text;
* `formats_converted_iff`: every string specifier is converted, and no argument
  object is read as a C string, exactly when `%1$s` is the only positional one; and
  the two replacements change nothing else exactly when moreover no `%%` stands
  directly before the letters of a specifier.
-/

namespace Localization

open Swift

/-! ## The items of a text -/

inductive Conversion
  | decimal
  | cString
  | object
  deriving DecidableEq, Repr

def Conversion.char : Conversion → Char
  | decimal => 'd'
  | cString => 's'
  | object => '@'

def Conversion.ofChar (c : Char) : Option Conversion :=
  if c = 'd' then some decimal
  else if c = 's' then some cString
  else if c = '@' then some object
  else none

/-- `%%`, a specifier for the next argument, or one for the argument at `position`. -/
inductive Specifier
  | percent
  | next (conversion : Conversion)
  | positional (position : {n : Nat // 1 ≤ n}) (conversion : Conversion)
  deriving DecidableEq, Repr

/-- What follows the percent sign. -/
def Specifier.body : Specifier → List Char
  | percent => ['%']
  | next conversion => [conversion.char]
  | positional position conversion =>
      (toString position.val).toList ++ ['$', conversion.char]

/-- A percent sign stands in specifiers only. -/
inductive FormatItem
  | ordinary (c : {c : Char // c ≠ '%'})
  | specifier (spec : Specifier)
  deriving DecidableEq, Repr

def FormatItem.chars : FormatItem → List Char
  | ordinary c => [c.val]
  | specifier spec => '%' :: spec.body

def render (items : List FormatItem) : List Char := items.flatMap FormatItem.chars

def FormatItem.mapSpecifier (f : Specifier → Specifier) : FormatItem → FormatItem
  | ordinary c => ordinary c
  | specifier spec => specifier (f spec)

/-- The specifiers among the items, in order. -/
def specifiersOf (items : List FormatItem) : List Specifier :=
  items.filterMap fun
    | .ordinary _ => none
    | .specifier spec => some spec

section

variable (items items' : List FormatItem)

@[simp] theorem render_nil : render [] = [] := rfl

@[simp] theorem render_ordinary (c : {c : Char // c ≠ '%'}) :
    render (.ordinary c :: items) = c.val :: render items := rfl

@[simp] theorem render_specifier (spec : Specifier) :
    render (.specifier spec :: items) = '%' :: (spec.body ++ render items) := rfl

@[simp] theorem render_append : render (items ++ items') = render items ++ render items' :=
  List.flatMap_append

@[simp] theorem specifiersOf_nil : specifiersOf [] = [] := rfl

@[simp] theorem specifiersOf_ordinary (c : {c : Char // c ≠ '%'}) :
    specifiersOf (.ordinary c :: items) = specifiersOf items := rfl

@[simp] theorem specifiersOf_specifier (spec : Specifier) :
    specifiersOf (.specifier spec :: items) = spec :: specifiersOf items := rfl

@[simp] theorem specifiersOf_append :
    specifiersOf (items ++ items') = specifiersOf items ++ specifiersOf items' :=
  List.filterMap_append

end

/-! ## Reading a text -/

/-- Where a reader of a text is: between items, behind a percent sign and these
digits, or behind the dollar sign after them. -/
inductive Reading
  | text
  | percent (digits : List Char)
  | position (digits : List Char)

/-- The items of a text; `none` when a specifier is not well formed. -/
def readFrom : Reading → List Char → Option (List FormatItem)
  | .text, [] => some []
  | .percent _, [] | .position _, [] => none
  | .text, c :: text =>
      if h : c = '%' then readFrom (.percent []) text
      else (readFrom .text text).map (.ordinary ⟨c, h⟩ :: ·)
  | .percent digits, c :: text =>
      if c.isDigit then readFrom (.percent (digits ++ [c])) text
      else if c = '$' then readFrom (.position digits) text
      else if digits ≠ [] then none
      else if c = '%' then (readFrom .text text).map (.specifier .percent :: ·)
      else do
        let conversion ← Conversion.ofChar c
        (readFrom .text text).map (.specifier (.next conversion) :: ·)
  | .position digits, c :: text => do
      let n ← natOfDigits digits
      let conversion ← Conversion.ofChar c
      if h : 1 ≤ n then
        (readFrom .text text).map (.specifier (.positional ⟨n, h⟩ conversion) :: ·)
      else none

/-- The specifiers that `String(format:)` finds in a text. -/
def specifiers (text : String) : Option (List Specifier) :=
  (readFrom .text text.toList).map specifiersOf

/-- The letter of a conversion is read as that conversion. -/
theorem Conversion.ofChar_char (conversion : Conversion) :
    ofChar conversion.char = some conversion := by
  cases conversion <;> rfl

/-- The digits of a position are read one by one. -/
theorem readFrom_digits {digits : List Char} (hdigits : ∀ c ∈ digits, c.isDigit = true)
    (before text : List Char) :
    readFrom (.percent before) (digits ++ text) = readFrom (.percent (before ++ digits)) text := by
  induction digits generalizing before with
  | nil => rw [List.nil_append, List.append_nil]
  | cons c digits ih =>
      rw [List.cons_append, readFrom, if_pos (hdigits c List.mem_cons_self),
        ih fun d hd => hdigits d (List.mem_cons_of_mem c hd), List.append_assoc,
        List.singleton_append]

/-- **A specifier is read back**, whatever follows it. The reader knows from the letter of
the conversion where the specifier ends. -/
theorem readFrom_body (spec : Specifier) (text : List Char) :
    readFrom (.percent []) (spec.body ++ text) =
      (readFrom .text text).map (.specifier spec :: ·) := by
  cases spec with
  | percent => rfl
  | next conversion =>
      cases conversion <;> rfl
  | positional position conversion =>
      have hdigits : ∀ c ∈ (toString position.val).toList, c.isDigit = true :=
        fun c hc => isDigit_of_mem_toString hc
      rw [Specifier.body, List.append_assoc, readFrom_digits hdigits, List.nil_append,
        List.cons_append, List.cons_append, List.nil_append, readFrom, if_neg (by decide),
        if_pos rfl, readFrom, natOfDigits_toString, Conversion.ofChar_char]
      exact dif_pos position.property

/-- **A text is read back.** So the specifiers of a text are no matter of how one chooses to
write it, and can be compared as items. -/
theorem readFrom_render (items : List FormatItem) : readFrom .text (render items) = some items := by
  induction items with
  | nil => rfl
  | cons item items ih =>
      cases item with
      | ordinary c => rw [render_ordinary, readFrom, dif_neg c.property, ih, Option.map_some]
      | specifier spec =>
          rw [render_specifier, readFrom, dif_pos rfl, readFrom_body, ih, Option.map_some]

/-- Texts of items tell the items apart, since reading a text gives its items back. -/
theorem render_injective {items items' : List FormatItem} (h : render items = render items') :
    items = items' := by
  have hread := readFrom_render items
  rw [h, readFrom_render] at hread
  exact (Option.some.inj hread).symm

/-- Only the specifier `%%` has a percent sign after its first one. It is the one behind
which the letters of another specifier can follow without being one. -/
theorem Specifier.percent_mem_body {spec : Specifier} : '%' ∈ spec.body ↔ spec = percent := by
  cases spec with
  | percent => exact iff_of_true List.mem_cons_self rfl
  | next conversion => cases conversion <;> decide
  | positional position conversion =>
      have hdigits : '%' ∉ (toString position.val).toList := fun h =>
        absurd (isDigit_of_mem_toString h) (by decide)
      have hconversion : '%' ∉ ['$', conversion.char] := by cases conversion <;> decide
      rw [body, List.mem_append]
      exact iff_of_false (fun h => h.elim hdigits hconversion) Specifier.noConfusion

/-- Behind a percent sign that begins a specifier, the letters of a specifier stand only if
they are its own: no specifier begins another one. -/
theorem Specifier.body_prefix_iff {old spec : Specifier} {items : List FormatItem} :
    old.body <+: spec.body ++ render items ↔ spec = old := by
  constructor
  · rintro ⟨rest, h⟩
    have hread := readFrom_body old rest
    rw [h, readFrom_body, readFrom_render, Option.map_some] at hread
    obtain ⟨after, _, hafter⟩ := Option.map_eq_some_iff.mp hread.symm
    exact (FormatItem.specifier.inj (List.cons.inj hafter).1).symm
  · rintro rfl
    exact List.prefix_append _ _

/-! ## Replacing a specifier -/

/-- Ordinary characters as items. -/
def ordinaries (text : List Char) : List FormatItem :=
  text.filterMap fun c => if h : c ≠ '%' then some (.ordinary ⟨c, h⟩) else none

/-- An ordinary character is an item of its own. -/
theorem ordinaries_cons {c : Char} (h : c ≠ '%') (text : List Char) :
    ordinaries (c :: text) = .ordinary ⟨c, h⟩ :: ordinaries text := by
  rw [ordinaries, List.filterMap_cons_some (dif_pos h)]
  rfl

/-- So a text without percent signs has as many items as characters. -/
theorem length_ordinaries {text : List Char} (h : '%' ∉ text) :
    (ordinaries text).length = text.length := by
  induction text with
  | nil => rfl
  | cons c text ih =>
      rw [List.mem_cons, not_or] at h
      rw [ordinaries_cons (Ne.symm h.1), List.length_cons, ih h.2, List.length_cons]

/-- Such a text is rendered as itself. -/
theorem render_ordinaries {text : List Char} (h : '%' ∉ text) :
    render (ordinaries text) = text := by
  induction text with
  | nil => rfl
  | cons c text ih =>
      rw [List.mem_cons, not_or] at h
      rw [ordinaries_cons (Ne.symm h.1), render_ordinary, ih h.2]

/-- And it has no specifiers. -/
theorem specifiersOf_ordinaries {text : List Char} (h : '%' ∉ text) :
    specifiersOf (ordinaries text) = [] := by
  induction text with
  | nil => rfl
  | cons c text ih =>
      rw [List.mem_cons, not_or] at h
      rw [ordinaries_cons (Ne.symm h.1), specifiersOf_ordinary, ih h.2]

/-- Characters at the start of a text are ordinary items if they have no percent sign. -/
theorem exists_of_prefix_render {word : List Char} (hword : '%' ∉ word)
    {items : List FormatItem} (h : word <+: render items) :
    ∃ rest, items = ordinaries word ++ rest := by
  induction word generalizing items with
  | nil => exact ⟨items, rfl⟩
  | cons c word ih =>
      rw [List.mem_cons, not_or] at hword
      cases items with
      | nil => exact absurd (List.prefix_nil.mp h) (List.cons_ne_nil _ _)
      | cons item items =>
          cases item with
          | ordinary d =>
              obtain ⟨rfl, hrest⟩ := List.cons_prefix_cons.mp h
              obtain ⟨rest, rfl⟩ := ih hword.2 hrest
              exact ⟨rest, by rw [ordinaries_cons d.property]; rfl⟩
          | specifier spec => exact absurd (List.cons_prefix_cons.mp h).1.symm hword.1

/-- A character that a word has not is not among the characters that a text with that word in
front begins with. -/
theorem not_mem_take_length {c : Char} {word text : List Char} (hc : c ∉ word)
    (h : word <+: text) : c ∉ text.take word.length := by
  rwa [← List.prefix_iff_eq_take.mp h]

section

variable (old new : Specifier)

/-- `new` for `old`, and any other specifier itself. -/
def Specifier.replaced (spec : Specifier) : Specifier := if spec = old then new else spec

/-- What replacing `%` and the letters of `old` does to the items: it replaces the
specifier, and it replaces the letters where they follow a `%%`; `skip` items belong
to letters already replaced. -/
def replaceSpecifier : ℕ → List FormatItem → List FormatItem
  | _, [] => []
  | skip + 1, _ :: items => replaceSpecifier skip items
  | 0, .ordinary c :: items => .ordinary c :: replaceSpecifier 0 items
  | 0, .specifier spec :: items =>
      if spec = old then .specifier new :: replaceSpecifier 0 items
      else if spec = .percent ∧ old.body <+: render items then
        .specifier .percent :: (ordinaries new.body ++ replaceSpecifier old.body.length items)
      else .specifier spec :: replaceSpecifier 0 items

variable {old new}

/-- Behind a `%%` the letters of the old specifier are replaced, too, since the search of a
text takes the second percent sign for the beginning of a specifier. -/
theorem replaceChars_render_percent (hold : '%' ∉ old.body) (hnew : '%' ∉ new.body)
    {items : List FormatItem}
    (ih : ∀ skip, '%' ∉ (render items).take skip →
      replaceChars ('%' :: old.body) ('%' :: new.body) skip (render items) =
        render (replaceSpecifier old new skip items)) :
    '%' :: replaceChars ('%' :: old.body) ('%' :: new.body) 0
        (Specifier.percent.body ++ render items) =
      render (if old.body <+: render items then
        .specifier .percent ::
          (ordinaries new.body ++ replaceSpecifier old new old.body.length items)
      else .specifier .percent :: replaceSpecifier old new 0 items) := by
  have hbody : Specifier.percent.body ++ render items = '%' :: render items := rfl
  rw [hbody]
  by_cases hword : old.body <+: render items
  · have hafter := not_mem_take_length hold hword
    obtain ⟨text, htext⟩ := hword
    rw [if_pos ⟨text, htext⟩, ← htext, replaceChars_of_prefix, ← replaceChars_skip _ _ old.body,
      htext, ih _ hafter, render_specifier, render_append, render_ordinaries hnew]
    rfl
  · have hsecond : ¬ '%' :: old.body <+: '%' :: render items := fun h =>
      hword (List.cons_prefix_cons.mp h).2
    rw [if_neg hword, replaceChars_of_not_prefix hsecond, ih 0 List.not_mem_nil]
    rfl

/-- **Replacing a specifier in a text.** The search of the text is described on its items:
the specifier itself is replaced, and its letters behind a `%%`. -/
theorem replaceChars_render (hold : '%' ∉ old.body) (hnew : '%' ∉ new.body)
    (items : List FormatItem) (skip : ℕ) (hskip : '%' ∉ (render items).take skip) :
    replaceChars ('%' :: old.body) ('%' :: new.body) skip (render items) =
      render (replaceSpecifier old new skip items) := by
  induction items generalizing skip with
  | nil => cases skip <;> rfl
  | cons item items ih =>
      cases skip with
      | succ skip =>
          cases item with
          | ordinary c =>
              rw [render_ordinary, List.take_succ_cons, List.mem_cons, not_or] at hskip
              exact ih skip hskip.2
          | specifier spec => exact absurd List.mem_cons_self hskip
      | zero =>
          have hrest := ih 0 List.not_mem_nil
          cases item with
          | ordinary c =>
              have hprefix : ¬ '%' :: old.body <+: c.val :: render items := fun h =>
                c.property (List.cons_prefix_cons.mp h).1.symm
              rw [render_ordinary, replaceChars_of_not_prefix hprefix, hrest, replaceSpecifier,
                render_ordinary]
          | specifier spec =>
              rw [render_specifier, replaceSpecifier]
              by_cases hspec : spec = old
              · rw [if_pos hspec, hspec, replaceChars_of_prefix, hrest]
                rfl
              · have hprefix : ¬ '%' :: old.body <+: '%' :: (spec.body ++ render items) := by
                  rw [List.cons_prefix_cons, Specifier.body_prefix_iff]
                  exact fun h => hspec h.2
                rw [if_neg hspec, replaceChars_of_not_prefix hprefix]
                by_cases hpercent : spec = .percent
                · rw [if_congr (and_iff_right hpercent) rfl rfl, hpercent]
                  exact replaceChars_render_percent hold hnew ih
                · have hbody : '%' ∉ spec.body := mt Specifier.percent_mem_body.mp hpercent
                  rw [if_neg fun h => hpercent h.1, replaceChars_append_of_not_mem hbody, hrest,
                    render_specifier]

/-- On the specifiers of a text, replacing a specifier in its letters is replacing it as a
specifier, except after `%%`, where no specifier is. -/
theorem specifiersOf_replaceSpecifier (hold : '%' ∉ old.body) (hnew : '%' ∉ new.body)
    (items : List FormatItem) (skip : ℕ) (hskip : '%' ∉ (render items).take skip) :
    specifiersOf (replaceSpecifier old new skip items) =
      (specifiersOf items).map (Specifier.replaced old new) := by
  induction items generalizing skip with
  | nil => cases skip <;> rfl
  | cons item items ih =>
      cases skip with
      | succ skip =>
          cases item with
          | ordinary c =>
              rw [render_ordinary, List.take_succ_cons, List.mem_cons, not_or] at hskip
              exact ih skip hskip.2
          | specifier spec => exact absurd List.mem_cons_self hskip
      | zero =>
          have hrest := ih 0 List.not_mem_nil
          cases item with
          | ordinary c => exact hrest
          | specifier spec =>
              rw [replaceSpecifier, specifiersOf_specifier, List.map_cons]
              by_cases hspec : spec = old
              · rw [if_pos hspec, Specifier.replaced, if_pos hspec, specifiersOf_specifier, hrest]
              · rw [if_neg hspec, Specifier.replaced, if_neg hspec]
                split
                · next h =>
                    rw [specifiersOf_specifier, specifiersOf_append,
                      specifiersOf_ordinaries hnew, List.nil_append,
                      ih _ (not_mem_take_length hold h.2), h.1]
                · rw [specifiersOf_specifier, hrest]

/-- The letters `word` follow a `%%`. -/
def FollowsPercent (word : List Char) : List FormatItem → Prop
  | [] => False
  | item :: items =>
      item = .specifier .percent ∧ word <+: render items ∨ FollowsPercent word items

/-- Otherwise the replacement is one of specifiers, and the ordinary characters of the text
stay. -/
theorem replaceSpecifier_of_not_followsPercent {items : List FormatItem}
    (h : ¬ FollowsPercent old.body items) :
    replaceSpecifier old new 0 items =
      items.map (FormatItem.mapSpecifier (Specifier.replaced old new)) := by
  induction items with
  | nil => rfl
  | cons item items ih =>
      rw [FollowsPercent, not_or] at h
      have hrest := ih h.2
      cases item with
      | ordinary c => rw [replaceSpecifier, hrest, List.map_cons, FormatItem.mapSpecifier]
      | specifier spec =>
          rw [replaceSpecifier, List.map_cons, hrest, FormatItem.mapSpecifier, Specifier.replaced]
          by_cases hspec : spec = old
          · rw [if_pos hspec, if_pos hspec]
          · have hword : ¬ (spec = .percent ∧ old.body <+: render items) := fun hword =>
              h.1 ⟨congrArg FormatItem.specifier hword.1, hword.2⟩
            rw [if_neg hspec, if_neg hword, if_neg hspec]

/-- An ordinary `s`. -/
def FormatItem.isLetterS : FormatItem → Bool
  | ordinary c => c.val == 's'
  | specifier _ => false

/-- The ordinary items `s` of such a text are its letters `s`. -/
theorem countP_ordinaries {text : List Char} (h : '%' ∉ text) :
    (ordinaries text).countP FormatItem.isLetterS = text.count 's' := by
  induction text with
  | nil => rfl
  | cons c text ih =>
      rw [List.mem_cons, not_or] at h
      rw [ordinaries_cons (Ne.symm h.1), List.countP_cons, List.count_cons, ih h.2]
      rfl

/-- A word at the start of a text has its own letters `s`. -/
theorem countP_of_prefix_render {word : List Char} (hword : '%' ∉ word)
    {items : List FormatItem} (h : word <+: render items) :
    items.countP FormatItem.isLetterS =
      word.count 's' + (items.drop word.length).countP FormatItem.isLetterS := by
  obtain ⟨rest, hrest⟩ := exists_of_prefix_render hword h
  have hdrop : items.drop word.length = rest := by
    rw [hrest, ← length_ordinaries hword, List.drop_left]
  rw [hdrop, hrest, List.countP_append, countP_ordinaries hword]

/-- Every `%%` in front of the letters costs an ordinary `s`. By counting these letters it is
seen that such a replacement changes the text. -/
theorem countP_replaceSpecifier (hold : '%' ∉ old.body) (hnew : '%' ∉ new.body)
    (hs : 's' ∈ old.body) (hs' : 's' ∉ new.body) (items : List FormatItem) (skip : ℕ) :
    (replaceSpecifier old new skip items).countP FormatItem.isLetterS ≤
        (items.drop skip).countP FormatItem.isLetterS ∧
      ((replaceSpecifier old new skip items).countP FormatItem.isLetterS =
          (items.drop skip).countP FormatItem.isLetterS →
        ¬ FollowsPercent old.body (items.drop skip)) := by
  induction items generalizing skip with
  | nil => cases skip <;> exact ⟨le_rfl, fun _ h => h⟩
  | cons item items ih =>
      cases skip with
      | succ skip => exact ih skip
      | zero =>
          obtain ⟨hle, heq⟩ := ih 0
          rw [List.drop_zero] at hle heq ⊢
          cases item with
          | ordinary c =>
              rw [replaceSpecifier, List.countP_cons, List.countP_cons]
              refine ⟨Nat.add_le_add_right hle _, fun h hfollows => ?_⟩
              rcases hfollows with hpercent | hrest
              · exact FormatItem.noConfusion hpercent.1
              · exact heq (Nat.add_right_cancel h) hrest
          | specifier spec =>
              have hitems : (FormatItem.specifier spec :: items).countP FormatItem.isLetterS =
                  items.countP FormatItem.isLetterS := List.countP_cons_of_neg Bool.false_ne_true
              have hkept : ∀ spec', (FormatItem.specifier spec' ::
                  replaceSpecifier old new 0 items).countP FormatItem.isLetterS =
                    (replaceSpecifier old new 0 items).countP FormatItem.isLetterS :=
                fun spec' => List.countP_cons_of_neg Bool.false_ne_true
              rw [replaceSpecifier, hitems]
              by_cases hspec : spec = old
              · rw [if_pos hspec, hkept]
                refine ⟨hle, fun h hfollows => ?_⟩
                rcases hfollows with ⟨hpercent, _⟩ | hrest
                · rw [← hspec, FormatItem.specifier.inj hpercent] at hold
                  exact hold List.mem_cons_self
                · exact heq h hrest
              · rw [if_neg hspec]
                by_cases hword : spec = .percent ∧ old.body <+: render items
                · -- The letters are ordinary, and the new ones have no `s` any more.
                  have hcount := countP_of_prefix_render hold hword.2
                  have hpos : 0 < old.body.count 's' := List.count_pos_iff.mpr hs
                  have hnone : new.body.count 's' = 0 := List.count_eq_zero_of_not_mem hs'
                  have hafter := (ih old.body.length).1
                  rw [if_pos hword, List.countP_cons_of_neg Bool.false_ne_true,
                    List.countP_append, countP_ordinaries hnew, hnone]
                  exact ⟨by omega, fun h => by omega⟩
                · rw [if_neg hword, hkept]
                  refine ⟨hle, fun h hfollows => ?_⟩
                  rcases hfollows with ⟨hpercent, hprefix⟩ | hrest
                  · exact hword ⟨FormatItem.specifier.inj hpercent, hprefix⟩
                  · exact heq h hrest

end

/-! ## Texts that carry specifiers -/

/-- The text has a reading with these specifiers. -/
def Carries (specs : List Specifier) (text : List Char) : Prop :=
  ∃ items, text = render items ∧ specifiersOf items = specs

/-- The specifiers that a text carries are those that reading it finds, as the reader is a
left inverse of the printing. -/
theorem Carries.specifiers_eq {specs : List Specifier} {text : String}
    (h : Carries specs text.toList) : specifiers text = some specs := by
  obtain ⟨items, htext, rfl⟩ := h
  rw [specifiers, htext, readFrom_render, Option.map_some]

/-- The characters that specifiers are made of. -/
def isFormatChar (c : Char) : Bool := c.isDigit || "%$ds@".toList.contains c

/-- The letters of a specifier are format characters. -/
theorem isFormatChar_of_mem {spec : Specifier} {c : Char} (h : c ∈ '%' :: spec.body) :
    isFormatChar c = true := by
  have hconversion : ∀ conversion : Conversion, isFormatChar conversion.char = true := by
    intro conversion
    cases conversion <;> decide
  rcases List.mem_cons.mp h with rfl | hbody
  · decide
  · cases spec with
    | percent =>
        obtain rfl := List.mem_singleton.mp hbody
        decide
    | next conversion =>
        obtain rfl := List.mem_singleton.mp hbody
        exact hconversion conversion
    | positional position conversion =>
        rcases List.mem_append.mp hbody with hdigit | hend
        · rw [isFormatChar, isDigit_of_mem_toString hdigit, Bool.true_or]
        · rcases List.mem_cons.mp hend with rfl | hlast
          · decide
          · obtain rfl := List.mem_singleton.mp hlast
            exact hconversion conversion

/-- No format character is white space, so that trimming cuts into no specifier. -/
theorem not_isWhitespace_of_isFormatChar {c : Char} (h : isFormatChar c = true) :
    isWhitespaceOrNewline c = false := by
  rcases Bool.or_eq_true_iff.mp h with hdigit | hother
  · obtain ⟨hlow, hhigh⟩ : 48 ≤ c.toNat ∧ c.toNat ≤ 57 := Char.isDigit_iff_toNat.mp hdigit
    simp only [isWhitespaceOrNewline, Bool.or_eq_false_iff, Bool.and_eq_false_iff,
      decide_eq_false_iff_not, List.contains_eq_mem, List.mem_cons, List.not_mem_nil, or_false]
    exact ⟨⟨by omega, by omega⟩, by omega⟩
  · have hmark : c = '%' ∨ c = '$' ∨ c = 'd' ∨ c = 's' ∨ c = '@' := by simpa using hother
    rcases hmark with rfl | rfl | rfl | rfl | rfl <;> decide

/-- A replacement that starts at no specifier's character leaves the specifiers alone. Those
of line breaks, quotes and tags in the post-processing are of this kind. -/
theorem exists_render_replaceChars {first : Char} {target replacement : List Char}
    (hfirst : isFormatChar first = false) (htarget : '%' ∉ target)
    (hreplacement : '%' ∉ replacement) (items : List FormatItem) (skip : ℕ)
    (hskip : '%' ∉ (render items).take skip) :
    ∃ items', replaceChars (first :: target) replacement skip (render items) = render items' ∧
      specifiersOf items' = specifiersOf items := by
  induction items generalizing skip with
  | nil => exact ⟨[], by cases skip <;> rfl, rfl⟩
  | cons item items ih =>
      cases skip with
      | succ skip =>
          cases item with
          | ordinary c =>
              rw [render_ordinary, List.take_succ_cons, List.mem_cons, not_or] at hskip
              exact ih skip hskip.2
          | specifier spec => exact absurd List.mem_cons_self hskip
      | zero =>
          obtain ⟨rest, hrest, hspecs⟩ := ih 0 List.not_mem_nil
          cases item with
          | ordinary c =>
              by_cases hprefix : first :: target <+: c.val :: render items
              · obtain ⟨hc, hword⟩ := List.cons_prefix_cons.mp hprefix
                obtain ⟨after, hafter, hafterSpecs⟩ :=
                  ih _ (not_mem_take_length htarget hword)
                refine ⟨ordinaries replacement ++ after, ?_, ?_⟩
                · rw [render_ordinary, replaceChars,
                    if_pos (List.isPrefixOf_iff_prefix.mpr hprefix), List.length_cons,
                    Nat.add_sub_cancel, hafter, render_append, render_ordinaries hreplacement]
                · rw [specifiersOf_append, specifiersOf_ordinaries hreplacement, hafterSpecs]
                  rfl
              · refine ⟨.ordinary c :: rest, ?_, hspecs⟩
                rw [render_ordinary, replaceChars_of_not_prefix hprefix, hrest, render_ordinary]
          | specifier spec =>
              have hnot : first ∉ '%' :: spec.body := fun h => by
                rw [isFormatChar_of_mem h] at hfirst
                cases hfirst
              refine ⟨.specifier spec :: rest, ?_, ?_⟩
              · rw [render_specifier, ← List.cons_append, replaceChars_append_of_not_mem hnot,
                  hrest]
                rfl
              · rw [specifiersOf_specifier, specifiersOf_specifier, hspecs]

/-- A target that begins with another kind of character meets no specifier: replacing it
leaves them as they are. -/
theorem Carries.replaceChars {specs : List Specifier} {text : List Char} (h : Carries specs text)
    (target replacement : List Char)
    (htarget : target.head?.any (fun c => !isFormatChar c) = true)
    (hpercent : '%' ∉ target ++ replacement) :
    Carries specs (Swift.replaceChars target replacement 0 text) := by
  obtain ⟨items, rfl, rfl⟩ := h
  rw [List.mem_append, not_or] at hpercent
  cases target with
  | nil => cases htarget
  | cons first target =>
      have hfirst : isFormatChar first = false := by simpa using htarget
      obtain ⟨items', htext, hspecs⟩ := exists_render_replaceChars hfirst
        (fun h => hpercent.1 (List.mem_cons_of_mem first h)) hpercent.2 items 0 List.not_mem_nil
      exact ⟨items', htext, hspecs⟩

/-- White space at the front is ordinary text. -/
theorem Carries.dropWhile {specs : List Specifier} {text : List Char} (h : Carries specs text) :
    Carries specs (text.dropWhile isWhitespaceOrNewline) := by
  obtain ⟨items, rfl, rfl⟩ := h
  induction items with
  | nil => exact ⟨[], rfl, rfl⟩
  | cons item items ih =>
      cases item with
      | ordinary c =>
          rw [render_ordinary]
          by_cases hspace : isWhitespaceOrNewline c.val = true
          · rw [List.dropWhile_cons_of_pos hspace]
            exact ih
          · rw [List.dropWhile_cons_of_neg hspace]
            exact ⟨.ordinary c :: items, rfl, rfl⟩
      | specifier spec =>
          rw [render_specifier, List.dropWhile_cons_of_neg (by decide)]
          exact ⟨.specifier spec :: items, rfl, rfl⟩

/-- So is white space at the end. -/
theorem Carries.rdropWhile {specs : List Specifier} {text : List Char} (h : Carries specs text) :
    Carries specs (text.rdropWhile isWhitespaceOrNewline) := by
  obtain ⟨items, rfl, rfl⟩ := h
  induction items using List.reverseRecOn with
  | nil => exact ⟨[], rfl, rfl⟩
  | append_singleton items item ih =>
      rw [render_append]
      cases item with
      | ordinary c =>
          have hchars : render [.ordinary c] = [c.val] := rfl
          rw [hchars, specifiersOf_append]
          by_cases hspace : isWhitespaceOrNewline c.val = true
          · rw [List.rdropWhile_concat_pos _ _ _ hspace]
            simpa using ih
          · rw [List.rdropWhile_concat_neg _ _ _ hspace]
            exact ⟨items ++ [.ordinary c], by rw [render_append, hchars], specifiersOf_append _ _⟩
      | specifier spec =>
          have hlast : ∀ hne : render items ++ ('%' :: spec.body) ≠ [],
              ¬ isWhitespaceOrNewline
                ((render items ++ ('%' :: spec.body)).getLast hne) = true := by
            intro hne
            rw [List.getLast_append_of_ne_nil _ (List.cons_ne_nil _ _), Bool.not_eq_true]
            exact not_isWhitespace_of_isFormatChar (isFormatChar_of_mem (List.getLast_mem _))
          have hchars : render [.specifier spec] = '%' :: spec.body := by
            rw [render_specifier, render_nil, List.append_nil]
          rw [hchars, List.rdropWhile_eq_self_iff.mpr hlast]
          exact ⟨items ++ [.specifier spec], by rw [render_append, hchars], rfl⟩

/-! ## The conversion of the formats -/

/-- An argument object is read as `%@`, not as the C string of `%s`. -/
def Conversion.converted : Conversion → Conversion
  | cString => object
  | conversion => conversion

def Specifier.converted : Specifier → Specifier
  | percent => percent
  | next conversion => next conversion.converted
  | positional position conversion => positional position conversion.converted

/-- The specifier takes its argument for a C string. -/
def Specifier.ReadsCString (spec : Specifier) : Prop :=
  spec = next .cString ∨ ∃ position, spec = positional position .cString

/-- A converted specifier reads an object where it read a C string. -/
theorem Specifier.not_readsCString_converted (spec : Specifier) :
    ¬ spec.converted.ReadsCString := by
  rcases spec with _ | conversion | ⟨position, conversion⟩
  · rintro (h | ⟨_, h⟩) <;> cases h
  · cases conversion <;> rintro (h | ⟨_, h⟩) <;> cases h
  · cases conversion <;> rintro (h | ⟨_, h⟩) <;> cases h

/-- `%1$` -/
def firstPosition : {n : Nat // 1 ≤ n} := ⟨1, le_rfl⟩

/-- The two replacements of `didEndElement`, on the specifiers. -/
def Specifier.replacedFormats (spec : Specifier) : Specifier :=
  replaced (positional firstPosition .cString) (positional firstPosition .object)
    (replaced (next .cString) (next .object) spec)

/-- They convert every specifier but the string ones for a later argument: the second
replacement is written out for the first argument only. -/
theorem Specifier.replacedFormats_eq_converted_iff (spec : Specifier) :
    spec.replacedFormats = spec.converted ↔
      ∀ position, spec = positional position .cString → position.val = 1 := by
  have hobject : ∀ conversion : Conversion, conversion ≠ .cString →
      conversion.converted = conversion := by
    intro conversion h
    cases conversion with
    | cString => exact absurd rfl h
    | decimal | object => rfl
  cases spec with
  | percent => exact iff_of_true (by decide) fun _ h => nomatch h
  | next conversion =>
      refine iff_of_true ?_ fun _ h => nomatch h
      cases conversion <;> decide
  | positional position conversion =>
      by_cases hconversion : conversion = .cString
      · subst hconversion
        by_cases hposition : position = firstPosition
        · subst hposition
          exact iff_of_true rfl fun _ h => (Specifier.positional.inj h).1 ▸ rfl
        · have hval : position.val ≠ 1 := fun h => hposition (Subtype.ext h)
          have hkept : (positional position .cString).replacedFormats =
              positional position .cString := by
            simp [replacedFormats, replaced, hposition]
          rw [hkept]
          exact iff_of_false (fun h => nomatch h) fun h => hval (h position rfl)
      · have hkept : (positional position conversion).replacedFormats =
            positional position conversion := by
          simp [replacedFormats, replaced, hconversion]
        rw [hkept, converted, hobject conversion hconversion]
        exact iff_of_true rfl fun _ h => absurd (Specifier.positional.inj h).2 hconversion

/-- The two replacements of `didEndElement`, on the text. -/
def convertFormats (text : List Char) : List Char :=
  replaceChars "%1$s".toList "%1$@".toList 0 (replaceChars "%s".toList "%@".toList 0 text)

/-- Post-processing on characters, with the two format replacements in the middle taken
together. -/
theorem postprocess_toList (string : String) :
    (postprocess string).toList =
      (((replaceChars "</font>".toList [] 0
        (replaceChars "<font color=#e83c5a>".toList [] 0
          (replaceChars "<br>".toList "\n".toList 0
            (convertFormats
              (replaceChars "\\'".toList "'".toList 0
                (replaceChars "\\n".toList "\n".toList 0 string.toList)))))).dropWhile
        isWhitespaceOrNewline).rdropWhile isWhitespaceOrNewline) := by
  simp only [postprocess, replacingOccurrences, trimmingWhitespacesAndNewlines, convertFormats,
    List.rdropWhile, String.toList_ofList]
  rfl

/-- The specifiers of the two replacements. -/
theorem convertFormats_render (items : List FormatItem) :
    convertFormats (render items) =
      render (replaceSpecifier (.positional firstPosition .cString)
        (.positional firstPosition .object) 0
        (replaceSpecifier (.next .cString) (.next .object) 0 items)) := by
  have hplain : "%s".toList = '%' :: (Specifier.next .cString).body ∧
      "%@".toList = '%' :: (Specifier.next .object).body := by decide
  have hfirst : "%1$s".toList = '%' :: (Specifier.positional firstPosition .cString).body ∧
      "%1$@".toList = '%' :: (Specifier.positional firstPosition .object).body := by decide
  rw [convertFormats, hplain.1, hplain.2, hfirst.1, hfirst.2,
    replaceChars_render (by decide) (by decide) items 0 List.not_mem_nil,
    replaceChars_render (by decide) (by decide) _ 0 List.not_mem_nil]

/-- The two format replacements replace the specifiers of a text, one by one and at their
places. -/
theorem Carries.convertFormats {specs : List Specifier} {text : List Char}
    (h : Carries specs text) :
    Carries (specs.map Specifier.replacedFormats) (convertFormats text) := by
  obtain ⟨items, rfl, rfl⟩ := h
  refine ⟨_, convertFormats_render items, ?_⟩
  rw [specifiersOf_replaceSpecifier (by decide) (by decide) _ 0 List.not_mem_nil,
    specifiersOf_replaceSpecifier (by decide) (by decide) _ 0 List.not_mem_nil, List.map_map]
  rfl

/-- **The specifiers of a post-processed text.** Of the replacements only the two for the
formats touch them, and trimming takes none away. -/
theorem specifiers_postprocess (items : List FormatItem) :
    specifiers (postprocess (String.ofList (render items))) =
      some ((specifiersOf items).map Specifier.replacedFormats) := by
  apply Carries.specifiers_eq
  have hstart : Carries (specifiersOf items) (String.ofList (render items)).toList :=
    ⟨items, String.toList_ofList, rfl⟩
  have hlines := hstart.replaceChars "\\n".toList "\n".toList (by decide) (by decide)
  have hquotes := hlines.replaceChars "\\'".toList "'".toList (by decide) (by decide)
  have hformats := hquotes.convertFormats
  have hbreaks := hformats.replaceChars "<br>".toList "\n".toList (by decide) (by decide)
  have hfonts := hbreaks.replaceChars "<font color=#e83c5a>".toList [] (by decide) (by decide)
  have htags := hfonts.replaceChars "</font>".toList [] (by decide) (by decide)
  rw [postprocess_toList]
  exact htags.dropWhile.rdropWhile

/-- After post-processing a text, its string specifiers read objects, the others are as
they were, and none reads a C string. -/
structure FormatsConverted (items : List FormatItem) : Prop where
  converted : specifiers (postprocess (String.ofList (render items))) =
    some ((specifiersOf items).map Specifier.converted)
  noCString : ∀ specs, specifiers (postprocess (String.ofList (render items))) = some specs →
    ∀ spec ∈ specs, ¬ spec.ReadsCString

/-- No string specifier is for an argument after the first. -/
def OnlyFirstPosition (items : List FormatItem) : Prop :=
  ∀ position, .positional position .cString ∈ specifiersOf items → position.val = 1

/-- What is replaced is all that should be converted exactly if no string specifier names a
later argument. -/
theorem map_replacedFormats_eq_iff (items : List FormatItem) :
    (specifiersOf items).map Specifier.replacedFormats =
        (specifiersOf items).map Specifier.converted ↔ OnlyFirstPosition items := by
  simp only [List.map_inj_left, Specifier.replacedFormats_eq_converted_iff]
  constructor
  · exact fun h position hmem => h _ hmem position rfl
  · rintro h spec hmem position rfl
    exact h position hmem

/-- The specifiers of a post-processed text are computed, and compared with the converted
ones. -/
theorem formatsConverted_iff (items : List FormatItem) :
    FormatsConverted items ↔ OnlyFirstPosition items := by
  rw [← map_replacedFormats_eq_iff]
  constructor
  · intro h
    exact Option.some.inj ((specifiers_postprocess items).symm.trans h.converted)
  · intro h
    have hconverted := (specifiers_postprocess items).trans (congrArg some h)
    refine ⟨hconverted, fun specs hspecs spec hspec => ?_⟩
    obtain rfl := Option.some.inj (hconverted.symm.trans hspecs)
    obtain ⟨before, _, rfl⟩ := List.mem_map.mp hspec
    exact before.not_readsCString_converted

/-! ## The text around the specifiers -/

/-- Whether a word without percent signs stands at the front of a text does not depend on the
specifiers in it. -/
theorem prefix_render_map {f : Specifier → Specifier} {word : List Char} (hword : '%' ∉ word)
    (items : List FormatItem) :
    word <+: render (items.map (FormatItem.mapSpecifier f)) ↔ word <+: render items := by
  induction word generalizing items with
  | nil => exact iff_of_true List.nil_prefix List.nil_prefix
  | cons c word ih =>
      rw [List.mem_cons, not_or] at hword
      cases items with
      | nil => exact Iff.rfl
      | cons item items =>
          rw [List.map_cons]
          cases item with
          | ordinary d =>
              rw [FormatItem.mapSpecifier, render_ordinary, render_ordinary,
                List.cons_prefix_cons, List.cons_prefix_cons, ih hword.2]
          | specifier spec =>
              rw [FormatItem.mapSpecifier, render_specifier, render_specifier,
                List.cons_prefix_cons, List.cons_prefix_cons]
              exact iff_of_false (fun h => hword.1 h.1.symm) fun h => hword.1 h.1.symm

/-- Nor does it whether such a word follows a `%%`, if specifiers become `%%` only where they
were. -/
theorem followsPercent_map {f : Specifier → Specifier} {word : List Char} (hword : '%' ∉ word)
    (hf : ∀ spec, f spec = .percent ↔ spec = .percent) (items : List FormatItem) :
    FollowsPercent word (items.map (FormatItem.mapSpecifier f)) ↔ FollowsPercent word items := by
  induction items with
  | nil => exact Iff.rfl
  | cons item items ih =>
      have hitem : FormatItem.mapSpecifier f item = .specifier .percent ↔
          item = .specifier .percent := by
        cases item with
        | ordinary c => exact iff_of_false FormatItem.noConfusion FormatItem.noConfusion
        | specifier spec =>
            rw [FormatItem.mapSpecifier, FormatItem.specifier.injEq, FormatItem.specifier.injEq, hf]
      rw [List.map_cons, FollowsPercent, FollowsPercent, ih, hitem, prefix_render_map hword]

/-- Mapping the specifiers leaves the ordinary characters alone. -/
theorem countP_map_mapSpecifier (f : Specifier → Specifier) (items : List FormatItem) :
    (items.map (FormatItem.mapSpecifier f)).countP FormatItem.isLetterS =
      items.countP FormatItem.isLetterS := by
  rw [List.countP_map]
  apply List.countP_congr
  intro item _
  cases item <;> exact Iff.rfl

/-- The specifiers of the mapped items are the mapped specifiers, in their order. -/
theorem specifiersOf_map (f : Specifier → Specifier) (items : List FormatItem) :
    specifiersOf (items.map (FormatItem.mapSpecifier f)) = (specifiersOf items).map f := by
  induction items with
  | nil => rfl
  | cons item items ih =>
      cases item with
      | ordinary c => exact ih
      | specifier spec => exact congrArg (f spec :: ·) ih

/-- A specifier is one of the text if it is one of its items. -/
theorem mem_specifiersOf {spec : Specifier} {items : List FormatItem} :
    spec ∈ specifiersOf items ↔ .specifier spec ∈ items := by
  induction items with
  | nil => exact iff_of_false List.not_mem_nil List.not_mem_nil
  | cons item items ih =>
      cases item with
      | ordinary c => simp [ih]
      | specifier other => simp [ih]

/-- The replacement of `%s` neither makes a `%%` nor takes one away, so the second
replacement finds the same ones as the first. -/
theorem Specifier.replaced_eq_percent_iff (spec : Specifier) :
    replaced (next .cString) (next .object) spec = percent ↔ spec = percent := by
  unfold replaced
  split
  · next h => exact iff_of_false Specifier.noConfusion (h ▸ Specifier.noConfusion)
  · exact Iff.rfl

/-- Where no letters follow a `%%`, the two replacements are those of the specifiers, one
after the other on each of them. -/
theorem convertFormats_of_not_followsPercent {items : List FormatItem}
    (hplain : ¬ FollowsPercent "s".toList items) (hfirst : ¬ FollowsPercent "1$s".toList items) :
    convertFormats (render items) =
      render (items.map (FormatItem.mapSpecifier Specifier.replacedFormats)) := by
  have hfirst' :=
    mt (followsPercent_map (by decide) Specifier.replaced_eq_percent_iff items).mp hfirst
  have hcompose : FormatItem.mapSpecifier (Specifier.replaced (.positional firstPosition .cString)
        (.positional firstPosition .object)) ∘
      FormatItem.mapSpecifier (Specifier.replaced (.next .cString) (.next .object)) =
        FormatItem.mapSpecifier Specifier.replacedFormats := by
    funext item
    cases item <;> rfl
  have hletters : "s".toList = (Specifier.next .cString).body ∧
      "1$s".toList = (Specifier.positional firstPosition .cString).body := by decide
  rw [hletters.1] at hplain
  rw [hletters.2] at hfirst'
  rw [convertFormats_render, replaceSpecifier_of_not_followsPercent hplain,
    replaceSpecifier_of_not_followsPercent hfirst', List.map_map, hcompose]

/-- The same comparison on the items of the text, ordinary ones included. -/
theorem map_mapSpecifier_eq_iff {items : List FormatItem} :
    items.map (FormatItem.mapSpecifier Specifier.replacedFormats) =
        items.map (FormatItem.mapSpecifier Specifier.converted) ↔ OnlyFirstPosition items := by
  rw [← map_replacedFormats_eq_iff]
  constructor
  · intro h
    rw [← specifiersOf_map, h, specifiersOf_map]
  · intro h
    apply List.map_congr_left
    intro item hitem
    cases item with
    | ordinary c => rfl
    | specifier spec =>
        exact congrArg FormatItem.specifier
          (List.map_inj_left.mp h spec (mem_specifiersOf.mpr hitem))

/-- The two replacements write exactly the converted specifiers into the text where no string
specifier is for a later argument and no `%%` is followed by the letters of one. -/
theorem convertFormats_eq_iff (items : List FormatItem) :
    convertFormats (render items) =
        render (items.map (FormatItem.mapSpecifier Specifier.converted)) ↔
      OnlyFirstPosition items ∧ ¬ FollowsPercent "s".toList items ∧
        ¬ FollowsPercent "1$s".toList items := by
  have hletters : "s".toList = (Specifier.next .cString).body ∧
      "1$s".toList = (Specifier.positional firstPosition .cString).body := by decide
  constructor
  · intro h
    have hsame := render_injective (h.symm.trans (convertFormats_render items))
    -- No ordinary `s` is lost, so neither replacement meets its letters behind a `%%`.
    obtain ⟨hle, heq⟩ := @countP_replaceSpecifier (.next .cString) (.next .object)
      (by decide) (by decide) (by decide) (by decide) items 0
    obtain ⟨hle', heq'⟩ := @countP_replaceSpecifier (.positional firstPosition .cString)
      (.positional firstPosition .object) (by decide) (by decide) (by decide) (by decide)
      (replaceSpecifier (.next .cString) (.next .object) 0 items) 0
    rw [← hsame, countP_map_mapSpecifier] at hle' heq'
    rw [List.drop_zero] at hle heq hle' heq'
    have hplain := heq (Nat.le_antisymm hle hle')
    have hfirst := heq' (Nat.le_antisymm hle' hle)
    rw [replaceSpecifier_of_not_followsPercent hplain,
      followsPercent_map (by decide) Specifier.replaced_eq_percent_iff, ← hletters.2] at hfirst
    rw [← hletters.1] at hplain
    refine ⟨?_, hplain, hfirst⟩
    rw [← map_mapSpecifier_eq_iff]
    apply render_injective
    rw [← convertFormats_of_not_followsPercent hplain hfirst, h]
  · rintro ⟨honly, hplain, hfirst⟩
    rw [convertFormats_of_not_followsPercent hplain hfirst, map_mapSpecifier_eq_iff.mpr honly]

/-- **The formats of a text.**  Post-processing converts all its string specifiers, and
keeps the others, exactly when none of them is for an argument after the first; and the
text around them is left alone as well exactly when moreover no `%%` stands directly
before the letters of `%s` or `%1$s`. -/
theorem formats_converted_iff (items : List FormatItem) :
    (FormatsConverted items ↔ OnlyFirstPosition items) ∧
      (convertFormats (render items) =
          render (items.map (FormatItem.mapSpecifier Specifier.converted)) ↔
        OnlyFirstPosition items ∧ ¬ FollowsPercent "s".toList items ∧
          ¬ FollowsPercent "1$s".toList items) :=
  ⟨formatsConverted_iff items, convertFormats_eq_iff items⟩

/-- **The second argument.** `%2$s` stays a C string, so that not every text has its formats
converted. -/
theorem second_position_not_converted : ¬ ∀ items, FormatsConverted items := by
  intro hallConverted
  have hconverted := (hallConverted [.specifier (.positional ⟨2, by decide⟩ .cString)]).converted
  revert hconverted
  decide +kernel

/-- A `%%` before an ordinary `s`: the text changes. -/
example : postprocess "100%%s" = "100%%@" := by decide +kernel

namespace Resource

/-- `getTextFromKey(key:arguments:)`; `format` is `String(format:arguments:)`. -/
def getTextFromKey {Argument : Type} (format : String → List Argument → String)
    (resource : Resource) (key : Keys) (arguments : List Argument) : String :=
  match resource.keyToTextDictionary key with
  | none => ""
  | some result => format result arguments

/-- The text of an element is formatted as it was post-processed. -/
theorem getTextFromKey_parse_element {Argument : Type}
    (format : String → List Argument → String) {resource : Resource} (h : resource.Quiet)
    (element : StringElement) (arguments : List Argument) :
    (resource.parse element.events).getTextFromKey format element.key arguments =
      format (postprocess element.heard) arguments := by
  simp only [parse_element h, getTextFromKey, Function.update_self]

end Resource

end Localization
