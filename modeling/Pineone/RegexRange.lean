import Pineone.LeftmostMatches
import Pineone.SwiftText

/-!
# The range of a regular expression

The matches of a regular expression are searched in a range that counts UTF-16 units.
`getArrayAfterRegex` searches the whole text; `replaceRegex` gives the number of the text's
Characters as the length of its range.

* `regex_covers_iff`: for a text both see the same matches of every pattern exactly when
  each Character is one unit, and every style attribute of it is removed exactly when all
  of them end within as many units as there are Characters.
-/

namespace RegexRange

open Swift LeftmostMatches

/-- The UTF-16 units of a scalar. -/
def utf16 (c : Char) : List ℕ :=
  if c.toNat < 0x10000 then [c.toNat]
  else [0xD800 + (c.toNat - 0x10000) / 0x400, 0xDC00 + (c.toNat - 0x10000) % 0x400]

def units (text : String) : List ℕ := text.toList.flatMap utf16

/-- How a text is divided into its Characters, each of one or more scalars. -/
structure Characters where
  of : List Char → List (List Char)
  flatten_of : ∀ text, (of text).flatten = text
  ne_nil : ∀ {text}, ∀ character ∈ of text, character ≠ []

/-- `NSRegularExpression` without regard to case: the patterns it compiles, the matches it
finds in a window of units, and the units a template stands for at a match. -/
structure RegularExpressions where
  compiles : String → Bool
  find : String → List ℕ → List Range
  find_inside : ∀ {regex window}, ∀ r ∈ find regex window, r.location + r.length ≤ window.length
  expand : String → List ℕ → Range → List ℕ
  expand_empty : ∀ text r, expand "" text r = []

variable (engine : RegularExpressions) (characters : Characters)

/-- `text.count` -/
def count (text : String) : ℕ := (characters.of text.toList).length

/-- `NSRange(text.startIndex..., in: text)` -/
def wholeRange (text : String) : Range := ⟨0, (units text).length⟩

/-- `NSRange(location: 0, length: text.count)` -/
def countRange (text : String) : Range := ⟨0, count characters text⟩

/-- `regex.matches(in: text, range: range)` -/
def matchesIn (regex text : String) (range : Range) : List Range :=
  (engine.find regex (((units text).drop range.location).take range.length)).map fun r =>
    ⟨range.location + r.location, r.length⟩

/-- The Characters before and behind an offset in units, if it is the start of one. -/
def splitUnits : List (List Char) → ℕ → Option (List (List Char) × List (List Char))
  | characters, 0 => some ([], characters)
  | [], _ + 1 => none
  | character :: characters, n + 1 =>
      let width := (character.flatMap utf16).length
      if width ≤ n + 1 then
        (splitUnits characters (n + 1 - width)).map fun parts =>
          (character :: parts.1, parts.2)
      else none

/-- `text[Range(r, in: text)]`, if the range starts and ends between Characters. -/
def textIn (text : String) (r : Range) : Option String :=
  (splitUnits (characters.of text.toList) r.location).bind fun parts =>
    (splitUnits parts.2 r.length).map fun parts => String.ofList parts.1.flatten

def getArrayAfterRegex (text regex : String) : Result (List String) :=
  if engine.compiles regex then
    let results := matchesIn engine regex text (wholeRange text)
    results.mapM fun result => unwrap "Range($0.range, in: self)" (textIn characters text result)
  else .ok []

/-- The new text, in units. -/
def replaceRegex (text regex replaceString : String) : Option (List ℕ) :=
  if engine.compiles regex then
    let results := matchesIn engine regex text (countRange characters text)
    some (replaceRanges (engine.expand replaceString (units text)) 0 results (units text))
  else none

def styleRegex : String := " style[^>]*"

/-- What `getNoneStyleContents` hands on to be read as HTML. -/
def noneStyleText (contents : Option String) : Option (List ℕ) :=
  contents.bind fun contents => replaceRegex engine characters contents styleRegex ""

def getNoneStyleContents {AttributedString : Type}
    (htmlToAttributedString : List ℕ → Option AttributedString) (contents : Option String) :
    Option AttributedString :=
  (noneStyleText engine characters contents).bind htmlToAttributedString

/-- The matches that `getArrayAfterRegex` lists. -/
def listed (text regex : String) : List Range :=
  if engine.compiles regex then matchesIn engine regex text (wholeRange text) else []

/-- The matches that `replaceRegex` replaces. -/
def replaced (text regex : String) : List Range :=
  if engine.compiles regex then matchesIn engine regex text (countRange characters text) else []

/-- All matches are listed, and the same ones are replaced. -/
structure SameMatches (text regex : String) : Prop where
  lists : ∃ words, getArrayAfterRegex engine characters text regex = .ok words
  same : replaced engine characters text regex = listed engine text regex

/-- The end of a tag. -/
def isTagEnd (unit : ℕ) : Bool := unit == 0x3E

/-- The style attributes of a text: a spelling of the literal and all up to the tag's end. -/
def styles (heads : Heads ℕ isTagEnd) (text : List ℕ) : List Range :=
  find heads.matcher.toMatcher 0 0 text

section Widths

/-- A Character is at least one unit wide, so there are no more of them than units. Its width
is what the range of the source does not take into account. -/
theorem one_le_width {character : List Char} (hne : character ≠ []) :
    1 ≤ (character.flatMap utf16).length := by
  cases character with
  | nil => exact absurd rfl hne
  | cons c rest =>
      rw [List.flatMap_cons, List.length_append]
      have hone : 1 ≤ (utf16 c).length := by
        unfold utf16
        split <;> simp
      omega

/-- A character is one UTF-16 unit at least. -/
theorem length_le_units {cs : List (List Char)} (hne : ∀ character ∈ cs, character ≠ []) :
    cs.length ≤ (cs.flatten.flatMap utf16).length := by
  induction cs with
  | nil => exact Nat.le_refl _
  | cons character cs ih =>
      obtain ⟨hfirst, hrest⟩ := List.forall_mem_cons.mp hne
      have hwidth := one_le_width hfirst
      have hcount := ih hrest
      rw [List.flatten_cons, List.flatMap_append, List.length_append, List.length_cons]
      omega

/-- Where there are as many units as Characters, each is one unit wide: the widths sum up to
their number and none is less than one. -/
theorem width_eq_one {cs : List (List Char)} (hne : ∀ character ∈ cs, character ≠ [])
    (hlength : cs.length = (cs.flatten.flatMap utf16).length) :
    ∀ character ∈ cs, (character.flatMap utf16).length = 1 := by
  induction cs with
  | nil => exact nofun
  | cons character cs ih =>
      obtain ⟨hfirst, hrest⟩ := List.forall_mem_cons.mp hne
      have hwidth := one_le_width hfirst
      have hcount := length_le_units hrest
      rw [List.flatten_cons, List.flatMap_append, List.length_append, List.length_cons] at hlength
      refine List.forall_mem_cons.mpr ⟨by omega, ih hrest (by omega)⟩

/-- Then every offset is the start of a Character. -/
theorem splitUnits_of_width {cs : List (List Char)} {n : ℕ}
    (hwidth : ∀ character ∈ cs, (character.flatMap utf16).length = 1) (hn : n ≤ cs.length) :
    splitUnits cs n = some (cs.take n, cs.drop n) := by
  induction cs generalizing n with
  | nil =>
      obtain rfl := Nat.le_zero.mp hn
      rfl
  | cons character cs ih =>
      cases n with
      | zero => rfl
      | succ n =>
          obtain ⟨hfirst, hrest⟩ := List.forall_mem_cons.mp hwidth
          rw [List.length_cons] at hn
          rw [splitUnits, hfirst, if_pos (by omega), Nat.add_sub_cancel, ih hrest (by omega)]
          rfl

end Widths

variable {engine characters} {text regex : String}

/-- The units of a text are those of its characters, in turn. -/
theorem units_eq (characters : Characters) (text : String) :
    units text = (characters.of text.toList).flatten.flatMap utf16 := by
  rw [characters.flatten_of]
  rfl

/-- So a text has no more characters than units, and a range by the number of characters
never reaches past its end. -/
theorem count_le_units (characters : Characters) (text : String) :
    count characters text ≤ (units text).length := by
  rw [units_eq characters]
  exact length_le_units characters.ne_nil

/-- Searching a range from the start is searching the text that is cut off there. -/
theorem matchesIn_start (n : ℕ) :
    matchesIn engine regex text ⟨0, n⟩ = engine.find regex ((units text).take n) := by
  unfold matchesIn
  simp

/-- The matches that are listed are those of the whole text. -/
theorem listed_eq (hcompiles : engine.compiles regex = true) :
    listed engine text regex = engine.find regex (units text) := by
  rw [listed, if_pos hcompiles, wholeRange, matchesIn_start, List.take_length]

/-- Those that are replaced are the matches of the text cut off at the number of its
characters. -/
theorem replaced_eq (hcompiles : engine.compiles regex = true) :
    replaced engine characters text regex =
      engine.find regex ((units text).take (count characters text)) := by
  rw [replaced, if_pos hcompiles, countRange, matchesIn_start]

/-- Where each Character is one unit, every range inside the text is one of Characters, so
that the text of a match can be cut out. -/
theorem textIn_isSome (hcount : count characters text = (units text).length) {r : Range}
    (hr : r.location + r.length ≤ (units text).length) :
    (textIn characters text r).isSome = true := by
  have hwidth := width_eq_one characters.ne_nil
    (hcount.trans (congrArg List.length (units_eq characters text)))
  rw [← hcount, count] at hr
  unfold textIn
  rw [splitUnits_of_width hwidth (by omega), Option.bind_some, Option.isSome_map,
    splitUnits_of_width (fun character hmem => hwidth character (List.mem_of_mem_drop hmem))]
  · rfl
  · rw [List.length_drop]
    omega

/-- Where every character is one unit the two texts are the same. -/
theorem sameMatches_of_count (hcount : count characters text = (units text).length)
    (regex : String) : SameMatches engine characters text regex := by
  have hranges : countRange characters text = wholeRange text := by
    rw [countRange, hcount, wholeRange]
  refine ⟨?_, by rw [replaced, listed, hranges]⟩
  unfold getArrayAfterRegex
  split
  · refine ⟨_, Result.mapM_eq_ok (g := fun r => (textIn characters text r).getD "") ?_⟩
    intro r hr
    rw [wholeRange, matchesIn_start, List.take_length] at hr
    obtain ⟨word, hword⟩ := Option.isSome_iff_exists.mp
      (textIn_isSome hcount (engine.find_inside r hr))
    rw [hword]
    rfl
  · exact ⟨[], rfl⟩

/-- A pattern that matches every text as a whole sees the end of the range. So the two texts
agree for all patterns only if the range ends with the text. -/
theorem count_of_sameMatches (hcompiles : engine.compiles regex = true)
    (hwhole : ∀ window, window ≠ [] → engine.find regex window = [⟨0, window.length⟩])
    (h : SameMatches engine characters text regex) :
    count characters text = (units text).length := by
  have hle := count_le_units characters text
  by_cases hempty : units text = []
  · rw [hempty, List.length_nil] at hle ⊢
    omega
  · have hpos : 0 < count characters text := by
      apply List.length_pos_iff.mpr
      intro hnone
      rw [units_eq characters, hnone] at hempty
      exact hempty rfl
    have hlength : ((units text).take (count characters text)).length =
        count characters text := List.length_take_of_le hle
    have hwindow : (units text).take (count characters text) ≠ [] := by
      apply List.ne_nil_of_length_pos
      omega
    have hsame := h.same
    rw [replaced_eq hcompiles, listed_eq hcompiles, hwhole _ hwindow, hwhole _ hempty, hlength]
      at hsame
    exact congrArg Range.length (List.cons.inj hsame).1

/-- Style attributes inside of the range are replaced, those that reach beyond it are not.
The range is as many units long as the text has Characters. -/
theorem styles_replaced_iff {heads : Heads ℕ isTagEnd}
    (hcompiles : engine.compiles styleRegex = true)
    (hstyle : ∀ window, engine.find styleRegex window = styles heads window) :
    (∀ r ∈ listed engine text styleRegex, r ∈ replaced engine characters text styleRegex) ↔
      ∀ r ∈ styles heads (units text), r.location + r.length ≤ count characters text := by
  rw [listed_eq hcompiles, replaced_eq hcompiles, hstyle, hstyle]
  constructor
  · intro h r hr
    have hinside := (mem_find (h r hr)).2.2
    rw [List.length_take] at hinside
    omega
  · intro h r hr
    rw [styles, find_take]
    · exact hr
    · intro r hr
      have := h r hr
      omega

/-- Then no style attribute is left in the text handed on. -/
theorem styles_noneStyleText {heads : Heads ℕ isTagEnd}
    (hcompiles : engine.compiles styleRegex = true)
    (hstyle : ∀ window, engine.find styleRegex window = styles heads window)
    (h : ∀ r ∈ styles heads (units text), r.location + r.length ≤ count characters text) :
    ∃ fed, noneStyleText engine characters (some text) = some fed ∧ styles heads fed = [] := by
  have hresults : matchesIn engine styleRegex text (countRange characters text) =
      styles heads (units text) := by
    rw [countRange, matchesIn_start, hstyle, styles, find_take]
    · rfl
    · intro r hr
      have := h r hr
      omega
  refine ⟨outside heads.matcher.toMatcher 0 (units text), ?_, find_outside heads.matcher 0 0 _⟩
  show replaceRegex engine characters text styleRegex "" = _
  rw [replaceRegex, if_pos hcompiles, hresults,
    show engine.expand "" (units text) = fun _ => [] from funext (engine.expand_empty _)]
  exact congrArg some (replaceRanges_find heads.matcher.toMatcher 0 0 (units text))

/-- **Whether a replacement covers the whole text.**  Matches of every pattern are replaced
as they are listed exactly when each Character of the text is one UTF-16 unit; all style
attributes are replaced exactly when they end within as many units as there are Characters,
and then none is left in the text that is read as HTML. -/
theorem regex_covers_iff (engine : RegularExpressions) (characters : Characters)
    (heads : Heads ℕ isTagEnd)
    (hwhole : ∃ regex, engine.compiles regex = true ∧
      ∀ window, window ≠ [] → engine.find regex window = [⟨0, window.length⟩])
    (hcompiles : engine.compiles styleRegex = true)
    (hstyle : ∀ window, engine.find styleRegex window = styles heads window) (text : String) :
    ((∀ regex, SameMatches engine characters text regex) ↔
        count characters text = (units text).length) ∧
      ((∀ r ∈ listed engine text styleRegex, r ∈ replaced engine characters text styleRegex) ↔
        ∀ r ∈ styles heads (units text), r.location + r.length ≤ count characters text) ∧
      ((∀ r ∈ styles heads (units text), r.location + r.length ≤ count characters text) →
        ∃ fed, noneStyleText engine characters (some text) = some fed ∧
          styles heads fed = []) := by
  refine ⟨⟨fun h => ?_, sameMatches_of_count⟩, styles_replaced_iff hcompiles hstyle,
    styles_noneStyleText hcompiles hstyle⟩
  obtain ⟨regex, hregex, hfind⟩ := hwhole
  exact count_of_sameMatches hregex hfind (h regex)

section Sample

/-- Scalars as Characters; a carriage return and a line feed are one. -/
def sampleOf : List Char → List (List Char)
  | [] => []
  | '\r' :: '\n' :: text => ['\r', '\n'] :: sampleOf text
  | c :: text => [c] :: sampleOf text

def sampleCharacters : Characters where
  of := sampleOf
  flatten_of text := by
    fun_induction sampleOf text with
    | case1 => rfl
    | case2 text ih => rw [List.flatten_cons, ih]; rfl
    | case3 c text _ ih => rw [List.flatten_cons, ih]; rfl
  ne_nil {text} := by
    fun_induction sampleOf text with
    | case1 => exact nofun
    | case2 text ih => exact List.forall_mem_cons.mpr ⟨List.cons_ne_nil _ _, ih⟩
    | case3 c text _ ih => exact List.forall_mem_cons.mpr ⟨List.cons_ne_nil _ _, ih⟩

/-- The letters of the literal, in both cases. -/
def sampleSpellings : List (List ℕ) :=
  [[0x20], [0x73, 0x53], [0x74, 0x54], [0x79, 0x59], [0x6C, 0x4C], [0x65, 0x45]].foldr
    (fun letters words => letters.flatMap fun letter => words.map fun word => letter :: word) [[]]

/-- The spellings of the sample are of one length, so that none begins another one, and none
has the end of a tag in it. -/
theorem sampleSpellings_spec : sampleSpellings.all (fun h =>
    h.length == 6 && h.all fun u => !isTagEnd u) = true := by decide

def sampleHeads : Heads ℕ isTagEnd where
  spellings := sampleSpellings
  ne_nil h hmem hnil := by
    have hspec := List.all_eq_true.mp sampleSpellings_spec h hmem
    rw [hnil] at hspec
    cases hspec
  no_stop h hmem u hu := by
    have hspec := List.all_eq_true.mp sampleSpellings_spec h hmem
    rw [Bool.and_eq_true] at hspec
    simpa using List.all_eq_true.mp hspec.2 u hu
  prefix_free h hmem h' hmem' hbegins := by
    have hspec := List.all_eq_true.mp sampleSpellings_spec h hmem
    have hspec' := List.all_eq_true.mp sampleSpellings_spec h' hmem'
    rw [Bool.and_eq_true, beq_iff_eq] at hspec hspec'
    exact hbegins.eq_of_length (hspec.1.trans hspec'.1.symm)

/-- Two patterns: any text as a whole, and the style attributes. -/
def sampleFind (regex : String) (window : List ℕ) : List Range :=
  if regex = "[\\s\\S]+" then
    if window = [] then [] else [⟨0, window.length⟩]
  else if regex = styleRegex then styles sampleHeads window
  else []

def sampleEngine : RegularExpressions where
  compiles regex := regex == "[\\s\\S]+" || regex == styleRegex
  find := sampleFind
  find_inside {regex window} r hr := by
    unfold sampleFind at hr
    split at hr
    · split at hr
      · cases hr
      · obtain rfl := List.mem_singleton.mp hr
        exact Nat.le_of_eq (Nat.zero_add _)
    · split at hr
      · have hinside := (mem_find hr).2.2
        omega
      · cases hr
  expand replaceString _ _ := replaceString.toList.flatMap utf16
  expand_empty _ _ := rfl

/-- One empty style in a text of ASCII characters. -/
theorem regex_covers_iff_sample :
    ((∀ regex, SameMatches sampleEngine sampleCharacters "<p style=''>" regex) ↔
        count sampleCharacters "<p style=''>" = (units "<p style=''>").length) ∧
      ((∀ r ∈ listed sampleEngine "<p style=''>" styleRegex,
          r ∈ replaced sampleEngine sampleCharacters "<p style=''>" styleRegex) ↔
        ∀ r ∈ styles sampleHeads (units "<p style=''>"),
          r.location + r.length ≤ count sampleCharacters "<p style=''>") ∧
      ((∀ r ∈ styles sampleHeads (units "<p style=''>"),
          r.location + r.length ≤ count sampleCharacters "<p style=''>") →
        ∃ fed, noneStyleText sampleEngine sampleCharacters (some "<p style=''>") = some fed ∧
          styles sampleHeads fed = []) :=
  regex_covers_iff sampleEngine sampleCharacters sampleHeads
    ⟨"[\\s\\S]+", by decide, fun window hne => if_neg hne⟩ (by decide) (fun _ => rfl) _

/-- Two line ends before the tag move the range's end into the attribute: each is one
Character of two units. -/
theorem style_behind_line_ends :
    ¬ ∀ (engine : RegularExpressions) (characters : Characters) (text regex : String),
      SameMatches engine characters text regex := by
  intro h
  have hsame := (h sampleEngine sampleCharacters "\r\n\r\n<p style=''>" styleRegex).same
  have hlisted : listed sampleEngine "\r\n\r\n<p style=''>" styleRegex = [⟨6, 9⟩] := by
    decide +kernel
  have hreplaced : replaced sampleEngine sampleCharacters "\r\n\r\n<p style=''>" styleRegex =
      [⟨6, 8⟩] := by decide +kernel
  rw [hlisted, hreplaced] at hsame
  exact absurd hsame (by decide)

end Sample

end RegexRange
