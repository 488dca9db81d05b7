import Pineone.StringsParser
import Mathlib.Logic.Relation

/-!
# A text in pieces

The XML parser may deliver one text in any number of pieces, cut anywhere, also in
the middle of an escape or a format specifier.  The pieces are only appended, and a
text is post-processed when it is complete, so that the cuts make no difference
(`parse_rechunked`).
-/

namespace Localization

open Resource

/-- One text event is split into two. -/
inductive SplitsText : List XMLEvent → List XMLEvent → Prop
  | split (before after : List XMLEvent) (string rest : String) :
      SplitsText (before ++ .foundCharacters (string ++ rest) :: after)
        (before ++ .foundCharacters string :: .foundCharacters rest :: after)

/-- The same events but for the cuts of the texts: adjacent text events may be split
and merged, any number of times. -/
abbrev Rechunked : List XMLEvent → List XMLEvent → Prop := Relation.EqvGen SplitsText

/-- One text, delivered in any pieces. -/
theorem rechunked_pieces (first : String) (pieces : List String) :
    Rechunked [.foundCharacters (pieces.foldl (· ++ ·) first)]
      (.foundCharacters first :: pieces.map .foundCharacters) := by
  induction pieces generalizing first with
  | nil => exact .refl _
  | cons piece pieces ih =>
      apply Relation.EqvGen.trans _ _ _ (ih (first ++ piece))
      exact .rel _ _ (.split [] (pieces.map .foundCharacters) first piece)

namespace Resource

/-- **A text in two pieces.** -/
theorem foundCharacters_append (resource : Resource) (string rest : String) :
    resource.foundCharacters (string ++ rest) =
      (resource.foundCharacters string).foundCharacters rest := by
  obtain ⟨d, key⟩ := resource
  by_cases hkey : key = .trash
  · simp only [foundCharacters, if_pos hkey]
  · -- The first piece leaves a text, to which the second one is appended.
    have hrest : ∀ text, foundCharacters ⟨Function.update d key (some text), key⟩ rest =
        ⟨Function.update d key (some (text ++ rest)), key⟩ := by
      intro text
      rw [foundCharacters_of_text hkey (Function.update_self ..), Function.update_idem]
    cases htext : d key with
    | none =>
        have hfirst : ∀ text, foundCharacters ⟨d, key⟩ text =
            ⟨Function.update d key (some text), key⟩ := by
          intro text
          simp only [foundCharacters, if_neg hkey, htext]
          rfl
        rw [hfirst, hfirst, hrest]
    | some text =>
        rw [foundCharacters_of_text hkey htext, foundCharacters_of_text hkey htext, hrest,
          String.append_assoc]

/-- Cutting one text event in two gives the same resource: the parser appends both parts to
the text it collects, and looks at the text at the closing tag only. -/
theorem parse_of_splitsText {events events' : List XMLEvent} (h : SplitsText events events')
    (resource : Resource) : resource.parse events = resource.parse events' := by
  obtain ⟨before, after, string, rest⟩ := h
  simp only [parse_append, parse_cons, handle, foundCharacters_append]

/-- The resource does not depend on how the text between two tags is cut into events, by
induction on the rewriting of one list of events into the other. -/
theorem parse_eq_of_rechunked {events events' : List XMLEvent} (h : Rechunked events events')
    (resource : Resource) : resource.parse events = resource.parse events' := by
  induction h with
  | rel events events' h => exact parse_of_splitsText h resource
  | refl events => rfl
  | symm events events' _ ih => exact ih.symm
  | trans events events' events'' _ _ ih ih' => exact ih.trans ih'

/-- Nor does a language depend on how its file is delivered. -/
theorem setResourceDictionary_of_rechunked {bundle bundle' : String → Option (List XMLEvent)}
    (hbundle : ∀ name, Option.Rel Rechunked (bundle name) (bundle' name)) (languege : Int)
    (resource : Resource) :
    setResourceDictionary bundle languege resource =
      setResourceDictionary bundle' languege resource := by
  unfold setResourceDictionary
  cases Languege.ofRawValue languege with
  | none => rfl
  | some languege =>
      have hfile := hbundle languege.xmlFileName
      simp only
      generalize bundle languege.xmlFileName = events at hfile
      generalize bundle' languege.xmlFileName = events' at hfile
      cases hfile with
      | some h => exact parse_eq_of_rechunked h resource
      | none => rfl

/-- **The cuts of the texts make no difference** to the dictionary, whatever the
elements and their keys are. -/
theorem parse_rechunked {events events' : List XMLEvent} (h : Rechunked events events')
    (resource : Resource) :
    (resource.parse events).keyToTextDictionary =
      (resource.parse events').keyToTextDictionary := by
  rw [parse_eq_of_rechunked h]

/-- A format specifier in three pieces. -/
theorem parse_rechunked_until_format :
    Rechunked [.foundCharacters "%1$s까지"]
        [.foundCharacters "%", .foundCharacters "1$", .foundCharacters "s까지"] ∧
      (parse ⟨fun _ => some "", .until_format⟩
          [.foundCharacters "%1$s까지"]).keyToTextDictionary =
        (parse ⟨fun _ => some "", .until_format⟩ [.foundCharacters "%", .foundCharacters "1$",
          .foundCharacters "s까지"]).keyToTextDictionary :=
  ⟨rechunked_pieces "%" ["1$", "s까지"],
    parse_rechunked (rechunked_pieces "%" ["1$", "s까지"]) _⟩

end Resource

end Localization
