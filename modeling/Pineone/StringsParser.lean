import Pineone.StringsKeys
import Pineone.Dictionaries
import Pineone.SwiftText

/-!
# Parsing a strings file

`Resource` is the delegate of the XML parser: it keeps one dictionary of texts
and the key whose text is being read.  A closing tag, of whatever element, ends
that text: it is post-processed and the key goes back to `trash`.

A strings file (`ResourceFile`) is a root element with one element for each
text, whose content is text and nested `<u>` elements.  `parse_file` says what
parsing it writes: for each element, the text *heard* of it, which ends with the
first closing `</u>`.
-/

namespace Localization

open Swift Dictionaries

/-! ## The delegate -/

/-- The calls of the parser; of the attributes only `name` is read. -/
inductive XMLEvent
  | didStartElement (elementName : String) (name : Option String)
  | foundCharacters (string : String)
  | didEndElement (elementName : String)
  deriving DecidableEq, Repr

inductive Languege
  | korea
  | thailand
  deriving DecidableEq, Repr

def Languege.rawValue : Languege → Int
  | .korea => 0
  | .thailand => 1

/-- `Languege(rawValue:)` -/
def Languege.ofRawValue (rawValue : Int) : Option Languege :=
  if rawValue = 0 then some .korea
  else if rawValue = 1 then some .thailand
  else none

def Languege.xmlFileName : Languege → String
  | .korea => "strings_kr"
  | .thailand => "strings_th"

/-- The processing of a complete text in `didEndElement`. -/
def postprocess (string : String) : String :=
  string
    |> replacingOccurrences "\\n" "\n"
    |> replacingOccurrences "\\'" "'"
    |> replacingOccurrences "%s" "%@"
    |> replacingOccurrences "%1$s" "%1$@"
    |> replacingOccurrences "<br>" "\n"
    |> replacingOccurrences "<font color=#e83c5a>" ""
    |> replacingOccurrences "</font>" ""
    |> trimmingWhitespacesAndNewlines

/-- White space at the end of a text leaves no trace: no target of the replacements ends in
white space, and what is left of it is trimmed. -/
theorem postprocess_append {rest : String}
    (hblank : rest.toList.all isWhitespaceOrNewline = true) (text : String) :
    postprocess (text ++ rest) = postprocess text := by
  have hkeep : ∀ (target replacement : String) (last : Char),
      target.toList.getLast? = some last → isWhitespaceOrNewline last = false →
      ∀ string, replacingOccurrences target replacement (string ++ rest) =
        replacingOccurrences target replacement string ++ rest := by
    intro target replacement last htarget hlast string
    refine replacingOccurrences_append htarget (fun hmem => ?_) replacement string
    rw [List.all_eq_true.mp hblank last hmem] at hlast
    cases hlast
  unfold postprocess
  rw [hkeep "\\n" "\n" 'n' (by decide) (by decide), hkeep "\\'" "'" '\'' (by decide) (by decide),
    hkeep "%s" "%@" 's' (by decide) (by decide), hkeep "%1$s" "%1$@" 's' (by decide) (by decide),
    hkeep "<br>" "\n" '>' (by decide) (by decide),
    hkeep "<font color=#e83c5a>" "" '>' (by decide) (by decide),
    hkeep "</font>" "" '>' (by decide) (by decide), trimmingWhitespacesAndNewlines_append hblank]

/-- The resource of the program is `Resource.shared`: it is the delegate of the parser, so
that the `self` of the delegate's methods and the `Resource.shared` they write to are one
object. -/
structure Resource where
  keyToTextDictionary : Keys → Option String := fun _ => none
  dictionaryKey : Keys := .trash

namespace Resource

/-- The key an element's `name` attribute stands for. -/
def keyOfName (name : Option String) : Keys :=
  (Keys.ofRawValue (name.getD "trash")).getD .trash

def didStartElement (resource : Resource) (elementName : String)
    (name : Option String) : Resource :=
  if elementName = "u" then resource
  else
    { keyToTextDictionary :=
        Function.update resource.keyToTextDictionary (keyOfName name) (some "")
      dictionaryKey := keyOfName name }

/-- `keyToTextDictionary[dictionaryKey] = text` -/
def setText (resource : Resource) (text : String) : Resource :=
  { resource with
    keyToTextDictionary :=
      Function.update resource.keyToTextDictionary resource.dictionaryKey (some text) }

def foundCharacters (resource : Resource) (string : String) : Resource :=
  if resource.dictionaryKey = .trash then resource
  else
    match resource.keyToTextDictionary resource.dictionaryKey with
    | some targetValue => resource.setText (targetValue ++ string)
    | none => resource.setText string

/-- The name of the closed element is not looked at. -/
def didEndElement (resource : Resource) : Resource :=
  match resource.keyToTextDictionary resource.dictionaryKey with
  | none => resource
  | some string => { resource.setText (postprocess string) with dictionaryKey := .trash }

def handle (resource : Resource) : XMLEvent → Resource
  | .didStartElement elementName name => resource.didStartElement elementName name
  | .foundCharacters string => resource.foundCharacters string
  | .didEndElement _ => resource.didEndElement

/-- `parser.parse()` -/
def parse (resource : Resource) (events : List XMLEvent) : Resource :=
  events.foldl handle resource

/-- `setResourceDictionary()` for the stored language number, over the files of
the bundle. -/
def setResourceDictionary (bundle : String → Option (List XMLEvent)) (languege : Int)
    (resource : Resource) : Resource :=
  match Languege.ofRawValue languege with
  | none => resource
  | some languege =>
      match bundle languege.xmlFileName with
      | none => resource
      | some events => resource.parse events

@[simp] theorem parse_nil (resource : Resource) : resource.parse [] = resource := rfl

@[simp] theorem parse_cons (resource : Resource) (event : XMLEvent) (events : List XMLEvent) :
    resource.parse (event :: events) = (resource.handle event).parse events := rfl

@[simp] theorem parse_append (resource : Resource) (events events' : List XMLEvent) :
    resource.parse (events ++ events') = (resource.parse events).parse events' :=
  List.foldl_append

end Resource

/-! ## Strings files -/

/-- What stands in a string element: text and nested `<u>` elements. -/
inductive Content
  | nil
  | text (string : String) (rest : Content)
  | u (inner rest : Content)
  deriving DecidableEq, Repr

namespace Content

def events : Content → List XMLEvent
  | nil => []
  | text string rest => .foundCharacters string :: rest.events
  | u inner rest =>
      .didStartElement "u" none :: inner.events ++ .didEndElement "u" :: rest.events

/-- All the text, that of nested elements included. -/
def allText : Content → String
  | nil => ""
  | text string rest => string ++ rest.allText
  | u inner rest => inner.allText ++ rest.allText

/-- The content closes a `<u>` somewhere. -/
def closesU : Content → Bool
  | nil => false
  | text _ rest => rest.closesU
  | u _ _ => true

/-- The text up to the first closing `</u>`, or all of it. -/
def heard : Content → String
  | nil => ""
  | text string rest => string ++ rest.heard
  | u inner _ => inner.heard

/-- The text after the first closing `</u>`. -/
def unheard : Content → String
  | nil => ""
  | text _ rest => rest.unheard
  | u inner rest => inner.unheard ++ rest.allText

/-- The text up to the first closing `</u>` and the text behind it are the whole text, in
that order. -/
theorem heard_append_unheard (content : Content) :
    content.heard ++ content.unheard = content.allText := by
  induction content with
  | nil => rfl
  | text string rest ih => rw [heard, unheard, allText, String.append_assoc, ih]
  | u inner rest ihinner _ => rw [heard, unheard, allText, ← String.append_assoc, ihinner]

end Content

structure StringElement where
  name : Option String
  content : Content
  deriving DecidableEq, Repr

namespace StringElement

def key (element : StringElement) : Keys := Resource.keyOfName element.name

def events (element : StringElement) : List XMLEvent :=
  .didStartElement "string" element.name :: element.content.events ++ [.didEndElement "string"]

/-- The text the delegate takes for the element: nothing for a `trash` key. -/
def heard (element : StringElement) : String :=
  if element.key = .trash then "" else element.content.heard

/-- The text of the element that the delegate does not take. -/
def unheard (element : StringElement) : String :=
  if element.key = .trash then element.content.allText else element.content.unheard

/-- For an element without a key nothing is heard, and for any other one the same as for its
content. -/
theorem heard_append_unheard (element : StringElement) :
    element.heard ++ element.unheard = element.content.allText := by
  unfold heard unheard
  split
  · exact String.empty_append
  · exact element.content.heard_append_unheard

end StringElement

/-- A strings file: text before the first element, and after each element. -/
structure ResourceFile where
  opening : List String := []
  elements : List (StringElement × List String)
  deriving DecidableEq, Repr

namespace ResourceFile

def events (file : ResourceFile) : List XMLEvent :=
  .didStartElement "resources" none :: file.opening.map .foundCharacters ++
    file.elements.flatMap (fun p => p.1.events ++ p.2.map .foundCharacters) ++
    [.didEndElement "resources"]

/-- The entries that parsing the file writes. -/
def entries (file : ResourceFile) : List (Keys × String) :=
  (.trash, "") :: file.elements.map fun p => (p.1.key, postprocess p.1.heard)

end ResourceFile

/-! ## What parsing a file writes -/

namespace Resource

/-- Between two elements the current key is `trash`, with the empty text. -/
structure Quiet (resource : Resource) : Prop where
  key : resource.dictionaryKey = .trash
  text : resource.keyToTextDictionary .trash = some ""

/-- Nothing is made of no text. -/
theorem postprocess_empty : postprocess "" = "" := by decide

variable {resource : Resource}

/-- Between elements text is passed over. -/
theorem Quiet.foundCharacters (h : resource.Quiet) (string : String) :
    resource.foundCharacters string = resource := by
  rw [Resource.foundCharacters, if_pos h.key]

/-- A closing tag there post-processes the empty text of `trash`, and so changes nothing. -/
theorem Quiet.didEndElement (h : resource.Quiet) : resource.didEndElement = resource := by
  obtain ⟨dictionary, key⟩ := resource
  obtain ⟨rfl, htext⟩ := h
  have htrash : dictionary .trash = some "" := htext
  simp only [Resource.didEndElement, setText, htrash, postprocess_empty]
  rw [← htrash, Function.update_eq_self]

/-- A quiet resource is known by its dictionary. -/
theorem Quiet.eq_mk (h : resource.Quiet) {d : Keys → Option String}
    (hd : resource.keyToTextDictionary = d) : resource = ⟨d, .trash⟩ := by
  rw [← hd, ← h.key]

/-- Text between the elements is not heard. -/
theorem Quiet.parse_gap (h : resource.Quiet) (gap : List String) :
    resource.parse (gap.map .foundCharacters) = resource := by
  induction gap with
  | nil => rfl
  | cons string gap ih =>
      rw [List.map_cons, parse_cons, handle, h.foundCharacters, ih]

/-- Nor is the content of an element whose text has ended. -/
theorem Quiet.parse_content (h : resource.Quiet) (content : Content) :
    resource.parse content.events = resource := by
  induction content with
  | nil => rfl
  | text string rest ih =>
      rw [Content.events, parse_cons, handle, h.foundCharacters, ih]
  | u inner rest ihinner ihrest =>
      have hstart : resource.handle (.didStartElement "u" none) = resource := rfl
      rw [Content.events, List.cons_append, parse_cons, hstart, parse_append, ihinner,
        parse_cons, handle, h.didEndElement, ihrest]

variable {d : Keys → Option String} {key : Keys} {text : String}

/-- Writing the text of a proper key leaves the empty text of `trash`. -/
theorem quiet_update (hkey : key ≠ .trash) (htrash : d .trash = some "") :
    Quiet ⟨Function.update d key (some text), .trash⟩ where
  key := rfl
  text := by
    show Function.update d key (some text) .trash = some ""
    rw [Function.update_of_ne hkey.symm, htrash]

/-- Opening an element without a key leaves the empty text of `trash`. -/
theorem quiet_trash (d : Keys → Option String) :
    Quiet ⟨Function.update d .trash (some ""), .trash⟩ where
  key := rfl
  text := by
    show Function.update d .trash (some "") .trash = some ""
    rw [Function.update_self]

/-- Inside an element with a key text is appended to what was found of it before. -/
theorem foundCharacters_of_text (hkey : key ≠ .trash) (htext : d key = some text)
    (string : String) :
    foundCharacters ⟨d, key⟩ string =
      ⟨Function.update d key (some (text ++ string)), key⟩ := by
  simp only [foundCharacters, if_neg hkey, htext]
  rfl

/-- The closing tag post-processes that text and ends it. -/
theorem didEndElement_of_text (htext : d key = some text) :
    didEndElement ⟨d, key⟩ =
      ⟨Function.update d key (some (postprocess text)), .trash⟩ := by
  simp only [didEndElement, htext]
  rfl

/-- **The content of an element.**  Text is appended until the first closing
`</u>`, which ends the text of the element; the rest is not heard. -/
theorem parse_content (hkey : key ≠ .trash) (htext : d key = some text)
    (htrash : d .trash = some "") (content : Content) :
    parse ⟨d, key⟩ content.events =
      if content.closesU then
        ⟨Function.update d key (some (postprocess (text ++ content.heard))), .trash⟩
      else ⟨Function.update d key (some (text ++ content.heard)), key⟩ := by
  induction content generalizing d text with
  | nil =>
      have hsame : Function.update d key (some (text ++ "")) = d := by
        rw [String.append_empty, ← htext, Function.update_eq_self]
      rw [Content.closesU, Content.heard, hsame]
      rfl
  | text string rest ih =>
      have htext' : Function.update d key (some (text ++ string)) key =
          some (text ++ string) := Function.update_self ..
      have htrash' : Function.update d key (some (text ++ string)) .trash = some "" := by
        rw [Function.update_of_ne hkey.symm, htrash]
      rw [Content.events, parse_cons, handle, foundCharacters_of_text hkey htext,
        ih htext' htrash', Content.closesU, Content.heard, String.append_assoc]
      simp only [Function.update_idem]
  | u inner rest ihinner _ =>
      have hstart : handle ⟨d, key⟩ (.didStartElement "u" none) = ⟨d, key⟩ := rfl
      rw [Content.events, List.cons_append, parse_cons, hstart, parse_append,
        ihinner htext htrash, Content.closesU, Content.heard, if_pos rfl, parse_cons, handle]
      have hquiet : Quiet ⟨Function.update d key (some (postprocess (text ++ inner.heard))),
          .trash⟩ := quiet_update hkey htrash
      by_cases hu : inner.closesU
      · rw [if_pos hu, hquiet.didEndElement, hquiet.parse_content]
      · have hinner : Function.update d key (some (text ++ inner.heard)) key =
            some (text ++ inner.heard) := Function.update_self ..
        rw [if_neg hu, didEndElement_of_text hinner, Function.update_idem,
          hquiet.parse_content]

/-- **One element** writes the post-processed text heard of it. What comes behind a nested
element is not heard, as its closing tag has ended the text. -/
theorem parse_element (h : resource.Quiet) (element : StringElement) :
    resource.parse element.events =
      ⟨Function.update resource.keyToTextDictionary element.key
        (some (postprocess element.heard)), .trash⟩ := by
  obtain ⟨d, current⟩ := resource
  obtain ⟨rfl, htrash⟩ := h
  have htrash : d .trash = some "" := htrash
  have hstart : handle ⟨d, .trash⟩ (.didStartElement "string" element.name) =
      ⟨Function.update d element.key (some ""), element.key⟩ := rfl
  have hempty : Function.update d element.key (some "") element.key = some "" :=
    Function.update_self ..
  rw [StringElement.events, List.cons_append, parse_cons, hstart, parse_append, parse_cons,
    parse_nil, handle]
  by_cases hkey : element.key = .trash
  · have hquiet := quiet_trash d
    rw [StringElement.heard, if_pos hkey, hkey, hquiet.parse_content, hquiet.didEndElement,
      postprocess_empty]
  · have htrash' : Function.update d element.key (some "") .trash = some "" := by
      rw [Function.update_of_ne (Ne.symm hkey), htrash]
    rw [StringElement.heard, if_neg hkey, parse_content hkey hempty htrash',
      Function.update_idem, Function.update_idem, String.empty_append]
    by_cases hu : element.content.closesU
    · rw [if_pos hu, (quiet_update hkey htrash).didEndElement]
    · have hheard : Function.update d element.key (some element.content.heard) element.key =
          some element.content.heard := Function.update_self ..
      rw [if_neg hu, didEndElement_of_text hheard, Function.update_idem]

/-- The elements of a file, with the text after each, are written in turn, by induction on
the list. Between two of them the parser is quiet. -/
theorem parse_elements (h : resource.Quiet) (elements : List (StringElement × List String)) :
    (resource.parse (elements.flatMap fun p => p.1.events ++ p.2.map .foundCharacters)).Quiet ∧
      (resource.parse (elements.flatMap fun p =>
          p.1.events ++ p.2.map .foundCharacters)).keyToTextDictionary =
        writeAll (elements.map fun p => (p.1.key, postprocess p.1.heard))
          resource.keyToTextDictionary := by
  induction elements generalizing resource with
  | nil => exact ⟨h, rfl⟩
  | cons p elements ih =>
      have hquiet : Quiet ⟨Function.update resource.keyToTextDictionary p.1.key
          (some (postprocess p.1.heard)), .trash⟩ := by
        by_cases hkey : p.1.key = .trash
        · rw [StringElement.heard, if_pos hkey, hkey, postprocess_empty]
          exact quiet_trash _
        · exact quiet_update hkey h.text
      rw [List.flatMap_cons, parse_append, parse_append, parse_element h, hquiet.parse_gap,
        List.map_cons, writeAll_cons]
      exact ih hquiet

/-- **What parsing a file writes**: the entries of its elements, one after the other. A later
entry of the same key replaces an earlier one. -/
theorem parse_file (resource : Resource) (file : ResourceFile) :
    resource.parse file.events =
      ⟨writeAll file.entries resource.keyToTextDictionary, .trash⟩ := by
  have hstart : resource.handle (.didStartElement "resources" none) =
      ⟨Function.update resource.keyToTextDictionary .trash (some ""), .trash⟩ := rfl
  have hquiet := quiet_trash resource.keyToTextDictionary
  obtain ⟨hend, hentries⟩ := parse_elements hquiet file.elements
  rw [ResourceFile.events, List.cons_append, List.cons_append, parse_cons, hstart,
    parse_append, parse_append, hquiet.parse_gap, parse_cons, parse_nil, handle,
    hend.didEndElement, ResourceFile.entries, writeAll_cons]
  exact hend.eq_mk hentries

end Resource

end Localization
