import Pineone.StringsParser

/-!
# The dictionary after loading strings files

Loading a file writes its entries into the one dictionary and removes nothing.
Two questions about the result:

* is the entry of an element its whole text?  Exactly when what follows the
  first closing `</u>` adds nothing to it (`texts_complete_iff`), so at least when
  that is blank (`textsComplete_of_blank_unheard`);
* does a language leave a trace of those before it?  Exactly when an earlier
  file defines a key that the last one does not (`language_switch_iff`).
-/

namespace Localization

open Swift Dictionaries Resource

/-- The resource files of the bundle as the events the parser delivers. -/
def bundleEvents (bundle : String → Option ResourceFile) (name : String) :
    Option (List XMLEvent) :=
  (bundle name).map ResourceFile.events

/-- The stored number of a language is read as that language again. -/
theorem ofRawValue_rawValue (languege : Languege) :
    Languege.ofRawValue languege.rawValue = some languege := by
  cases languege <;> rfl

/-- Loading a language whose file is there: the entries of the file are written over those
that the dictionary has. -/
theorem setResourceDictionary_file {bundle : String → Option ResourceFile}
    {languege : Languege} {file : ResourceFile}
    (hfile : bundle languege.xmlFileName = some file) (resource : Resource) :
    (setResourceDictionary (bundleEvents bundle) languege.rawValue
        resource).keyToTextDictionary =
      writeAll file.entries resource.keyToTextDictionary := by
  simp only [setResourceDictionary, ofRawValue_rawValue, bundleEvents, hfile, Option.map_some,
    parse_file]

/-- Loading a language whose file is missing. Nothing is parsed, and the texts of the
language before stay. -/
theorem setResourceDictionary_missing {bundle : String → Option ResourceFile}
    {languege : Languege} (hfile : bundle languege.xmlFileName = none) (resource : Resource) :
    setResourceDictionary (bundleEvents bundle) languege.rawValue resource = resource := by
  simp only [setResourceDictionary, ofRawValue_rawValue, bundleEvents, hfile, Option.map_none]

/-! ## Whole texts -/

/-- A strings file whose elements carry different names of `Keys`. -/
structure ProperlyNamed (file : ResourceFile) : Prop where
  named : ∀ p ∈ file.elements, ∃ name key, p.1.name = some name ∧
    Keys.ofRawValue name = some key
  distinct : (file.elements.map fun p => p.1.name).Nodup

/-- After loading, the entry of each element is its whole text, post-processed
once, and no other key has received any text. -/
structure TextsComplete (file : ResourceFile) (before after : Resource) : Prop where
  entry : ∀ p ∈ file.elements,
    after.keyToTextDictionary p.1.key = some (postprocess p.1.content.allText)
  others : ∀ key, key ≠ .trash → (∀ p ∈ file.elements, p.1.key ≠ key) →
    after.keyToTextDictionary key = before.keyToTextDictionary key

/-- An element whose name is that of a key is written under that key. -/
theorem keyOfName_of_ofRawValue {name : String} {key : Keys}
    (h : Keys.ofRawValue name = some key) : keyOfName (some name) = key := by
  simp [keyOfName, h]

/-- Different names give the elements different keys. An element without a name of its own
would be written under the key for trash. -/
theorem ProperlyNamed.nodup_keys {file : ResourceFile} (h : ProperlyNamed file) :
    (file.elements.map fun p => p.1.key).Nodup := by
  have hnames := h.distinct
  rw [List.Nodup, List.pairwise_map] at hnames ⊢
  refine hnames.imp_of_mem fun {p q} hp hq hne hkeys => hne ?_
  obtain ⟨name, key, hname, hkey⟩ := h.named p hp
  obtain ⟨name', key', hname', hkey'⟩ := h.named q hq
  have hsame : key = key' := by
    rw [StringElement.key, StringElement.key, hname, hname', keyOfName_of_ofRawValue hkey,
      keyOfName_of_ofRawValue hkey'] at hkeys
    exact hkeys
  rw [hname, hname', Keys.ofRawValue_inj hkey (hsame ▸ hkey')]

/-- The entry an element gets: what its parser has heard, after the replacements. No other
element of the file has its key. -/
theorem entry_of_element {file : ResourceFile} (h : ProperlyNamed file)
    (d : Keys → Option String) {p : StringElement × List String} (hp : p ∈ file.elements) :
    writeAll file.entries d p.1.key = some (postprocess p.1.heard) := by
  have hkeys : ((file.elements.map fun p => (p.1.key, postprocess p.1.heard)).map
      Prod.fst).Nodup := by
    rw [List.map_map]
    exact h.nodup_keys
  rw [ResourceFile.entries, writeAll_cons]
  exact writeAll_of_nodup hkeys _
    (List.mem_map_of_mem (f := fun p : StringElement × List String =>
      (p.1.key, postprocess p.1.heard)) hp)

/-- In every element of the file, the text that follows the first closing `</u>` adds
nothing, once post-processed, to the text before it. -/
def UnheardAddsNothing (file : ResourceFile) : Prop :=
  ∀ p ∈ file.elements, postprocess (p.1.heard ++ p.1.unheard) = postprocess p.1.heard

/-- Then the entries that the file writes are the whole texts, and it writes no others, for
each text is the one heard with nothing added. -/
theorem UnheardAddsNothing.textsComplete {bundle : String → Option ResourceFile}
    {languege : Languege} {file : ResourceFile} (hheard : UnheardAddsNothing file)
    (hfile : bundle languege.xmlFileName = some file) (hnamed : ProperlyNamed file)
    (resource : Resource) :
    TextsComplete file resource
      (setResourceDictionary (bundleEvents bundle) languege.rawValue resource) := by
  have hdictionary := setResourceDictionary_file hfile resource
  constructor
  · intro p hp
    rw [hdictionary, entry_of_element hnamed _ hp, ← hheard p hp, p.1.heard_append_unheard]
  · intro key hkey hother
    rw [hdictionary]
    refine writeAll_of_not_mem (fun entry hentry => ?_) _
    rcases List.mem_cons.mp hentry with rfl | hmem
    · exact hkey.symm
    · obtain ⟨p, hp, rfl⟩ := List.mem_map.mp hmem
      exact hother p hp

/-- **Whole texts.**  Loading a properly named strings file gives each key the
post-processed text of its element exactly when, in every element, the text that
follows the first closing `</u>` adds nothing to the text before it. -/
theorem texts_complete_iff {bundle : String → Option ResourceFile} {languege : Languege}
    {file : ResourceFile} (hfile : bundle languege.xmlFileName = some file)
    (hnamed : ProperlyNamed file) (resource : Resource) :
    TextsComplete file resource
        (setResourceDictionary (bundleEvents bundle) languege.rawValue resource) ↔
      UnheardAddsNothing file := by
  have hdictionary := setResourceDictionary_file hfile resource
  constructor
  · intro hcomplete p hp
    have hentry := hcomplete.entry p hp
    rw [hdictionary, entry_of_element hnamed _ hp] at hentry
    rw [p.1.heard_append_unheard]
    exact (Option.some.inj hentry).symm
  · intro hheard
    exact hheard.textsComplete hfile hnamed resource

/-- **Nothing to be seen after `</u>`.**  A properly named file, in whose elements nothing
but white space follows the first closing `</u>`, is loaded with whole texts. -/
theorem textsComplete_of_blank_unheard {bundle : String → Option ResourceFile}
    {languege : Languege} {file : ResourceFile}
    (hfile : bundle languege.xmlFileName = some file) (hnamed : ProperlyNamed file)
    (hblank : ∀ p ∈ file.elements, p.1.unheard.toList.all isWhitespaceOrNewline = true)
    (resource : Resource) :
    TextsComplete file resource
      (setResourceDictionary (bundleEvents bundle) languege.rawValue resource) := by
  have hheard : UnheardAddsNothing file := fun p hp => postprocess_append (hblank p hp) p.1.heard
  exact hheard.textsComplete hfile hnamed resource

/-- The shipped entry with a nested element: nothing follows its `</u>`. -/
def seeUnderline (rest : Content) : ResourceFile where
  elements := [(⟨some "see_underline", .u (.text "보기" .nil) rest⟩, ["\n"])]

/-- One element with a name of `Keys`, whatever follows the nested one in it. -/
theorem properlyNamed_seeUnderline (rest : Content) : ProperlyNamed (seeUnderline rest) where
  named := by
    intro p hp
    obtain rfl := List.mem_singleton.mp hp
    exact ⟨"see_underline", .see_underline, rfl, by decide⟩
  distinct := List.pairwise_singleton _ _

/-- The file as it is shipped, with nothing behind the nested element. So its text is
complete, though the same element with a word behind it would lose that. -/
theorem texts_complete_iff_see_underline :
    TextsComplete (seeUnderline .nil) {}
        (setResourceDictionary (bundleEvents fun _ => some (seeUnderline .nil))
          Languege.korea.rawValue {}) ↔
      UnheardAddsNothing (seeUnderline .nil) :=
  texts_complete_iff rfl (properlyNamed_seeUnderline .nil) {}

/-- **Text after a nested element is lost.** The closing tag of the nested element ends the
text, and what comes then is heard for no key. -/
theorem text_after_u_is_lost :
    ¬ ∀ (bundle : String → Option ResourceFile) (languege : Languege) (file : ResourceFile)
        (resource : Resource),
      bundle languege.xmlFileName = some file → ProperlyNamed file →
      TextsComplete file resource
        (setResourceDictionary (bundleEvents bundle) languege.rawValue resource) := by
  intro hwhole
  have hcomplete := hwhole (fun _ => some (seeUnderline (.text " 안내" .nil))) .korea _ {} rfl
    (properlyNamed_seeUnderline _)
  have hentry := hcomplete.entry _ List.mem_cons_self
  revert hentry
  decide

/-! ## Switching languages -/

/-- `setResourceDictionary()` for the languages in turn. -/
def switchTo (bundle : String → Option ResourceFile) (langueges : List Languege)
    (resource : Resource) : Resource :=
  langueges.foldl (fun resource languege =>
    setResourceDictionary (bundleEvents bundle) languege.rawValue resource) resource

/-- The file of the language is there and writes an entry for the key. -/
def Defines (bundle : String → Option ResourceFile) (languege : Languege) (key : Keys) :
    Prop :=
  ∃ file, bundle languege.xmlFileName = some file ∧ ∃ entry ∈ file.entries, entry.1 = key

section

variable {bundle : String → Option ResourceFile} {languege : Languege} {key : Keys}

/-- A key the file defines gets a text that does not depend on what was there. It is the last
one the file writes under the key. -/
theorem entry_of_defines (h : Defines bundle languege key) (resource resource' : Resource) :
    (setResourceDictionary (bundleEvents bundle) languege.rawValue
        resource).keyToTextDictionary key =
      (setResourceDictionary (bundleEvents bundle) languege.rawValue
        resource').keyToTextDictionary key ∧
    ((setResourceDictionary (bundleEvents bundle) languege.rawValue
        resource).keyToTextDictionary key).isSome = true := by
  obtain ⟨file, hfile, entry, hentry, rfl⟩ := h
  rw [setResourceDictionary_file hfile, setResourceDictionary_file hfile]
  exact writeAll_congr hentry _ _

/-- A key the file does not define keeps the text it had, since nothing empties the
dictionary between two files. -/
theorem entry_of_not_defines (h : ¬ Defines bundle languege key) (resource : Resource) :
    (setResourceDictionary (bundleEvents bundle) languege.rawValue
        resource).keyToTextDictionary key = resource.keyToTextDictionary key := by
  cases hfile : bundle languege.xmlFileName with
  | none => rw [setResourceDictionary_missing hfile]
  | some file =>
      rw [setResourceDictionary_file hfile]
      exact writeAll_of_not_mem (fun entry hentry hkey => h ⟨file, hfile, entry, hentry, hkey⟩) _

/-- After any languages, a key has a text exactly when it had one before or one
of the languages defines it. -/
theorem isSome_switchTo (langueges : List Languege) (resource : Resource) :
    ((switchTo bundle langueges resource).keyToTextDictionary key).isSome = true ↔
      (resource.keyToTextDictionary key).isSome = true ∨
        ∃ languege ∈ langueges, Defines bundle languege key := by
  induction langueges generalizing resource with
  | nil => simp [switchTo]
  | cons languege langueges ih =>
      rw [switchTo, List.foldl_cons, ← switchTo, ih]
      by_cases hdefines : Defines bundle languege key
      · have hsome := (entry_of_defines hdefines resource resource).2
        exact ⟨fun _ => Or.inr ⟨languege, List.mem_cons_self, hdefines⟩, fun _ => Or.inl hsome⟩
      · rw [entry_of_not_defines hdefines]
        constructor
        · intro h
          rcases h with hbefore | ⟨later, hlater, hdef⟩
          · exact Or.inl hbefore
          · exact Or.inr ⟨later, List.mem_cons_of_mem _ hlater, hdef⟩
        · intro h
          rcases h with hbefore | ⟨later, hlater, hdef⟩
          · exact Or.inl hbefore
          · rcases List.mem_cons.mp hlater with rfl | hmem
            · exact absurd hdef hdefines
            · exact Or.inr ⟨later, hmem, hdef⟩

end

/-- **Switching languages.**  After switching through any languages, every key
has the text that loading the last one alone gives it, exactly when every key
that an earlier file defines is defined by the last one. -/
theorem language_switch_iff (bundle : String → Option ResourceFile)
    (earlier : List Languege) (last : Languege) :
    (∀ key, (switchTo bundle (earlier ++ [last]) {}).keyToTextDictionary key =
        (switchTo bundle [last] {}).keyToTextDictionary key) ↔
      ∀ languege ∈ earlier, ∀ key, Defines bundle languege key → Defines bundle last key := by
  have hlast : ∀ resource, switchTo bundle (earlier ++ [last]) resource =
      setResourceDictionary (bundleEvents bundle) last.rawValue
        (switchTo bundle earlier resource) := fun resource => by
    rw [switchTo, List.foldl_append]
    rfl
  have hfresh : switchTo bundle [last] {} =
      setResourceDictionary (bundleEvents bundle) last.rawValue {} := rfl
  rw [hlast, hfresh]
  constructor
  · intro hsame languege hearlier key hdefines
    by_contra hnot
    have hkept := hsame key
    rw [entry_of_not_defines hnot, entry_of_not_defines hnot] at hkept
    have hsome : ((switchTo bundle earlier {}).keyToTextDictionary key).isSome = true :=
      (isSome_switchTo earlier {}).mpr (Or.inr ⟨languege, hearlier, hdefines⟩)
    rw [hkept] at hsome
    cases hsome
  · intro hcovers key
    by_cases hdefines : Defines bundle last key
    · exact (entry_of_defines hdefines _ _).1
    · rw [entry_of_not_defines hdefines, entry_of_not_defines hdefines]
      have hnone : ¬ ((switchTo bundle earlier {}).keyToTextDictionary key).isSome = true := by
        rw [isSome_switchTo]
        intro h
        rcases h with hempty | ⟨languege, hearlier, hdef⟩
        · cases hempty
        · exact hdefines (hcovers languege hearlier key hdef)
      simpa using hnone

/-- The Korean file defines a key of its own, the Thai one none. -/
def ownKeyBundle (name : String) : Option ResourceFile :=
  if name = "strings_kr" then
    some { elements := [(⟨some "seolhyun", .text "설현" .nil⟩, [])] }
  else some { elements := [] }

/-- **A key of the language before stays.** It is missing from the file of the language
chosen last, and is shown in the earlier language. -/
theorem language_switch_leaves_trace :
    ¬ ∀ (bundle : String → Option ResourceFile) (earlier : List Languege) (last : Languege)
        (key : Keys),
      (switchTo bundle (earlier ++ [last]) {}).keyToTextDictionary key =
        (switchTo bundle [last] {}).keyToTextDictionary key := by
  intro hnoTrace
  have hsame := hnoTrace ownKeyBundle [.korea] .thailand .seolhyun
  revert hsame
  decide +kernel

end Localization
