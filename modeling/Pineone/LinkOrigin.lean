import Pineone.DeepLink

/-!
# The scheme of a link

`urlParse` writes the host of the inner link into a dictionary under `scheme` and
then the keys and values of the payload into the same dictionary.  A payload that
has the key `scheme` itself decides the scheme in place of the host
(`schemes_agree_iff`).
-/

namespace DeepLink

open Swift Dictionaries

namespace URLScheme

/-- The items as keys and values. -/
def pairsOf : List String → List (String × String)
  | key :: value :: items => (key, value) :: pairsOf items
  | _ => []

/-- Dealing out the items of a payload and pairing them again gives its pairs. -/
theorem pairsOf_flatten (pairs : List (String × String)) : pairsOf (flatten pairs) = pairs := by
  induction pairs with
  | nil => rfl
  | cons p pairs ih => exact congrArg (p :: ·) ih

/-- The last value that a payload gives for the key `scheme`, if it has this key. -/
def schemeValue (data : String) : Option String :=
  (pairsOf (items data)).reverse.lookup "scheme"

/-- The payload names no other scheme than the host. -/
def NamesHost (host data : String) : Prop :=
  ∀ value ∈ schemeValue data, ARScheme.ofRawValue value = ARScheme.ofRawValue host

instance (host data : String) : Decidable (NamesHost host data) :=
  inferInstanceAs (Decidable (∀ value ∈ schemeValue data, _))

/-- The scheme is the one named last: by the payload, or else by the host. The host is
written into the dictionary first, under the key that the payload may use again. -/
theorem scheme_of_initail {host data : String} {pairs : List (String × String)}
    {scheme : URLScheme} (hpairs : items data = flatten pairs)
    (h : initail (writeAll pairs (hostDict host)) = some scheme) :
    ARScheme.ofRawValue ((schemeValue data).getD host) = some scheme.scheme := by
  have hhost : hostDict host "scheme" = some host := Function.update_self ..
  have hdict : writeAll pairs (hostDict host) "scheme" =
      some ((schemeValue data).getD host) := by
    rw [writeAll_eq_lookup, hhost, schemeValue, hpairs, pairsOf_flatten]
    cases pairs.reverse.lookup "scheme" <;> rfl
  unfold initail at h
  rw [hdict] at h
  obtain ⟨kind, hkind, h⟩ := Option.bind_eq_some_iff.mp h
  obtain ⟨parameter1, _, h⟩ := Option.bind_eq_some_iff.mp h
  have hscheme : scheme.scheme = kind := by
    split at h
    · obtain rfl := Option.some.inj h
      rfl
    · split at h <;> (obtain rfl := Option.some.inj h; rfl)
  rw [hscheme]
  exact hkind

variable {F : Foundation} {link link' : Option String} {host data data' : String}
  {scheme scheme' : URLScheme}

/-- **The scheme of a link** that parses. Its host counts only if no item of the payload is
read under the key `scheme`. -/
theorem scheme_of_urlParse (hdelivers : Delivers F link host data)
    (h : urlParse F link = .ok (some scheme)) :
    ARScheme.ofRawValue ((schemeValue data).getD host) = some scheme.scheme := by
  rw [urlParse, delivers_iff.mp hdelivers] at h
  rcases exists_flatten (items data) with ⟨pairs, hpairs⟩ | ⟨pairs, last, hpairs⟩
  · have hread : readPayload host data = .ok (some scheme) := h
    rw [readPayload_flatten hpairs] at hread
    exact scheme_of_initail hpairs (Except.ok.inj hread)
  · have hread : readPayload host data = .ok (some scheme) := h
    rw [readPayload_odd hpairs] at hread
    cases hread

/-- The host names the scheme of a link exactly when the payload names no other, be it that
it has no such key or that the key has the host as its value. -/
theorem host_names_scheme_iff (hdelivers : Delivers F link host data)
    (h : urlParse F link = .ok (some scheme)) :
    ARScheme.ofRawValue host = some scheme.scheme ↔ NamesHost host data := by
  have hscheme := scheme_of_urlParse hdelivers h
  unfold NamesHost
  cases hvalue : schemeValue data with
  | none =>
      rw [hvalue, Option.getD_none] at hscheme
      exact iff_of_true hscheme fun _ hmem => nomatch hmem
  | some value =>
      rw [hvalue, Option.getD_some] at hscheme
      simp only [Option.mem_def, Option.some.injEq, forall_eq', hscheme]
      exact eq_comm

/-- **The origin of the scheme.**  Two links to one host that parse give the same
scheme, the one of the host, exactly when neither payload names another one. -/
theorem schemes_agree_iff (hdelivers : Delivers F link host data)
    (hdelivers' : Delivers F link' host data') (h : urlParse F link = .ok (some scheme))
    (h' : urlParse F link' = .ok (some scheme')) :
    (scheme.scheme = scheme'.scheme ∧ ARScheme.ofRawValue host = some scheme.scheme) ↔
      NamesHost host data ∧ NamesHost host data' := by
  rw [← host_names_scheme_iff hdelivers h, ← host_names_scheme_iff hdelivers' h']
  constructor
  · rintro ⟨hsame, hhost⟩
    exact ⟨hhost, hsame ▸ hhost⟩
  · rintro ⟨hhost, hhost'⟩
    exact ⟨Option.some.inj (hhost.symm.trans hhost'), hhost⟩

/-- The payload `data` in a link to the main page. -/
def linkToMain (data : String) : String := "https://open?link=https://main?parameter=" ++ data

/-- A link to the main page with a view type, as Foundation delivers it. -/
theorem delivers_view : Delivers sampleFoundation (some (linkToMain "\x7bparameter1:view\x7d"))
    "main" "\x7bparameter1:view\x7d" :=
  delivers_iff.mpr (by decide +kernel)

/-- And the scheme that is parsed from it. -/
theorem urlParse_view : urlParse sampleFoundation (some (linkToMain "\x7bparameter1:view\x7d")) =
    .ok (some ⟨.main, .view, none, none, none⟩) := by
  rw [urlParse, delivers_iff.mp delivers_view]
  decide +kernel

/-- Two links to the main page, with and without a second parameter. Neither payload names a
scheme. -/
theorem schemes_agree_iff_main :
    (ARScheme.main = ARScheme.main ∧ ARScheme.ofRawValue "main" = some .main) ↔
      NamesHost "main" "\x7bparameter1:view\x7d" ∧
        NamesHost "main" "\x7bparameter1:event,parameter2:12\x7d" := by
  have hdelivers : Delivers sampleFoundation
      (some (linkToMain "\x7bparameter1:event,parameter2:12\x7d")) "main"
      "\x7bparameter1:event,parameter2:12\x7d" :=
    delivers_iff.mpr (by decide +kernel)
  have hparse : urlParse sampleFoundation
      (some (linkToMain "\x7bparameter1:event,parameter2:12\x7d")) =
        .ok (some ⟨.main, .event, some "12", none, none⟩) := by
    rw [urlParse, delivers_iff.mp hdelivers]
    decide +kernel
  exact schemes_agree_iff delivers_view hdelivers urlParse_view hparse

/-- **A payload with the key `scheme`** takes a link to the main page to the settings, while
another link to the same host stays there. -/
theorem payload_names_scheme :
    ¬ ∀ (F : Foundation) (link link' : Option String) (host data data' : String)
        (scheme scheme' : URLScheme), Delivers F link host data → Delivers F link' host data' →
      urlParse F link = .ok (some scheme) → urlParse F link' = .ok (some scheme') →
      scheme.scheme = scheme'.scheme ∧ ARScheme.ofRawValue host = some scheme.scheme := by
  intro hschemesAgree
  have hdelivers : Delivers sampleFoundation
      (some (linkToMain "\x7bparameter1:view,scheme:setting\x7d")) "main"
      "\x7bparameter1:view,scheme:setting\x7d" :=
    delivers_iff.mpr (by decide +kernel)
  have hparse : urlParse sampleFoundation
      (some (linkToMain "\x7bparameter1:view,scheme:setting\x7d")) =
        .ok (some ⟨.setting, .view, none, none, none⟩) := by
    rw [urlParse, delivers_iff.mp hdelivers]
    decide +kernel
  have hsame := hschemesAgree _ _ _ _ _ _ _ _ delivers_view hdelivers urlParse_view hparse
  cases hsame.1

end URLScheme

end DeepLink
