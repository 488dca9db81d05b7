import Pineone.Dictionaries
import Pineone.SwiftText
import Mathlib.Data.List.Induction

/-!
# Deep links

`urlParse` takes a link from outside the app, finds the inner link in its query,
and reads the inner link's first query value as a text of keys and values; what
separates them is skipped, and they are dealt alternately.  Foundation's URL
functions are a parameter (`Foundation`).

* `urlParse_total_iff`: parsing traps exactly on a delivered text with an odd
  number of tokens;
* `round_trip_iff`: printing a parsed scheme and parsing it again loses its
  `parameter4`, and nothing else.
-/

namespace DeepLink

open Swift Dictionaries

/-! ## Schemes -/

inductive ARScheme
  | main
  | search
  | album
  | detail
  | keyword
  | my
  | setting
  | genre
  | recognizing
  deriving DecidableEq, Repr

namespace ARScheme

def rawValue : ARScheme → String
  | .main => "main"
  | .search => "search"
  | .album => "album"
  | .detail => "detail"
  | .keyword => "keyword"
  | .my => "my"
  | .setting => "setting"
  | .genre => "genre"
  | .recognizing => "recognizing"

def allCases : List ARScheme :=
  [.main, .search, .album, .detail, .keyword, .my, .setting, .genre, .recognizing]

/-- `ARScheme(rawValue:)` -/
def ofRawValue (rawValue : String) : Option ARScheme :=
  allCases.find? fun scheme => scheme.rawValue == rawValue

/-- Each scheme is made from its raw value again, so that what is printed can be read. -/
theorem ofRawValue_rawValue (scheme : ARScheme) : ofRawValue scheme.rawValue = some scheme := by
  cases scheme <;> decide

end ARScheme

inductive ViewType
  | view
  | view_detail
  | view_result
  | theme
  | theme_detail
  | genre_detail
  | recent
  | download
  | like
  | comment
  | event
  | event_detail
  | notice
  | faq
  | dm
  | etc
  | terms
  | privacy
  | uplusar
  | google
  deriving DecidableEq, Repr

namespace ViewType

def rawValue : ViewType → String
  | .view => "view"
  | .view_detail => "view_detail"
  | .view_result => "view_result"
  | .theme => "theme"
  | .theme_detail => "theme_detail"
  | .genre_detail => "genre_detail"
  | .recent => "recent"
  | .download => "download"
  | .like => "like"
  | .comment => "comment"
  | .event => "event"
  | .event_detail => "event_detail"
  | .notice => "notice"
  | .faq => "faq"
  | .dm => "dm"
  | .etc => "etc"
  | .terms => "terms"
  | .privacy => "privacy"
  | .uplusar => "uplusar"
  | .google => "google"

def allCases : List ViewType :=
  [.view, .view_detail, .view_result, .theme, .theme_detail, .genre_detail, .recent, .download,
    .like, .comment, .event, .event_detail, .notice, .faq, .dm, .etc, .terms, .privacy,
    .uplusar, .google]

/-- `ViewType(rawValue:)` -/
def ofRawValue (rawValue : String) : Option ViewType :=
  allCases.find? fun viewType => viewType.rawValue == rawValue

/-- Each view type is made from its raw value again. -/
theorem ofRawValue_rawValue (viewType : ViewType) :
    ofRawValue viewType.rawValue = some viewType := by
  cases viewType <;> decide

end ViewType

inductive Referral
  | P001
  | P002
  | P003
  | P005
  deriving DecidableEq, Repr

namespace Referral

def rawValue : Referral → String
  | .P001 => "P001"
  | .P002 => "P002"
  | .P003 => "P003"
  | .P005 => "P005"

def allCases : List Referral := [.P001, .P002, .P003, .P005]

/-- `Referral(rawValue:)` -/
def ofRawValue (rawValue : String) : Option Referral :=
  allCases.find? fun referral => referral.rawValue == rawValue

end Referral

structure URLScheme where
  scheme : ARScheme
  parameter1 : ViewType
  parameter2 : Option String
  parameter3 : Option String
  parameter4 : Option Referral
  deriving DecidableEq, Repr

/-! ## Parsing -/

structure QueryItem where
  name : String
  value : Option String
  deriving DecidableEq, Repr

/-- What the code uses of Foundation.  `addingPercentEncoding` is the one with
the characters allowed in a query; `queryItems` are those of the components of a
URL, if it has any. -/
structure Foundation where
  URL : Type
  addingPercentEncoding : String → Option String
  url : String → Option URL
  host : URL → Option String
  queryItems : URL → Option (List QueryItem)
  removingPercentEncoding : String → Option String

namespace URLScheme

/-- `initail(dict:)` -/
def initail (dict : String → Option String) : Option URLScheme := do
  let scheme ← (dict "scheme").bind ARScheme.ofRawValue
  let parameter1 ← (dict "parameter1").bind ViewType.ofRawValue
  match (dict "parameter2").bind Referral.ofRawValue with
  | some referral => return ⟨scheme, parameter1, none, none, some referral⟩
  | none =>
      match (dict "parameter4").bind Referral.ofRawValue with
      | some referral =>
          return ⟨scheme, parameter1, dict "parameter2", dict "parameter3", some referral⟩
      | none => return ⟨scheme, parameter1, dict "parameter2", dict "parameter3", none⟩

/-- The characters that separate keys and values. -/
def isSeparator (c : Char) : Bool := [':', ',', '{', '}'].contains c

/-- The nonempty components of a text. -/
def itemsOf (text : List Char) : List String :=
  ((text.splitOnP isSeparator).filter fun item => !item.isEmpty).map String.ofList

def items (data : String) : List String := itemsOf data.toList

/-- The loop that deals the items alternately to the keys and the values. -/
def deal (items : List String) : List String × List String :=
  items.zipIdx.foldl (fun lists p =>
    if p.2 % 2 ≠ 0 then (lists.1, lists.2 ++ [p.1]) else (lists.1 ++ [p.1], lists.2)) ([], [])

/-- The loop that gives the key at each index the value at this index. -/
def fill (values : List String) :
    List (String × Nat) → (String → Option String) → Result (String → Option String)
  | [], structDict => .ok structDict
  | (key, index) :: keys, structDict => do
      let value ← subscript values index
      fill values keys (Function.update structDict key (some value))

/-- `structDict` before the payload is read. -/
def hostDict (host : String) : String → Option String :=
  Function.update (fun _ => none) "scheme" (some host)

/-- The part of `urlParse` that reads the payload of a link to `host`. -/
def readPayload (host data : String) : Result (Option URLScheme) := do
  let lists := deal (items data)
  let structDict ← fill lists.2 lists.1.zipIdx (hostDict host)
  return initail structDict

/-- The values of the query by name; the last one of a name counts. -/
def queryDictionary (queryItems : List QueryItem) : String → Option String :=
  queryItems.foldl (fun dict item =>
    match item.value with
    | some value => Function.update dict item.name (some value)
    | none => dict) fun _ => none

section

variable (F : Foundation)

/-- The inner link of a link. -/
def innerLink (wrapingStr : Option String) : Option String := do
  let unwarppingUrlStr ← wrapingStr
  let utf8String ← F.addingPercentEncoding unwarppingUrlStr
  let url ← F.url utf8String
  let queryItems ← F.queryItems url
  queryDictionary queryItems "link"

/-- The host and the payload of an inner link. -/
def hostAndData (link : String) : Option (String × String) := do
  let linkString ← F.addingPercentEncoding link
  let linkURL ← F.url linkString
  let host ← F.host linkURL
  let query ← F.queryItems linkURL
  let parameter ← (query.filterMap QueryItem.value).head?
  let data ← F.removingPercentEncoding parameter
  return (host, data)

def urlParse (wrapingStr : Option String) : Result (Option URLScheme) :=
  match (innerLink F wrapingStr).bind (hostAndData F) with
  | some (host, data) => readPayload host data
  | none => .ok none

end

/-! ## Printing -/

def urlschemeToString (scheme : URLScheme) : String :=
  let strLink := "https://"
  let strLink := strLink ++ (scheme.scheme.rawValue ++ "?parameter=\x7bparameter1:" ++
    scheme.parameter1.rawValue)
  let strLink := match scheme.parameter2 with
    | some parameter2 => strLink ++ (",parameter2:" ++ parameter2)
    | none => strLink
  let strLink := match scheme.parameter3 with
    | some parameter3 => strLink ++ (",parameter3:" ++ parameter3)
    | none => strLink
  strLink ++ "\x7d"

/-! ## Keys and values -/

/-- The items that list keys and values alternately. -/
def flatten (pairs : List (String × String)) : List String :=
  pairs.flatMap fun p => [p.1, p.2]

/-- A pair contributes two items, so that a payload of pairs has an even number of them. -/
theorem length_flatten (pairs : List (String × String)) :
    (flatten pairs).length = 2 * pairs.length := by
  induction pairs with
  | nil => rfl
  | cons p pairs ih =>
      rw [flatten, List.flatMap_cons, List.length_append, ← flatten, ih, List.length_cons]
      simp
      omega

/-- Items are pairs, or pairs and one item more. The reader takes them two at a time, so
these are its two cases. -/
theorem exists_flatten : ∀ items : List String,
    (∃ pairs, items = flatten pairs) ∨ ∃ pairs last, items = flatten pairs ++ [last]
  | [] => Or.inl ⟨[], rfl⟩
  | [last] => Or.inr ⟨[], last, rfl⟩
  | key :: value :: items => by
      rcases exists_flatten items with ⟨pairs, rfl⟩ | ⟨pairs, last, rfl⟩
      · exact Or.inl ⟨(key, value) :: pairs, rfl⟩
      · exact Or.inr ⟨(key, value) :: pairs, last, rfl⟩

/-- The next item is a value exactly when the items before are odd in number. That is the
step of the reader's loop, which counts its items from zero. -/
theorem deal_append (items : List String) (item : String) :
    deal (items ++ [item]) =
      if items.length % 2 ≠ 0 then ((deal items).1, (deal items).2 ++ [item])
      else ((deal items).1 ++ [item], (deal items).2) := by
  rw [deal, List.zipIdx_append, List.foldl_append]
  simp [deal]

/-- Dealing the items of pairs out in turn gives the names and the values back, of which
there are equally many. -/
theorem deal_flatten (pairs : List (String × String)) :
    deal (flatten pairs) = (pairs.map Prod.fst, pairs.map Prod.snd) := by
  induction pairs using List.reverseRecOn with
  | nil => rfl
  | append_singleton pairs p ih =>
      have hsplit : flatten (pairs ++ [p]) = (flatten pairs ++ [p.1]) ++ [p.2] := by
        simp [flatten]
      have hkey : ¬ (flatten pairs).length % 2 ≠ 0 := by
        rw [length_flatten]
        omega
      have hvalue : (flatten pairs ++ [p.1]).length % 2 ≠ 0 := by
        rw [List.length_append, length_flatten, List.length_singleton]
        omega
      rw [hsplit, deal_append, if_pos hvalue, deal_append, if_neg hkey, ih]
      simp

/-- Filling in pairs writes them into the dictionary; `before` are the values of
the keys already done, `rest` the keys that follow. -/
theorem fill_pairs (pairs : List (String × String)) (before : List String)
    (rest : List (String × Nat)) (structDict : String → Option String) :
    fill (before ++ pairs.map Prod.snd)
        ((pairs.map Prod.fst).zipIdx before.length ++ rest) structDict =
      fill (before ++ pairs.map Prod.snd) rest (writeAll pairs structDict) := by
  induction pairs generalizing before structDict with
  | nil => rfl
  | cons p pairs ih =>
      have hvalue : (before ++ p.2 :: pairs.map Prod.snd)[before.length]? = some p.2 := by simp
      have hstep := ih (before ++ [p.2]) (Function.update structDict p.1 (some p.2))
      rw [List.length_append, List.length_singleton, List.append_assoc,
        List.singleton_append] at hstep
      simp only [List.map_cons, List.zipIdx_cons, List.cons_append, fill,
        subscript_natCast hvalue]
      exact hstep

/-- **Reading pairs.** The dictionary begins with the scheme of the host, and the pairs are
written into it one after the other: a later pair with the same name replaces the earlier
one. -/
theorem readPayload_flatten {host data : String} {pairs : List (String × String)}
    (h : items data = flatten pairs) :
    readPayload host data = .ok (initail (writeAll pairs (hostDict host))) := by
  have hfill := fill_pairs pairs [] [] (hostDict host)
  rw [List.nil_append, List.append_nil, List.length_nil] at hfill
  simp only [readPayload, h, deal_flatten]
  rw [hfill]
  rfl

/-- **Reading an odd number of items** runs past the end of the values. The last name has no
value, and the loop over the names subscripts the values without a check. -/
theorem readPayload_odd {host data last : String} {pairs : List (String × String)}
    (h : items data = flatten pairs ++ [last]) :
    readPayload host data = .error .indexOutOfRange := by
  have heven : ¬ (flatten pairs).length % 2 ≠ 0 := by
    rw [length_flatten]
    omega
  have hkeys : (pairs.map Prod.fst ++ [last]).zipIdx =
      (pairs.map Prod.fst).zipIdx ++ [(last, pairs.length)] := by
    rw [List.zipIdx_append]
    simp
  have hfill := fill_pairs pairs [] [(last, pairs.length)] (hostDict host)
  rw [List.nil_append, List.length_nil] at hfill
  have hlast : (pairs.map Prod.snd)[pairs.length]? = none := by simp
  simp only [readPayload, h, deal_append, if_neg heven, deal_flatten, hkeys]
  rw [hfill, fill, subscript_natCast_none hlast]
  rfl

/-! ## Traps -/

/-- Foundation delivers the host `host` and the payload `data` for a link: the
outer link has an inner link as its `link` query value, and `data` is the first
query value of the inner link, percent-decoded. -/
inductive Delivers (F : Foundation) : Option String → String → String → Prop
  | intro {text encoded link linkEncoded host parameter data : String} {url linkURL : F.URL}
      {queryItems query : List QueryItem}
      (houter : F.addingPercentEncoding text = some encoded)
      (hurl : F.url encoded = some url)
      (hitems : F.queryItems url = some queryItems)
      (hlink : queryDictionary queryItems "link" = some link)
      (hinner : F.addingPercentEncoding link = some linkEncoded)
      (hlinkURL : F.url linkEncoded = some linkURL)
      (hhost : F.host linkURL = some host)
      (hquery : F.queryItems linkURL = some query)
      (hparameter : (query.filterMap QueryItem.value).head? = some parameter)
      (hdata : F.removingPercentEncoding parameter = some data) :
      Delivers F (some text) host data

/-- Read as a function: the inner link is computed first, and then its host and its payload.
Where one of them is missing the parser returns before it reads any items. -/
theorem delivers_iff {F : Foundation} {wrapingStr : Option String} {host data : String} :
    Delivers F wrapingStr host data ↔
      (innerLink F wrapingStr).bind (hostAndData F) = some (host, data) := by
  constructor
  · intro h
    obtain ⟨houter, hurl, hitems, hlink, hinner, hlinkURL, hhost, hquery, hparameter, hdata⟩ := h
    simp only [innerLink, hostAndData, houter, hurl, hitems, hlink, hinner, hlinkURL, hhost,
      hquery, hparameter, hdata, Option.bind_eq_bind, Option.bind_some]
    rfl
  · intro h
    obtain ⟨link, hinnerLink, hhostAndData⟩ := Option.bind_eq_some_iff.mp h
    simp only [innerLink, Option.bind_eq_bind, Option.bind_eq_some_iff] at hinnerLink
    simp only [hostAndData, Option.bind_eq_bind, Option.bind_eq_some_iff] at hhostAndData
    obtain ⟨text, rfl, encoded, houter, url, hurl, queryItems, hitems, hlink⟩ := hinnerLink
    obtain ⟨linkEncoded, hinner, linkURL, hlinkURL, found, hhost, query, hquery, parameter,
      hparameter, decoded, hdata, hpair⟩ := hhostAndData
    obtain ⟨rfl, rfl⟩ : found = host ∧ decoded = data := by simpa using hpair
    exact .intro houter hurl hitems hlink hinner hlinkURL hhost hquery hparameter hdata

/-- **Parsing never traps** on a link, whatever Foundation delivers for it,
exactly when the payload it delivers, if any, has an even number of items. -/
theorem urlParse_total_iff (F : Foundation) (wrapingStr : Option String) :
    (∃ result, urlParse F wrapingStr = .ok result) ↔
      ∀ host data, Delivers F wrapingStr host data → (items data).length % 2 = 0 := by
  simp only [delivers_iff, urlParse]
  cases hdelivered : (innerLink F wrapingStr).bind (hostAndData F) with
  | none => simp
  | some delivered =>
      obtain ⟨host, data⟩ := delivered
      rcases exists_flatten (items data) with ⟨pairs, hpairs⟩ | ⟨pairs, last, hpairs⟩
      · have heven : (items data).length % 2 = 0 := by
          rw [hpairs, length_flatten]
          omega
        simp only [readPayload_flatten hpairs]
        simp [heven]
      · have hodd : (items data).length % 2 ≠ 0 := by
          rw [hpairs, List.length_append, length_flatten, List.length_singleton]
          omega
        simp only [readPayload_odd hpairs]
        simp [hodd]

def percentDecoded : List Char → List Char
  | '%' :: '7' :: 'B' :: text => '{' :: percentDecoded text
  | '%' :: '7' :: 'D' :: text => '}' :: percentDecoded text
  | c :: text => c :: percentDecoded text
  | [] => []

/-- A query item, from its text `name=value`. -/
def sampleQueryItem (text : List Char) : QueryItem where
  name := String.ofList (text.takeWhile (· != '='))
  value := match text.dropWhile (· != '=') with
    | [] => none
    | _ :: value => some (String.ofList (percentDecoded value))

/-- Foundation on links of the form `https://host?query` in which braces are the
only characters to encode. -/
def sampleFoundation : Foundation where
  URL := String
  addingPercentEncoding text := some (String.ofList (text.toList.flatMap fun c =>
    if c = '{' then ['%', '7', 'B'] else if c = '}' then ['%', '7', 'D'] else [c]))
  url text := some text
  host url := some (String.ofList ((url.toList.drop 8).takeWhile (· != '?')))
  queryItems url := match url.toList.dropWhile (· != '?') with
    | [] => none
    | _ :: query => some ((query.splitOn '&').map sampleQueryItem)
  removingPercentEncoding text := some (String.ofList (percentDecoded text.toList))

/-- A payload that is a key without a value. Parsing it traps, so that not every link has a
result. -/
theorem key_without_value_traps :
    ¬ ∀ (F : Foundation) (wrapingStr : Option String),
      ∃ result, urlParse F wrapingStr = .ok result := by
  intro h
  obtain ⟨result, hresult⟩ := h sampleFoundation
    (some "https://open?link=https://main?parameter=\x7bparameter1\x7d")
  have htrap : urlParse sampleFoundation
      (some "https://open?link=https://main?parameter=\x7bparameter1\x7d") =
        .error .indexOutOfRange := by decide +kernel
  rw [htrap] at hresult
  cases hresult

/-! ## The round trip -/

/-- A text without separators, such as one of letters and digits. -/
def Plain (text : String) : Prop := ∀ c ∈ text.toList, isSeparator c = false

instance (text : String) : Decidable (Plain text) :=
  decidable_of_iff (text.toList.all (fun c => !isSeparator c) = true) (by simp [Plain])

/-- The text begins with a separator. -/
def StartsSeparated (text : List Char) : Prop :=
  ∃ c rest, text = c :: rest ∧ isSeparator c = true

/-- A separator divides a payload into two parts that are split on their own. With it the
printed text can be read from left to right, one field at a time. -/
theorem itemsOf_append {c : Char} (hc : isSeparator c = true) (text rest : List Char) :
    itemsOf (text ++ c :: rest) = itemsOf text ++ itemsOf rest := by
  rw [itemsOf, List.splitOnP_append_cons text rest hc, List.filter_append, List.map_append]
  rfl

/-- A separator at the front only ends an empty item, which is left out. -/
theorem itemsOf_separator {c : Char} (hc : isSeparator c = true) (rest : List Char) :
    itemsOf (c :: rest) = itemsOf rest :=
  itemsOf_append hc [] rest

/-- A nonempty plain text before a separator is one item. -/
theorem itemsOf_plain {text : String} (hne : text ≠ "") (hplain : Plain text)
    {rest : List Char} (hrest : StartsSeparated rest) :
    itemsOf (text.toList ++ rest) = text :: itemsOf rest := by
  obtain ⟨c, tail, rfl, hc⟩ := hrest
  have hitem : itemsOf text.toList = [text] := by
    rw [itemsOf, List.splitOnP_eq_singleton hplain]
    simp [hne]
  rw [itemsOf_append hc, itemsOf_separator hc, hitem, List.singleton_append]

/-- One printed parameter. -/
def printedField (label : String) : Option String → String
  | some value => label ++ value
  | none => ""

def fieldPairs (name : String) : Option String → List (String × String)
  | some value => [(name, value)]
  | none => []

/-- A parameter that is absent, or plain and not empty. -/
def PlainField (value : Option String) : Prop := ∀ text ∈ value, text ≠ "" ∧ Plain text

/-- A printed field begins with a comma, and an absent field leaves what follows it, which
begins with a separator as well. -/
theorem startsSeparated_printedField {label name : String} {value : Option String}
    (hlabel : label.toList = ',' :: (name.toList ++ [':'])) {rest : List Char}
    (hrest : StartsSeparated rest) :
    StartsSeparated ((printedField label value).toList ++ rest) := by
  cases value with
  | none => exact hrest
  | some value =>
      refine ⟨',', name.toList ++ ':' :: (value.toList ++ rest), ?_, rfl⟩
      simp [printedField, String.toList_append, hlabel]

/-- A printed field is split into its name and its value, or into nothing when it is absent.
The comma before the name and the colon after it are separators. -/
theorem itemsOf_printedField {label name : String} {value : Option String}
    (hlabel : label.toList = ',' :: (name.toList ++ [':'])) (hname : name ≠ "" ∧ Plain name)
    (hvalue : PlainField value) {rest : List Char} (hrest : StartsSeparated rest) :
    itemsOf ((printedField label value).toList ++ rest) =
      flatten (fieldPairs name value) ++ itemsOf rest := by
  cases value with
  | none => rfl
  | some value =>
      obtain ⟨hne, hplain⟩ := hvalue value rfl
      have hcolon : StartsSeparated (':' :: (value.toList ++ rest)) := ⟨':', _, rfl, rfl⟩
      have hsplit : (printedField label (some value)).toList ++ rest =
          ',' :: (name.toList ++ ':' :: (value.toList ++ rest)) := by
        simp [printedField, String.toList_append, hlabel]
      rw [hsplit, itemsOf_separator rfl, itemsOf_plain hname.1 hname.2 hcolon,
        itemsOf_separator rfl, itemsOf_plain hne hplain hrest]
      rfl

/-- The payload that `urlschemeToString` prints. -/
def printedPayload (scheme : URLScheme) : String :=
  "\x7bparameter1:" ++ scheme.parameter1.rawValue ++
    printedField ",parameter2:" scheme.parameter2 ++
    printedField ",parameter3:" scheme.parameter3 ++ "\x7d"

/-- The printed scheme is a link with its raw value as the host and the fields as the
payload. -/
theorem urlschemeToString_eq (scheme : URLScheme) :
    urlschemeToString scheme =
      "https://" ++ scheme.scheme.rawValue ++ "?parameter=" ++ printedPayload scheme := by
  obtain ⟨kind, parameter1, parameter2, parameter3, parameter4⟩ := scheme
  have hquery : "?parameter=\x7bparameter1:" = "?parameter=" ++ "\x7bparameter1:" := rfl
  delta printedPayload
  cases parameter2 <;> cases parameter3 <;>
    simp only [urlschemeToString, printedField, hquery, String.append_assoc, String.append_empty]

/-- The keys and values that are printed. -/
def printedPairs (scheme : URLScheme) : List (String × String) :=
  ("parameter1", scheme.parameter1.rawValue) ::
    (fieldPairs "parameter2" scheme.parameter2 ++ fieldPairs "parameter3" scheme.parameter3)

/-- The raw values of view types are plain words, so that they come back unsplit. -/
theorem plain_viewType (viewType : ViewType) :
    viewType.rawValue ≠ "" ∧ Plain viewType.rawValue := by
  cases viewType <;> exact ⟨by decide, by decide⟩

/-- **Printing and splitting.**  The items of the printed payload are the printed
keys and values. -/
theorem items_printedPayload {scheme : URLScheme} (h2 : PlainField scheme.parameter2)
    (h3 : PlainField scheme.parameter3) :
    items (printedPayload scheme) = flatten (printedPairs scheme) := by
  have hname1 : "parameter1" ≠ "" ∧ Plain "parameter1" := ⟨by decide, by decide⟩
  have hname2 : "parameter2" ≠ "" ∧ Plain "parameter2" := ⟨by decide, by decide⟩
  have hname3 : "parameter3" ≠ "" ∧ Plain "parameter3" := ⟨by decide, by decide⟩
  have hlabel2 : ",parameter2:".toList = ',' :: ("parameter2".toList ++ [':']) := rfl
  have hlabel3 : ",parameter3:".toList = ',' :: ("parameter3".toList ++ [':']) := rfl
  have hend : StartsSeparated ['}'] := ⟨'}', [], rfl, rfl⟩
  have hrest3 : StartsSeparated ((printedField ",parameter3:" scheme.parameter3).toList ++
      ['}']) := startsSeparated_printedField hlabel3 hend
  have hrest2 : StartsSeparated ((printedField ",parameter2:" scheme.parameter2).toList ++
      ((printedField ",parameter3:" scheme.parameter3).toList ++ ['}'])) :=
    startsSeparated_printedField hlabel2 hrest3
  have hpayload : (printedPayload scheme).toList =
      '{' :: ("parameter1".toList ++ ':' :: (scheme.parameter1.rawValue.toList ++
        ((printedField ",parameter2:" scheme.parameter2).toList ++
          ((printedField ",parameter3:" scheme.parameter3).toList ++ ['}'])))) := by
    delta printedPayload
    simp [String.toList_append]
  obtain ⟨hne, hplain⟩ := plain_viewType scheme.parameter1
  rw [items, hpayload, itemsOf_separator rfl, itemsOf_plain hname1.1 hname1.2 ⟨':', _, rfl, rfl⟩,
    itemsOf_separator rfl, itemsOf_plain hne hplain hrest2,
    itemsOf_printedField hlabel2 hname2 h2 hrest3,
    itemsOf_printedField hlabel3 hname3 h3 hend, itemsOf_separator rfl]
  simp [printedPairs, flatten, itemsOf]

/-- What is read back from the printed pairs. All fields are there but the last one, since
`parameter4` is not printed. -/
theorem initail_printedPairs {scheme : URLScheme}
    (h2 : ∀ text ∈ scheme.parameter2, Referral.ofRawValue text = none) :
    initail (writeAll (printedPairs scheme) (hostDict scheme.scheme.rawValue)) =
      some { scheme with parameter4 := none } := by
  obtain ⟨kind, parameter1, parameter2, parameter3, parameter4⟩ := scheme
  have hkind := ARScheme.ofRawValue_rawValue kind
  have hview := ViewType.ofRawValue_rawValue parameter1
  cases parameter2 with
  | none =>
      cases parameter3 <;>
        simp [initail, printedPairs, fieldPairs, writeAll, hostDict, Function.update, hkind, hview]
  | some text =>
      have hreferral : Referral.ofRawValue text = none := h2 text rfl
      cases parameter3 <;>
        simp [initail, printedPairs, fieldPairs, writeAll, hostDict, Function.update, hkind, hview,
          hreferral]

/-- The parameters 2 and 3 of a scheme are those of the dictionary, and a second
parameter that was kept is no referral. -/
theorem parameters_of_initail {dict : String → Option String} {scheme : URLScheme}
    (h : initail dict = some scheme) :
    (∀ text ∈ scheme.parameter2, dict "parameter2" = some text ∧
        Referral.ofRawValue text = none) ∧
      ∀ text ∈ scheme.parameter3, dict "parameter3" = some text := by
  unfold initail at h
  obtain ⟨kind, _, h⟩ := Option.bind_eq_some_iff.mp h
  obtain ⟨parameter1, _, h⟩ := Option.bind_eq_some_iff.mp h
  split at h
  · obtain rfl := Option.some.inj h
    exact ⟨fun _ htext => (nomatch htext), fun _ htext => (nomatch htext)⟩
  · next hreferral =>
      have hkept : scheme.parameter2 = dict "parameter2" ∧
          scheme.parameter3 = dict "parameter3" := by
        split at h <;> (obtain rfl := Option.some.inj h; exact ⟨rfl, rfl⟩)
      rw [hkept.1, hkept.2]
      refine ⟨fun text htext => ⟨htext, ?_⟩, fun text htext => htext⟩
      rw [Option.mem_def.mp htext] at hreferral
      exact hreferral

/-- Splitting leaves out empty items, so that no name and no value is empty. -/
theorem ne_empty_of_mem_items {data item : String} (h : item ∈ items data) : item ≠ "" := by
  obtain ⟨chars, hchars, rfl⟩ := List.mem_map.mp h
  have hne : chars ≠ [] := by simpa using (List.mem_filter.mp hchars).2
  intro hempty
  exact hne (by simpa using congrArg String.toList hempty)

/-- **The schemes that parsing returns.**  Their parameters 2 and 3 are not empty,
and parameter 2 is no referral. -/
theorem parameters_of_urlParse {F : Foundation} {wrapingStr : Option String}
    {scheme : URLScheme} (h : urlParse F wrapingStr = .ok (some scheme)) :
    (∀ text ∈ scheme.parameter2, text ≠ "" ∧ Referral.ofRawValue text = none) ∧
      ∀ text ∈ scheme.parameter3, text ≠ "" := by
  unfold urlParse at h
  split at h
  · next host data _ =>
      rcases exists_flatten (items data) with ⟨pairs, hpairs⟩ | ⟨pairs, last, hpairs⟩
      · rw [readPayload_flatten hpairs] at h
        obtain ⟨h2, h3⟩ := parameters_of_initail (Except.ok.inj h)
        have hitem : ∀ key ≠ "scheme", ∀ text,
            writeAll pairs (hostDict host) key = some text → text ≠ "" := by
          intro key hkey text htext
          have hhost : hostDict host key ≠ some text := by
            rw [hostDict, Function.update_of_ne hkey]
            exact nofun
          rcases mem_of_writeAll htext with hmem | hbefore
          · have hin : text ∈ items data := by
              rw [hpairs]
              exact List.mem_flatMap.mpr ⟨(key, text), hmem, by simp⟩
            exact ne_empty_of_mem_items hin
          · exact absurd hbefore hhost
        exact ⟨fun text htext => ⟨hitem _ (by decide) _ (h2 text htext).1, (h2 text htext).2⟩,
          fun text htext => hitem _ (by decide) _ (h3 text htext)⟩
      · rw [readPayload_odd hpairs] at h
        cases h
  · cases h

/-- What Foundation is assumed to do with an outer link and the printed scheme in
its `link` query item: host and query values come back as printed. -/
structure ComesBackAsPrinted (F : Foundation) (outer : String) (scheme : URLScheme) :
    Prop where
  link : ∃ encoded url queryItems, F.addingPercentEncoding outer = some encoded ∧
    F.url encoded = some url ∧ F.queryItems url = some queryItems ∧
    queryDictionary queryItems "link" = some (urlschemeToString scheme)
  printed : ∃ encoded url, F.addingPercentEncoding (urlschemeToString scheme) = some encoded ∧
    F.url encoded = some url ∧ F.host url = some scheme.scheme.rawValue ∧
    F.queryItems url = some [⟨"parameter", some (printedPayload scheme)⟩]
  decoded : F.removingPercentEncoding (printedPayload scheme) = some (printedPayload scheme)

/-- The assumption can be tested: it is about the values of the platform's functions at one
printed text, and follows when these compute to it. -/
theorem comesBackAsPrinted_of_computed {F : Foundation} {outer : String} {scheme : URLScheme}
    (hlink : innerLink F (some outer) = some (urlschemeToString scheme))
    (hprinted : ((F.addingPercentEncoding (urlschemeToString scheme)).bind F.url).map
        (fun url => (F.host url, F.queryItems url)) =
      some (some scheme.scheme.rawValue, some [⟨"parameter", some (printedPayload scheme)⟩]))
    (hdecoded : F.removingPercentEncoding (printedPayload scheme) =
      some (printedPayload scheme)) : ComesBackAsPrinted F outer scheme := by
  simp only [innerLink, Option.bind_eq_bind, Option.bind_eq_some_iff] at hlink
  obtain ⟨text, htext, encoded, houter, url, hurl, queryItems, hitems, hlink⟩ := hlink
  obtain rfl := Option.some.inj htext
  obtain ⟨linkURL, hlinkURL, hpair⟩ := Option.map_eq_some_iff.mp hprinted
  obtain ⟨linkEncoded, hinner, hlinkURL⟩ := Option.bind_eq_some_iff.mp hlinkURL
  obtain ⟨hhost, hquery⟩ := Prod.mk.inj hpair
  exact ⟨⟨encoded, url, queryItems, houter, hurl, hitems, hlink⟩,
    ⟨linkEncoded, linkURL, hinner, hlinkURL, hhost, hquery⟩, hdecoded⟩

/-- What Foundation is assumed to bring back is a delivery of the host and of the payload as
they were printed. -/
theorem ComesBackAsPrinted.delivers {F : Foundation} {outer : String} {scheme : URLScheme}
    (h : ComesBackAsPrinted F outer scheme) :
    Delivers F (some outer) scheme.scheme.rawValue (printedPayload scheme) := by
  obtain ⟨encoded, url, queryItems, houter, hurl, hitems, hlink⟩ := h.link
  obtain ⟨linkEncoded, linkURL, hinner, hlinkURL, hhost, hquery⟩ := h.printed
  exact .intro houter hurl hitems hlink hinner hlinkURL hhost hquery rfl h.decoded

/-- **Printing and parsing a scheme** gives it back without its `parameter4`. The texts have
to be plain, as a separator in a value would cut it, and nonempty, as empty items are left
out. -/
theorem urlParse_urlschemeToString {F : Foundation} {outer : String} {scheme : URLScheme}
    (h2 : ∀ text ∈ scheme.parameter2, text ≠ "" ∧ Referral.ofRawValue text = none)
    (h3 : ∀ text ∈ scheme.parameter3, text ≠ "")
    (hplain2 : ∀ text ∈ scheme.parameter2, Plain text)
    (hplain3 : ∀ text ∈ scheme.parameter3, Plain text)
    (hback : ComesBackAsPrinted F outer scheme) :
    urlParse F (some outer) = .ok (some { scheme with parameter4 := none }) := by
  have hfield2 : PlainField scheme.parameter2 :=
    fun text htext => ⟨(h2 text htext).1, hplain2 text htext⟩
  have hfield3 : PlainField scheme.parameter3 :=
    fun text htext => ⟨h3 text htext, hplain3 text htext⟩
  have hread : readPayload scheme.scheme.rawValue (printedPayload scheme) =
      .ok (initail (writeAll (printedPairs scheme) (hostDict scheme.scheme.rawValue))) :=
    readPayload_flatten (items_printedPayload hfield2 hfield3)
  rw [initail_printedPairs fun text htext => (h2 text htext).2] at hread
  rw [urlParse, delivers_iff.mp hback.delivers]
  exact hread

/-- **The round trip.**  For a scheme that parsing can return, whose parameters 2
and 3 contain no separator, printing and parsing it again gives the same scheme
exactly when it has no `parameter4`. -/
theorem round_trip_iff {F : Foundation} {link : Option String} {outer : String}
    {scheme : URLScheme} (hreturned : urlParse F link = .ok (some scheme))
    (hplain2 : ∀ text ∈ scheme.parameter2, Plain text)
    (hplain3 : ∀ text ∈ scheme.parameter3, Plain text)
    (hback : ComesBackAsPrinted F outer scheme) :
    urlParse F (some outer) = .ok (some scheme) ↔ scheme.parameter4 = none := by
  obtain ⟨h2, h3⟩ := parameters_of_urlParse hreturned
  rw [urlParse_urlschemeToString h2 h3 hplain2 hplain3 hback]
  obtain ⟨kind, parameter1, parameter2, parameter3, parameter4⟩ := scheme
  simp [eq_comm]

/-- A link with a second parameter that is opened, printed and opened again. -/
theorem round_trip_iff_view :
    urlParse sampleFoundation (some
        "https://open?link=https://main?parameter=\x7bparameter1:view,parameter2:12\x7d") =
      .ok (some ⟨.main, .view, some "12", none, none⟩) ↔ (none : Option Referral) = none := by
  have hparameter2 : ∀ text ∈ some "12",
      (text ≠ "" ∧ Referral.ofRawValue text = none) ∧ Plain text := by
    intro text htext
    obtain rfl := Option.mem_some_iff.mp htext
    decide
  have hback : ComesBackAsPrinted sampleFoundation
      "https://open?link=https://main?parameter=\x7bparameter1:view,parameter2:12\x7d"
      ⟨.main, .view, some "12", none, none⟩ :=
    comesBackAsPrinted_of_computed (by decide +kernel) (by decide +kernel) (by decide +kernel)
  have hreturned := @urlParse_urlschemeToString sampleFoundation _
    ⟨.main, .view, some "12", none, none⟩ (fun text htext => (hparameter2 text htext).1)
    nofun (fun text htext => (hparameter2 text htext).2) nofun hback
  exact round_trip_iff hreturned (fun text htext => (hparameter2 text htext).2) nofun hback

/-- A scheme with a referral is opened from a link, printed and opened again. The referral is
lost, though all texts are letters and digits. -/
theorem referral_is_not_printed :
    ¬ ∀ (F : Foundation) (link : Option String) (outer : String) (scheme : URLScheme),
      urlParse F link = .ok (some scheme) →
      (∀ text ∈ scheme.parameter2, text.toList.all Char.isAlphanum = true) →
      (∀ text ∈ scheme.parameter3, text.toList.all Char.isAlphanum = true) →
      ComesBackAsPrinted F outer scheme → urlParse F (some outer) = .ok (some scheme) := by
  intro hroundTrip
  have hback : ComesBackAsPrinted sampleFoundation
      "https://open?link=https://main?parameter=\x7bparameter1:view\x7d"
      ⟨.main, .view, none, none, some .P001⟩ :=
    comesBackAsPrinted_of_computed (by decide +kernel) (by decide +kernel) (by decide +kernel)
  have hsame := hroundTrip sampleFoundation
    (some "https://open?link=https://main?parameter=\x7bparameter1:view,parameter4:P001\x7d")
    _ ⟨.main, .view, none, none, some .P001⟩ (by decide +kernel) nofun nofun hback
  rw [@urlParse_urlschemeToString sampleFoundation _ ⟨.main, .view, none, none, some .P001⟩
    nofun nofun nofun nofun hback] at hsame
  cases hsame

end URLScheme

end DeepLink
