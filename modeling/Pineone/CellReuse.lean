import Pineone.ActivityItems
import Pineone.EventList
import Pineone.Reuse
import Mathlib.Data.Rat.Floor

/-!
# Cells that are used again

The cells of the activity table and of the event table show one item after the other.  A
mapping sets the badges, the overlays and the delete mode every time, but the image and the
texts only if the item has them, and nothing clears them in between.

* `cell_reuse_iff`: what a cell shows does not depend on the items mapped before exactly
  when the last one has every part that is set only if it is there.
-/

namespace CellReuse

open Activity EventList Reuse

/-- What the cells use of the platform: `URL(string:)`, whole days between two dates, the
start of a date's day, the format `yyyy.MM.dd`, and the date of a timestamp. -/
structure Platform (URL : Type) where
  url : String → Option URL
  days : Date → Date → ℤ
  clearDate : Date → Date
  string : Date → String
  dateValue : Timestamp → Date

variable {URL : Type} (p : Platform URL)

/-- `getJavaTimestampDate()`, and how the cells read their other dates; a `Date` is counted
from 1970 here. -/
def javaTimestampDate (milliseconds : Rat) : Date := milliseconds / 1000

/-- `now.offset(from: date)` -/
def offset (now date : Date) : String :=
  let date := p.clearDate date
  if p.days now date > 1 ∧ p.days now date < 6 then toString (p.days now date) ++ "일전"
  else if p.days now date = 1 then "어제"
  else if p.days now date = 0 then "오늘"
  else p.string date

/-- `CGFloat(kBytes).getByteString()` -/
def getByteString (kBytes : ℚ) : String :=
  if kBytes < 1024 then toString ⌊kBytes⌋ ++ " KB"
  else if kBytes / 1024 < 1024 then toString ⌊kBytes / 1024⌋ ++ " MB"
  else
    let tenths := ⌊kBytes / 1024 / 1024 * 10⌋
    toString (tenths / 10) ++ "." ++ toString (tenths % 10) ++ " GB"

/-- An item with its delete mode, and the clock as it is read while it is mapped. -/
structure Mapping where
  item : CompactCellItem
  isDeleteMode : Bool
  clock : ℕ → Date

/-! ## Recent, downloaded and liked contents -/

/-- What the cell shows. -/
@[ext]
structure TripleViews (URL : Type) where
  thumbnailImage : Option URL := none
  contentTitle : Option String := none
  contentDate : Option String := none
  adultViewHidden : Bool := true
  adultBadgeHidden : Bool := false
  expireAlpha : ℚ := 0
  playButtonHidden : Bool := false
  animationHidden : Bool := true
  selectButtonHidden : Bool := true

structure TripleCompactTableViewCell (URL : Type) extends TripleViews URL where
  isDeleteMode : Bool := false
  item : Option CompactCellItem := none
  currentProgress : ℚ := 0
  disposeBag : ℕ := 0

namespace TripleCompactTableViewCell

variable {p}

def setupDeleteModeLayout (s : TripleCompactTableViewCell URL) : TripleCompactTableViewCell URL :=
  { s with
    playButtonHidden := s.isDeleteMode
    animationHidden :=
      if s.currentProgress = 0 ∨ s.currentProgress = 1 then true else s.isDeleteMode
    selectButtonHidden := !s.isDeleteMode }

/-- The alpha of the overlay for expired contents. -/
def expireAlphaOf (item : CompactCellItem) (isDeleteMode : Bool) (now : Date) : ℚ :=
  if item.end_dt.any (fun endDt => javaTimestampDate endDt < now) && !isDeleteMode then 9 / 10
  else if item.visible_yn == some "N" && !isDeleteMode then 9 / 10
  else 0

variable (p)

/-- `sd_setImage` shows no image for no URL. -/
def bindingData (s : TripleCompactTableViewCell URL) (clock : ℕ → Date) :
    TripleCompactTableViewCell URL :=
  s.item.elim s fun item =>
    let s := item.image_url.elim s fun imageURL => { s with thumbnailImage := p.url imageURL }
    let s := item.name.elim s fun title => { s with contentTitle := some title }
    let s := { s with adultViewHidden := !(item.adult_yn == some AdultType.Y) }
    let s := { s with adultBadgeHidden := !(item.adult_yn == some AdultType.Y) }
    let s := { s with expireAlpha := expireAlphaOf item s.isDeleteMode (clock 0) }
    let s := item.req_date.elim s fun date =>
      { s with contentDate := some (offset p (clock 1) (javaTimestampDate date)) }
    item.allDownloadFilesByte.elim s fun data =>
      { s with contentDate := some (getByteString (data.tdiv 1024)) }

/-- `mappingData(item:isDeleteMode:)`, with what observes the two properties. -/
def mappingData (s : TripleCompactTableViewCell URL) (m : Mapping) :
    TripleCompactTableViewCell URL :=
  let s := setupDeleteModeLayout { s with isDeleteMode := m.isDeleteMode }
  bindingData p { s with item := some m.item } m.clock

/-- Only the dispose bag is renewed. -/
def prepareForReuse (s : TripleCompactTableViewCell URL) : TripleCompactTableViewCell URL :=
  { s with disposeBag := s.disposeBag + 1 }

end TripleCompactTableViewCell

/-! ## Replies -/

/-- The view that the trailing edge of the contents is tied to. -/
inductive ContentsTrailing
  | superview
  | selectButton
  deriving DecidableEq, Repr

@[ext]
structure ReplyViews where
  contentReply : Option String := none
  contentDate : Option String := none
  contentTitle : Option String := none
  selectButtonHidden : Bool := true
  contentsTrailing : ContentsTrailing := .superview

structure ReplyCompactTableViewCell extends ReplyViews where
  isDeleteMode : Bool := false
  item : Option CompactCellItem := none

namespace ReplyCompactTableViewCell

def bindingData (s : ReplyCompactTableViewCell) : ReplyCompactTableViewCell :=
  s.item.elim s fun item =>
    let s := item.reply_text.elim s fun text => { s with contentReply := some text }
    let s := item.mod_date.elim s fun date =>
      { s with contentDate := some (p.string (javaTimestampDate date)) }
    (item.contents_info.bind ReplyContentsInfo.name).elim s fun title =>
      { s with contentTitle := some title }

def deleteMode (s : ReplyCompactTableViewCell) : ReplyCompactTableViewCell :=
  { s with
    selectButtonHidden := !s.isDeleteMode
    contentsTrailing := if s.isDeleteMode then .selectButton else .superview }

/-- `mappingData(item:isDeleteMode:)`, with what observes the two properties. -/
def mappingData (s : ReplyCompactTableViewCell) (m : Mapping) : ReplyCompactTableViewCell :=
  let s := bindingData p { s with item := some m.item }
  deleteMode { s with isDeleteMode := m.isDeleteMode }

end ReplyCompactTableViewCell

/-! ## Events -/

inductive EventStatus
  | badgeOngoing
  | badgeEnd
  deriving DecidableEq, Repr

/-- What the cell shows, which is all it stores. -/
@[ext]
structure EventCell (URL : Type) where
  titleLabel : String := "AR 게임 출시 이벤트"
  dateLabel : String := "2020.04.01 ~ 2020.04.25"
  eventImage : Option URL := none
  eventStatusImage : EventStatus := .badgeOngoing
  endViewHidden : Bool := true

/-- An event, and the clock as it is read while it is mapped. -/
structure EventMapping where
  event : FDEvent
  clock : ℕ → Date

/-- The dates of an event that has both. -/
def eventDates (event : FDEvent) : Option (Timestamp × Timestamp) :=
  event.startAt.bind fun startAt => event.stopAt.map fun stopAt => (startAt, stopAt)

namespace EventCell

def dataMapping (s : EventCell URL) (m : EventMapping) : EventCell URL :=
  let event := m.event
  let s := event.title.elim s fun title => { s with titleLabel := title }
  let s := (eventDates event).elim s fun dates =>
    { s with
      dateLabel := p.string (p.dateValue dates.1) ++ " ~ " ++ p.string (p.dateValue dates.2) }
  let s := (event.bannerFileURL.bind p.url).elim s fun imageURL =>
    { s with eventImage := some imageURL }
  -- the two calls read the clock one after the other
  let (isRunning, n) := isRunningEvent p.dateValue m.clock event 0
  let s := { s with eventStatusImage := if isRunning then .badgeOngoing else .badgeEnd }
  { s with endViewHidden := (isRunningEvent p.dateValue m.clock event n).1 }

end EventCell

/-! ## What the last item sets -/

section

variable {p}

namespace TripleCompactTableViewCell

/-- The text of the date that an item sets: that of its size, if it has one. -/
def writtenDate (m : Mapping) : Option String :=
  (m.item.allDownloadFilesByte.map fun data => getByteString (data.tdiv 1024)).or
    (m.item.req_date.map fun date => offset p (m.clock 1) (javaTimestampDate date))

/-- What a mapping shows: the parts the item has, those shown before, and the rest. -/
def viewsAfter (p : Platform URL) (s : TripleCompactTableViewCell URL) (m : Mapping) :
    TripleViews URL where
  thumbnailImage := (m.item.image_url.map p.url).getD s.thumbnailImage
  contentTitle := (m.item.name.map some).getD s.contentTitle
  contentDate := ((writtenDate (p := p) m).map some).getD s.contentDate
  adultViewHidden := !(m.item.adult_yn == some AdultType.Y)
  adultBadgeHidden := !(m.item.adult_yn == some AdultType.Y)
  expireAlpha := expireAlphaOf m.item m.isDeleteMode (m.clock 0)
  playButtonHidden := m.isDeleteMode
  animationHidden :=
    if s.currentProgress = 0 ∨ s.currentProgress = 1 then true else m.isDeleteMode
  selectButtonHidden := !m.isDeleteMode

/-- **One mapping.** It changes the views, and the progress animation stays where it is. What
the views show afterwards depends on the item, and where it has nothing on what they showed
before. -/
theorem mappingData_eq (s : TripleCompactTableViewCell URL) (m : Mapping) :
    s.mappingData p m =
      { s with
        toTripleViews := viewsAfter p s m
        isDeleteMode := m.isDeleteMode
        item := some m.item } := by
  unfold mappingData bindingData setupDeleteModeLayout viewsAfter writtenDate
  dsimp only [Option.elim_some]
  cases m.item.image_url <;> cases m.item.name <;> cases m.item.req_date <;>
    cases m.item.allDownloadFilesByte <;> rfl

/-- What the cell shows after a mapping is a function of the platform, of what it showed
before, and of the mapping. -/
theorem mappingData_views (s : TripleCompactTableViewCell URL) (m : Mapping) :
    (s.mappingData p m).toTripleViews = viewsAfter p s m := by
  rw [mappingData_eq]

/-- The item has every part that is set only if it is there. -/
structure SetsAll (item : CompactCellItem) : Prop where
  image : item.image_url.isSome = true
  title : item.name.isSome = true
  date : item.req_date.isSome = true ∨ item.allDownloadFilesByte.isSome = true

/-- A mapping writes the date exactly when the item has a request date, or a size that takes
its place. -/
theorem writtenDate_isSome (m : Mapping) : (writtenDate (p := p) m).isSome = true ↔
    m.item.req_date.isSome = true ∨ m.item.allDownloadFilesByte.isSome = true := by
  unfold writtenDate
  cases m.item.req_date <;> cases m.item.allDownloadFilesByte <;> simp

/-- The mapping of a content with an image, a name and a date. -/
def fullMapping (imageURL : String) : Mapping where
  item := .ofRecentlyLike { image_url := some imageURL, name := some "", req_date := some 0 }
  isDeleteMode := false
  clock := fun _ => 0

/-- What the cell shows leaves no trace. -/
abbrev LeavesNoTrace (p : Platform URL) (last : Mapping) : Prop :=
  NoTrace (mappingData p) prepareForReuse {} toTripleViews last

/-- If the item has all its parts, the last mapping decides everything that the cell shows:
each view is assigned in its own branch, which is taken then. -/
theorem leavesNoTrace_of_setsAll {last : Mapping} (h : SetsAll last.item) :
    LeavesNoTrace p last := by
  refine noTrace_of_determined (J := fun s => s.currentProgress = 0)
    (mappingData p {} last).toTripleViews ?_ rfl ?_
  · -- No mapping moves the progress animation, which stands at its beginning.
    intro s m hs
    rw [mappingData_eq]
    exact hs
  · intro s hs
    have hwritten := (writtenDate_isSome (p := p) last).mpr h.date
    obtain ⟨imageURL, himage⟩ := Option.isSome_iff_exists.mp h.image
    obtain ⟨name, hname⟩ := Option.isSome_iff_exists.mp h.title
    obtain ⟨date, hdate⟩ := Option.isSome_iff_exists.mp hwritten
    rw [mappingData_views, mappingData_views]
    unfold viewsAfter
    rw [himage, hname, hdate, hs]
    rfl

/-- Conversely a part that the item lacks is left as it was, and shows through from some
earlier mapping. -/
theorem leavesNoTrace_iff (hurl : ∃ text, (p.url text).isSome = true) (last : Mapping) :
    LeavesNoTrace p last ↔ SetsAll last.item := by
  constructor
  · intro h
    obtain ⟨text, htext⟩ := hurl
    have himage : (last.item.image_url.map p.url).isSome = true := by
      refine (h.comp TripleViews.thumbnailImage).written_isSome (fun s m =>
        congrArg TripleViews.thumbnailImage (mappingData_views s m)) (fun _ => rfl)
        ⟨fullMapping text, p.url text, rfl, fun hnone => ?_⟩
      rw [hnone] at htext
      cases htext
    have htitle : (last.item.name.map some).isSome = true :=
      (h.comp TripleViews.contentTitle).written_isSome (fun s m =>
        congrArg TripleViews.contentTitle (mappingData_views s m)) (fun _ => rfl)
        ⟨fullMapping text, some "", rfl, Option.some_ne_none ""⟩
    have hdate : ((writtenDate (p := p) last).map some).isSome = true :=
      (h.comp TripleViews.contentDate).written_isSome (fun s m =>
        congrArg TripleViews.contentDate (mappingData_views s m)) (fun _ => rfl)
        ⟨fullMapping text, some (offset p 0 (javaTimestampDate 0)), rfl, Option.some_ne_none _⟩
    rw [Option.isSome_map] at himage htitle hdate
    exact ⟨himage, htitle, (writtenDate_isSome last).mp hdate⟩
  · exact leavesNoTrace_of_setsAll

end TripleCompactTableViewCell

namespace ReplyCompactTableViewCell

/-- Each label of a reply keeps its text exactly where the item has nothing for it. -/
theorem mappingData_views (s : ReplyCompactTableViewCell) (m : Mapping) :
    (s.mappingData p m).toReplyViews =
      { contentReply := (m.item.reply_text.map some).getD s.contentReply
        contentDate := (m.item.mod_date.map fun date =>
          some (p.string (javaTimestampDate date))).getD s.contentDate
        contentTitle :=
          ((m.item.contents_info.bind ReplyContentsInfo.name).map some).getD s.contentTitle
        selectButtonHidden := !m.isDeleteMode
        contentsTrailing := if m.isDeleteMode then .selectButton else .superview } := by
  unfold mappingData bindingData deleteMode
  dsimp only [Option.elim_some]
  cases m.item.reply_text <;> cases m.item.mod_date <;>
    cases m.item.contents_info.bind ReplyContentsInfo.name <;> rfl

structure SetsAll (item : CompactCellItem) : Prop where
  reply : item.reply_text.isSome = true
  date : item.mod_date.isSome = true
  title : (item.contents_info.bind ReplyContentsInfo.name).isSome = true

/-- The mapping of a reply with a text, a date and the name of its content. -/
def fullMapping : Mapping where
  item := .ofReply
    { reply_text := some "", mod_date := some 0, contents_info := some { name := some "" } }
  isDeleteMode := false
  clock := fun _ => 0

/-- What the cell shows leaves no trace; nothing is done when it is prepared. -/
abbrev LeavesNoTrace (p : Platform URL) (last : Mapping) : Prop :=
  NoTrace (mappingData p) id {} toReplyViews last

/-- The same for replies: nothing shows through exactly when the item has a reply text, a
date and a title. -/
theorem leavesNoTrace_iff (last : Mapping) : LeavesNoTrace p last ↔ SetsAll last.item := by
  constructor
  · intro h
    have hreply : (last.item.reply_text.map some).isSome = true :=
      (h.comp ReplyViews.contentReply).written_isSome (fun s m =>
        congrArg ReplyViews.contentReply (mappingData_views s m)) (fun _ => rfl)
        ⟨fullMapping, some "", rfl, Option.some_ne_none ""⟩
    have hdate : (last.item.mod_date.map fun date =>
        some (p.string (javaTimestampDate date))).isSome = true :=
      (h.comp ReplyViews.contentDate).written_isSome (fun s m =>
        congrArg ReplyViews.contentDate (mappingData_views s m)) (fun _ => rfl)
        ⟨fullMapping, some (p.string (javaTimestampDate 0)), rfl, Option.some_ne_none _⟩
    have htitle : ((last.item.contents_info.bind ReplyContentsInfo.name).map some).isSome =
        true :=
      (h.comp ReplyViews.contentTitle).written_isSome (fun s m =>
        congrArg ReplyViews.contentTitle (mappingData_views s m)) (fun _ => rfl)
        ⟨fullMapping, some "", rfl, Option.some_ne_none ""⟩
    rw [Option.isSome_map] at hreply hdate htitle
    exact ⟨hreply, hdate, htitle⟩
  · intro h
    refine noTrace_of_determined (J := fun _ => True) (mappingData p {} last).toReplyViews
      (fun _ _ _ => trivial) trivial fun s _ => ?_
    obtain ⟨text, hreply⟩ := Option.isSome_iff_exists.mp h.reply
    obtain ⟨date, hdate⟩ := Option.isSome_iff_exists.mp h.date
    obtain ⟨title, htitle⟩ := Option.isSome_iff_exists.mp h.title
    rw [mappingData_views, mappingData_views, hreply, hdate, htitle]
    rfl

end ReplyCompactTableViewCell

namespace EventCell

/-- The text of the two dates. -/
def dateString (p : Platform URL) (dates : Timestamp × Timestamp) : String :=
  p.string (p.dateValue dates.1) ++ " ~ " ++ p.string (p.dateValue dates.2)

/-- Each part of an event is written if the event has it, the dates only together, and the
image only from a url that can be loaded. -/
theorem dataMapping_eq (s : EventCell URL) (m : EventMapping) :
    s.dataMapping p m =
      { titleLabel := m.event.title.getD s.titleLabel
        dateLabel := ((eventDates m.event).map (dateString p)).getD s.dateLabel
        eventImage := ((m.event.bannerFileURL.bind p.url).map some).getD s.eventImage
        eventStatusImage :=
          if (isRunningEvent p.dateValue m.clock m.event 0).1 then .badgeOngoing else .badgeEnd
        endViewHidden := (isRunningEvent p.dateValue m.clock m.event
          (isRunningEvent p.dateValue m.clock m.event 0).2).1 } := by
  unfold dataMapping
  dsimp only
  cases m.event.title <;> cases eventDates m.event <;>
    cases m.event.bannerFileURL.bind p.url <;> rfl

/-- The event has a title, both dates and an image that can be loaded. -/
structure SetsAll (p : Platform URL) (event : FDEvent) : Prop where
  title : event.title.isSome = true
  dates : (eventDates event).isSome = true
  image : (event.bannerFileURL.bind p.url).isSome = true

/-- An event with everything, which starts and stops at the same time. -/
def fullMapping (bannerFileURL : String) : EventMapping where
  event :=
    { sampleEvent with
      title := some ""
      bannerFileURL := some bannerFileURL
      stopAt := sampleEvent.startAt }
  clock := fun _ => 0

/-- No format shows one date twice as the two dates that the label starts with, which differ. -/
theorem dateString_ne (w : String) : w ++ " ~ " ++ w ≠ "2020.04.01 ~ 2020.04.25" := by
  intro h
  have hlist : w.toList ++ " ~ ".toList ++ w.toList = "2020.04.01 ~ 2020.04.25".toList := by
    rw [← h, String.toList_append, String.toList_append]
  have hlength : w.toList.length = 10 := by
    have := congrArg List.length hlist
    simp only [List.length_append] at this
    have h3 : " ~ ".toList.length = 3 := by decide
    have h23 : "2020.04.01 ~ 2020.04.25".toList.length = 23 := by decide
    omega
  have hseparated : (w.toList ++ " ~ ".toList).length = 13 := by
    rw [List.length_append, hlength]
    rfl
  -- the text is both its first ten characters and its last ten
  have hfront : w.toList = "2020.04.01".toList := by
    have htake := congrArg (List.take 10) hlist
    rw [List.append_assoc, List.take_left' hlength] at htake
    exact htake
  have hback : w.toList = "2020.04.25".toList := by
    have hdrop := congrArg (List.drop 13) hlist
    rw [List.drop_left' hseparated] at hdrop
    exact hdrop
  exact absurd (hfront.symm.trans hback) (by decide)

/-- What the cell shows leaves no trace; it has nothing to prepare. -/
abbrev LeavesNoTrace (p : Platform URL) (last : EventMapping) : Prop :=
  NoTrace (dataMapping p) id {} id last

/-- The same for events; an image counts as set if its url can be loaded. -/
theorem leavesNoTrace_iff (hurl : ∃ text, (p.url text).isSome = true) (last : EventMapping) :
    LeavesNoTrace p last ↔ SetsAll p last.event := by
  constructor
  · intro h
    obtain ⟨text, htext⟩ := hurl
    obtain ⟨imageURL, himageURL⟩ := Option.isSome_iff_exists.mp htext
    have htitle : last.event.title.isSome = true :=
      (h.comp titleLabel).written_isSome (fun s m => congrArg titleLabel (dataMapping_eq s m))
        (fun _ => rfl) ⟨fullMapping text, "", rfl, (by decide : "" ≠ "AR 게임 출시 이벤트")⟩
    have hdates : ((eventDates last.event).map (dateString p)).isSome = true :=
      (h.comp dateLabel).written_isSome (fun s m => congrArg dateLabel (dataMapping_eq s m))
        (fun _ => rfl) ⟨fullMapping text, _, rfl, dateString_ne _⟩
    have himage : ((last.event.bannerFileURL.bind p.url).map some).isSome = true :=
      (h.comp eventImage).written_isSome (fun s m => congrArg eventImage (dataMapping_eq s m))
        (fun _ => rfl) ⟨fullMapping text, some imageURL, congrArg (Option.map some) himageURL,
          Option.some_ne_none imageURL⟩
    rw [Option.isSome_map] at hdates himage
    exact ⟨htitle, hdates, himage⟩
  · intro h
    refine noTrace_of_determined (J := fun _ => True) (dataMapping p {} last)
      (fun _ _ _ => trivial) trivial fun s _ => ?_
    obtain ⟨title, htitle⟩ := Option.isSome_iff_exists.mp h.title
    obtain ⟨dates, hdates⟩ := Option.isSome_iff_exists.mp h.dates
    obtain ⟨imageURL, himage⟩ := Option.isSome_iff_exists.mp h.image
    rw [id, dataMapping_eq, dataMapping_eq, htitle, hdates, himage]
    rfl

end EventCell

end

/-- **Cells leave no trace of the items before** exactly when the last item sets every part
that is set only if it is there: the image, the name and one of the two dates of a content;
the text, the date and the content's name of a reply; the title, both dates and a banner
with a valid URL of an event. -/
theorem cell_reuse_iff (p : Platform URL) (hurl : ∃ text, (p.url text).isSome = true)
    (content reply : Mapping) (event : EventMapping) :
    (TripleCompactTableViewCell.LeavesNoTrace p content ↔
        TripleCompactTableViewCell.SetsAll content.item) ∧
      (ReplyCompactTableViewCell.LeavesNoTrace p reply ↔
        ReplyCompactTableViewCell.SetsAll reply.item) ∧
      (EventCell.LeavesNoTrace p event ↔ EventCell.SetsAll p event.event) :=
  ⟨TripleCompactTableViewCell.leavesNoTrace_iff hurl content,
    ReplyCompactTableViewCell.leavesNoTrace_iff reply,
    EventCell.leavesNoTrace_iff hurl event⟩

/-- A calendar without time zones, on whose first day the samples are mapped. -/
def samplePlatform : Platform String where
  url text := if text.isEmpty then none else some text
  days now date := ⌊(now - date) / 86400⌋
  clearDate date := ⌊date / 86400⌋ * 86400
  string _ := "1970.01.01"
  dateValue timestamp := timestamp.seconds + timestamp.nanoseconds.val / 1000000000

/-- One platform and one complete mapping for each of the three cells. Nothing of the items
before is left in any of them. -/
theorem cell_reuse_iff_sample :
    (TripleCompactTableViewCell.LeavesNoTrace samplePlatform
        (TripleCompactTableViewCell.fullMapping "image.png") ↔
      TripleCompactTableViewCell.SetsAll
        (TripleCompactTableViewCell.fullMapping "image.png").item) ∧
      (ReplyCompactTableViewCell.LeavesNoTrace samplePlatform
          ReplyCompactTableViewCell.fullMapping ↔
        ReplyCompactTableViewCell.SetsAll ReplyCompactTableViewCell.fullMapping.item) ∧
      (EventCell.LeavesNoTrace samplePlatform (EventCell.fullMapping "banner.png") ↔
        EventCell.SetsAll samplePlatform (EventCell.fullMapping "banner.png").event) :=
  cell_reuse_iff samplePlatform ⟨"image.png", by decide⟩ _ _ _

/-- The image of a content stays on the cell when the next one has none: the branch without a
url does not clear the image view. -/
theorem image_of_previous_content :
    ¬ ∀ (p : Platform String) (last : Mapping),
      TripleCompactTableViewCell.LeavesNoTrace p last := by
  intro h
  have hsame := h samplePlatform ⟨.ofRecentlyLike { name := some "" }, false, fun _ => 0⟩
    [TripleCompactTableViewCell.fullMapping "image.png"] []
  have himage : some "image.png" = none := congrArg TripleViews.thumbnailImage hsame
  cases himage

end CellReuse
