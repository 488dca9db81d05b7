import Mathlib.Data.Rat.Defs

/-!
# The items of the activity table

The records of the server and of the local database, and the one record the
table shows for all of them.  A `Double` is the rational number it stands for; a
`Date` is its number of seconds.  The records keep the fields that the table,
its cells or the sort read; the artist, the counts and the local paths of a
downloaded file are read by nothing here and are left out.
-/

namespace Activity

/-- A `Date`, as its seconds since the reference date. -/
abbrev Date := Rat

inductive ContentType
  | performance
  | sticker
  | aosInstallGame
  | iosInstallGame
  | webGame
  deriving DecidableEq, Repr

inductive AdultType
  | Y
  | N
  deriving DecidableEq, Repr

inductive Contain3DContentType
  | Y
  | N
  deriving DecidableEq, Repr

inductive DownloadItemStatus
  | ready
  | downloading
  | paused
  | failed
  | cancle
  | completed
  deriving DecidableEq, Repr

/-- The tabs of the activity screen. -/
inductive ActivityDetail
  | recently
  | download
  | like
  | reply
  deriving DecidableEq, Repr

inductive DownloadSortingType
  | download
  | size
  deriving DecidableEq, Repr

structure RecentlyLikeSbInfo where
  view_cnt : Option Int := none
  like_cnt : Option Int := none
  reply_cnt : Option Int := none
  deriving DecidableEq, Repr

/-- One content of the recently-viewed or of the liked list. -/
structure RecentlyLikeList where
  key : Option Int := none
  name : Option String := none
  type : Option ContentType := none
  image_url : Option String := none
  playtime : Option String := none
  req_date : Option Rat := none
  visible_yn : Option String := none
  sb_info : Option RecentlyLikeSbInfo := none
  type_badge_url : Option String := none
  event_badge_url : Option String := none
  start_dt : Option Rat := none
  end_dt : Option Rat := none
  adult_yn : Option AdultType := none
  downloadable : Option Contain3DContentType := none
  deriving DecidableEq, Repr

structure ReplyContentsInfo where
  key : Option String := none
  name : Option String := none
  start_dt : Option Rat := none
  end_dt : Option Rat := none
  deriving DecidableEq, Repr

/-- One reply of the user. -/
structure ReplyList where
  key : Option Int := none
  user_key : Option Int := none
  user_name : Option String := none
  reply_text : Option String := none
  reply_status : Option String := none
  mod_date : Option Rat := none
  contents_info : Option ReplyContentsInfo := none
  deriving DecidableEq, Repr

/-- One downloaded file of the local database. -/
structure RealmMyDownloadFile where
  key : String := ""
  name : Option String := none
  type : ContentType := .performance
  image_url : Option String := none
  type_badge_url : Option String := none
  event_badge_url : Option String := none
  start_dt : Option Rat := none
  end_dt : Option Rat := none
  adult_yn : AdultType := .N
  allDownloadFilesByte : Int := 0
  downloadStatus : DownloadItemStatus := .ready
  createDate : Option Date := none
  downloadable : Contain3DContentType := .N
  visible_yn : Option String := none
  deriving DecidableEq, Repr

/-- What one row of the table shows. -/
structure CompactCellItem where
  key : Option String
  name : Option String
  type : Option ContentType
  image_url : Option String
  playtime : Option String
  req_date : Option Rat
  visible_yn : Option String
  type_badge_url : Option String
  event_badge_url : Option String
  start_dt : Option Rat
  end_dt : Option Rat
  adult_yn : Option AdultType
  downloadable : Option Contain3DContentType
  downloadStatus : Option DownloadItemStatus
  reply_text : Option String
  mod_date : Option Rat
  contents_info : Option ReplyContentsInfo
  allDownloadFilesByte : Option Int
  deriving DecidableEq, Repr

namespace CompactCellItem

/-- `init(recentlyLike:)` -/
def ofRecentlyLike (recentlyLike : RecentlyLikeList) : CompactCellItem where
  key := some (toString (recentlyLike.key.getD (-1)))
  name := recentlyLike.name
  type := recentlyLike.type
  image_url := recentlyLike.image_url
  playtime := recentlyLike.playtime
  req_date := recentlyLike.req_date
  visible_yn := recentlyLike.visible_yn
  type_badge_url := recentlyLike.type_badge_url
  event_badge_url := recentlyLike.event_badge_url
  start_dt := recentlyLike.start_dt
  end_dt := recentlyLike.end_dt
  adult_yn := recentlyLike.adult_yn
  downloadable := recentlyLike.downloadable
  downloadStatus := none
  reply_text := none
  mod_date := none
  contents_info := none
  allDownloadFilesByte := none

/-- `init(download:)` -/
def ofDownload (download : RealmMyDownloadFile) : CompactCellItem where
  key := some download.key
  name := download.name
  type := some download.type
  image_url := download.image_url
  playtime := none
  req_date := none
  visible_yn := download.visible_yn
  type_badge_url := download.type_badge_url
  event_badge_url := download.event_badge_url
  start_dt := download.start_dt
  end_dt := download.end_dt
  adult_yn := some download.adult_yn
  downloadable := some download.downloadable
  downloadStatus := some download.downloadStatus
  reply_text := none
  mod_date := none
  contents_info := none
  allDownloadFilesByte := some download.allDownloadFilesByte

/-- `init(reply:)` -/
def ofReply (reply : ReplyList) : CompactCellItem where
  key := some (toString (reply.key.getD (-1)))
  name := none
  type := none
  image_url := none
  playtime := none
  req_date := none
  visible_yn := none
  type_badge_url := none
  event_badge_url := none
  start_dt := none
  end_dt := none
  adult_yn := none
  downloadable := none
  downloadStatus := none
  reply_text := reply.reply_text
  mod_date := reply.mod_date
  contents_info := reply.contents_info
  allDownloadFilesByte := none

end CompactCellItem

end Activity
