import Mathlib.Data.Rat.Defs
import Mathlib.Algebra.Order.Ring.Rat
import Mathlib.Logic.Function.Basic

/-!
# The inline video player

`ARVideoPlayerController` plays the videos of the cells of a scrolled list.  It keeps
one container for each url in a cache, and for each url whether it observes the player
item of that container.  `playVideo` takes effect at once and again in a block on the
main queue; `pauseVideo` and the removal of a layer take effect at once.

Layers and player items are names.  A container's player has the container's item as
its current item, as the block that caches it puts it there.
-/

namespace VideoPlayer

structure ARVideoContainer where
  url : String
  playOn : Bool := false
  playerItem : ℕ
  deriving DecidableEq, Repr

/-- A block on the main queue. -/
inductive VideoBlock
  /-- The block of `setupVideoFor`, with the item it was posted with. -/
  | setup (url : String) (item : ℕ)
  /-- The block of `playVideo`. -/
  | play (url : String)
  deriving DecidableEq, Repr

/-- The controller.  `observers` counts the observers each item carries, `readyToPlay`
is the status of the items, `loading` are the urls whose assets are being loaded.  A
removal of an observer that is not there ends the process: `crashed`.  `played` records
the urls that were played and neither paused nor removed since. -/
structure ARVideoPlayerController where
  videoURL : Option String := none
  currentLayer : Option ℕ := none
  observingURLs : String → Option Bool := fun _ => none
  videoCache : String → Option ARVideoContainer := fun _ => none
  observers : ℕ → ℕ := fun _ => 0
  readyToPlay : ℕ → Bool := fun _ => false
  mainQueue : List VideoBlock := []
  loading : List String := []
  nextItem : ℕ := 0
  crashed : Bool := false
  played : List String := []

/-- A visible cell: `ARAutoPlayVideoLayerContainer` with the size of its layer. -/
structure VideoCell where
  videoURL : Option String
  videoLayer : ℕ
  layerWidth : ℚ
  layerHeight : ℚ
  visibleVideoSize : ℚ
  deriving DecidableEq, Repr

namespace ARVideoPlayerController

def minimumLayerHeightToPlay : ℚ := 60

/-- `videoContainer.playOn = playOn` for the container cached for `url`. -/
def setPlayOn (s : ARVideoPlayerController) (url : String) (playOn : Bool) :
    ARVideoPlayerController :=
  { s with
    videoCache := Function.update s.videoCache url
      ((s.videoCache url).map fun container => { container with playOn := playOn }) }

def addObservers (s : ARVideoPlayerController) (url : String)
    (videoContainer : ARVideoContainer) : ARVideoPlayerController :=
  if s.observingURLs url = some true then s
  else
    { s with
      observers := Function.update s.observers videoContainer.playerItem
        (s.observers videoContainer.playerItem + 1)
      observingURLs := Function.update s.observingURLs url (some true) }

def removeObserverFor (s : ARVideoPlayerController) (url : String) : ARVideoPlayerController :=
  match s.videoCache url with
  | none => s
  | some videoContainer =>
      if s.observingURLs url = some true then
        if s.observers videoContainer.playerItem = 0 then { s with crashed := true }
        else
          { s with
            observers := Function.update s.observers videoContainer.playerItem
              (s.observers videoContainer.playerItem - 1)
            observingURLs := Function.update s.observingURLs url (some false) }
      else s

def playVideo (s : ARVideoPlayerController) (layer : ℕ) (url : String) :
    ARVideoPlayerController :=
  let s := { s with
    videoURL := some url
    currentLayer := some layer
    played := url :: s.played.filter (· ≠ url) }
  let s := match s.videoCache url with
    | some videoContainer => (s.setPlayOn url true).addObservers url videoContainer
    | none => s
  { s with mainQueue := s.mainQueue ++ [.play url] }

def pauseVideo (s : ARVideoPlayerController) (url : String) : ARVideoPlayerController :=
  let s := { s with
    videoURL := none
    currentLayer := none
    played := s.played.filter (· ≠ url) }
  (s.setPlayOn url false).removeObserverFor url

/-- What `pauseVideo` does, and the layer loses its player. -/
def removeFromSuperLayer (s : ARVideoPlayerController) (url : String) :
    ARVideoPlayerController := s.pauseVideo url

def removeLayerFor (s : ARVideoPlayerController) (cell : VideoCell) : ARVideoPlayerController :=
  match cell.videoURL with
  | some url => s.removeFromSuperLayer url
  | none => s

/-- The cache's delegate: an object is about to leave the cache. -/
def willEvictObject (s : ARVideoPlayerController) (videoObject : ARVideoContainer) :
    ARVideoPlayerController :=
  { s with observingURLs := Function.update s.observingURLs videoObject.url (some false) }

/-- An object leaves the cache: by an eviction, or because another one is cached for
its url. -/
def leaveCache (s : ARVideoPlayerController) (url : String) : ARVideoPlayerController :=
  match s.videoCache url with
  | some videoContainer =>
      { s.willEvictObject videoContainer with
        videoCache := Function.update s.videoCache url none }
  | none => s

/-- `videoCache.setObject(videoContainer, forKey: url)`. -/
def setObject (s : ARVideoPlayerController) (videoContainer : ARVideoContainer) (url : String) :
    ARVideoPlayerController :=
  let s := s.leaveCache url
  { s with videoCache := Function.update s.videoCache url (some videoContainer) }

/-- The block of `setupVideoFor`. -/
def setupBlock (s : ARVideoPlayerController) (url : String) (item : ℕ) :
    ARVideoPlayerController :=
  let s := s.setObject { url := url, playerItem := item } url
  if s.videoURL = some url then
    match s.currentLayer with
    | some layer => s.playVideo layer url
    | none => s
  else s

/-- The block of `playVideo`. -/
def playBlock (s : ARVideoPlayerController) (url : String) : ARVideoPlayerController :=
  match s.videoCache url with
  | some videoContainer =>
      if s.readyToPlay videoContainer.playerItem then s.setPlayOn url true else s
  | none => s

/-- The main queue runs the block posted first. -/
def runBlock (s : ARVideoPlayerController) : Option ARVideoPlayerController :=
  match s.mainQueue with
  | [] => none
  | .setup url item :: mainQueue => some (setupBlock { s with mainQueue := mainQueue } url item)
  | .play url :: mainQueue => some (playBlock { s with mainQueue := mainQueue } url)

/-- The completion of an asset's loading posts the block with a new item. -/
def assetLoaded (s : ARVideoPlayerController) (url : String) (playable : Bool) :
    ARVideoPlayerController :=
  let s := { s with loading := s.loading.erase url }
  if playable then
    { s with
      nextItem := s.nextItem + 1
      mainQueue := s.mainQueue ++ [.setup url s.nextItem] }
  else s

section Scrolling

variable (isURL : String → Bool)

/-- `isURL` tells the texts `URL(string:)` takes. -/
def setupVideoFor (s : ARVideoPlayerController) (url : String) : ARVideoPlayerController :=
  if (s.videoCache url).isSome then s
  else if isURL url then { s with loading := s.loading ++ [url] }
  else s

/-- One round of the loop over the visible cells: the largest cell so far, and a pause
for every cell with a video. -/
def visitCell (loop : ARVideoPlayerController × ℚ × Option VideoCell) (cell : VideoCell) :
    ARVideoPlayerController × ℚ × Option VideoCell :=
  match cell.videoURL with
  | none => loop
  | some url =>
      let (s, maxSize, videoCell) := loop
      if maxSize < cell.visibleVideoSize then
        (s.pauseVideo url, cell.visibleVideoSize, some cell)
      else (s.pauseVideo url, maxSize, videoCell)

/-- The scroll callbacks: pause every visible video, then play the largest one where
`isShown` finds enough of it on the screen. -/
def pauseAndPlay (isShown : VideoCell → ℚ → Bool) (s : ARVideoPlayerController)
    (visibleCells : List VideoCell) (appEnteredFromBackground : Bool) :
    ARVideoPlayerController :=
  let (s, maxSize, videoCellContainer) := visibleCells.foldl visitCell (s, 0, none)
  match videoCellContainer with
  | none => s
  | some videoCell =>
      match videoCell.videoURL with
      | none => s
      | some videoCellURL =>
          if isShown videoCell maxSize then
            let s := if appEnteredFromBackground then s.setupVideoFor isURL videoCellURL else s
            s.playVideo videoCell.videoLayer videoCellURL
          else s

/-- For table views and collection views alike. -/
def pausePlayerVideosFor (s : ARVideoPlayerController) (visibleCells : List VideoCell)
    (appEnteredFromBackground : Bool) : ARVideoPlayerController :=
  pauseAndPlay isURL
    (fun videoCell maxHeight =>
      decide (max (videoCell.layerHeight * (1 / 2)) minimumLayerHeightToPlay < maxHeight))
    s visibleCells appEnteredFromBackground

def pausePlayerVideosForPaging (s : ARVideoPlayerController) (visibleCells : List VideoCell)
    (appEnteredFromBackground : Bool) : ARVideoPlayerController :=
  pauseAndPlay isURL (fun videoCell maxWidth => decide (maxWidth = videoCell.layerWidth))
    s visibleCells appEnteredFromBackground

end Scrolling

section Frame

variable (s : ARVideoPlayerController) (url : String)

/-- The item cached for a url. -/
def cachedItem (s : ARVideoPlayerController) (url : String) : Option ℕ :=
  (s.videoCache url).map ARVideoContainer.playerItem

/-- The container cached for a url has `playOn` set. -/
def playsOn (s : ARVideoPlayerController) (url : String) : Bool :=
  (s.videoCache url).any ARVideoContainer.playOn

@[simp] theorem setPlayOn_cachedItem (playOn : Bool) :
    (s.setPlayOn url playOn).cachedItem = s.cachedItem := by
  funext other
  by_cases h : other = url
  · subst h
    simp [cachedItem, setPlayOn, Function.comp_def]
  · simp [cachedItem, setPlayOn, Function.update_of_ne h]

/-- Only the video of the url is switched, and only if it is in the cache. -/
theorem setPlayOn_playsOn (playOn : Bool) (other : String) :
    (s.setPlayOn url playOn).playsOn other =
      if other = url then (s.cachedItem url).isSome && playOn else s.playsOn other := by
  by_cases h : other = url
  · subst h
    cases hc : s.videoCache other <;> simp [playsOn, cachedItem, setPlayOn, hc]
  · simp [playsOn, setPlayOn, h]

/-- Switching a video keeps every container under its own url. -/
theorem setPlayOn_ownURL {playOn : Bool}
    (h : ∀ other videoContainer, s.videoCache other = some videoContainer →
      videoContainer.url = other) (other : String) (videoContainer : ARVideoContainer)
    (hc : (s.setPlayOn url playOn).videoCache other = some videoContainer) :
    videoContainer.url = other := by
  by_cases heq : other = url
  · subst heq
    simp only [setPlayOn, Function.update_self, Option.map_eq_some_iff] at hc
    obtain ⟨before, hbefore, rfl⟩ := hc
    exact h other before hbefore
  · simp only [setPlayOn, Function.update_of_ne heq] at hc
    exact h other videoContainer hc

/-- Adding an observer changes nothing but the observers and their record. -/
theorem addObservers_eq (videoContainer : ARVideoContainer) :
    ∃ observers observingURLs, s.addObservers url videoContainer =
      { s with observers := observers, observingURLs := observingURLs } := by
  unfold addObservers
  split
  · exact ⟨_, _, rfl⟩
  · exact ⟨_, _, rfl⟩

/-- Nor does removing one, unless it crashes. -/
theorem removeObserverFor_eq :
    ∃ observers observingURLs crashed, s.removeObserverFor url =
      { s with
        observers := observers
        observingURLs := observingURLs
        crashed := crashed } := by
  unfold removeObserverFor
  split
  · exact ⟨_, _, _, rfl⟩
  · split
    · split <;> exact ⟨_, _, _, rfl⟩
    · exact ⟨_, _, _, rfl⟩

/-- A pause, up to the observers. -/
theorem pauseVideo_eq :
    ∃ observers observingURLs crashed, s.pauseVideo url =
      { s with
        videoURL := none
        currentLayer := none
        played := s.played.filter (· ≠ url)
        videoCache := (s.setPlayOn url false).videoCache
        observers := observers
        observingURLs := observingURLs
        crashed := crashed } := by
  obtain ⟨observers, observingURLs, crashed, h⟩ := removeObserverFor_eq
    (setPlayOn { s with
      videoURL := none
      currentLayer := none
      played := s.played.filter (· ≠ url) } url false) url
  exact ⟨observers, observingURLs, crashed, h⟩

/-- Playing a video, up to the observers. -/
theorem playVideo_eq (layer : ℕ) :
    ∃ observers observingURLs, s.playVideo layer url =
      { s with
        videoURL := some url
        currentLayer := some layer
        played := url :: s.played.filter (· ≠ url)
        videoCache := (s.setPlayOn url true).videoCache
        mainQueue := s.mainQueue ++ [.play url]
        observers := observers
        observingURLs := observingURLs } := by
  unfold playVideo
  dsimp only
  split
  · next videoContainer _ =>
      obtain ⟨observers, observingURLs, h⟩ := addObservers_eq
        (setPlayOn { s with
          videoURL := some url
          currentLayer := some layer
          played := url :: s.played.filter (· ≠ url) } url true) url videoContainer
      exact ⟨observers, observingURLs, by rw [h]; rfl⟩
  · next hnone =>
      have hcache : (s.setPlayOn url true).videoCache = s.videoCache := by
        simp [setPlayOn, hnone]
      exact ⟨_, _, by rw [hcache]⟩

end Frame

end ARVideoPlayerController

end VideoPlayer
