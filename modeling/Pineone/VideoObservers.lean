import Pineone.Runs
import Pineone.VideoPlayer
import Mathlib.Data.List.Nodup

/-!
# The observers of the video player

`observingURLs` records by url what is registered at a player item, and the items are
replaced and evicted by the cache on its own; its delegate only clears the record.

* `observers_paired_iff`: the record and the registered observers agree exactly as long
  as no container leaves the cache while its url is observed.
-/

namespace VideoPlayer

open Runs

inductive VideoEvent
  | setupVideoFor (url : String)
  /-- The loading of an asset ends. -/
  | assetLoaded (url : String) (playable : Bool)
  | playVideo (layer : ℕ) (url : String)
  | pauseVideo (url : String)
  | removeLayerFor (cell : VideoCell)
  /-- The cache evicts the container of a url. -/
  | evict (url : String)
  /-- An item becomes ready to play. -/
  | itemReady (item : ℕ)
  | runBlock
  deriving DecidableEq, Repr

namespace ARVideoPlayerController

def perform (isURL : String → Bool) (s : ARVideoPlayerController) :
    VideoEvent → Option ARVideoPlayerController
  | .setupVideoFor url => some (s.setupVideoFor isURL url)
  | .assetLoaded url playable =>
      if url ∈ s.loading then some (s.assetLoaded url playable) else none
  | .playVideo layer url => some (s.playVideo layer url)
  | .pauseVideo url => some (s.pauseVideo url)
  | .removeLayerFor cell => some (s.removeLayerFor cell)
  | .evict url => if (s.videoCache url).isSome then some (s.leaveCache url) else none
  | .itemReady item => some { s with readyToPlay := Function.update s.readyToPlay item true }
  | .runBlock => s.runBlock

/-- A controller that has crashed does nothing any more. -/
def step (isURL : String → Bool) (s : ARVideoPlayerController) (e : VideoEvent) :
    Option ARVideoPlayerController :=
  if s.crashed then none else s.perform isURL e

/-- A url is observed exactly if its cached item carries one observer; no item carries
two, no item outside the cache carries any, and none was removed that was not there. -/
structure ObserversPaired (s : ARVideoPlayerController) : Prop where
  observing : ∀ url, s.observingURLs url = some true ↔
    ∃ item ∈ s.cachedItem url, s.observers item = 1
  once : ∀ item, s.observers item ≤ 1
  cached : ∀ item, s.observers item ≠ 0 → ∃ url, s.cachedItem url = some item
  running : s.crashed = false

/-- A container leaves the cache, evicted or replaced by the block of `setupVideoFor`,
only while its url is not observed. -/
def LeavesUnobserved (s : ARVideoPlayerController) (e : VideoEvent)
    (_ : ARVideoPlayerController) : Prop :=
  match e with
  | .evict url => s.observingURLs url ≠ some true
  | .runBlock => ∀ url item, s.mainQueue.head? = some (.setup url item) →
      (s.cachedItem url).isSome → s.observingURLs url ≠ some true
  | _ => True

/-- The items waiting to be cached. -/
def waitingItems (s : ARVideoPlayerController) : List ℕ :=
  s.mainQueue.filterMap fun
    | .setup _ item => some item
    | .play _ => none

/-- Every item belongs to one url or waits to be cached, and containers are cached for
their own url. -/
structure Owned (s : ARVideoPlayerController) : Prop where
  ownURL : ∀ url videoContainer, s.videoCache url = some videoContainer →
    videoContainer.url = url
  ownItem : ∀ url other item, s.cachedItem url = some item → s.cachedItem other = some item →
    url = other
  old : ∀ url item, s.cachedItem url = some item → item < s.nextItem
  waiting : ∀ item ∈ s.waitingItems, item < s.nextItem ∧ ∀ url, s.cachedItem url ≠ some item
  nodup : s.waitingItems.Nodup

variable {isURL : String → Bool} {s t : ARVideoPlayerController} {e : VideoEvent} {url : String}
  {item : ℕ}

/-- The item of a url is that of the container in the cache. -/
theorem cachedItem_of_cached {videoContainer : ARVideoContainer}
    (hcached : s.videoCache url = some videoContainer) :
    s.cachedItem url = some videoContainer.playerItem := by
  rw [cachedItem, hcached, Option.map_some]

section Pairing

/-- The pairing speaks of the cached items, the marks, the observers and the crash only, so a
step that leaves these four keeps it. -/
theorem ObserversPaired.congr (h : s.ObserversPaired) (hitem : t.cachedItem = s.cachedItem)
    (hobserving : t.observingURLs = s.observingURLs) (hobservers : t.observers = s.observers)
    (hcrashed : t.crashed = s.crashed) : t.ObserversPaired := by
  refine ⟨?_, ?_, ?_, hcrashed.trans h.running⟩
  · rw [hitem, hobserving, hobservers]
    exact h.observing
  · rw [hobservers]
    exact h.once
  · rw [hitem, hobservers]
    exact h.cached

/-- An observed url's item carries exactly one observer. -/
theorem ObserversPaired.observers_eq_one (h : s.ObserversPaired)
    (hitem : s.cachedItem url = some item) (hobserving : s.observingURLs url = some true) :
    s.observers item = 1 := by
  obtain ⟨other, hother, hone⟩ := (h.observing url).mp hobserving
  rw [hitem] at hother
  obtain rfl := Option.some.inj hother
  exact hone

/-- The cached item of a url that is not observed carries none. -/
theorem ObserversPaired.observers_eq_zero (h : s.ObserversPaired)
    (hitem : s.cachedItem url = some item) (hobserving : s.observingURLs url ≠ some true) :
    s.observers item = 0 := by
  have hone : s.observers item ≠ 1 :=
    fun hone => hobserving ((h.observing url).mpr ⟨item, hitem, hone⟩)
  have := h.once item
  omega

/-- The observers of one url's item may change together with the record of that url. -/
theorem ObserversPaired.update (h : s.ObserversPaired) (ho : s.Owned)
    (hitem : s.cachedItem url = some item) {n : ℕ} (hn : n ≤ 1) {observed : Bool}
    (hobserved : observed = true ↔ n = 1) :
    ObserversPaired { s with
      observers := Function.update s.observers item n
      observingURLs := Function.update s.observingURLs url (some observed) } := by
  refine ⟨fun other => ?_, fun other => ?_, fun other hother => ?_, h.running⟩
  · show Function.update s.observingURLs url (some observed) other = some true ↔
      ∃ i ∈ s.cachedItem other, Function.update s.observers item n i = 1
    by_cases heq : other = url
    · subst heq
      rw [Function.update_self, hitem]
      simp [hobserved]
    · rw [Function.update_of_ne heq, h.observing other]
      refine exists_congr fun i => and_congr_right fun hi => ?_
      have hne : i ≠ item := by
        rintro rfl
        exact heq (ho.ownItem other url i hi hitem)
      rw [Function.update_of_ne hne]
  · show Function.update s.observers item n other ≤ 1
    by_cases heq : other = item
    · subst heq
      rwa [Function.update_self]
    · rw [Function.update_of_ne heq]
      exact h.once other
  · by_cases heq : other = item
    · subst heq
      exact ⟨url, hitem⟩
    · exact h.cached other (by simpa [Function.update_of_ne heq] using hother)

/-- Observers are added if the url is not marked, and then its item carries none yet; the
mark and the observer come together. -/
theorem ObserversPaired.addObservers (h : s.ObserversPaired) (ho : s.Owned)
    {videoContainer : ARVideoContainer}
    (hitem : s.cachedItem url = some videoContainer.playerItem) :
    (s.addObservers url videoContainer).ObserversPaired := by
  unfold ARVideoPlayerController.addObservers
  split
  · exact h
  · next hobserving =>
      rw [h.observers_eq_zero hitem hobserving]
      exact h.update ho hitem (Nat.le_refl 1) (iff_of_true rfl rfl)

/-- The observer that is removed is there: a marked url has its item in the cache, with one
observer. -/
theorem ObserversPaired.removeObserverFor (h : s.ObserversPaired) (ho : s.Owned) (url : String) :
    (s.removeObserverFor url).ObserversPaired := by
  unfold ARVideoPlayerController.removeObserverFor
  split
  · exact h
  · next videoContainer hcached =>
      have hitem := cachedItem_of_cached hcached
      split
      · next hobserving =>
          rw [h.observers_eq_one hitem hobserving]
          exact h.update ho hitem (Nat.zero_le 1) (by decide)
      · exact h

end Pairing

section Ownership

/-- Nothing moves between urls, items and the queue. -/
theorem Owned.of_frame (h : s.Owned)
    (hurl : ∀ url videoContainer, t.videoCache url = some videoContainer →
      videoContainer.url = url)
    (hitem : t.cachedItem = s.cachedItem) (hnext : t.nextItem = s.nextItem)
    (hwaiting : t.waitingItems = s.waitingItems) : t.Owned := by
  refine ⟨hurl, ?_, ?_, ?_, ?_⟩
  · rw [hitem]
    exact h.ownItem
  · rw [hitem, hnext]
    exact h.old
  · rw [hitem, hnext, hwaiting]
    exact h.waiting
  · rw [hwaiting]
    exact h.nodup

/-- Whether a video plays is of no concern to whose item it is. -/
theorem Owned.setPlayOn (h : s.Owned) (url : String) (playOn : Bool) :
    (s.setPlayOn url playOn).Owned :=
  h.of_frame (setPlayOn_ownURL s url h.ownURL) (setPlayOn_cachedItem s url playOn) rfl rfl

/-- To play a video changes the observers and what plays, and no item in the cache. -/
theorem Owned.playVideo (h : s.Owned) (layer : ℕ) (url : String) :
    (s.playVideo layer url).Owned := by
  obtain ⟨_, _, hplay⟩ := playVideo_eq s url layer
  rw [hplay]
  refine h.of_frame (setPlayOn_ownURL s url h.ownURL) (setPlayOn_cachedItem s url true) rfl ?_
  simp [waitingItems]

/-- To pause a video changes the observers and what plays, and no item in the cache. -/
theorem Owned.pauseVideo (h : s.Owned) (url : String) : (s.pauseVideo url).Owned := by
  obtain ⟨_, _, _, hpause⟩ := pauseVideo_eq s url
  rw [hpause]
  exact h.of_frame (setPlayOn_ownURL s url h.ownURL) (setPlayOn_cachedItem s url false) rfl rfl

/-- The url that leaves the cache has no item any more, and the others keep theirs. -/
theorem leaveCache_cachedItem (s : ARVideoPlayerController) (url other : String) :
    (s.leaveCache url).cachedItem other =
      if other = url then none else s.cachedItem other := by
  unfold leaveCache
  split
  · by_cases heq : other = url
    · subst heq
      simp [cachedItem]
    · simp [cachedItem, heq]
  · next hnone =>
      by_cases heq : other = url
      · subst heq
        simp [cachedItem, hnone]
      · rw [if_neg heq]

/-- What is still cached after a url has left was cached before, under another url. -/
theorem leaveCache_videoCache (s : ARVideoPlayerController) (url other : String)
    (videoContainer : ARVideoContainer)
    (hc : (s.leaveCache url).videoCache other = some videoContainer) :
    other ≠ url ∧ s.videoCache other = some videoContainer := by
  unfold leaveCache at hc
  split at hc
  · by_cases heq : other = url
    · subst heq
      simp at hc
    · exact ⟨heq, by simpa [Function.update_of_ne heq, willEvictObject] using hc⟩
  · next hnone =>
      refine ⟨?_, hc⟩
      rintro rfl
      rw [hnone] at hc
      cases hc

/-- The cache's delegate unmarks the url and touches no observer. That is how the observer of
an evicted item is left over. -/
theorem leaveCache_frame (s : ARVideoPlayerController) (url : String) :
    (s.leaveCache url).nextItem = s.nextItem ∧ (s.leaveCache url).mainQueue = s.mainQueue ∧
      (s.leaveCache url).observers = s.observers ∧ (s.leaveCache url).crashed = s.crashed := by
  unfold leaveCache
  split <;> exact ⟨rfl, rfl, rfl, rfl⟩

/-- Items stay where they belong when one of them is evicted. -/
theorem Owned.leaveCache (h : s.Owned) (url : String) : (s.leaveCache url).Owned := by
  obtain ⟨hnext, hmain, -, -⟩ := leaveCache_frame s url
  have hwaiting : (s.leaveCache url).waitingItems = s.waitingItems := by
    rw [waitingItems, hmain, waitingItems]
  have hitem : ∀ other item, (s.leaveCache url).cachedItem other = some item →
      s.cachedItem other = some item := by
    intro other item hother
    rw [leaveCache_cachedItem] at hother
    split at hother
    · cases hother
    · exact hother
  refine ⟨?_, ?_, ?_, ?_, ?_⟩
  · exact fun other videoContainer hc =>
      h.ownURL other videoContainer (leaveCache_videoCache s url other videoContainer hc).2
  · exact fun first second item hfirst hsecond =>
      h.ownItem first second item (hitem first item hfirst) (hitem second item hsecond)
  · rw [hnext]
    exact fun other item hother => h.old other item (hitem other item hother)
  · rw [hwaiting, hnext]
    intro item hmem
    obtain ⟨hold, hnot⟩ := h.waiting item hmem
    exact ⟨hold, fun other hother => hnot other (hitem other item hother)⟩
  · rw [hwaiting]
    exact h.nodup

/-- The url now has the item of the new container, and the others keep theirs. -/
theorem setObject_cachedItem (s : ARVideoPlayerController) (url other : String)
    (videoContainer : ARVideoContainer) :
    (s.setObject videoContainer url).cachedItem other =
      if other = url then some videoContainer.playerItem else s.cachedItem other := by
  by_cases heq : other = url
  · subst heq
    simp [setObject, cachedItem]
  · have hleave := leaveCache_cachedItem s url other
    rw [if_neg heq] at hleave ⊢
    rw [← hleave]
    simp [setObject, cachedItem, heq]

/-- An item is new: it is in no cache entry and does not wait for one. -/
structure New (s : ARVideoPlayerController) (item : ℕ) : Prop where
  old : item < s.nextItem
  notCached : ∀ url, s.cachedItem url ≠ some item
  notWaiting : item ∉ s.waitingItems

/-- Nothing is registered at an item that is not cached. -/
theorem ObserversPaired.observers_new (h : s.ObserversPaired) (hnew : s.New item) :
    s.observers item = 0 := by
  by_contra hcarries
  obtain ⟨other, hother⟩ := h.cached item hcarries
  exact hnew.notCached other hother

/-- A new item in the cache belongs to its url alone. -/
theorem Owned.setObject (h : s.Owned) (hnew : s.New item) (url : String) :
    (s.setObject { url := url, playerItem := item } url).Owned := by
  have hleave := h.leaveCache url
  obtain ⟨hnext, hmain, -, -⟩ := leaveCache_frame s url
  have hwaiting : (s.setObject { url := url, playerItem := item } url).waitingItems =
      s.waitingItems := by
    show (s.leaveCache url).mainQueue.filterMap _ = s.mainQueue.filterMap _
    rw [hmain]
  refine ⟨?_, ?_, ?_, ?_, ?_⟩
  · intro other videoContainer hc
    by_cases heq : other = url
    · subst heq
      simp only [ARVideoPlayerController.setObject, Function.update_self,
        Option.some.injEq] at hc
      rw [← hc]
    · simp only [ARVideoPlayerController.setObject, Function.update_of_ne heq] at hc
      exact hleave.ownURL other videoContainer hc
  · intro first second other hfirst hsecond
    rw [setObject_cachedItem] at hfirst hsecond
    split at hfirst <;> split at hsecond
    · next hone htwo => exact hone.trans htwo.symm
    · exact absurd (hsecond.trans hfirst.symm) (hnew.notCached second)
    · exact absurd (hfirst.trans hsecond.symm) (hnew.notCached first)
    · exact h.ownItem first second other hfirst hsecond
  · intro other i hother
    show i < (s.leaveCache url).nextItem
    rw [hnext]
    rw [setObject_cachedItem] at hother
    split at hother
    · obtain rfl := Option.some.inj hother
      exact hnew.old
    · exact h.old other i hother
  · rw [hwaiting]
    intro i hi
    obtain ⟨hold, hnot⟩ := h.waiting i hi
    refine ⟨hnext.symm ▸ hold, fun other hother => ?_⟩
    rw [setObject_cachedItem] at hother
    split at hother
    · obtain rfl := Option.some.inj hother
      exact hnew.notWaiting hi
    · exact hnot other hother
  · rw [hwaiting]
    exact h.nodup

/-- The block of `setupVideoFor` caches its container, and plays it if its url was asked for
meanwhile on a layer that is still the current one. -/
theorem setupBlock_cases (s : ARVideoPlayerController) (url : String) (item : ℕ) :
    s.setupBlock url item = s.setObject { url := url, playerItem := item } url ∨
      ∃ layer, s.setupBlock url item =
        (s.setObject { url := url, playerItem := item } url).playVideo layer url := by
  unfold setupBlock
  dsimp only
  split
  · split
    · next layer _ => exact Or.inr ⟨layer, rfl⟩
    · exact Or.inl rfl
  · exact Or.inl rfl

/-- The block that runs next, and the state it runs in. -/
theorem runBlock_cases (hrun : s.runBlock = some t) :
    ∃ mainQueue, (∃ url item, s.mainQueue = .setup url item :: mainQueue ∧
        t = setupBlock { s with mainQueue := mainQueue } url item) ∨
      ∃ url, s.mainQueue = .play url :: mainQueue ∧
        t = playBlock { s with mainQueue := mainQueue } url := by
  unfold runBlock at hrun
  split at hrun
  · cases hrun
  · next url item mainQueue hmain =>
      exact ⟨mainQueue, Or.inl ⟨url, item, hmain, (Option.some.inj hrun).symm⟩⟩
  · next url mainQueue hmain =>
      exact ⟨mainQueue, Or.inr ⟨url, hmain, (Option.some.inj hrun).symm⟩⟩

/-- The block of `playVideo` plays the video of the url if the item in the cache is ready,
and does nothing else. -/
theorem playBlock_cases (s : ARVideoPlayerController) (url : String) :
    s.playBlock url = s ∨ s.playBlock url = s.setPlayOn url true := by
  unfold playBlock
  split
  · split
    · exact Or.inr rfl
    · exact Or.inl rfl
  · exact Or.inl rfl

/-- The item of a block that runs is new. -/
theorem Owned.new_of_head (h : s.Owned) {mainQueue : List VideoBlock}
    (hmain : s.mainQueue = .setup url item :: mainQueue) :
    Owned { s with mainQueue := mainQueue } ∧ New { s with mainQueue := mainQueue } item := by
  have hwaiting : s.waitingItems =
      item :: waitingItems { s with mainQueue := mainQueue } := by
    simp [waitingItems, hmain]
  have hnodup := h.nodup
  rw [hwaiting, List.nodup_cons] at hnodup
  obtain ⟨hold, hnot⟩ := h.waiting item (by simp [hwaiting])
  refine ⟨⟨h.ownURL, h.ownItem, h.old, fun i hi => ?_, hnodup.2⟩, hold, hnot, hnodup.1⟩
  exact h.waiting i (by rw [hwaiting]; exact List.mem_cons_of_mem _ hi)

/-- The item of a loaded asset waits to be cached, and is younger than all others. -/
theorem Owned.assetLoaded (h : s.Owned) (url : String) (playable : Bool) :
    (s.assetLoaded url playable).Owned := by
  cases playable with
  | false => exact h.of_frame h.ownURL rfl rfl rfl
  | true =>
      have hwaiting : (s.assetLoaded url true).waitingItems =
          s.waitingItems ++ [s.nextItem] := by
        simp [ARVideoPlayerController.assetLoaded, waitingItems]
      refine ⟨h.ownURL, h.ownItem, ?_, ?_, ?_⟩
      · exact fun other item hother => Nat.lt_succ_of_lt (h.old other item hother)
      · rw [hwaiting]
        intro item hitem
        rcases List.mem_append.mp hitem with hold | hnew
        · exact ⟨Nat.lt_succ_of_lt (h.waiting item hold).1, (h.waiting item hold).2⟩
        · obtain rfl := List.mem_singleton.mp hnew
          exact ⟨Nat.lt_succ_self _,
            fun other hother => Nat.lt_irrefl _ (h.old other _ hother)⟩
      · rw [hwaiting]
        refine List.nodup_append.mpr ⟨h.nodup, List.nodup_singleton _, ?_⟩
        intro item hitem other hother heq
        have hlt := (h.waiting item hitem).1
        rw [heq, List.mem_singleton.mp hother] at hlt
        exact Nat.lt_irrefl _ hlt

/-- Whichever block runs next. -/
theorem Owned.runBlock (h : s.Owned) (hrun : s.runBlock = some t) : t.Owned := by
  obtain ⟨mainQueue, ⟨url, item, hmain, rfl⟩ | ⟨url, hmain, rfl⟩⟩ := runBlock_cases hrun
  · obtain ⟨howned, hnew⟩ := h.new_of_head hmain
    have hobject := howned.setObject hnew url
    rcases setupBlock_cases { s with mainQueue := mainQueue } url item with hset | ⟨layer, hplay⟩
    · rwa [hset]
    · rw [hplay]
      exact hobject.playVideo layer url
  · have hrest : Owned { s with mainQueue := mainQueue } :=
      h.of_frame h.ownURL rfl rfl (by simp [waitingItems, hmain])
    rcases playBlock_cases { s with mainQueue := mainQueue } url with hsame | hplay
    · rwa [hsame]
    · rw [hplay]
      exact hrest.setPlayOn url true

/-- Every event keeps the items where they belong. A new item is made by `setupVideoFor` and
waits in its block until the cache takes it. -/
theorem Owned.perform (h : s.Owned) (hstep : s.perform isURL e = some t) : t.Owned := by
  cases e with
  | setupVideoFor url =>
      obtain rfl := Option.some.inj hstep
      unfold setupVideoFor
      split
      · exact h
      · split
        · exact h.of_frame h.ownURL rfl rfl rfl
        · exact h
  | assetLoaded url playable =>
      simp only [ARVideoPlayerController.perform] at hstep
      split at hstep
      · obtain rfl := Option.some.inj hstep
        exact h.assetLoaded url playable
      · cases hstep
  | playVideo layer url =>
      obtain rfl := Option.some.inj hstep
      exact h.playVideo layer url
  | pauseVideo url =>
      obtain rfl := Option.some.inj hstep
      exact h.pauseVideo url
  | removeLayerFor cell =>
      obtain rfl := Option.some.inj hstep
      unfold removeLayerFor
      split
      · exact h.pauseVideo _
      · exact h
  | evict url =>
      simp only [ARVideoPlayerController.perform] at hstep
      split at hstep
      · obtain rfl := Option.some.inj hstep
        exact h.leaveCache url
      · cases hstep
  | itemReady item =>
      obtain rfl := Option.some.inj hstep
      exact h.of_frame h.ownURL rfl rfl rfl
  | runBlock => exact h.runBlock hstep

end Ownership

section OneStep

/-- To play a video adds an observer and the mark for it, or neither. -/
theorem ObserversPaired.playVideo (h : s.ObserversPaired) (ho : s.Owned) (layer : ℕ)
    (url : String) : (s.playVideo layer url).ObserversPaired := by
  unfold ARVideoPlayerController.playVideo
  dsimp only
  split
  · next videoContainer hcached =>
      have hitem := cachedItem_of_cached hcached
      have hplays := setPlayOn_cachedItem s url true
      have hset : ObserversPaired (setPlayOn { s with
          videoURL := some url
          currentLayer := some layer
          played := url :: s.played.filter (· ≠ url) } url true) := h.congr hplays rfl rfl rfl
      have howned : Owned (setPlayOn { s with
          videoURL := some url
          currentLayer := some layer
          played := url :: s.played.filter (· ≠ url) } url true) :=
        ho.of_frame (setPlayOn_ownURL s url ho.ownURL) hplays rfl rfl
      exact (hset.addObservers howned ((congrFun hplays url).trans hitem)).congr rfl rfl rfl rfl
  · exact h.congr rfl rfl rfl rfl

/-- To pause a video takes the observer and the mark away together. -/
theorem ObserversPaired.pauseVideo (h : s.ObserversPaired) (ho : s.Owned) (url : String) :
    (s.pauseVideo url).ObserversPaired := by
  have hplays := setPlayOn_cachedItem s url false
  have hset : ObserversPaired (setPlayOn { s with
      videoURL := none
      currentLayer := none
      played := s.played.filter (· ≠ url) } url false) := h.congr hplays rfl rfl rfl
  have howned : Owned (setPlayOn { s with
      videoURL := none
      currentLayer := none
      played := s.played.filter (· ≠ url) } url false) :=
    ho.of_frame (setPlayOn_ownURL s url ho.ownURL) hplays rfl rfl
  exact hset.removeObserverFor howned url

/-- An unobserved container leaves the cache with its record. -/
theorem ObserversPaired.leaveCache (h : s.ObserversPaired) (ho : s.Owned)
    (hunobserved : (s.cachedItem url).isSome → s.observingURLs url ≠ some true) :
    (s.leaveCache url).ObserversPaired := by
  cases hcached : s.videoCache url with
  | none =>
      have hsame : s.leaveCache url = s := by simp [ARVideoPlayerController.leaveCache, hcached]
      rwa [hsame]
  | some videoContainer =>
      have hitem := cachedItem_of_cached hcached
      have hquiet := hunobserved (by rw [hitem]; rfl)
      obtain ⟨-, -, hobservers, hcrashed⟩ := leaveCache_frame s url
      have hrecord : (s.leaveCache url).observingURLs =
          Function.update s.observingURLs url (some false) := by
        simp [ARVideoPlayerController.leaveCache, hcached, willEvictObject,
          ho.ownURL url videoContainer hcached]
      refine ⟨fun other => ?_, ?_, fun item hcarries => ?_, hcrashed.trans h.running⟩
      · rw [leaveCache_cachedItem, hrecord, hobservers]
        by_cases heq : other = url
        · subst heq
          simp
        · rw [Function.update_of_ne heq, if_neg heq]
          exact h.observing other
      · rw [hobservers]
        exact h.once
      · rw [hobservers] at hcarries
        obtain ⟨other, hother⟩ := h.cached item hcarries
        have hne : other ≠ url := by
          rintro rfl
          exact hcarries (h.observers_eq_zero hother hquiet)
        exact ⟨other, by rw [leaveCache_cachedItem, if_neg hne, hother]⟩

/-- Caching a new item, where nothing observed leaves the cache for it. -/
theorem ObserversPaired.setObject (h : s.ObserversPaired) (ho : s.Owned) (hnew : s.New item)
    (hunobserved : (s.cachedItem url).isSome → s.observingURLs url ≠ some true) :
    (s.setObject { url := url, playerItem := item } url).ObserversPaired := by
  have hleave := h.leaveCache ho hunobserved
  obtain ⟨-, -, hobservers, -⟩ := leaveCache_frame s url
  have hfree := h.observers_new hnew
  have hitem := setObject_cachedItem s url
  refine ⟨fun other => ?_, hleave.once, fun i hcarries => ?_, hleave.running⟩
  · show (s.leaveCache url).observingURLs other = some true ↔
      ∃ i ∈ (s.setObject { url := url, playerItem := item } url).cachedItem other,
        (s.leaveCache url).observers i = 1
    rw [hleave.observing other, hitem, leaveCache_cachedItem]
    by_cases heq : other = url
    · simp [heq, hobservers, hfree]
    · rw [if_neg heq, if_neg heq]
  · have hcarries' : s.observers i ≠ 0 := hobservers ▸ hcarries
    obtain ⟨other, hother⟩ := hleave.cached i hcarries
    rw [leaveCache_cachedItem] at hother
    split at hother
    · cases hother
    · next hne => exact ⟨other, by rw [hitem, if_neg hne, hother]⟩

/-- An item outside the cache still carries an observer. -/
def Leftover (s : ARVideoPlayerController) : Prop :=
  ∃ item, s.observers item ≠ 0 ∧ ∀ url, s.cachedItem url ≠ some item

/-- An observer on an item outside the cache belongs to no url that could remove it. -/
theorem Leftover.not_paired (h : s.Leftover) : ¬ s.ObserversPaired := by
  obtain ⟨item, hcarries, hnot⟩ := h
  intro hs
  obtain ⟨url, hurl⟩ := hs.cached item hcarries
  exact hnot url hurl

/-- An observed container that leaves the cache takes its observer along. -/
theorem leftover_leaveCache (h : s.ObserversPaired) (ho : s.Owned)
    (hitem : s.cachedItem url = some item) (hobserved : s.observingURLs url = some true) :
    (s.leaveCache url).Leftover := by
  refine ⟨item, ?_, fun other hother => ?_⟩
  · rw [(leaveCache_frame s url).2.2.1, h.observers_eq_one hitem hobserved]
    exact Nat.one_ne_zero
  · rw [leaveCache_cachedItem] at hother
    split at hother
    · cases hother
    · next hne => exact hne (ho.ownItem other url item hother hitem)

/-- An observer that an eviction left over is not taken up by the container that comes in its
place, whose item is another one. -/
theorem Leftover.setObject {other : ℕ} (h : (s.leaveCache url).Leftover)
    (hfree : s.observers other = 0) :
    (s.setObject { url := url, playerItem := other } url).Leftover := by
  obtain ⟨item, hcarries, hnot⟩ := h
  refine ⟨item, hcarries, fun second hsecond => ?_⟩
  rw [setObject_cachedItem] at hsecond
  split at hsecond
  · obtain rfl := Option.some.inj hsecond
    rw [(leaveCache_frame s url).2.2.1] at hcarries
    exact hcarries hfree
  · next hne =>
      refine hnot second ?_
      rw [leaveCache_cachedItem, if_neg hne, hsecond]

/-- Adding observers takes none away. -/
theorem observers_le_addObservers (s : ARVideoPlayerController) (url : String)
    (videoContainer : ARVideoContainer) (item : ℕ) :
    s.observers item ≤ (s.addObservers url videoContainer).observers item := by
  unfold addObservers
  split
  · exact Nat.le_refl _
  · by_cases heq : item = videoContainer.playerItem
    · subst heq
      simp
    · simp [Function.update_of_ne heq]

/-- Playing a video adds observers, takes none away and leaves the cache, so what is left
over stays so. -/
theorem Leftover.playVideo (h : s.Leftover) (layer : ℕ) (url : String) :
    (s.playVideo layer url).Leftover := by
  obtain ⟨item, hcarries, hnot⟩ := h
  obtain ⟨_, _, hplay⟩ := playVideo_eq s url layer
  have hitem : (s.playVideo layer url).cachedItem = s.cachedItem := by
    rw [hplay]
    exact setPlayOn_cachedItem s url true
  refine ⟨item, ?_, by rwa [hitem]⟩
  unfold ARVideoPlayerController.playVideo
  dsimp only
  split
  · next videoContainer _ =>
      have hle := observers_le_addObservers (setPlayOn { s with
        videoURL := some url
        currentLayer := some layer
        played := url :: s.played.filter (· ≠ url) } url true) url videoContainer item
      exact Nat.ne_of_gt (Nat.lt_of_lt_of_le (Nat.pos_of_ne_zero hcarries) hle)
  · exact hcarries

/-- Caching a new item keeps the pairing exactly if nothing observed leaves for it. -/
theorem paired_setupBlock_iff (h : s.ObserversPaired) (ho : s.Owned) (hnew : s.New item) :
    (s.setupBlock url item).ObserversPaired ↔
      ((s.cachedItem url).isSome → s.observingURLs url ≠ some true) := by
  have hfree := h.observers_new hnew
  constructor
  · intro hafter hcached hobserved
    obtain ⟨old, hold⟩ := Option.isSome_iff_exists.mp hcached
    have hobject := (leftover_leaveCache h ho hold hobserved).setObject hfree
    rcases setupBlock_cases s url item with hset | ⟨layer, hplay⟩
    · exact hobject.not_paired (hset ▸ hafter)
    · exact (hobject.playVideo layer url).not_paired (hplay ▸ hafter)
  · intro hunobserved
    have hobject := h.setObject ho hnew hunobserved
    rcases setupBlock_cases s url item with hset | ⟨layer, hplay⟩
    · rwa [hset]
    · rw [hplay]
      exact hobject.playVideo (ho.setObject hnew url) layer url

/-- A block of the main queue keeps the pairing exactly if it does not put a new container in
the place of one that is observed. The cache evicts the old one then, and its observer stays. -/
theorem paired_runBlock_iff (ho : s.Owned) (h : s.ObserversPaired) (hrun : s.runBlock = some t) :
    t.ObserversPaired ↔ ∀ url item, s.mainQueue.head? = some (.setup url item) →
      (s.cachedItem url).isSome → s.observingURLs url ≠ some true := by
  obtain ⟨mainQueue, ⟨url, item, hmain, rfl⟩ | ⟨url, hmain, rfl⟩⟩ := runBlock_cases hrun
  · obtain ⟨howned, hnew⟩ := ho.new_of_head hmain
    have hs : ObserversPaired { s with mainQueue := mainQueue } := h.congr rfl rfl rfl rfl
    rw [paired_setupBlock_iff hs howned hnew]
    constructor
    · intro hunobserved other i hhead
      rw [hmain, List.head?_cons] at hhead
      obtain ⟨rfl, rfl⟩ := VideoBlock.setup.inj (Option.some.inj hhead)
      exact hunobserved
    · exact fun hleaves => hleaves url item (by rw [hmain, List.head?_cons])
  · refine iff_of_true ?_ ?_
    · rcases playBlock_cases { s with mainQueue := mainQueue } url with hsame | hplay
      · rw [hsame]
        exact h.congr rfl rfl rfl rfl
      · rw [hplay]
        exact h.congr (setPlayOn_cachedItem s url true) rfl rfl rfl
    · intro other i hhead
      rw [hmain, List.head?_cons] at hhead
      cases hhead

/-- One event keeps the pairing exactly if no container leaves the cache while its url is
observed: by an eviction, or replaced by the block of `setupVideoFor`. -/
theorem paired_perform_iff (ho : s.Owned) (h : s.ObserversPaired)
    (hstep : s.perform isURL e = some t) : t.ObserversPaired ↔ LeavesUnobserved s e t := by
  cases e with
  | setupVideoFor url =>
      obtain rfl := Option.some.inj hstep
      refine iff_of_true ?_ trivial
      unfold setupVideoFor
      split
      · exact h
      · split
        · exact h.congr rfl rfl rfl rfl
        · exact h
  | assetLoaded url playable =>
      simp only [perform] at hstep
      split at hstep
      · obtain rfl := Option.some.inj hstep
        refine iff_of_true ?_ trivial
        cases playable <;> exact h.congr rfl rfl rfl rfl
      · cases hstep
  | playVideo layer url =>
      obtain rfl := Option.some.inj hstep
      exact iff_of_true (h.playVideo ho layer url) trivial
  | pauseVideo url =>
      obtain rfl := Option.some.inj hstep
      exact iff_of_true (h.pauseVideo ho url) trivial
  | removeLayerFor cell =>
      obtain rfl := Option.some.inj hstep
      refine iff_of_true ?_ trivial
      unfold removeLayerFor
      split
      · exact h.pauseVideo ho _
      · exact h
  | evict url =>
      simp only [perform] at hstep
      split at hstep
      · next hcached =>
          obtain rfl := Option.some.inj hstep
          obtain ⟨videoContainer, hc⟩ := Option.isSome_iff_exists.mp hcached
          have hitem := cachedItem_of_cached hc
          constructor
          · exact fun hafter hobserved =>
              (leftover_leaveCache h ho hitem hobserved).not_paired hafter
          · exact fun hunobserved => h.leaveCache ho fun _ => hunobserved
      · cases hstep
  | itemReady item =>
      obtain rfl := Option.some.inj hstep
      exact iff_of_true (h.congr rfl rfl rfl rfl) trivial
  | runBlock => exact paired_runBlock_iff ho h hstep

/-- An event that happens is performed: the step only asks whether it can happen before. -/
theorem perform_of_step (hstep : step isURL s e = some t) : s.perform isURL e = some t := by
  unfold step at hstep
  split at hstep
  · cases hstep
  · exact hstep

end OneStep

/-- The cache is empty at the start and no item was made. -/
theorem owned_start : ({} : ARVideoPlayerController).Owned := by
  refine ⟨?_, ?_, ?_, ?_, List.nodup_nil⟩ <;> simp [cachedItem, waitingItems]

/-- No url is observed at the start and no item carries an observer. -/
theorem observersPaired_start : ({} : ARVideoPlayerController).ObserversPaired := by
  refine ⟨?_, ?_, ?_, rfl⟩ <;> simp [cachedItem]

/-- **The observers stay paired** exactly as long as no container leaves the cache
while its url is observed. -/
theorem observers_paired_iff (isURL : String → Bool) (es : List VideoEvent) :
    Throughout (step isURL) ObserversPaired {} es ↔
      StepsMeet (step isURL) LeavesUnobserved {} es :=
  throughout_iff_stepsMeet (J := Owned) (fun _ _ _ hs hstep => hs.perform (perform_of_step hstep))
    (fun _ _ _ hs h hstep => paired_perform_iff hs h (perform_of_step hstep))
    owned_start observersPaired_start

/-- A playing video is evicted: its item keeps the observer. -/
theorem evicted_item_observed :
    ¬ ∀ (isURL : String → Bool) (es : List VideoEvent),
      Throughout (step isURL) ObserversPaired {} es := by
  intro h
  have hplayed : (runFrom (step fun _ => true) {}
      [.setupVideoFor "a", .assetLoaded "a" true, .runBlock, .playVideo 0 "a"]).map
      (fun s => (s.crashed, s.cachedItem "a", s.observingURLs "a")) =
        some (false, some 0, some true) := by decide +kernel
  obtain ⟨s, hrun, hs⟩ := Option.map_eq_some_iff.mp hplayed
  simp only [Prod.mk.injEq] at hs
  obtain ⟨hcrashed, hitem, hobserved⟩ := hs
  have howned := runFrom_of_step (J := Owned)
    (fun _ _ _ ho hstep => ho.perform (perform_of_step hstep)) owned_start hrun
  have hevict : step (fun _ => true) s (.evict "a") = some (s.leaveCache "a") := by
    obtain ⟨videoContainer, hcached, -⟩ := Option.map_eq_some_iff.mp hitem
    simp [step, perform, hcrashed, hcached]
  have hend : runFrom (step fun _ => true) s [.evict "a"] = some (s.leaveCache "a") := by
    rw [runFrom, hevict]
    rfl
  have hlast := (h (fun _ => true) _).last ((runFrom_append hrun).trans hend)
  exact (leftover_leaveCache ((h _ _).last hrun) howned hitem hobserved).not_paired hlast

end ARVideoPlayerController

end VideoPlayer
