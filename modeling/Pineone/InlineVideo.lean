import Pineone.Runs
import Pineone.VideoPlayer
import Mathlib.Data.List.Basic

/-!
# One inline video

A scrolled list of cells whose videos are cached and ready to play.  Every scroll
callback pauses all visible videos and plays at most one of them, and a cell that
leaves the screen has its layer removed.

* `one_inline_video`: as long as no block of `playVideo` runs after its cell was paused
  or removed, at rest at most one container plays, that of a cell which was played and
  neither paused nor removed since;
* `playsPlayed_iff`: with the same for the moments between, that condition is exact.
-/

namespace VideoPlayer

open Runs

/-- The list on the screen: the controller and the urls of the visible cells. -/
structure InlineVideos where
  player : ARVideoPlayerController := {}
  visible : List String := []

inductive InlineEvent
  /-- A cell with a video comes onto the screen. -/
  | willDisplay (url : String)
  /-- A cell leaves the screen. -/
  | didEndDisplaying (cell : VideoCell)
  | scroll (visibleCells : List VideoCell) (appEnteredFromBackground : Bool)
  | scrollPaging (visibleCells : List VideoCell) (appEnteredFromBackground : Bool)
  | runBlock
  deriving DecidableEq, Repr

namespace ARVideoPlayerController

/-- The video of the url is cached and ready to play. -/
def Ready (s : ARVideoPlayerController) (url : String) : Prop :=
  ∃ item ∈ s.cachedItem url, s.readyToPlay item = true

instance (s : ARVideoPlayerController) (url : String) : Decidable (s.Ready url) :=
  match h : s.cachedItem url with
  | some item => decidable_of_iff (s.readyToPlay item = true) (by simp [Ready, h])
  | none => isFalse (by simp [Ready, h])

variable {s : ARVideoPlayerController} {url other : String}

/-- Pausing a video keeps the cache and the posted blocks, and takes the cell off the played
ones. -/
theorem pauseVideo_frame (s : ARVideoPlayerController) (url : String) :
    (s.pauseVideo url).cachedItem = s.cachedItem ∧
      (s.pauseVideo url).readyToPlay = s.readyToPlay ∧
      (s.pauseVideo url).mainQueue = s.mainQueue ∧
      (s.pauseVideo url).played = s.played.filter (· ≠ url) := by
  obtain ⟨_, _, _, h⟩ := pauseVideo_eq s url
  rw [h]
  exact ⟨setPlayOn_cachedItem s url false, rfl, rfl, rfl⟩

/-- Afterwards its container does not play, and the others play as they did. So pausing can
be done in any order. -/
theorem pauseVideo_playsOn (s : ARVideoPlayerController) (url other : String) :
    (s.pauseVideo url).playsOn other = (decide (other ≠ url) && s.playsOn other) := by
  obtain ⟨_, _, _, h⟩ := pauseVideo_eq s url
  rw [h]
  refine (setPlayOn_playsOn s url false other).trans ?_
  by_cases heq : other = url <;> simp [heq]

/-- Playing a video posts its block and makes its cell the last one played. -/
theorem playVideo_frame (s : ARVideoPlayerController) (layer : ℕ) (url : String) :
    (s.playVideo layer url).cachedItem = s.cachedItem ∧
      (s.playVideo layer url).readyToPlay = s.readyToPlay ∧
      (s.playVideo layer url).mainQueue = s.mainQueue ++ [.play url] ∧
      (s.playVideo layer url).played = url :: s.played.filter (· ≠ url) := by
  obtain ⟨_, _, h⟩ := playVideo_eq s url layer
  rw [h]
  exact ⟨setPlayOn_cachedItem s url true, rfl, rfl, rfl⟩

/-- A ready video plays at once, before its block runs. The block plays it once more when it
comes. -/
theorem playVideo_playsOn (h : s.Ready url) (layer : ℕ) (other : String) :
    (s.playVideo layer url).playsOn other = (decide (other = url) || s.playsOn other) := by
  obtain ⟨item, hitem, -⟩ := h
  have hcached : s.cachedItem url = some item := hitem
  obtain ⟨_, _, hplay⟩ := playVideo_eq s url layer
  rw [hplay]
  refine (setPlayOn_playsOn s url true other).trans ?_
  by_cases heq : other = url <;> simp [heq, hcached]

/-- Pausing the videos of several urls, one after the other. -/
def pauseAll (s : ARVideoPlayerController) (urls : List String) : ARVideoPlayerController :=
  urls.foldl pauseVideo s

/-- Pausing several videos keeps the cache and the blocks as well. -/
theorem pauseAll_frame (s : ARVideoPlayerController) (urls : List String) :
    (s.pauseAll urls).cachedItem = s.cachedItem ∧
      (s.pauseAll urls).readyToPlay = s.readyToPlay ∧
      (s.pauseAll urls).mainQueue = s.mainQueue ∧
      (s.pauseAll urls).played = s.played.filter (· ∉ urls) := by
  induction urls generalizing s with
  | nil => simp [pauseAll]
  | cons url urls ih =>
      obtain ⟨hitem, hready, hmain, hplayed⟩ := pauseVideo_frame s url
      obtain ⟨hitem', hready', hmain', hplayed'⟩ := ih (s.pauseVideo url)
      refine ⟨hitem'.trans hitem, hready'.trans hready, hmain'.trans hmain, ?_⟩
      refine hplayed'.trans ?_
      rw [hplayed, List.filter_filter]
      refine List.filter_congr fun other _ => ?_
      by_cases h : other = url <;> simp [h]

/-- None of them plays afterwards. -/
theorem pauseAll_playsOn (s : ARVideoPlayerController) (urls : List String) (other : String) :
    (s.pauseAll urls).playsOn other = (decide (other ∉ urls) && s.playsOn other) := by
  induction urls generalizing s with
  | nil => simp [pauseAll]
  | cons url urls ih =>
      refine (ih (s.pauseVideo url)).trans ?_
      rw [pauseVideo_playsOn]
      by_cases h : other = url <;> simp [h]

/-- The loop pauses the videos of all its cells, and picks one of these cells. Which one
depends on the sizes, and that there is one at most does not. -/
theorem foldl_visitCell (s : ARVideoPlayerController) (maxSize : ℚ) (picked : Option VideoCell)
    (cells : List VideoCell) :
    (cells.foldl visitCell (s, maxSize, picked)).1 =
        s.pauseAll (cells.filterMap VideoCell.videoURL) ∧
      ((cells.foldl visitCell (s, maxSize, picked)).2.2 = picked ∨
        ∃ cell ∈ cells, (cells.foldl visitCell (s, maxSize, picked)).2.2 = some cell) := by
  induction cells generalizing s maxSize picked with
  | nil => exact ⟨rfl, Or.inl rfl⟩
  | cons cell cells ih =>
      have hlater : ∀ {u m q}, (q = picked ∨ q = some cell) →
          ((cells.foldl visitCell (u, m, q)).2.2 = picked ∨
            ∃ c ∈ cell :: cells, (cells.foldl visitCell (u, m, q)).2.2 = some c) := by
        intro u m q hq
        rcases (ih u m q).2 with hsame | ⟨c, hc, hpicked⟩
        · rcases hq with rfl | rfl
          · exact Or.inl hsame
          · exact Or.inr ⟨cell, List.mem_cons_self, hsame⟩
        · exact Or.inr ⟨c, List.mem_cons_of_mem _ hc, hpicked⟩
      cases hurl : cell.videoURL with
      | none =>
          have hvisit : visitCell (s, maxSize, picked) cell = (s, maxSize, picked) := by
            simp [visitCell, hurl]
          rw [List.foldl_cons, hvisit, List.filterMap_cons_none hurl]
          exact ⟨(ih s maxSize picked).1, hlater (Or.inl rfl)⟩
      | some url =>
          rw [List.foldl_cons, List.filterMap_cons_some hurl]
          by_cases hsize : maxSize < cell.visibleVideoSize
          · have hvisit : visitCell (s, maxSize, picked) cell =
                (s.pauseVideo url, cell.visibleVideoSize, some cell) := by
              simp [visitCell, hurl, hsize]
            rw [hvisit]
            exact ⟨(ih _ _ _).1, hlater (Or.inr rfl)⟩
          · have hvisit : visitCell (s, maxSize, picked) cell =
                (s.pauseVideo url, maxSize, picked) := by
              simp [visitCell, hurl, hsize]
            rw [hvisit]
            exact ⟨(ih _ _ _).1, hlater (Or.inl rfl)⟩

/-- **A scroll callback** pauses all visible videos and then plays one of them or none.
A video that is cached needs no set-up. -/
theorem pauseAndPlay_cases (isURL : String → Bool) (isShown : VideoCell → ℚ → Bool)
    (appEnteredFromBackground : Bool) {cells : List VideoCell}
    (hready : ∀ url ∈ cells.filterMap VideoCell.videoURL, s.Ready url) :
    pauseAndPlay isURL isShown s cells appEnteredFromBackground =
        s.pauseAll (cells.filterMap VideoCell.videoURL) ∨
      ∃ layer, ∃ url ∈ cells.filterMap VideoCell.videoURL,
        pauseAndPlay isURL isShown s cells appEnteredFromBackground =
          (s.pauseAll (cells.filterMap VideoCell.videoURL)).playVideo layer url := by
  obtain ⟨hpaused, hpicked⟩ := foldl_visitCell s 0 none cells
  unfold pauseAndPlay
  generalize cells.foldl visitCell (s, 0, none) = loop at hpaused hpicked
  obtain ⟨u, maxSize, picked⟩ := loop
  obtain rfl : u = s.pauseAll (cells.filterMap VideoCell.videoURL) := hpaused
  rcases hpicked with hnone | ⟨cell, hcell, hsome⟩
  · obtain rfl : picked = none := hnone
    exact Or.inl rfl
  · obtain rfl : picked = some cell := hsome
    cases hurl : cell.videoURL with
    | none => exact Or.inl (by simp [hurl])
    | some url =>
        have hmem : url ∈ cells.filterMap VideoCell.videoURL :=
          List.mem_filterMap.mpr ⟨cell, hcell, hurl⟩
        have hcached : ((s.pauseAll (cells.filterMap VideoCell.videoURL)).videoCache url).isSome
            = true := by
          obtain ⟨item, hitem, -⟩ := hready url hmem
          have hkept := congrFun (pauseAll_frame s (cells.filterMap VideoCell.videoURL)).1 url
          rw [show s.cachedItem url = some item from hitem] at hkept
          obtain ⟨videoContainer, hc, -⟩ := Option.map_eq_some_iff.mp hkept
          rw [hc]
          rfl
        have hsetup : setupVideoFor isURL
            (s.pauseAll (cells.filterMap VideoCell.videoURL)) url =
              s.pauseAll (cells.filterMap VideoCell.videoURL) := by
          rw [setupVideoFor, if_pos hcached]
        by_cases hshown : isShown cell maxSize = true
        · exact Or.inr ⟨cell.videoLayer, url, hmem, by simp [hurl, hshown, hsetup]⟩
        · exact Or.inl (by simp [hurl, hshown])

end ARVideoPlayerController

namespace InlineVideos

open ARVideoPlayerController

section

variable (isURL : String → Bool)

/-- The cells on the screen have distinct urls, whose videos are cached and ready, and
the scroll callbacks see exactly these cells. -/
def step (s : InlineVideos) : InlineEvent → Option InlineVideos
  | .willDisplay url =>
      if url ∉ s.visible ∧ s.player.Ready url then some { s with visible := url :: s.visible }
      else none
  | .didEndDisplaying cell =>
      match cell.videoURL with
      | none => some s
      | some url =>
          if url ∈ s.visible then
            some { player := s.player.removeLayerFor cell, visible := s.visible.erase url }
          else none
  | .scroll visibleCells appEnteredFromBackground =>
      if (visibleCells.filterMap VideoCell.videoURL).Perm s.visible then
        some { s with
          player := s.player.pausePlayerVideosFor isURL visibleCells appEnteredFromBackground }
      else none
  | .scrollPaging visibleCells appEnteredFromBackground =>
      if (visibleCells.filterMap VideoCell.videoURL).Perm s.visible then
        some { s with
          player :=
            s.player.pausePlayerVideosForPaging isURL visibleCells appEnteredFromBackground }
      else none
  | .runBlock => s.player.runBlock.map fun player => { s with player := player }

end

/-- An empty screen, with a cache that holds the items `items`. -/
def launch (items : String → Option ℕ) (readyToPlay : ℕ → Bool) : InlineVideos :=
  { player :=
      { videoCache := fun url => (items url).map fun item => { url := url, playerItem := item }
        readyToPlay := readyToPlay } }

/-- With all posted blocks run, at most one container plays, that of a cell which was
played and neither paused nor removed since. -/
def OneVideoAtRest (s : InlineVideos) : Prop :=
  s.player.mainQueue = [] →
    (∀ url other, s.player.playsOn url = true → s.player.playsOn other = true → url = other) ∧
      ∀ url, s.player.playsOn url = true → url ∈ s.player.played

/-- Only cells play that were played and neither paused nor removed since. -/
def PlaysPlayed (s : InlineVideos) : Prop :=
  ∀ url, s.player.playsOn url = true → url ∈ s.player.played

/-- A block of `playVideo` runs only while its cell was neither paused nor removed. -/
def PlaysOnTime (s : InlineVideos) (e : InlineEvent) (_ : InlineVideos) : Prop :=
  match e with
  | .runBlock => ∀ url, s.player.mainQueue.head? = some (.play url) → url ∈ s.player.played
  | _ => True

instance (s : InlineVideos) (e : InlineEvent) (t : InlineVideos) :
    Decidable (PlaysOnTime s e t) :=
  match e with
  | .runBlock =>
      match h : s.player.mainQueue.head? with
      | some (.play url) =>
          decidable_of_iff (url ∈ s.player.played) (by simp [PlaysOnTime, h])
      | some (.setup _ _) => isTrue (by simp [PlaysOnTime, h])
      | none => isTrue (by simp [PlaysOnTime, h])
  | .willDisplay _ | .didEndDisplaying _ | .scroll _ _ | .scrollPaging _ _ => isTrue trivial

/-- The visible videos and those of the posted blocks are ready; at most one cell is
played, a visible one. -/
structure Displays (s : InlineVideos) : Prop where
  ready : ∀ url ∈ s.visible, s.player.Ready url
  blocks : ∀ block ∈ s.player.mainQueue, ∃ url, block = .play url ∧ s.player.Ready url
  onePlayed : s.player.played.length ≤ 1
  visiblePlayed : ∀ url ∈ s.player.played, url ∈ s.visible

variable {isURL : String → Bool} {s t : InlineVideos} {e : InlineEvent}

/-- Whether a video is ready depends on the cache and the player items alone. -/
theorem ready_congr {p q : ARVideoPlayerController} (hitem : q.cachedItem = p.cachedItem)
    (hready : q.readyToPlay = p.readyToPlay) (url : String) : q.Ready url ↔ p.Ready url := by
  unfold Ready
  rw [hitem, hready]

/-- As long as items and their status stay, so do the visible videos and those of the
posted blocks. -/
theorem Displays.ready_kept (h : s.Displays) {p : ARVideoPlayerController}
    (hitem : p.cachedItem = s.player.cachedItem) (hready : p.readyToPlay = s.player.readyToPlay) :
    (∀ url ∈ s.visible, p.Ready url) ∧
      ∀ block ∈ s.player.mainQueue, ∃ url, block = .play url ∧ p.Ready url := by
  constructor
  · exact fun url hurl => (ready_congr hitem hready url).mpr (h.ready url hurl)
  · intro block hblock
    obtain ⟨url, rfl, hurl⟩ := h.blocks block hblock
    exact ⟨url, rfl, (ready_congr hitem hready url).mpr hurl⟩

/-- The loop of a scroll callback pauses all visible videos, so that afterwards none is
played and none plays. -/
theorem pauseAll_spec (h : s.Displays) {urls : List String} (hurls : urls.Perm s.visible) :
    Displays { s with player := s.player.pauseAll urls } ∧
      (s.player.pauseAll urls).played = [] ∧
      (s.PlaysPlayed → ∀ url, (s.player.pauseAll urls).playsOn url = false) := by
  obtain ⟨hitem, hstatus, hmain, hplayed⟩ := pauseAll_frame s.player urls
  obtain ⟨hvisible, hblocks⟩ := h.ready_kept hitem hstatus
  have hnone : (s.player.pauseAll urls).played = [] := by
    rw [hplayed, List.filter_eq_nil_iff]
    intro url hurl
    simpa using hurls.mem_iff.mpr (h.visiblePlayed url hurl)
  refine ⟨⟨hvisible, ?_, by simp [hnone], by simp [hnone]⟩, hnone, fun hs url => ?_⟩
  · rw [hmain]
    exact hblocks
  · rw [pauseAll_playsOn]
    by_cases hplays : s.player.playsOn url = true
    · have hmem := hurls.mem_iff.mpr (h.visiblePlayed url (hs url hplays))
      simp [hmem]
    · simp [hplays]

/-- A visible video is played while no other is. It is the only one that is played then. -/
theorem playVideo_spec (h : s.Displays) (hnone : s.player.played = []) (layer : ℕ)
    {url : String} (hurl : url ∈ s.visible) :
    Displays { s with player := s.player.playVideo layer url } ∧
      ((∀ other, s.player.playsOn other = false) →
        PlaysPlayed { s with player := s.player.playVideo layer url }) := by
  obtain ⟨hitem, hstatus, hmain, hplayed⟩ := playVideo_frame s.player layer url
  obtain ⟨hvisible, hblocks⟩ := h.ready_kept hitem hstatus
  have hone : (s.player.playVideo layer url).played = [url] := by
    rw [hplayed, hnone]
    rfl
  refine ⟨⟨hvisible, ?_, by simp [hone], ?_⟩, fun hsilent other hplays => ?_⟩
  · intro block hblock
    rw [hmain] at hblock
    rcases List.mem_append.mp hblock with hold | hnew
    · exact hblocks block hold
    · exact ⟨url, List.mem_singleton.mp hnew, hvisible url hurl⟩
  · intro other hother
    rw [hone] at hother
    rwa [List.mem_singleton.mp hother]
  · rw [playVideo_playsOn (h.ready url hurl), hsilent other, Bool.or_false] at hplays
    rw [hone, of_decide_eq_true hplays]
    exact List.mem_singleton_self url

/-- What a scroll callback does to the played and the playing videos: all are paused, and at
most one of the visible ones is played again. -/
theorem scroll_spec (isURL : String → Bool) (isShown : VideoCell → ℚ → Bool) (bg : Bool)
    {cells : List VideoCell} (h : s.Displays)
    (hcells : (cells.filterMap VideoCell.videoURL).Perm s.visible) :
    Displays { s with player := pauseAndPlay isURL isShown s.player cells bg } ∧
      (s.PlaysPlayed →
        PlaysPlayed { s with player := pauseAndPlay isURL isShown s.player cells bg }) := by
  have hready : ∀ url ∈ cells.filterMap VideoCell.videoURL, s.player.Ready url :=
    fun url hurl => h.ready url (hcells.mem_iff.mp hurl)
  obtain ⟨hpaused, hnone, hsilent⟩ := pauseAll_spec h hcells
  rcases pauseAndPlay_cases isURL isShown bg hready with hpause | ⟨layer, url, hurl, hplay⟩
  · rw [hpause]
    refine ⟨hpaused, fun hs url hplays => ?_⟩
    rw [hsilent hs url] at hplays
    cases hplays
  · rw [hplay]
    obtain ⟨ht, hplays⟩ := playVideo_spec hpaused hnone layer (hcells.mem_iff.mp hurl)
    exact ⟨ht, fun hs => hplays (hsilent hs)⟩

/-- Taking a cell off the screen pauses its video, so that neither the visible cells nor the
played ones get more. -/
theorem removeLayer_spec (h : s.Displays) {cell : VideoCell} {url : String}
    (hurl : cell.videoURL = some url) :
    Displays ⟨s.player.removeLayerFor cell, s.visible.erase url⟩ ∧
      (s.PlaysPlayed → PlaysPlayed ⟨s.player.removeLayerFor cell, s.visible.erase url⟩) := by
  have hremove : s.player.removeLayerFor cell = s.player.pauseVideo url := by
    simp [removeLayerFor, hurl, removeFromSuperLayer]
  obtain ⟨hitem, hstatus, hmain, hplayed⟩ := pauseVideo_frame s.player url
  rw [hremove]
  obtain ⟨hvisible, hblocks⟩ := h.ready_kept hitem hstatus
  refine ⟨⟨?_, ?_, ?_, ?_⟩, fun hs other hplays => ?_⟩
  · exact fun other hother => hvisible other (List.mem_of_mem_erase hother)
  · rw [hmain]
    exact hblocks
  · have := List.length_filter_le (· ≠ url) s.player.played
    have := h.onePlayed
    show (s.player.pauseVideo url).played.length ≤ 1
    rw [hplayed]
    omega
  · intro other hother
    rw [hplayed, List.mem_filter] at hother
    exact (List.mem_erase_of_ne (by simpa using hother.2)).mpr (h.visiblePlayed other hother.1)
  · rw [pauseVideo_playsOn, Bool.and_eq_true, decide_eq_true_eq] at hplays
    rw [hplayed, List.mem_filter]
    exact ⟨hs other hplays.2, by simpa using hplays.1⟩

/-- A posted block plays the video of its cell, whether or not it was paused after the block
was posted. -/
theorem runBlock_spec (h : s.Displays) {player : ARVideoPlayerController}
    (hrun : s.player.runBlock = some player) :
    Displays { s with player := player } ∧ ∃ url, s.player.mainQueue.head? = some (.play url) ∧
      player.played = s.player.played ∧
      ∀ other, player.playsOn other = (decide (other = url) || s.player.playsOn other) := by
  unfold runBlock at hrun
  split at hrun
  · cases hrun
  · next url item mainQueue hmain =>
      obtain ⟨_, hsetup, -⟩ := h.blocks (.setup url item) (by simp [hmain])
      cases hsetup
  · next url mainQueue hmain =>
      obtain ⟨_, hplay, hready⟩ := h.blocks (.play url) (by simp [hmain])
      obtain rfl := VideoBlock.play.inj hplay
      obtain ⟨item, hitem, hstatus⟩ := hready
      obtain ⟨videoContainer, hcached, rfl⟩ := Option.map_eq_some_iff.mp hitem
      have hblock : playBlock { s.player with mainQueue := mainQueue } url =
          setPlayOn { s.player with mainQueue := mainQueue } url true := by
        simp only [playBlock, hcached]
        rw [if_pos hstatus]
      obtain rfl := Option.some.inj hrun
      rw [hblock]
      have hkept := setPlayOn_cachedItem { s.player with mainQueue := mainQueue } url true
      obtain ⟨hvisible, hblocks⟩ := h.ready_kept hkept rfl
      refine ⟨⟨hvisible, ?_, h.onePlayed, h.visiblePlayed⟩, url, by simp [hmain], rfl, ?_⟩
      · exact fun block hblock => hblocks block (hmain ▸ List.mem_cons_of_mem _ hblock)
      · intro other
        refine (setPlayOn_playsOn _ url true other).trans ?_
        by_cases heq : other = url
        · simp [heq, cachedItem, hcached]
        · simp [heq, playsOn]

/-- What plays after a block is played, unless the block came too late. The block of a video
that was paused meanwhile plays it all the same. -/
theorem displays_runBlock_iff (h : s.Displays) (hstep : step isURL s .runBlock = some t) :
    t.Displays ∧ (s.PlaysPlayed → (t.PlaysPlayed ↔ PlaysOnTime s .runBlock t)) := by
  obtain ⟨player, hrun, rfl⟩ := Option.map_eq_some_iff.mp hstep
  obtain ⟨ht, url, hhead, hplayed, hplays⟩ := runBlock_spec h hrun
  refine ⟨ht, fun hs => ?_⟩
  constructor
  · intro hafter other hother
    obtain rfl := VideoBlock.play.inj (Option.some.inj (hhead.symm.trans hother))
    rw [← hplayed]
    exact hafter url (by simp [hplays])
  · intro htime other hother
    rw [hplays, Bool.or_eq_true, decide_eq_true_eq] at hother
    rw [hplayed]
    rcases hother with rfl | hold
    · exact htime other hhead
    · exact hs other hold

/-- A new cell comes on the screen and is not played. -/
theorem displays_willDisplay (h : s.Displays) {url : String} (hready : s.player.Ready url) :
    Displays { s with visible := url :: s.visible } := by
  refine ⟨?_, h.blocks, h.onePlayed, ?_⟩
  · intro other hother
    rcases List.mem_cons.mp hother with rfl | hold
    · exact hready
    · exact h.ready other hold
  · exact fun other hother => List.mem_cons_of_mem _ (h.visiblePlayed other hother)

/-- One case for each event: only a block can let a container play whose cell was paused
since. -/
theorem displays_step_iff (h : s.Displays) (hstep : step isURL s e = some t) :
    t.Displays ∧ (s.PlaysPlayed → (t.PlaysPlayed ↔ PlaysOnTime s e t)) := by
  have hscroll : ∀ {isShown cells bg},
      (cells.filterMap VideoCell.videoURL).Perm s.visible →
      t = { s with player := pauseAndPlay isURL isShown s.player cells bg } →
      t.Displays ∧ (s.PlaysPlayed → (t.PlaysPlayed ↔ True)) := by
    rintro isShown cells bg hcells rfl
    obtain ⟨ht, hplays⟩ := scroll_spec isURL isShown bg h hcells
    exact ⟨ht, fun hs => iff_of_true (hplays hs) trivial⟩
  cases e with
  | willDisplay url =>
      simp only [step] at hstep
      split at hstep
      · next hnew =>
          obtain rfl := Option.some.inj hstep
          exact ⟨displays_willDisplay h hnew.2, fun hs => iff_of_true hs trivial⟩
      · cases hstep
  | didEndDisplaying cell =>
      simp only [step] at hstep
      split at hstep
      · obtain rfl := Option.some.inj hstep
        exact ⟨h, fun hs => iff_of_true hs trivial⟩
      · next url hurl =>
          split at hstep
          · obtain rfl := Option.some.inj hstep
            obtain ⟨ht, hplays⟩ := removeLayer_spec h hurl
            exact ⟨ht, fun hs => iff_of_true (hplays hs) trivial⟩
          · cases hstep
  | scroll visibleCells appEnteredFromBackground =>
      simp only [step] at hstep
      split at hstep
      · next hcells => exact hscroll hcells (Option.some.inj hstep).symm
      · cases hstep
  | scrollPaging visibleCells appEnteredFromBackground =>
      simp only [step] at hstep
      split at hstep
      · next hcells => exact hscroll hcells (Option.some.inj hstep).symm
      · cases hstep
  | runBlock => exact displays_runBlock_iff h hstep

/-- At most one cell is played, so at most one plays, where what plays is played. -/
theorem Displays.oneVideoAtRest (h : s.Displays) (hs : s.PlaysPlayed) : s.OneVideoAtRest := by
  refine fun _ => ⟨fun url other hurl hother => ?_, hs⟩
  have honly := h.onePlayed
  match hplayed : s.player.played with
  | [] =>
      have := hs url hurl
      simp [hplayed] at this
  | [only] =>
      have hfirst := hs url hurl
      have hsecond := hs other hother
      rw [hplayed, List.mem_singleton] at hfirst hsecond
      exact hfirst.trans hsecond.symm
  | _ :: _ :: _ => simp [hplayed] at honly

section Runs

variable (isURL) (items : String → Option ℕ) (readyToPlay : ℕ → Bool)

/-- At the launch no cell is visible and no block is posted. -/
theorem displays_launch : (launch items readyToPlay).Displays := by
  refine ⟨?_, ?_, Nat.zero_le 1, ?_⟩ <;> simp [launch]

/-- And no container plays. -/
theorem playsPlayed_launch : (launch items readyToPlay).PlaysPlayed := by
  intro url hplays
  cases hitem : items url <;> simp [launch, playsOn, hitem] at hplays

/-- At every moment only played cells play, exactly as long as every posted block runs
on time. -/
theorem playsPlayed_iff (es : List InlineEvent) :
    Throughout (step isURL) PlaysPlayed (launch items readyToPlay) es ↔
      StepsMeet (step isURL) PlaysOnTime (launch items readyToPlay) es :=
  throughout_iff_stepsMeet (J := Displays) (fun _ _ _ hs hstep => (displays_step_iff hs hstep).1)
    (fun _ _ _ hs hplays hstep => (displays_step_iff hs hstep).2 hplays)
    (displays_launch items readyToPlay) (playsPlayed_launch items readyToPlay)

/-- **One inline video plays** at rest, as long as every posted block runs on time. The
condition is about when the blocks run, which the code leaves to the main queue. -/
theorem one_inline_video (es : List InlineEvent)
    (h : StepsMeet (step isURL) PlaysOnTime (launch items readyToPlay) es) :
    Throughout (step isURL) OneVideoAtRest (launch items readyToPlay) es :=
  Throughout.mono (J := Displays) (fun _ _ _ hs hstep => (displays_step_iff hs hstep).1)
    (fun _ hs hplays => hs.oneVideoAtRest hplays) (displays_launch items readyToPlay)
    ((playsPlayed_iff isURL items readyToPlay es).mpr h)

end Runs

/-- The cell of the url with this much of it on the screen; the whole cell is 200 high
and wide. -/
def squareCell (url : String) (visibleVideoSize : ℚ) : VideoCell :=
  { videoURL := some url
    videoLayer := 0
    layerWidth := 200
    layerHeight := 200
    visibleVideoSize := visibleVideoSize }

/-- Two cached videos. -/
def twoItems (url : String) : Option ℕ :=
  if url = "a" then some 0 else if url = "b" then some 1 else none

/-- Two cells: the first one is played, a scroll hands over to the second one, and each
block runs before the next scroll. -/
theorem one_inline_video_played :
    Throughout (step fun _ => true) OneVideoAtRest (launch twoItems fun _ => true)
      [.willDisplay "a", .willDisplay "b",
        .scroll [squareCell "a" 200, squareCell "b" 40] false, .runBlock,
        .scroll [squareCell "a" 40, squareCell "b" 200] false, .runBlock] :=
  one_inline_video (fun _ => true) twoItems (fun _ => true) _ (by decide +kernel)

/-- The block for the first cell runs after the next scroll has paused that cell: both
videos play. -/
theorem late_block_plays_second_video :
    ¬ ∀ (isURL : String → Bool) (items : String → Option ℕ) (readyToPlay : ℕ → Bool)
      (es : List InlineEvent),
      Throughout (step isURL) OneVideoAtRest (launch items readyToPlay) es := by
  intro h
  have hend : (runFrom (step fun _ => true) (launch twoItems fun _ => true)
      [.willDisplay "a", .willDisplay "b",
        .scroll [squareCell "a" 200, squareCell "b" 40] false,
        .scroll [squareCell "a" 40, squareCell "b" 200] false, .runBlock, .runBlock]).map
      (fun t => (t.player.mainQueue, t.player.playsOn "a", t.player.playsOn "b")) =
        some ([], true, true) := by decide +kernel
  obtain ⟨t, hrun, ht⟩ := Option.map_eq_some_iff.mp hend
  simp only [Prod.mk.injEq] at ht
  obtain ⟨hrest, hfirst, hsecond⟩ := ht
  have hsame := ((h _ _ _ _).last hrun hrest).1 "a" "b" hfirst hsecond
  exact absurd hsame (by decide)

end InlineVideos

end VideoPlayer
