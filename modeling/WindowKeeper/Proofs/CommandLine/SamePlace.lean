import WindowKeeper.Proofs.CommandLine.Printed
import WindowKeeper.Proofs.Form.Config
import WindowKeeper.Proofs.Form.Script
import WindowKeeper.Proofs.Script.Played
import WindowKeeper.Proofs.Session.Opened
import WindowKeeper.Proofs.Session.Unsaved
import WindowKeeper.Proofs.Session.View

namespace WindowKeeper

/-- Whether a step may move the window or change its size. -/
def Script.Step.moves : Script.Step → Bool
  | .move _ _ => true
  | .resize _ _ => true
  | .rightColumn _ => true
  | _ => false

theorem Script.Step.moves_turn {step : Script.Step} {x : Turn} (hstep : step.moves = false)
    (hx : step.turn? = some x) : x.moves = false := by
  cases step with
  | move | resize | rightColumn => cases hstep
  | wait => cases hx
  | _ =>
    cases hx
    rfl

theorem Script.Step.fits_turn {step : Script.Step} {x : Turn} (hstep : step.Fits)
    (hx : step.turn? = some x) : x.Fits := by
  cases step with
  | move | resize =>
    cases hx
    exact hstep
  | wait => cases hx
  | _ =>
    cases hx
    trivial

theorem Config.InRange.fits {c : Config} (h : c.InRange) : c.Fits :=
  ⟨h.scale, h.usualSize, h.bigSize⟩

namespace Session

/-- A session of the command line before its window is set up, with a tray icon or without. -/
def opening (config : Config) (store : FileStore) (ms : List Monitor) (files : Tree)
    (tray : Bool) : Session FileStore :=
  if tray then attachTray (start (.onMonitors ms .none) store files config)
  else start (.onMonitors ms .none) store files config

variable {config : Config} {store : FileStore} {ms : List Monitor} {files : Tree} {tray : Bool}

/-- The margins of a window without a frame are none, whether or not the settings ask for them. -/
theorem openingRect_opening :
    (opening config store ms files tray).openingRect
        (opening config store ms files tray).frameMargins =
      CommandLine.place config store.settings ms := by
  have hmargins : (opening config store ms files tray).frameMargins = .none := by
    unfold frameMargins
    cases tray <;> exact ite_self _
  rw [hmargins]
  cases tray <;> rfl

end Session

namespace CommandLine

open Session

variable {config : Config} {store : FileStore} {ms : List Monitor} {files : Tree} {tray : Bool}
  {s t : Session FileStore}

theorem place_opening (h : init (opening config store ms files tray) = .ok s) :
    place config store.settings ms = .ok s.window.geometry := by
  rw [← openingRect_opening]
  exact geometry_init h

/-- A script without moves leaves the window where it opened. -/
theorem geometry_playScript {script : Script} {r : Except Settings.SaveError Unit}
    (hscript : ∀ step ∈ script, step.moves = false)
    (h : playScript config store ms script files = .ok (r, t)) :
    place config store.settings ms = .ok t.window.geometry := by
  simp only [playScript, begin, bind_eq_ok] at h
  obtain ⟨u, ⟨v, hv, hu⟩, ht⟩ := h
  -- everything after the opening leaves the window in its place
  let P : Moment FileStore → Prop := fun m => m.turn.moves = false
  have hnext (r : Session FileStore) (deadline : Nat) : P ⟨r, .next deadline⟩ := rfl
  have hpass (r : Session FileStore) (now : Nat) : P ⟨r, .pass now⟩ := rfl
  have hshown : Follows P v (activate v) :=
    Follows.refl.turn (x := .act .activate rfl) rfl rfl
  have hplayed : Follows P u t := follows_replay hnext hpass
    (fun step hstep _ _ hx => step.moves_turn (hscript step hstep) hx) (fun _ => rfl) ht
  obtain ⟨moments, hcourse, hstill⟩ := (hshown.trans (follows_handleQueued hnext hu)).trans hplayed
  rw [geometry_course hcourse hstill]
  exact place_opening hv

theorem inRange_config? {r : Request} (h : config? r files = some config) : config.InRange := by
  unfold config? at h
  split at h
  · have hload := toOption_eq_some.mp h
    unfold Config.loadFrom at hload
    split at hload
    · exact Config.inverts.holds_text (mapError_eq_ok.mp hload)
    · cases hload
  · cases h
    exact Config.inRange_initial

theorem holds_readAs {α : Type} {d : Json.Decoder α} {write : α → Json} {P : α → Prop}
    (hd : d.Inverts write P) {path : String} {a : α} (h : readAs d files path = some a) : P a := by
  simp only [readAs, bind, Option.bind_eq_some_iff] at h
  obtain ⟨text, -, h⟩ := h
  exact hd.holds_text (toOption_eq_some.mp h)

/-- A replay is a run from the store on its file. -/
theorem reached_playScript {path : String} {script : Script} {r : Except Settings.SaveError Unit}
    (hconfig : config.Fits) (hscript : ∀ step ∈ script, step.Fits)
    (h : playScript config (.openAt path files) ms script files = .ok (r, t)) :
    ∃ last, Reached path t last := by
  simp only [playScript, bind_eq_ok] at h
  obtain ⟨u, hu, ht⟩ := h
  have hstart : Reached path (start (.onMonitors ms .none) (.openAt path files) files config)
      none := .start (by constructor <;> exact fits32_zero) hconfig
  have hopened := follows_begin (P := fun m => m.turn.Fits) (fun _ _ => trivial)
    (fun _ => trivial) (fun _ => trivial) (fun _ => trivial) hu
  have hplayed := follows_replay (P := fun m => m.turn.Fits) (fun _ _ => trivial)
    (fun _ _ => trivial) (fun step hstep _ _ hx => step.fits_turn (hscript step hstep) hx)
    (fun _ => trivial) ht
  exact hstart.follows (hopened.trans hplayed)

/-- A replay that succeeds prints the session in which its script ended. -/
theorem output_runReplay {monitors script : String} {steps : Script}
    (hmonitors : readAs Monitor.listDecoder files monitors = some ms)
    (hsteps : readAs Script.decoder files script = some steps)
    (h : (runReplay config store monitors script files).exit = 0) :
    ∃ t, playScript config store ms steps files = .ok (.ok (), t) ∧
      (runReplay config store monitors script files).output = (windowJson t).pretty ++ "\n" := by
  unfold runReplay at h ⊢
  rw [hmonitors, hsteps] at h ⊢
  simp only at h ⊢
  cases hplay : playScript config store ms steps files with
  | error halt =>
    rw [hplay] at h
    cases h
  | ok result =>
    obtain ⟨r, t⟩ := result
    rw [hplay] at h
    cases r with
    | error e => cases h
    | ok _ => exact ⟨t, rfl, rfl⟩

/-- `place` prints the rectangle in which the window opens, with a tray icon or without, if it is
asked for the scale of the configuration. A replay that succeeds prints the same one, unless a step
of its script moves the window. -/
theorem runRequest_samePlace {configPath settingsPath : Option String} {monitors : String}
    {scale : Option Int}
    (hconfig : config? ⟨configPath, settingsPath, .place monitors scale⟩ files = some config)
    (hscale : scale = none ∨ scale = some config.scale)
    (hstore : store = .openAt (settingsPath.getD config.settingsPath) files)
    (hmonitors : readAs Monitor.listDecoder files monitors = some ms)
    (hinit : init (opening config store ms files tray) = .ok s) :
    (runRequest ⟨configPath, settingsPath, .place monitors scale⟩ files).exit = 0 ∧
    geometryIn? (runRequest ⟨configPath, settingsPath, .place monitors scale⟩ files).output =
      some s.window.geometry ∧
    ∀ script steps, readAs Script.decoder files script = some steps →
      (∀ step ∈ steps, step.moves = false) →
      (runRequest ⟨configPath, settingsPath, .replay monitors script⟩ files).exit = 0 →
      geometryIn? (runRequest ⟨configPath, settingsPath, .replay monitors script⟩ files).output =
        some s.window.geometry := by
  have hplace := place_opening hinit
  have hfits : config.Fits := (inRange_config? hconfig).fits
  have hgeometry : s.window.geometry.Fits := Placement.fits_restore hfits.openingSize hplace
  have hsame : { config with scale := scale.getD config.scale } = config := by
    rcases hscale with rfl | rfl <;> rfl
  have hrun : runRequest ⟨configPath, settingsPath, .place monitors scale⟩ files =
      printed (placementJson s.window.geometry store.settings.placement.maximized) files := by
    simp only [runRequest, hconfig, runPlace, hmonitors, hsame, ← hstore, hplace]
  rw [hrun]
  refine ⟨rfl, geometryIn?_place hgeometry _ files, ?_⟩
  intro script steps hsteps hstill hexit
  have hreplay : runRequest ⟨configPath, settingsPath, .replay monitors script⟩ files =
      runReplay config store monitors script files := by
    have hconfig' : config? ⟨configPath, settingsPath, .replay monitors script⟩ files =
        some config := hconfig
    simp only [runRequest, hconfig', ← hstore]
  rw [hreplay] at hexit ⊢
  obtain ⟨t, hplay, hprinted⟩ := output_runReplay hmonitors hsteps hexit
  have hthere : s.window.geometry = t.window.geometry :=
    Except.ok.inj (hplace.symm.trans (geometry_playScript hstill hplay))
  rw [hstore] at hplay
  obtain ⟨_, hreached⟩ := reached_playScript hfits (holds_readAs Script.inverts hsteps) hplay
  have hsound := hreached.tended.sound
  rw [hprinted, hthere]
  exact geometryIn?_replay hsound.geometry hsound.record files

/-- A recorded window, with a native frame, is maximized by a script and waits until that is saved.
All files are written without names. -/
theorem runRequest_samePlace_recorded :
    let files : Tree := ⟨[
      (["monitors.json"], .file (.text "[[\"DP-1\",[0,0,1920,1080],[0,0,1920,1040],true]]")),
      (["script.json"], .file (.text "[[\"state\",\"maximized\"],[\"wait\",3000]]")),
      (["settings.json"], .file (.text
        "[[301,203,801,603,100,false,679109651],\"window_and_tray\",true]"))]⟩
    geometryIn? (runRequest ⟨none, none, .place "monitors.json" (some 100)⟩ files).output =
        some ⟨301, 203, 801, 603⟩ ∧
      geometryIn? (runRequest ⟨none, none, .replay "monitors.json" "script.json"⟩ files).output =
        some ⟨301, 203, 801, 603⟩ := by
  intro files
  let m : Monitor := ⟨"DP-1", ⟨0, 0, 1920, 1080⟩, ⟨0, 0, 1920, 1040⟩, true⟩
  have hmonitors : readAs Monitor.listDecoder files "monitors.json" = some [m] := by
    decide +kernel
  have hsteps : readAs Script.decoder files "script.json" =
      some [.state .maximized, .wait 3000] := by
    decide +kernel
  have hstore : FileStore.openAt "./settings.json" files = ⟨"./settings.json",
      ⟨⟨301, 203, 801, 603, 100, false, 679109651⟩, .windowAndTray, true⟩, false⟩ := by
    decide +kernel
  have hconfig : config? ⟨none, none, .place "monitors.json" (some 100)⟩ files =
      some .initial := rfl
  obtain ⟨s, hinit, hgeometry⟩ :
      ∃ s, init (opening .initial ⟨"./settings.json",
          ⟨⟨301, 203, 801, 603, 100, false, 679109651⟩, .windowAndTray, true⟩, false⟩ [m] files
          true) = .ok s ∧
        s.window.geometry = ⟨301, 203, 801, 603⟩ := by
    decide +kernel
  obtain ⟨-, hplace, hreplay⟩ :=
    runRequest_samePlace hconfig (.inr rfl) hstore.symm hmonitors hinit
  rw [hgeometry] at hplace hreplay
  exact ⟨hplace, hreplay "script.json" _ hsteps (by decide) (by decide +kernel)⟩

end CommandLine

end WindowKeeper
