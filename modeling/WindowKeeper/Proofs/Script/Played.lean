import WindowKeeper.Proofs.Session.Course

namespace WindowKeeper

/-- The turn in which a step is performed, if it is not a wait. -/
def Script.Step.turn? : Script.Step → Option Turn
  | .move x y => some (.act (.move x y) rfl)
  | .resize w h => some (.act (.resize w h) rfl)
  | .state st => some (.act (.setState st) rfl)
  | .visible b => some (.act (.setVisible b) rfl)
  | .focus b => some (.act (.setFocus b) rfl)
  | .monitors ms => some (.act (.setMonitors ms) rfl)
  | .placed => some (.handle .placed)
  | .tray activation => some (.handle (.trayActivated activation))
  | .unread count => some (.handle (.unreadChanged count))
  | .workMode mode => some (.handle (.workModeChanged mode))
  | .nativeFrame native => some (.handle (.nativeFrameChanged native))
  | .rightColumn width => some (.act (.setRightColumn width) rfl)
  | .close => some (.handle .closeRequested)
  | .wait _ => none

namespace Session

variable {σ : Type} [Store σ] {P : Moment σ → Prop} {s t : Session σ}

theorem turn_perform {step : Script.Step} {x : Turn} (hx : step.turn? = some x)
    (h : perform s step = .ok t) : s.turn x = .ok t := by
  cases step with
  | rightColumn width =>
    cases hx
    exact turn_answered rfl rfl h
  | wait ms => cases hx
  | placed | tray | unread | workMode | nativeFrame | close =>
    cases hx
    exact h
  | move | resize | state | visible | focus | monitors =>
    cases hx
    cases h
    rfl

section
variable (hnext : ∀ r deadline, P ⟨r, .next deadline⟩) (hpass : ∀ r now, P ⟨r, .pass now⟩)
include hnext hpass

theorem follows_perform {step : Script.Step} (hstep : ∀ x, step.turn? = some x → P ⟨s, x⟩)
    (h : perform s step = .ok t) : Follows P s t := by
  cases hx : step.turn? with
  | some x => exact Follows.refl.turn (hstep x hx) (turn_perform hx h)
  | none =>
    cases step with
    | wait ms => exact follows_waitUntil (fun r => hnext r _) (fun r => hpass r _) h
    | _ => cases hx

theorem follows_play {script : Script}
    (hscript : ∀ step ∈ script, ∀ r x, Script.Step.turn? step = some x → P ⟨r, x⟩)
    (h : s.play script = .ok t) : Follows P s t :=
  play_keeps (P := Follows P s) (Q := Follows P s) h .refl
    (fun hstep hr hu => hr.trans (follows_perform hnext hpass (hscript _ hstep _) hu))
    fun hr hu => hr.trans (follows_handleQueued hnext hu)

omit hnext hpass in
/-- The window is set up and shown before the queue is processed for the first time. -/
theorem follows_opened {tray : Bool} (htray : ∀ r, P ⟨r, .act .attachTray rfl⟩)
    (hinit : ∀ r, P ⟨r, .act .init rfl⟩) (hactivate : ∀ r, P ⟨r, .act .activate rfl⟩)
    (h : init (if tray then attachTray s else s) = .ok t) : Follows P s (activate t) := by
  have hattached : Follows P s (if tray then attachTray s else s) := by
    cases tray with
    | false => exact .refl
    | true => exact Follows.refl.turn (htray s) rfl
  have hopened := turn_answered (a := .init) rfl rfl h
  have hactive : t.turn (.act .activate rfl) = .ok (activate t) := rfl
  exact (hattached.turn (hinit _) hopened).turn (hactivate t) hactive

omit hpass in
theorem follows_begin {tray : Bool} (htray : ∀ r, P ⟨r, .act .attachTray rfl⟩)
    (hinit : ∀ r, P ⟨r, .act .init rfl⟩) (hactivate : ∀ r, P ⟨r, .act .activate rfl⟩)
    (h : s.begin tray = .ok t) : Follows P s t := by
  simp only [begin, bind_eq_ok] at h
  obtain ⟨u, hu, h⟩ := h
  exact (follows_opened htray hinit hactivate hu).trans (follows_handleQueued hnext h)

theorem follows_replay {script : Script} {r : Except Settings.SaveError Unit}
    (hscript : ∀ step ∈ script, ∀ r x, Script.Step.turn? step = some x → P ⟨r, x⟩)
    (hshutdown : ∀ r, P ⟨r, .shutdown⟩) (h : s.replay script = .ok (r, t)) : Follows P s t := by
  simp only [replay, bind_eq_ok] at h
  obtain ⟨u, hu, h⟩ := h
  exact (follows_play hnext hpass hscript hu).turn (hshutdown u) (turn_shutdown h)

end

end Session

end WindowKeeper
