import WindowKeeper.Proofs.Session.Deeds

namespace WindowKeeper

/-- The title of the window, and what it depends on. -/
@[ext]
structure Caption where
  title : String
  unread : Nat
  config : Config
  quitting : Bool

namespace Caption

variable {c d : Caption}

/-- The title that tells the name of the program and, if anything is unread, how much. -/
def wanted (c : Caption) : String :=
  if c.unread = 0 then c.config.appName
  else c.config.appName ++ " (" ++ toString c.unread ++ ")"

/-- The title is the one that is wanted, which no longer matters once the session quits. -/
def Right (c : Caption) : Prop := c.quitting = false → c.title = c.wanted

/-- The title is written anew, unless the session quits. -/
def updated (c : Caption) : Caption := if c.quitting then c else { c with title := c.wanted }

theorem right_updated (c : Caption) : c.updated.Right := by
  unfold updated
  split
  · rename_i hquits
    intro hrunning
    rw [hquits] at hrunning
    cases hrunning
  · exact fun _ => rfl

/-- What a turn can do to a caption. -/
inductive Leads (c : Caption) : Caption → Prop
  | keep : Leads c c
  | update (n : Nat) : Leads c { c with unread := n }.updated
  | quit : Leads c { c with quitting := true }

theorem Right.leads (h : c.Right) (hd : c.Leads d) : d.Right := by
  cases hd with
  | keep => exact h
  | update n => exact right_updated _
  | quit => exact fun hrunning => by cases hrunning

end Caption

namespace Session

variable {σ : Type} {s t : Session σ}

def caption (s : Session σ) : Caption := ⟨s.window.title, s.unread, s.config, s.quitting⟩

/-- The caption is a part of the attire. -/
theorem caption_of_attire (h : t.attire = s.attire) : t.caption = s.caption :=
  congrArg (fun a => Caption.mk a.title a.unread a.config a.quitting) h

theorem leads_of_attire (h : t.attire = s.attire) : s.caption.Leads t.caption :=
  caption_of_attire h ▸ .keep

theorem updateTitle_eq (s : Session σ) : updateTitle s =
    if s.quitting then s
    else { s with window := { s.window with title := s.caption.wanted } } := rfl

theorem caption_updateTitle (s : Session σ) : (updateTitle s).caption = s.caption.updated := by
  rw [updateTitle_eq, Caption.updated]
  change _ = if s.quitting then _ else _
  split <;> rfl

theorem updateTitle_of_right (h : s.caption.Right) : updateTitle s = s := by
  rw [updateTitle_eq]
  split
  · rfl
  · rename_i hrunning
    rw [← h (eq_false_of_ne_true hrunning)]
    rfl

theorem caption_updateIcon (s : Session σ) : (updateIcon s).caption = s.caption := by
  have hrenewed : (renewIcon s).caption = s.caption := by
    unfold renewIcon
    split
    · split <;> rfl
    · rfl
  simp only [updateIcon]
  split <;> exact hrenewed

variable [Store σ]

theorem caption_showFromTray (s : Session σ) : (showFromTray s).caption = s.caption.updated := by
  rw [showFromTray, caption_updateTitle, caption_of_attire (attire_activate s)]

theorem caption_init (h : init s = .ok t) : t.caption = s.caption.updated := by
  obtain ⟨r, hr, rfl⟩ := init_dresses h
  rw [caption_updateTitle, caption_of_attire hr, caption_updateIcon]

theorem leads_close (s : Session σ) : s.caption.Leads (close s).2.caption := by
  rcases attire_close s with hsame | hquits
  · exact leads_of_attire hsame
  · have hcaption : (close s).2.caption = { s.caption with quitting := true } :=
      congrArg (fun a => Caption.mk a.title a.unread a.config a.quitting) hquits
    rw [hcaption]
    exact .quit

theorem leads_handle {e : Event} (h : handle s e = .ok t) : s.caption.Leads t.caption := by
  cases e with
  | unreadChanged count =>
    cases h
    rw [caption_updateTitle]
    exact .update count
  | trayActivated a =>
    cases h
    rcases attire_trayActivated s a with hshown | hsame
    · rw [hshown, caption_showFromTray]
      exact .update s.unread
    · exact leads_of_attire hsame
  | iconChanged id =>
    cases h
    rw [caption_updateIcon]
    exact .keep
  | accountChanged =>
    rw [caption_of_attire (attire_updateLeastSize h), caption_updateIcon]
    exact .keep
  | closeRequested =>
    cases h
    exact leads_close s
  | quit =>
    cases h
    exact .quit
  | _ => exact leads_of_attire ((does_handle h).attire rfl)

theorem leads_act {a : Action} {reply : Reply} (single : a.isStep) (h : act s a = .ok (reply, t)) :
    s.caption.Leads t.caption := by
  cases a with
  | init =>
    rw [caption_init (of_answered h)]
    exact .update s.unread
  | updateTitle =>
    cases h
    rw [caption_updateTitle]
    exact .update s.unread
  | showFromTray =>
    cases h
    rw [caption_showFromTray]
    exact .update s.unread
  | updateIcon =>
    cases h
    rw [caption_updateIcon]
    exact .keep
  | close =>
    cases h
    exact leads_close s
  | quit =>
    cases h
    exact .quit
  | _ => exact leads_of_attire ((does_act single h).attire rfl)

theorem leads_turn {x : Turn} (h : s.turn x = .ok t) : s.caption.Leads t.caption := by
  cases x with
  | act a single =>
    obtain ⟨⟨reply, u⟩, hu, rfl⟩ := map_eq_ok.mp h
    exact leads_act single hu
  | handle e => exact leads_handle h
  | next deadline =>
    rcases turn_next_cases h with ⟨-, rfl⟩ | ⟨e, r, hn, hr⟩
    · exact .keep
    · rw [← caption_of_attire (attire_nextEvent hn)]
      exact leads_handle hr
  | pass now =>
    cases h
    exact .keep
  | shutdown =>
    obtain ⟨⟨r, u⟩, hu, rfl⟩ := map_eq_ok.mp h
    obtain ⟨_, _, _, _, _, rfl⟩ := shutdown_touches hu
    exact .keep

/-- From its opening on, a window has the right title in a course of any kind. -/
theorem course_titled {r : Session σ} {ms : List (Moment σ)} (hinit : r.init = .ok s)
    (h : s.Course ms t) : t.caption.Right := by
  induction h with
  | start =>
    rw [caption_init hinit]
    exact Caption.right_updated _
  | turn _ ht ih => exact ih.leads (leads_turn ht)

end Session

end WindowKeeper
