import WindowKeeper.Proofs.Placement.Remembered

namespace WindowKeeper.Snapshot

variable {s : Snapshot} {saved p : Placement} {ms : List Monitor} {scale : Int} {least : Size}

/-- The record that a window which is not maximized offers for writing, whatever is recorded. -/
def offer (s : Snapshot) (ms : List Monitor) (scale : Int) (least : Size) :
    Except Overflow (Option Placement) :=
  if s.worthSaving then do
    let p ← s.bodyPlacement ms scale
    return if p.fits least then some p else none
  else .ok none

/-- Of a window that is not maximized the offer is written unless it is recorded already. -/
theorem remember_eq_offer (hstate : s.state ≠ .maximized) (saved : Placement) :
    s.remember saved ms scale least = (Option.filter (· ≠ saved)) <$> s.offer ms scale least := by
  rw [remember, offer, candidate, if_neg hstate]
  by_cases hworth : s.worthSaving
  · rw [if_pos hworth, if_pos hworth]
    cases s.bodyPlacement ms scale with
    | error e => rfl
    | ok p =>
      change Except.ok _ = Except.ok _
      by_cases hfits : p.fits least
      · simp [hfits, Option.filter_some]
      · simp [hfits]
  · rw [if_neg hworth, if_neg hworth]
    rfl

/-- The candidate of a window is its candidate also in place of itself. -/
theorem candidate_candidate (h : s.candidate saved ms scale = .ok p) :
    s.candidate p ms scale = .ok p := by
  by_cases hstate : s.state = .maximized
  · rw [candidate, if_pos hstate] at h ⊢
    cases h
    rfl
  · rwa [candidate, if_neg hstate] at h ⊢

theorem remember_of_recorded (hworth : s.worthSaving)
    (h : s.candidate saved ms scale = .ok saved) :
    s.remember saved ms scale least = .ok none := by
  simp [remember, hworth, h, bind, Except.bind, pure, Except.pure]

/-- What is written of a window that is not maximized is its place on the nearest monitor. -/
theorem candidate_onNearest (hms : ms ≠ []) (hstate : s.state ≠ .maximized)
    (h : s.candidate saved ms scale = .ok p) :
    ∃ c n, s.kept.center = .ok c ∧ Monitor.FirstNearest ms c n ∧ p.monitor = n.checksum ∧
      p.x + n.geometry.x = s.body.x ∧ p.y + n.geometry.y = s.body.y := by
  rw [candidate, if_neg hstate] at h
  obtain ⟨-, c, hc, ⟨hn, -⟩ | ⟨n, hn, rfl, -, -⟩⟩ := bodyPlacement_eq_ok h
  · exact absurd (Monitor.nearest?_eq_none hn) hms
  · refine ⟨c, n, hc, Monitor.nearest?_eq_some.mp hn, rfl, ?_, ?_⟩
    · exact Int.sub_add_cancel s.body.x n.geometry.x
    · exact Int.sub_add_cancel s.body.y n.geometry.y

theorem remember_resaved (s : Snapshot) (ms : List Monitor) (scale : Int) (least : Size) :
    (∀ saved p, s.remember saved ms scale least = .ok (some p) →
      (p ≠ saved ∧ p.fits least ∧ s.remember p ms scale least = .ok none) ∧
      (s.state = .maximized → p = { saved with maximized := true }) ∧
      (s.state = .normal ∨ s.state = .fullscreen → ms ≠ [] →
        ∃ c n, s.kept.center = .ok c ∧ Monitor.FirstNearest ms c n ∧ p.monitor = n.checksum ∧
          p.x + n.geometry.x = s.body.x ∧ p.y + n.geometry.y = s.body.y)) ∧
    (s.state = .normal ∨ s.state = .fullscreen →
      ∀ saved saved' o, s.remember saved ms scale least = .ok o →
        ∃ o', s.remember saved' ms scale least = .ok o' ∧
          ((∃ p, o = some p ∧ o' = some p) ∨ (∃ p, o = some p ∧ o' = none ∧ saved' = p) ∨
            (∃ p, o = none ∧ o' = some p ∧ saved = p) ∨ (o = none ∧ o' = none))) := by
  have hmax (h : s.state = .normal ∨ s.state = .fullscreen) : s.state ≠ .maximized := by
    rcases h with h | h <;> simp [h]
  constructor
  · intro saved p h
    obtain ⟨hworth, hc, hfits, hne⟩ := remember_eq_some h
    refine ⟨⟨hne, hfits, remember_of_recorded hworth (candidate_candidate hc)⟩, ?_, ?_⟩
    · intro hstate
      rw [candidate, if_pos hstate] at hc
      cases hc
      rfl
    · intro hstate hms
      exact candidate_onNearest hms (hmax hstate) hc
  · intro hstate saved saved' o h
    rw [remember_eq_offer (hmax hstate), map_eq_ok] at h
    obtain ⟨q, hq, rfl⟩ := h
    refine ⟨q.filter (· ≠ saved'), by rw [remember_eq_offer (hmax hstate), hq]; rfl, ?_⟩
    cases q with
    | none => simp
    | some p =>
      by_cases hp : p = saved
      · by_cases hp' : p = saved'
        · simp [hp, ← hp']
        · exact .inr (.inr (.inl ⟨p, by simp [hp], by simp [hp'], hp.symm⟩))
      · by_cases hp' : p = saved'
        · exact .inr (.inl ⟨p, by simp [hp], by simp [hp'], hp'.symm⟩)
        · exact .inl ⟨p, by simp [hp], by simp [hp']⟩

/-- A window with a right column on the second of two monitors is recorded there in place of an old
record and not again; maximized, it only sets the flag. -/
theorem remember_resaved_column :
    let first : Monitor := ⟨"DP-1", ⟨0, 0, 1920, 1080⟩, ⟨0, 40, 1920, 1040⟩, true⟩
    let second : Monitor := ⟨"DP-2", ⟨1920, 0, 1280, 1024⟩, ⟨1920, 0, 1280, 984⟩, false⟩
    let s : Snapshot := ⟨⟨2221, 203, 1001, 603⟩, .normal, true, true, 200⟩
    let maximized : Snapshot := { s with state := .maximized }
    let old : Placement := ⟨17, 19, 640, 480, 200, true, 7⟩
    let p : Placement := ⟨301, 203, 801, 603, 125, false, second.checksum⟩
    s.remember old [first, second] 125 ⟨380, 480⟩ = .ok (some p) ∧
      s.remember p [first, second] 125 ⟨380, 480⟩ = .ok none ∧
      (∃ o, s.remember .empty [first, second] 125 ⟨380, 480⟩ = .ok o ∧ o = some p) ∧
      maximized.remember p [first, second] 200 ⟨380, 480⟩ =
        .ok (some { p with maximized := true }) ∧
      maximized.remember { p with maximized := true } [first, second] 200 ⟨380, 480⟩ = .ok none := by
  intro first second s maximized old p
  have hwritten : s.remember old [first, second] 125 ⟨380, 480⟩ = .ok (some p) := rfl
  have hflagged : maximized.remember p [first, second] 200 ⟨380, 480⟩ =
      .ok (some { p with maximized := true }) := rfl
  obtain ⟨hsaved, hforgets⟩ := remember_resaved s [first, second] 125 ⟨380, 480⟩
  obtain ⟨hsaved', -⟩ := remember_resaved maximized [first, second] 200 ⟨380, 480⟩
  obtain ⟨o, ho, hcases⟩ := hforgets (.inl rfl) old .empty _ hwritten
  refine ⟨hwritten, (hsaved old p hwritten).1.2.2, ⟨o, ho, ?_⟩, hflagged,
    (hsaved' p _ hflagged).1.2.2⟩
  rcases hcases with ⟨q, hq, ho'⟩ | ⟨q, hq, -, hempty⟩ | ⟨q, hq, -, -⟩ | ⟨hq, -⟩
  · exact ho'.trans hq.symm
  · cases hq
    exact absurd (congrArg Placement.w hempty) (by decide)
  · cases hq
  · cases hq

end WindowKeeper.Snapshot
