import WindowKeeper.Proofs.Placement.Restored

namespace WindowKeeper

theorem defaultRect_within {ms : List Monitor} {m : Monitor} {usual : Size} {d : Rect}
    (hm : Monitor.primary? ms = some m)
    (hfit : usual.w ≤ m.available.w ∧ usual.h ≤ m.available.h)
    (h : defaultRect ms usual = .ok d) : d.Within m.available ∧ d.w = usual.w ∧ d.h = usual.h := by
  rw [defaultRect, hm] at h
  refine ⟨Rect.centered_within hfit.1 hfit.2 h, ?_⟩
  rw [(Rect.centered_eq_ok h).1]
  exact ⟨rfl, rfl⟩

theorem Monitor.primary?_isSome {ms : List Monitor} (h : ms ≠ []) :
    ∃ m, Monitor.primary? ms = some m := by
  obtain ⟨n, ns, rfl⟩ := List.exists_cons_of_ne_nil h
  unfold primary?
  cases (n :: ns).find? (·.primary) with
  | none => exact ⟨n, rfl⟩
  | some m => exact ⟨m, rfl⟩

namespace Placement

theorem restore_onScreen {p : Placement} {ms : List Monitor} {usual least : Size}
    {frame : Margins} {d : Rect} (hms : ms ≠ []) (hleast : 0 < least.w ∧ 0 < least.h)
    (husual : 0 < usual.w ∧ 0 < usual.h)
    (hfit : ∀ m, Monitor.primary? ms = some m →
      usual.w ≤ m.available.w ∧ usual.h ≤ m.available.h)
    (hframe : frame.Outward) (hd : defaultRect ms usual = .ok d)
    (hspace : ∀ m, Monitor.named? ms p.monitor = some m →
      ∃ space, m.available.inset frame = .ok space) :
    ∃ r, p.restore ms usual least frame = .ok r ∧ 0 < r.w ∧ 0 < r.h ∧
      ((∃ m, Monitor.primary? ms = some m ∧ r.Within m.available) ∨
        ∃ m, Monitor.named? ms p.monitor = some m ∧ r.Within m.available) ∧
      (r ≠ d → ∃ m, Monitor.named? ms p.monitor = some m ∧ r.Within m.available ∧
        r.x + least.w ≤ m.geometry.x + m.geometry.w ∧
        r.y + least.h ≤ m.geometry.y + m.geometry.h) := by
  obtain ⟨k, hk⟩ := Monitor.primary?_isSome hms
  obtain ⟨hdin, hdw, hdh⟩ := defaultRect_within hk (hfit k hk) hd
  have hdefault : 0 < d.w ∧ 0 < d.h ∧
      ((∃ m, Monitor.primary? ms = some m ∧ d.Within m.available) ∨
        ∃ m, Monitor.named? ms p.monitor = some m ∧ d.Within m.available) :=
    ⟨by omega, by omega, .inl ⟨k, hk, hdin⟩⟩
  by_cases hlost : p.hasSize = false ∨ Monitor.named? ms p.monitor = none
  · obtain ⟨hw, hh, hin⟩ := hdefault
    exact ⟨d, restore_of_lost hd hlost, hw, hh, hin, fun hne => absurd rfl hne⟩
  · rw [not_or, Bool.not_eq_false] at hlost
    obtain ⟨hs, hn⟩ := hlost
    obtain ⟨m, hm⟩ := Option.ne_none_iff_exists'.mp hn
    obtain ⟨space, hi⟩ := hspace m hm
    refine ⟨_, restore_of_named hd hs hm hi, ?_⟩
    cases hp : p.placeOn m space least with
    | none =>
      obtain ⟨hw, hh, hin⟩ := hdefault
      exact ⟨hw, hh, hin, fun hne => absurd rfl hne⟩
    | some r =>
      obtain ⟨⟨hw, hh⟩, hin, hedge⟩ := placeOn_within hs hleast hframe hi hp
      exact ⟨hw, hh, .inr ⟨m, hm, hin⟩, fun _ => ⟨m, hm, hin, hedge⟩⟩

/-- A record with the largest offsets, on a monitor to the left of the origin. -/
theorem restore_onScreen_far :
    let m : Monitor := ⟨"DP-1", ⟨-1920, 0, 1920, 1080⟩, ⟨-1920, 40, 1920, 1040⟩, true⟩
    let p : Placement := ⟨2147483647, 2147483647, 2147483647, 600, 100, false, m.checksum⟩
    ∃ r, p.restore [m] ⟨800, 600⟩ ⟨380, 480⟩ ⟨8, 31, 8, 8⟩ = .ok r ∧ 0 < r.w ∧ 0 < r.h ∧
      ((∃ m', Monitor.primary? [m] = some m' ∧ r.Within m'.available) ∨
        ∃ m', Monitor.named? [m] p.monitor = some m' ∧ r.Within m'.available) ∧
      (r ≠ ⟨-1360, 260, 800, 600⟩ →
        ∃ m', Monitor.named? [m] p.monitor = some m' ∧ r.Within m'.available ∧
          r.x + 380 ≤ m'.geometry.x + m'.geometry.w ∧
          r.y + 480 ≤ m'.geometry.y + m'.geometry.h) := by
  intro m p
  have hprimary : Monitor.primary? [m] = some m := rfl
  have hnamed : Monitor.named? [m] p.monitor = some m := by
    simp [Monitor.named?, p]
  apply restore_onScreen (by simp) (by decide) (by decide) _ ⟨by decide, by decide, by decide,
    by decide⟩ rfl
  · intro m' hm
    rw [hnamed] at hm
    cases hm
    exact ⟨⟨-1912, 71, 1904, 1001⟩, rfl⟩
  · intro m' hm
    rw [hprimary] at hm
    cases hm
    decide

end Placement

end WindowKeeper
