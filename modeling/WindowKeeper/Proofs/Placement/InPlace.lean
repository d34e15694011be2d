import WindowKeeper.Proofs.Placement.Remembered
import WindowKeeper.Proofs.Placement.Restored

namespace WindowKeeper

open Monitor (Arranged named?)

theorem Snapshot.kept_of_bare {s : Snapshot} (h : s.rightColumn = 0) : s.kept = s.body := by
  simp [kept, h]

/-- What is in force after saving a window without a right column that has at least the least
size. -/
theorem Snapshot.inForce_of_bare {s : Snapshot} {saved p : Placement} {ms : List Monitor}
    {scale : Int} {least : Size} (hms : ms ≠ []) (hvisible : s.visible) (hplaced : s.placed)
    (hstate : s.state = .normal) (hcolumn : s.rightColumn = 0)
    (hsize : least.w ≤ s.body.w ∧ least.h ≤ s.body.h)
    (h : s.inForce saved ms scale least = .ok p) :
    ∃ c n, s.body.center = .ok c ∧ Monitor.nearest? ms c = .ok (some n) ∧
      p = s.recordOn scale n := by
  have hworth : s.worthSaving := by simp [worthSaving, hvisible, hplaced, hstate]
  rw [← kept_of_bare hcolumn] at hsize ⊢
  exact (inForce_recordOn hms hworth (by simp [hstate]) hsize h).2

namespace Placement

/-- The record of a body on a monitor, written out. -/
theorem recordOn_of_bare {s : Snapshot} (hcolumn : s.rightColumn = 0) (scale : Int) (m : Monitor) :
    s.recordOn scale m = ⟨s.body.x - m.geometry.x, s.body.y - m.geometry.y, s.body.w, s.body.h,
      scale, false, m.checksum⟩ := by
  rw [Snapshot.recordOn, Snapshot.kept_of_bare hcolumn]

/-- The record of a body is honoured in place on the monitor whose usable space holds the body. -/
theorem placeOn_recordOn {s : Snapshot} {scale : Int} {m : Monitor} {space : Rect} {least : Size}
    {frame : Margins} (hcolumn : s.rightColumn = 0) (hfits : s.body.Fits)
    (hsize : least.w ≤ s.body.w ∧ least.h ≤ s.body.h) (hframe : frame.Outward)
    (hav : m.available.Within m.geometry) (hi : m.available.inset frame = .ok space)
    (hin : s.body.Within space) :
    (s.recordOn scale m).placeOn m space least = some s.body := by
  have hbody : s.body = ⟨(s.recordOn scale m).x + m.geometry.x,
      (s.recordOn scale m).y + m.geometry.y, (s.recordOn scale m).w, (s.recordOn scale m).h⟩ := by
    simp [Snapshot.recordOn, Snapshot.kept_of_bare hcolumn]
  have hedge := hin.trans ((Rect.inset_within hframe hi).trans hav)
  obtain ⟨hl, ht, hr, hb⟩ := hin
  have hright := hedge.right
  have hbottom := hedge.bottom
  exact placeOn_eq_some.mpr ⟨⟨by omega, by omega⟩, ⟨by omega, by omega⟩, hfits,
    (inside_eq_self hbody ⟨hl, ht, hr, hb⟩).symm⟩

/-- What is saved of a window is its corner relative to the monitor nearest to its center. If that
is the monitor on which the window lies, the window comes back in place; if it is another one, the
window comes back there or where a new window would go. -/
theorem restore_inForce_inPlace {ms : List Monitor} {m : Monitor} {s : Snapshot}
    {saved p : Placement} {scale : Int} {usual least : Size} {frame : Margins} {space d : Rect}
    (hms : Arranged ms) (hleast : 0 < least.w ∧ 0 < least.h) (hframe : frame.Outward)
    (hvisible : s.visible) (hplaced : s.placed) (hstate : s.state = .normal)
    (hcolumn : s.rightColumn = 0) (hfits : s.body.Fits)
    (hsize : least.w ≤ s.body.w ∧ least.h ≤ s.body.h) (hm : m ∈ ms)
    (hspace : m.available.inset frame = .ok space) (hin : s.body.Within space)
    (hsave : s.inForce saved ms scale least = .ok p) (hd : defaultRect ms usual = .ok d)
    (hinset : ∀ n ∈ ms, ∃ r, n.available.inset frame = .ok r) :
    ∃ c n, s.body.center = .ok c ∧ Monitor.nearest? ms c = .ok (some n) ∧
      p = ⟨s.body.x - n.geometry.x, s.body.y - n.geometry.y, s.body.w, s.body.h, scale, false,
        n.checksum⟩ ∧
      (n = m → p.restore ms usual least frame = .ok s.body) ∧
      (n ≠ m → ∃ r, p.restore ms usual least frame = .ok r ∧
        (r = d ∨ r.Within n.available ∧ r ≠ s.body)) := by
  obtain ⟨c, n, hc, hn, rfl⟩ := Snapshot.inForce_of_bare (List.ne_nil_of_mem hm) hvisible hplaced
    hstate hcolumn hsize hsave
  have hmem := Monitor.nearest?_mem hn
  have hsized : (s.recordOn scale n).hasSize := by
    simp only [hasSize, Snapshot.recordOn, Snapshot.kept_of_bare hcolumn, Bool.and_eq_true,
      decide_eq_true_eq]
    omega
  have hnamed : named? ms (s.recordOn scale n).monitor = some n :=
    Monitor.named?_of_mem hms.checksums hmem
  obtain ⟨room, hroom⟩ := hinset n hmem
  have hrestore : (s.recordOn scale n).restore ms usual least frame =
      .ok (((s.recordOn scale n).placeOn n room least).getD d) :=
    restore_of_named hd hsized hnamed hroom
  refine ⟨c, n, hc, hn, recordOn_of_bare hcolumn scale n, ?_, fun hne => ⟨_, hrestore, ?_⟩⟩
  · rintro rfl
    rw [hspace] at hroom
    cases hroom
    rw [hrestore, placeOn_recordOn hcolumn hfits hsize hframe (hms.available n hm) hspace hin]
    rfl
  · cases hp : (s.recordOn scale n).placeOn n room least with
    | none => exact .inl rfl
    | some r =>
      obtain ⟨-, hr, -⟩ := placeOn_within hsized hleast hframe hroom hp
      refine .inr ⟨hr, ?_⟩
      -- the body lies on `m`, which shares no point with `n`
      rintro rfl
      have hon := hin.trans ((Rect.inset_within hframe hspace).trans (hms.available m hm))
      have hdis := hms.disjoint_of_ne hm hmem (Ne.symm hne)
      exact hon.not_of_disjoint (by omega) (by omega) hdis (hr.trans (hms.available n hmem))

/-- A window on the right of a wide monitor is nearer to the center of its neighbour: saved
relative to the neighbour, it comes back there. -/
theorem restore_inForce_misplaced :
    ¬ ∀ (ms : List Monitor) (m : Monitor) (s : Snapshot) (saved p : Placement) (scale : Int)
        (usual least : Size) (frame : Margins) (space d : Rect),
      Arranged ms → 0 < least.w ∧ 0 < least.h → frame.Outward →
      s.visible → s.placed → s.state = .normal → s.rightColumn = 0 → s.body.Fits →
      least.w ≤ s.body.w ∧ least.h ≤ s.body.h → m ∈ ms →
      m.available.inset frame = .ok space → s.body.Within space →
      s.inForce saved ms scale least = .ok p → defaultRect ms usual = .ok d →
      (∀ n ∈ ms, ∃ r, n.available.inset frame = .ok r) →
      p.restore ms usual least frame = .ok s.body := by
  intro h
  let wide : Monitor := ⟨"DP-1", ⟨0, 0, 3000, 1000⟩, ⟨0, 0, 3000, 1000⟩, true⟩
  let narrow : Monitor := ⟨"DP-2", ⟨3000, 0, 800, 1000⟩, ⟨3000, 0, 800, 1000⟩, false⟩
  let s : Snapshot := ⟨⟨2400, 200, 500, 500⟩, .normal, true, true, 0⟩
  let p : Placement := ⟨-600, 200, 500, 500, 100, false, narrow.checksum⟩
  have hchecksums : wide.checksum ≠ narrow.checksum := by decide +kernel
  have hms : Arranged [wide, narrow] := Monitor.arranged_pair hchecksums (by decide)
    (by constructor <;> decide) (by constructor <;> decide)
  have hd : defaultRect [wide, narrow] ⟨800, 600⟩ = .ok ⟨1100, 200, 800, 600⟩ := rfl
  have hinset : ∀ n ∈ [wide, narrow], n.available.inset .none = .ok n.available := by
    simp only [List.mem_cons, List.not_mem_nil, or_false, forall_eq_or_imp, forall_eq]
    exact ⟨rfl, rfl⟩
  have hfits : s.body.Fits := by constructor <;> decide
  have hback := h [wide, narrow] wide s .empty p 100 ⟨800, 600⟩ ⟨380, 480⟩ .none wide.available
    ⟨1100, 200, 800, 600⟩ hms (by decide) (by constructor <;> decide) rfl rfl rfl rfl hfits
    (by decide) (by simp) rfl (by constructor <;> decide) rfl hd
    fun n hn => ⟨_, hinset n hn⟩
  have hnamed : named? [wide, narrow] p.monitor = some narrow :=
    Monitor.named?_of_mem hms.checksums (by simp)
  rw [restore_of_named hd (by decide) hnamed (hinset narrow (by simp))] at hback
  have hplace : p.placeOn narrow narrow.available ⟨380, 480⟩ = some ⟨3000, 200, 500, 500⟩ := rfl
  rw [hplace] at hback
  simp [s] at hback

/-- A window on the second of two monitors of one size comes back in place. One on the right of a
wide monitor is recorded relative to the narrow neighbour, and comes back there. -/
theorem restore_inForce_inPlace_both :
    (let first : Monitor := ⟨"DP-1", ⟨0, 0, 1920, 1080⟩, ⟨0, 40, 1920, 1040⟩, true⟩
      let second : Monitor := ⟨"DP-2", ⟨1920, 0, 1920, 1080⟩, ⟨1920, 0, 1920, 1080⟩, false⟩
      let s : Snapshot := ⟨⟨2500, 200, 1000, 700⟩, .normal, true, true, 0⟩
      let p : Placement := ⟨580, 200, 1000, 700, 125, false, second.checksum⟩
      s.inForce .empty [first, second] 125 ⟨380, 480⟩ = .ok p ∧
        p.restore [first, second] ⟨800, 600⟩ ⟨380, 480⟩ ⟨8, 31, 8, 8⟩ = .ok s.body) ∧
    let wide : Monitor := ⟨"DP-1", ⟨0, 0, 3000, 1000⟩, ⟨0, 0, 3000, 1000⟩, true⟩
    let narrow : Monitor := ⟨"DP-2", ⟨3000, 0, 800, 1000⟩, ⟨3000, 0, 800, 1000⟩, false⟩
    let s : Snapshot := ⟨⟨2400, 200, 500, 500⟩, .normal, true, true, 0⟩
    let p : Placement := ⟨-600, 200, 500, 500, 100, false, narrow.checksum⟩
    s.inForce .empty [wide, narrow] 100 ⟨380, 480⟩ = .ok p ∧
      ∃ r, p.restore [wide, narrow] ⟨800, 600⟩ ⟨380, 480⟩ .none = .ok r ∧
        (r = ⟨1100, 200, 800, 600⟩ ∨ r.Within narrow.available ∧ r ≠ s.body) := by
  constructor
  · intro first second s p
    have hchecksums : first.checksum ≠ second.checksum := by decide +kernel
    have hms : Arranged [first, second] := Monitor.arranged_pair hchecksums (by decide)
      (by constructor <;> decide) (by constructor <;> decide)
    have hinset : ∀ n ∈ [first, second], ∃ r, n.available.inset ⟨8, 31, 8, 8⟩ = .ok r := by
      simp only [List.mem_cons, List.not_mem_nil, or_false, forall_eq_or_imp, forall_eq]
      exact ⟨⟨_, rfl⟩, ⟨_, rfl⟩⟩
    have hsave : s.inForce .empty [first, second] 125 ⟨380, 480⟩ = .ok p := rfl
    have hmem : second ∈ [first, second] := by simp
    have hspace : second.available.inset ⟨8, 31, 8, 8⟩ = .ok ⟨1928, 31, 1904, 1041⟩ := rfl
    have hd : defaultRect [first, second] ⟨800, 600⟩ = .ok ⟨560, 260, 800, 600⟩ := rfl
    obtain ⟨c, n, hc, hn, -, hsame, -⟩ := restore_inForce_inPlace hms (by decide)
      (by constructor <;> decide) rfl rfl rfl rfl (by constructor <;> decide) (by decide) hmem
      hspace (by constructor <;> decide) hsave hd hinset
    have hnearest : Monitor.nearest? [first, second] ⟨3000, 550⟩ = .ok (some second) := rfl
    cases hc
    cases hnearest.symm.trans hn
    exact ⟨hsave, hsame rfl⟩
  · intro wide narrow s p
    have hchecksums : wide.checksum ≠ narrow.checksum := by decide +kernel
    have hms : Arranged [wide, narrow] := Monitor.arranged_pair hchecksums (by decide)
      (by constructor <;> decide) (by constructor <;> decide)
    have hinset : ∀ n ∈ [wide, narrow], ∃ r, n.available.inset .none = .ok r := by
      simp only [List.mem_cons, List.not_mem_nil, or_false, forall_eq_or_imp, forall_eq]
      exact ⟨⟨_, rfl⟩, ⟨_, rfl⟩⟩
    have hsave : s.inForce .empty [wide, narrow] 100 ⟨380, 480⟩ = .ok p := rfl
    have hmem : wide ∈ [wide, narrow] := by simp
    have hspace : wide.available.inset .none = .ok wide.available := rfl
    have hd : defaultRect [wide, narrow] ⟨800, 600⟩ = .ok ⟨1100, 200, 800, 600⟩ := rfl
    obtain ⟨c, n, hc, hn, -, -, hother⟩ := restore_inForce_inPlace hms (by decide)
      (by constructor <;> decide) rfl rfl rfl rfl (by constructor <;> decide) (by decide) hmem
      hspace (by constructor <;> decide) hsave hd hinset
    have hnearest : Monitor.nearest? [wide, narrow] ⟨2650, 450⟩ = .ok (some narrow) := rfl
    cases hc
    cases hnearest.symm.trans hn
    exact ⟨hsave, hother (by decide)⟩

end Placement

end WindowKeeper
