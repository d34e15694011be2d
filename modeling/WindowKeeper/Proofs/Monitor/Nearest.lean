import Mathlib.Data.List.Pairwise
import WindowKeeper.Proofs.Geometry.Within
import WindowKeeper.Monitor

namespace WindowKeeper.Monitor

/-- The first of the monitors whose center is at the least distance from `p`. -/
def FirstNearest (ms : List Monitor) (p : Point) (n : Monitor) : Prop :=
  ∃ before after c, ms = before ++ n :: after ∧ n.center = .ok c ∧
    (∀ m ∈ before, ∃ d, m.center = .ok d ∧ c.distance p < d.distance p) ∧
    ∀ m ∈ after, ∃ d, m.center = .ok d ∧ c.distance p ≤ d.distance p

theorem FirstNearest.least {ms : List Monitor} {p : Point} {n : Monitor}
    (h : FirstNearest ms p n) : ∃ c, n.center = .ok c ∧
      ∀ m ∈ ms, ∃ d, m.center = .ok d ∧ c.distance p ≤ d.distance p := by
  obtain ⟨before, after, c, rfl, hc, hbefore, hafter⟩ := h
  refine ⟨c, hc, fun m hm => ?_⟩
  rcases List.mem_append.mp hm with hm | hm
  · obtain ⟨d, hd, hlt⟩ := hbefore m hm
    exact ⟨d, hd, Nat.le_of_lt hlt⟩
  · rcases List.mem_cons.mp hm with rfl | hm
    · exact ⟨c, hc, Nat.le_refl _⟩
    · exact hafter m hm

/-- Monitors that are no nearer and come later do not matter. -/
theorem FirstNearest.append {ms : List Monitor} {p c : Point} {n : Monitor}
    (h : FirstNearest ms p n) (hc : n.center = .ok c) {more : List Monitor}
    (hmore : ∀ m ∈ more, ∃ d, m.center = .ok d ∧ c.distance p ≤ d.distance p) :
    FirstNearest (ms ++ more) p n := by
  obtain ⟨before, after, c', rfl, hc', hbefore, hafter⟩ := h
  cases hc.symm.trans hc'
  refine ⟨before, after ++ more, c, by simp, hc, hbefore, ?_⟩
  intro m hm
  rcases List.mem_append.mp hm with hm | hm
  · exact hafter m hm
  · exact hmore m hm

theorem nearestFrom_cons_eq_ok {p : Point} {best : Monitor × Nat} {m n : Monitor}
    {ms : List Monitor} : nearestFrom p best (m :: ms) = .ok n ↔ ∃ d, m.center = .ok d ∧
      nearestFrom p (if d.distance p < best.2 then (m, d.distance p) else best) ms = .ok n := by
  rw [nearestFrom, bind_eq_ok]

theorem nearestFrom_of_nearer {p : Point} {best : Monitor × Nat} {ms : List Monitor}
    (h : ∀ m ∈ ms, ∃ d, m.center = .ok d ∧ best.2 ≤ d.distance p) :
    nearestFrom p best ms = .ok best.1 := by
  induction ms with
  | nil => rfl
  | cons m ms ih =>
    obtain ⟨d, hd, hle⟩ := h m (by simp)
    rw [nearestFrom_cons_eq_ok]
    refine ⟨d, hd, ?_⟩
    rw [if_neg (by omega)]
    apply ih
    intro k hk
    exact h k (List.mem_cons_of_mem _ hk)

theorem nearestFrom_of_reached {p c : Point} {best : Monitor × Nat} {before after : List Monitor}
    {n : Monitor} (hc : n.center = .ok c) (hbest : c.distance p < best.2)
    (hbefore : ∀ m ∈ before, ∃ d, m.center = .ok d ∧ c.distance p < d.distance p)
    (hafter : ∀ m ∈ after, ∃ d, m.center = .ok d ∧ c.distance p ≤ d.distance p) :
    nearestFrom p best (before ++ n :: after) = .ok n := by
  induction before generalizing best with
  | nil =>
    rw [List.nil_append, nearestFrom_cons_eq_ok]
    refine ⟨c, hc, ?_⟩
    rw [if_pos hbest]
    exact nearestFrom_of_nearer hafter
  | cons m before ih =>
    obtain ⟨d, hd, hlt⟩ := hbefore m (by simp)
    rw [List.cons_append, nearestFrom_cons_eq_ok]
    refine ⟨d, hd, ih ?_ fun k hk => hbefore k (List.mem_cons_of_mem _ hk)⟩
    split
    · exact hlt
    · exact hbest

/-- The search ends with the best so far, or with the first of the nearest among the rest. -/
theorem nearestFrom_eq_ok {p : Point} {best : Monitor × Nat} {ms : List Monitor} {n : Monitor}
    (h : nearestFrom p best ms = .ok n) :
    (n = best.1 ∧ ∀ m ∈ ms, ∃ d, m.center = .ok d ∧ best.2 ≤ d.distance p) ∨
      ∃ before after c, ms = before ++ n :: after ∧ n.center = .ok c ∧ c.distance p < best.2 ∧
        (∀ m ∈ before, ∃ d, m.center = .ok d ∧ c.distance p < d.distance p) ∧
        ∀ m ∈ after, ∃ d, m.center = .ok d ∧ c.distance p ≤ d.distance p := by
  induction ms generalizing best with
  | nil =>
    cases h
    exact .inl ⟨rfl, by simp⟩
  | cons m ms ih =>
    obtain ⟨d, hd, h⟩ := nearestFrom_cons_eq_ok.mp h
    by_cases hlt : d.distance p < best.2
    · rw [if_pos hlt] at h
      rcases ih h with ⟨rfl, hrest⟩ | ⟨before, after, c, rfl, hc, hcd, hbefore, hafter⟩
      · exact .inr ⟨[], ms, d, rfl, hd, hlt, by simp, hrest⟩
      · refine .inr ⟨m :: before, after, c, rfl, hc, by simp only at hcd; omega, ?_, hafter⟩
        rintro k (_ | ⟨_, hk⟩)
        · exact ⟨d, hd, hcd⟩
        · exact hbefore k hk
    · rw [if_neg hlt] at h
      rcases ih h with ⟨rfl, hrest⟩ | ⟨before, after, c, rfl, hc, hcb, hbefore, hafter⟩
      · refine .inl ⟨rfl, ?_⟩
        rintro k (_ | ⟨_, hk⟩)
        · exact ⟨d, hd, by omega⟩
        · exact hrest k hk
      · refine .inr ⟨m :: before, after, c, rfl, hc, hcb, ?_, hafter⟩
        rintro k (_ | ⟨_, hk⟩)
        · exact ⟨d, hd, by omega⟩
        · exact hbefore k hk

theorem nearest?_eq_some {ms : List Monitor} {p : Point} {n : Monitor} :
    nearest? ms p = .ok (some n) ↔ FirstNearest ms p n := by
  constructor
  · intro h
    cases ms with
    | nil => simp [nearest?] at h
    | cons m ms =>
      simp only [nearest?, bind_eq_ok, pure_eq_ok, Option.some.injEq] at h
      obtain ⟨d, hd, _, h, rfl⟩ := h
      rcases nearestFrom_eq_ok h with
        ⟨rfl, hrest⟩ | ⟨before, after, c, rfl, hc, hcd, hbefore, hafter⟩
      · exact ⟨[], ms, d, rfl, hd, by simp, hrest⟩
      · refine ⟨m :: before, after, c, rfl, hc, ?_, hafter⟩
        rintro k (_ | ⟨_, hk⟩)
        · exact ⟨d, hd, hcd⟩
        · exact hbefore k hk
  · rintro ⟨before, after, c, rfl, hc, hbefore, hafter⟩
    cases before with
    | nil =>
      simp only [List.nil_append, nearest?, bind_eq_ok, pure_eq_ok]
      exact ⟨c, hc, n, nearestFrom_of_nearer hafter, rfl⟩
    | cons m before =>
      obtain ⟨d, hd, hlt⟩ := hbefore m (by simp)
      simp only [List.cons_append, nearest?, bind_eq_ok, pure_eq_ok]
      refine ⟨d, hd, n, ?_, rfl⟩
      apply nearestFrom_of_reached hc hlt _ hafter
      intro k hk
      exact hbefore k (List.mem_cons_of_mem _ hk)

theorem nearest?_mem {ms : List Monitor} {p : Point} {m : Monitor}
    (h : nearest? ms p = .ok (some m)) : m ∈ ms := by
  obtain ⟨before, after, -, rfl, -⟩ := nearest?_eq_some.mp h
  simp

theorem nearestFrom_isOk (p : Point) (best : Monitor × Nat) {ms : List Monitor}
    (hc : ∀ m ∈ ms, ∃ c, m.center = .ok c) : ∃ n, nearestFrom p best ms = .ok n := by
  induction ms generalizing best with
  | nil => exact ⟨best.1, rfl⟩
  | cons m ms ih =>
    obtain ⟨c, hm⟩ := hc m (by simp)
    obtain ⟨n, hn⟩ := ih _ fun k hk => hc k (List.mem_cons_of_mem _ hk)
    exact ⟨n, nearestFrom_cons_eq_ok.mpr ⟨c, hm, hn⟩⟩

/-- A desktop whose monitors have their centers has a nearest one to every point. -/
theorem nearest?_isSome {ms : List Monitor} (p : Point) (hms : ms ≠ [])
    (hc : ∀ m ∈ ms, ∃ c, m.center = .ok c) : ∃ n, nearest? ms p = .ok (some n) := by
  obtain ⟨m, ms, rfl⟩ := List.exists_cons_of_ne_nil hms
  obtain ⟨c, hm⟩ := hc m (by simp)
  obtain ⟨n, hn⟩ := nearestFrom_isOk p (m, c.distance p) fun k hk =>
    hc k (List.mem_cons_of_mem _ hk)
  refine ⟨n, ?_⟩
  simp only [nearest?, bind_eq_ok, pure_eq_ok]
  exact ⟨c, hm, n, hn, rfl⟩

theorem nearest?_eq_none {ms : List Monitor} {p : Point} (h : nearest? ms p = .ok none) :
    ms = [] := by
  cases ms with
  | nil => rfl
  | cons n ms =>
    simp only [nearest?, bind_eq_ok, pure_eq_ok] at h
    obtain ⟨c, -, a, -, h⟩ := h
    cases h

/-- The monitor that is found has the least distance, those before it are farther, and monitors that
are no nearer may be added after the others. -/
theorem nearest?_firstLeast {ms : List Monitor} (hcenters : ∀ m ∈ ms, ∃ c, m.center = .ok c)
    (p : Point) :
    (nearest? ms p = .ok none ↔ ms = []) ∧
    (ms ≠ [] → ∃ before n after c, nearest? ms p = .ok (some n) ∧ ms = before ++ n :: after ∧
      n.center = .ok c ∧
      (∀ m ∈ ms, ∃ d, m.center = .ok d ∧ c.distance p ≤ d.distance p) ∧
      ∀ m ∈ before, ∃ d, m.center = .ok d ∧ c.distance p < d.distance p) ∧
    ∀ n c more, nearest? ms p = .ok (some n) → n.center = .ok c →
      (∀ m ∈ more, ∃ d, m.center = .ok d ∧ c.distance p ≤ d.distance p) →
      nearest? (ms ++ more) p = .ok (some n) := by
  refine ⟨⟨nearest?_eq_none, ?_⟩, ?_, ?_⟩
  · rintro rfl
    rfl
  · intro hms
    obtain ⟨n, hn⟩ := nearest?_isSome p hms hcenters
    have hfirst := nearest?_eq_some.mp hn
    obtain ⟨c, hc, hleast⟩ := hfirst.least
    obtain ⟨before, after, c', hsplit, hc', hbefore, -⟩ := hfirst
    cases hc.symm.trans hc'
    exact ⟨before, n, after, c, hn, hsplit, hc, hleast, hbefore⟩
  · intro n c more hn hc hmore
    exact nearest?_eq_some.mpr ((nearest?_eq_some.mp hn).append hc hmore)

/-- The point is as far from the left monitor as from the right one, and farther from the one above;
a monitor below at the same distance is added. -/
theorem nearest?_firstLeast_tied :
    let above : Monitor := ⟨"DP-3", ⟨960, -1440, 1920, 1440⟩, ⟨960, -1440, 1920, 1440⟩, true⟩
    let left : Monitor := ⟨"DP-1", ⟨0, 0, 1920, 1080⟩, ⟨0, 40, 1920, 1040⟩, false⟩
    let right : Monitor := ⟨"DP-2", ⟨1920, 0, 1920, 1080⟩, ⟨1920, 0, 1920, 1080⟩, false⟩
    let below : Monitor := ⟨"HDMI-1", ⟨960, 960, 1920, 1080⟩, ⟨960, 960, 1920, 1080⟩, false⟩
    let p : Point := ⟨1920, 540⟩
    (∀ m ∈ [above, left, right], ∃ c, m.center = .ok c) ∧
      nearest? [above, left, right] p = .ok (some left) ∧
      nearest? ([above, left, right] ++ [below]) p = .ok (some left) := by
  intro above left right below p
  have hcenters : ∀ m ∈ [above, left, right], ∃ c, m.center = .ok c := by
    simp only [List.mem_cons, List.not_mem_nil, or_false, forall_eq_or_imp, forall_eq]
    exact ⟨⟨⟨1920, -720⟩, rfl⟩, ⟨⟨960, 540⟩, rfl⟩, ⟨2880, 540⟩, rfl⟩
  have hleft : nearest? [above, left, right] p = .ok (some left) := by
    refine nearest?_eq_some.mpr ⟨[above], [right], ⟨960, 540⟩, rfl, rfl, ?_, ?_⟩
    · simp only [List.mem_singleton, forall_eq]
      exact ⟨⟨1920, -720⟩, rfl, by decide⟩
    · simp only [List.mem_singleton, forall_eq]
      exact ⟨⟨2880, 540⟩, rfl, by decide⟩
  obtain ⟨-, -, hadded⟩ := nearest?_firstLeast hcenters p
  refine ⟨hcenters, hleft, hadded left ⟨960, 540⟩ [below] hleft rfl ?_⟩
  simp only [List.mem_singleton, forall_eq]
  exact ⟨⟨1920, 1500⟩, rfl, by decide⟩

/-- A monitor is found by its checksum if no other has the same one. -/
theorem named?_of_mem {ms : List Monitor} {m : Monitor}
    (hd : ms.Pairwise fun m n => m.checksum ≠ n.checksum) (hm : m ∈ ms) :
    named? ms m.checksum = some m := by
  induction ms with
  | nil => simp at hm
  | cons n ms ih =>
    obtain ⟨hn, hd⟩ := List.pairwise_cons.mp hd
    rcases List.mem_cons.mp hm with rfl | hm
    · simp [named?]
    · have hne := hn m hm
      simpa [named?, hne] using ih hd hm

/-- A desktop whose monitors differ in their checksums and share no point, each with its available
area inside. -/
structure Arranged (ms : List Monitor) : Prop where
  checksums : ms.Pairwise fun m n => m.checksum ≠ n.checksum
  disjoint : ms.Pairwise fun m n => m.geometry.Disjoint n.geometry
  available : ∀ m ∈ ms, m.available.Within m.geometry

theorem arranged_pair {m n : Monitor} (hc : m.checksum ≠ n.checksum)
    (hx : m.geometry.x + m.geometry.w ≤ n.geometry.x) (hm : m.available.Within m.geometry)
    (hn : n.available.Within n.geometry) : Arranged [m, n] := by
  refine ⟨by simpa using hc, ?_, by simp [hm, hn]⟩
  simp only [List.pairwise_cons, List.mem_singleton, forall_eq, List.not_mem_nil, false_implies,
    implies_true, List.Pairwise.nil, and_true]
  rintro p ⟨⟨-, hp, -⟩, hp', -⟩
  omega

theorem Arranged.disjoint_of_ne {ms : List Monitor} (h : Arranged ms) {m n : Monitor}
    (hm : m ∈ ms) (hn : n ∈ ms) (hne : m ≠ n) : m.geometry.Disjoint n.geometry := by
  have hs : Std.Symm fun m n : Monitor => m.geometry.Disjoint n.geometry :=
    ⟨fun _ _ hd => hd.symm⟩
  exact h.disjoint.forall hm hn hne

end WindowKeeper.Monitor
