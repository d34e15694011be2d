import WindowKeeper.Placement.Restore

namespace WindowKeeper.Span

/-- The span begins and ends in the area, an end at its edge included. -/
structure Within (s area : Span) : Prop where
  start : area.start ≤ s.start
  stop : s.stop ≤ area.stop

theorem length_fit {s area : Span} (h : area.start ≤ s.start) :
    (fit s area).length = min s.length area.length := by
  unfold fit stop
  split
  · omega
  · split <;> simp only <;> omega

theorem start_fit {s area : Span} (h : area.start ≤ s.start) :
    (fit s area).start = min s.start (area.start + area.length - min s.length area.length) := by
  unfold fit stop
  split
  · omega
  · split <;> simp only <;> omega

theorem fit_within {s area : Span} (h : area.start ≤ s.start) : (fit s area).Within area := by
  have hlength := length_fit h
  have hstart := start_fit h
  constructor
  · omega
  · unfold stop
    omega

theorem fit_of_within {s area : Span} (h : s.Within area) : fit s area = s := if_pos h.stop

/-- The result is the longest span in the area that is no longer than `s`, and among those of its
length the one nearest to `s`. -/
theorem fit_leastChange {s area : Span} (h : area.start ≤ s.start) :
    (fit s area).length = min s.length area.length ∧
    (fit s area).start = min s.start (area.start + area.length - (fit s area).length) ∧
    (fit s area).Within area ∧
    (s.Within area → fit s area = s) ∧
    ((fit s area).length ≠ s.length → area.length < s.length) ∧
    fit (fit s area) area = fit s area ∧
    ∀ t : Span, t.Within area → t.length ≤ s.length → t.length ≤ (fit s area).length ∧
      (t.length = (fit s area).length →
        ((fit s area).start - s.start).natAbs ≤ (t.start - s.start).natAbs) := by
  have hlength := length_fit h
  have hstart := start_fit h
  have hwithin := fit_within h
  refine ⟨hlength, hlength ▸ hstart, hwithin, fit_of_within, ?_, fit_of_within hwithin, ?_⟩
  · intro hcut
    omega
  · rintro t ⟨htstart, htstop⟩ htlength
    unfold stop at htstop
    constructor
    · omega
    · intro hsame
      omega

/-- A span longer than the area is cut to it, one that touches its end is left alone, and one that
passes its end by a single point is moved back by one. -/
theorem fit_leastChange_touching :
    let area : Span := ⟨64, 1856⟩
    let long : Span := ⟨70, 2000⟩
    let touching : Span := ⟨1120, 800⟩
    let passing : Span := ⟨1121, 800⟩
    area.start ≤ long.start ∧ area.start ≤ touching.start ∧ area.start ≤ passing.start ∧
      fit long area = area ∧ fit touching area = touching ∧ fit passing area = touching := by
  intro area long touching passing
  have hlong : area.start ≤ long.start := by decide
  have htouching : area.start ≤ touching.start := by decide
  have hpassing : area.start ≤ passing.start := by decide
  refine ⟨hlong, htouching, hpassing, ?_, ?_, ?_⟩
  · obtain ⟨hlength, hstart, -⟩ := fit_leastChange hlong
    rw [hlength] at hstart
    exact Span.ext hstart hlength
  · obtain ⟨-, -, -, hkept, -⟩ := fit_leastChange htouching
    exact hkept ⟨htouching, by decide⟩
  · obtain ⟨hlength, hstart, -⟩ := fit_leastChange hpassing
    rw [hlength] at hstart
    exact Span.ext hstart hlength

theorem length_confine (s area : Span) : (confine s area).length = min s.length area.length := by
  rw [confine, length_fit (Int.le_max_right _ _)]
  simp only
  omega

theorem start_confine (s area : Span) :
    (confine s area).start =
      min (max s.start area.start) (area.start + area.length - min s.length area.length) := by
  rw [confine, start_fit (Int.le_max_right _ _)]
  simp only
  omega

/-- The start of a confined span, counted from another origin. -/
theorem start_confine_add (x w a n o : Int) :
    (confine ⟨x, w⟩ ⟨a - o, n⟩).start + o = min (max (x + o) a) (a + n - min w n) := by
  rw [start_confine]
  simp only
  omega

end WindowKeeper.Span
