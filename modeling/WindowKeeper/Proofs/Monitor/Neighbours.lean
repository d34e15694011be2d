import WindowKeeper.Proofs.Checksum.Division
import WindowKeeper.Proofs.Placement.Replugged

namespace WindowKeeper

/-- Different texts with UTF-8 encodings of the same size that are equal outside some four bytes in
a row. -/
structure Neighbours (a b : String) : Prop where
  ne : a ≠ b
  size : a.toUTF8.size = b.toUTF8.size
  outside : ∃ k, ∀ i, i < k ∨ k + 4 ≤ i → a.toUTF8.data[i]? = b.toUTF8.data[i]?

namespace Neighbours

variable {a b : String}

/-- The bytes before the four, those at their place, and those after. -/
theorem split (h : Neighbours a b) : ∃ before us vs after,
    a.toUTF8.data.toList = before ++ us ++ after ∧ b.toUTF8.data.toList = before ++ vs ++ after ∧
      us.length = vs.length ∧ us.length ≤ 4 := by
  obtain ⟨k, hk⟩ := h.outside
  have hsize : a.toUTF8.data.toList.length = b.toUTF8.data.toList.length := h.size
  simp only [← Array.getElem?_toList] at hk
  generalize a.toUTF8.data.toList = as, b.toUTF8.data.toList = bs at hk hsize ⊢
  have hbefore : as.take k = bs.take k := by
    apply List.ext_getElem?
    intro i
    simp only [List.getElem?_take]
    split
    · exact hk i (.inl ‹_›)
    · rfl
  have hafter : as.drop (k + 4) = bs.drop (k + 4) := by
    apply List.ext_getElem?
    intro i
    simp only [List.getElem?_drop]
    exact hk (k + 4 + i) (.inr (Nat.le_add_right _ _))
  have hcut (cs : List UInt8) : cs = cs.take k ++ (cs.drop k).take 4 ++ cs.drop (k + 4) := by
    rw [← List.drop_drop, List.append_assoc, List.take_append_drop, List.take_append_drop]
  refine ⟨as.take k, (as.drop k).take 4, (bs.drop k).take 4, as.drop (k + 4), hcut as, ?_, ?_, ?_⟩
  · rw [hbefore, hafter]
    exact hcut bs
  · simp [hsize]
  · simp

theorem ofName_ne (h : Neighbours a b) : Checksum.ofName a ≠ Checksum.ofName b := by
  obtain ⟨before, us, vs, after, ha, hb, hlength, hshort⟩ := h.split
  rw [Checksum.ofName, Checksum.ofName, ha, hb]
  apply Checksum.ofBytes_ne_of_short before after hlength hshort
  rintro rfl
  apply h.ne
  rw [← String.toByteArray_inj]
  exact ByteArray.ext (Array.toList_inj.mp (ha.trans hb.symm))

/-- Names of any length that end in different ports of the same length. -/
theorem of_ports (name : String) {p q : String} (hne : p ≠ q)
    (hsize : p.toUTF8.size = q.toUTF8.size) (hshort : p.toUTF8.size ≤ 4) :
    Neighbours (name ++ p) (name ++ q) := by
  have hbytes (r : String) : (name ++ r).toUTF8.data = name.toUTF8.data ++ r.toUTF8.data := by
    simp
  refine ⟨fun h => hne (String.append_right_inj _ |>.mp h), ?_, name.toUTF8.size, ?_⟩
  · simpa using hsize
  · rintro i (hi | hi)
    · have hi : i < name.toUTF8.data.size := hi
      rw [hbytes, hbytes, Array.getElem?_append_left hi, Array.getElem?_append_left hi]
    · have hend (r : String) (hr : r.toUTF8.size ≤ 4) : (name ++ r).toUTF8.data[i]? = none := by
        apply Array.getElem?_eq_none
        rw [hbytes, Array.size_append]
        exact Nat.le_trans (Nat.add_le_add_left hr _) hi
      rw [hend p hshort, hend q (hsize ▸ hshort)]

end Neighbours

/-- A search for a monitor passes over those that have a name next to its own. -/
theorem Monitor.named?_next {a b : String} (h : Neighbours a b) (ms : List Monitor) :
    named? ms (Checksum.ofName a) =
      named? (ms.filter fun m => m.name ≠ b) (Checksum.ofName a) := by
  rw [named?, named?, List.find?_filter]
  apply List.find?_congr
  intro m _
  by_cases hm : m.name = b
  · have hother : m.checksum ≠ Checksum.ofName a := by
      rw [checksum, hm]
      exact h.ofName_ne.symm
    simp [hm, hother]
  · rw [Bool.eq_iff_iff]
    simp [hm]

/-- Names of monitors that are next to each other have different checksums: a search for the one
passes over the other, and a record of the one opens a window as if the other could not be found. -/
theorem restore_neighbours {a b : String} (h : Neighbours a b) :
    Checksum.ofName a ≠ Checksum.ofName b ∧
    (∀ ms : List Monitor, Monitor.named? ms (Checksum.ofName a) =
      Monitor.named? (ms.filter fun m => m.name ≠ b) (Checksum.ofName a)) ∧
    ∀ (p : Placement) (ms : List Monitor) (usual least : Size) (frame : Margins),
      p.monitor = Checksum.ofName a →
      p.restore ms usual least frame = do
        let d ← defaultRect ms usual
        let m := Monitor.named? (ms.filter fun m => m.name ≠ b) p.monitor
        return (← p.honoured m least frame).getD d := by
  refine ⟨h.ofName_ne, Monitor.named?_next h, ?_⟩
  intro p ms usual least frame hp
  rw [p.restore_eq, hp, Monitor.named?_next h]

/-- The window of a monitor that is unplugged does not move to the one on the next port. -/
theorem restore_neighbours_unplugged :
    let m : Monitor := ⟨"DisplayPort-11", ⟨0, 0, 1920, 1080⟩, ⟨0, 40, 1920, 1040⟩, true⟩
    let n : Monitor := ⟨"DisplayPort-12", ⟨1920, 0, 1280, 1024⟩, ⟨1920, 0, 1280, 984⟩, false⟩
    let p : Placement := ⟨301, 203, 801, 603, 100, false, n.checksum⟩
    p.restore [m, n] ⟨800, 600⟩ ⟨380, 480⟩ .none = .ok ⟨2221, 203, 801, 603⟩ ∧
      p.restore [m] ⟨800, 600⟩ ⟨380, 480⟩ .none = .ok ⟨560, 260, 800, 600⟩ := by
  intro m n p
  have hnext : Neighbours n.name m.name :=
    Neighbours.of_ports "DisplayPort-" (p := "12") (q := "11") (by decide) rfl (by decide)
  obtain ⟨-, -, hopen⟩ := restore_neighbours hnext
  have hnamed : Monitor.named? [n] p.monitor = some n := by simp [Monitor.named?, p]
  have hboth : [m, n].filter (fun o => o.name ≠ m.name) = [n] := by decide
  have hone : [m].filter (fun o => o.name ≠ m.name) = [] := by decide
  constructor
  · rw [hopen p [m, n] _ _ _ rfl, hboth, hnamed]
    rfl
  · rw [hopen p [m] _ _ _ rfl, hone]
    rfl

end WindowKeeper
