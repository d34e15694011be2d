import WindowKeeper.Proofs.Session.Handled

namespace WindowKeeper.Timer

/-- `u` is the timer `t` after at most `n` calls. It waits for the latest one, or for none; without
a call in between it waits only if `t` does. -/
def Called (t : Timer) (n : Nat) (u : Timer) : Prop :=
  ∃ k ≤ n, u.generation = t.generation + UInt64.ofNat k ∧ (u.pending → t.pending ∨ 0 < k)

variable {t u v : Timer} {m n : Nat}

theorem called_refl (t : Timer) (n : Nat) : t.Called n t := ⟨0, n.zero_le, by simp, .inl⟩

theorem called_settled (t : Timer) (n : Nat) : t.Called n t.settled :=
  ⟨0, n.zero_le, by simp [settled], by simp [settled]⟩

theorem Called.trans (h : t.Called n u) (h' : u.Called m v) : t.Called (n + m) v := by
  obtain ⟨k, hk, hu, hp⟩ := h
  obtain ⟨l, hl, hv, hq⟩ := h'
  refine ⟨k + l, by omega, ?_, fun hpending => ?_⟩
  · rw [hv, hu, UInt64.ofNat_add, UInt64.add_assoc]
  · rcases hq hpending with hq | hq
    · exact (hp hq).imp_right (by omega)
    · exact .inr (by omega)

section
variable {ε : Type} [DecidableEq ε] (event : UInt64 → ε) (c : Clock ε)

theorem generation_cancel (t : Timer) : (t.cancel event c).1.generation = t.generation := by
  unfold cancel
  split <;> rfl

theorem delay_cancel (t : Timer) : (t.cancel event c).1.delay = t.delay := by
  unfold cancel
  split <;> rfl

theorem pending_cancel (t : Timer) : (t.cancel event c).1.pending = false := by
  unfold cancel
  split
  · rfl
  · rename_i h
    simpa using h

/-- A call cancels the one before and sets an alarm of its own. -/
theorem call_eq (t : Timer) :
    t.call event c = (⟨t.delay, t.generation + 1, true⟩,
      (t.cancel event c).2.set t.delay (event (t.generation + 1))) := by
  rw [call]
  simp only [generation_cancel, delay_cancel]

theorem called_cancel (t : Timer) (n : Nat) : t.Called n (t.cancel event c).1 :=
  ⟨0, n.zero_le, by simp [generation_cancel], by simp [pending_cancel]⟩

theorem called_call (t : Timer) : t.Called 1 (t.call event c).1 := by
  refine ⟨1, Nat.le_refl 1, ?_, fun _ => .inr Nat.one_pos⟩
  rw [call]
  simp [generation_cancel]

end

/-- An event of an earlier call is turned away, unless the calls in between use up all numbers. -/
theorem Called.turns_away (h : t.Called n u) (ht : t.pending = false) {k : Nat}
    (hk : k + n < UInt64.size) : u.awaits (t.generation - UInt64.ofNat k) = false := by
  obtain ⟨l, hl, hu, hp⟩ := h
  unfold awaits
  cases hpending : u.pending with
  | false => rfl
  | true =>
    have hpos : 0 < l := by simpa [ht] using hp hpending
    have hlast : l + k < UInt64.size := by omega
    have hne : t.generation - UInt64.ofNat k ≠ t.generation + UInt64.ofNat l := by
      intro heq
      have hsum : t.generation + (UInt64.ofNat (l + k)) = t.generation + 0 := by
        rw [UInt64.ofNat_add, ← UInt64.add_assoc, ← heq, UInt64.sub_add_cancel, UInt64.add_zero]
      have hzero := congrArg UInt64.toNat (UInt64.add_right_inj _ |>.mp hsum)
      rw [UInt64.toNat_ofNat', Nat.mod_eq_of_lt hlast] at hzero
      have hnone : l + k = 0 := hzero
      omega
    simpa [hu] using hne

end WindowKeeper.Timer
