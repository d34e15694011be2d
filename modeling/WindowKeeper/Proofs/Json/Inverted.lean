import WindowKeeper.Proofs.Json.Listed

namespace WindowKeeper.Json

variable {α : Type} {d : Decoder α} {write : α → Json} {P : α → Prop}

/-- What is decoded has the property `P`; what has it is written legibly, and decoded again. -/
structure Decoder.Inverts (d : Decoder α) (write : α → Json) (P : α → Prop) : Prop where
  legible : ∀ {a}, P a → (write a).Legible
  decode : ∀ {a}, P a → ∀ src, d src (write a).fragment = .ok a
  holds : ∀ {src x a}, d src x = .ok a → P a

/-- The texts written for a value with the property `P` are read back as that value, and a value
that was read from any text is read again from the texts written for it. -/
structure ReadsBack (read : String → Except Fault α) (write : α → Json) (P : α → Prop) : Prop where
  compact : ∀ a, P a → read (write a).compact = .ok a
  pretty : ∀ a, P a → read (write a).pretty = .ok a
  again_compact : ∀ t a, read t = .ok a → read (write a).compact = .ok a
  again_pretty : ∀ t a, read t = .ok a → read (write a).pretty = .ok a

namespace Decoder

theorem Inverts.decodeText_write (h : d.Inverts write P) {a : α} (ha : P a) {sp : Spacing}
    (hsp : sp.Blank) : decodeText d (String.ofList ((write a).write sp 0)) = .ok a := by
  rw [decodeText, String.toList_ofList, ofChars_write hsp (h.legible ha)]
  simp only [h.decode ha]
  rfl

theorem Inverts.holds_text (h : d.Inverts write P) {t : String} {a : α}
    (ha : decodeText d t = .ok a) : P a := by
  rw [decodeText] at ha
  simp only [bind_eq_ok] at ha
  obtain ⟨b, hb, ha⟩ := ha
  split at ha
  · cases ha
    exact h.holds hb
  · cases ha

theorem Inverts.readsBack (h : d.Inverts write P) : ReadsBack (decodeText d) write P where
  compact _ ha := h.decodeText_write ha Spacing.blank_none
  pretty _ ha := h.decodeText_write ha Spacing.blank_indented
  again_compact _ _ ha := h.decodeText_write (h.holds_text ha) Spacing.blank_none
  again_pretty _ _ ha := h.decodeText_write (h.holds_text ha) Spacing.blank_indented

theorem Inverts.keeps {β : Type} {name : String} {presence : Presence} {set : α → β → β}
    {Q : β → Prop} (h : d.Inverts write P)
    (hset : ∀ a b, P a → Q b → Q (set a b)) : (Field.of name presence d set).Keeps Q := by
  intro src x b c hb hc
  rw [Field.of, map_eq_ok] at hc
  obtain ⟨a, ha, rfl⟩ := hc
  exact hset a b (h.holds ha) hb

theorem Inverts.finds (h : d.Inverts write P)
    (hwrite : ∀ a x, Holds (write a) x → x = (write a).fragment) : d.Finds write P := by
  intro a ha src x _ hx
  rw [hwrite a x hx]
  exact h.decode ha src

/-- Decoding whatever holds a value undoes the way it is written, if it is written legibly. -/
theorem Finds.inverts (h : d.Finds write P) (hlegible : ∀ {a}, P a → (write a).Legible)
    (hdistinct : ∀ a, (write a).Distinct) (hholds : ∀ {src x a}, d src x = .ok a → P a) :
    d.Inverts write P where
  legible := hlegible
  decode ha src :=
    h _ ha src _ (skippable_fragment (hlegible ha)) (holds_fragment _ (hdistinct _))
  holds := hholds

theorem integerIn_integer {least greatest n : Int} {wanted : String} (src : Source)
    (hn : least ≤ n ∧ n ≤ greatest) :
    integerIn least greatest wanted src (.number (.integer n)) = .ok n :=
  if_pos hn

theorem int32_inverts : int32.Inverts .integer Fits32 where
  legible := by
    intro n ⟨hleast, hgreatest⟩
    unfold int32Min at hleast
    unfold int32Max at hgreatest
    constructor <;> omega
  decode hn src := integerIn_integer src hn
  holds := integerIn_eq_ok

theorem int32_finds : int32.Finds .integer Fits32 := int32_inverts.finds fun _ _ h => h

theorem natural_inverts {greatest : Nat} (hgreatest : greatest ≤ 18446744073709551615)
    (wanted : String) :
    Inverts (fun src x => Int.toNat <$> integerIn 0 greatest wanted src x)
      (fun n => .integer n) (· ≤ greatest) where
  legible := by
    intro n hn
    constructor <;> omega
  decode := by
    intro n hn src
    have hread : integerIn 0 greatest wanted src (.number (.integer n)) = .ok (n : Int) :=
      integerIn_integer src (by omega)
    simp [fragment, hread, Functor.map, Except.map]
  holds := by
    intro src x n h
    rw [map_eq_ok] at h
    obtain ⟨i, hi, rfl⟩ := h
    have hrange := integerIn_eq_ok hi
    omega

theorem uint32_inverts : uint32.Inverts (fun n => .integer n) (· ≤ 4294967295) :=
  natural_inverts (by decide) "u32"

theorem uint32_finds : uint32.Finds (fun n => .integer n) (· ≤ 4294967295) :=
  uint32_inverts.finds fun _ _ h => h

theorem uint64_inverts : uint64.Inverts (fun n => .integer n) (· ≤ 18446744073709551615) :=
  natural_inverts (Nat.le_refl _) "u64"

theorem uint64_finds : uint64.Finds (fun n => .integer n) (· ≤ 18446744073709551615) :=
  uint64_inverts.finds fun _ _ h => h

theorem boolean_inverts : boolean.Inverts .boolean fun _ => True where
  legible _ := trivial
  decode _ _ := rfl
  holds _ := trivial

theorem boolean_finds : boolean.Finds .boolean fun _ => True :=
  boolean_inverts.finds fun _ _ h => h

theorem textAs_inverts (wanted : String) : (textAs wanted).Inverts .text fun _ => True where
  legible _ := trivial
  decode _ _ := rfl
  holds _ := trivial

theorem textAs_finds (wanted : String) : (textAs wanted).Finds .text fun _ => True :=
  (textAs_inverts wanted).finds fun _ _ h => h

theorem elements_written (h : d.Inverts write P) {as : List α} (has : ∀ a ∈ as, P a)
    (src : Source) : elements d src (Json.elements (as.map write)) = .ok as := by
  induction as with
  | nil => rfl
  | cons a as ih =>
    obtain ⟨ha, has⟩ := List.forall_mem_cons.mp has
    rw [List.map_cons, Json.elements, elements, h.decode ha, ih has]
    rfl

theorem elements_holds (h : d.Inverts write P) {src : Source} {xs : Elements} {as : List α}
    (has : elements d src xs = .ok as) : ∀ a ∈ as, P a := by
  fun_induction elements d src xs generalizing as with
  | case1 =>
    cases has
    simp
  | case2 => cases has
  | case3 x rest ih =>
    simp only [bind_eq_ok, pure_eq_ok] at has
    obtain ⟨a, ha, bs, hbs, rfl⟩ := has
    exact List.forall_mem_cons.mpr ⟨h.holds ha, ih hbs⟩

theorem legible_elements (h : d.Inverts write P) {as : List α} (has : ∀ a ∈ as, P a) :
    LegibleElements (as.map write) := by
  induction as with
  | nil => trivial
  | cons a as ih =>
    obtain ⟨ha, has⟩ := List.forall_mem_cons.mp has
    exact ⟨h.legible ha, ih has⟩

theorem distinct_elements (h : ∀ a, (write a).Distinct) (as : List α) :
    DistinctElements (as.map write) := by
  induction as with
  | nil => trivial
  | cons a as ih => exact ⟨h a, ih⟩

theorem list_inverts (h : d.Inverts write P) :
    (list d).Inverts (fun as => .array (as.map write)) fun as => ∀ a ∈ as, P a where
  legible := legible_elements h
  decode has src := elements_written h has src
  holds := by
    intro src x as has
    unfold list at has
    split at has
    · exact elements_holds h has
    · cases has

end Decoder

end WindowKeeper.Json
