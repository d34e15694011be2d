import WindowKeeper.Proofs.Json.Parsed

namespace WindowKeeper

namespace Json

namespace Numeral

theorem absorb_eq {ds : List Nat} {s : Nat}
    (h : ds.foldl (fun n d => n * 10 + d) s ≤ largestSignificand) :
    absorb s ds = (ds.foldl (fun n d => n * 10 + d) s, []) := by
  have hle (ds : List Nat) (s : Nat) : s ≤ ds.foldl (fun n d => n * 10 + d) s := by
    induction ds generalizing s with
    | nil => exact Nat.le_refl s
    | cons d ds ih =>
      have hd := ih (s * 10 + d)
      rw [List.foldl_cons]
      omega
  induction ds generalizing s with
  | nil => rfl
  | cons d ds ih =>
    have hd : s * 10 + d ≤ largestSignificand := Nat.le_trans (hle ds _) h
    rw [absorb, if_pos hd]
    exact ih h

/-- A numeral of whole digits denotes their value. -/
theorem value_start {negative : Bool} {ds : List Nat}
    (h : ofDigits ds.reverse ≤ largestSignificand) :
    (start negative ds).value = integer negative (ofDigits ds.reverse) := by
  have habsorb : absorb 0 ds.reverse = (ofDigits ds.reverse, []) := absorb_eq h
  simp [value, start, habsorb]

end Numeral

/-- An integer that is read back as one. -/
def Readable (n : Int) : Prop := -9223372036854775808 ≤ n ∧ n ≤ 18446744073709551615

mutual

/-- The tree that a written value is read back as. -/
def fragment : Json → Fragment
  | .null => .null
  | .boolean b => .boolean b
  | .integer n => .number (.integer n)
  | .text s => .text (some s)
  | .array xs => .array (elements xs)
  | .object ms => .object (members ms)

def elements : List Json → Elements
  | [] => .closed
  | x :: xs => .more x.fragment (elements xs)

def members : List (String × Json) → Members
  | [] => .closed
  | (k, x) :: ms => .more (some k) x.fragment (members ms)

end

mutual

/-- A value all of whose integers are read back as such. -/
def Legible : Json → Prop
  | .integer n => Readable n
  | .array xs => LegibleElements xs
  | .object ms => LegibleMembers ms
  | _ => True

def LegibleElements : List Json → Prop
  | [] => True
  | x :: xs => x.Legible ∧ LegibleElements xs

def LegibleMembers : List (String × Json) → Prop
  | [] => True
  | (_, x) :: ms => x.Legible ∧ LegibleMembers ms

end

structure Spacing.Blank (s : Spacing) : Prop where
  line : ∀ depth, ∀ c ∈ s.line depth, isBlank c
  colon : ∀ c ∈ s.colon, isBlank c

theorem Spacing.blank_none : Spacing.none.Blank := ⟨by simp [none], by simp [none]⟩

theorem Spacing.blank_indented : Spacing.indented.Blank where
  line depth c hc := by
    rcases List.mem_cons.mp hc with rfl | hc
    · rfl
    · rw [List.eq_of_mem_replicate hc]
      rfl
  colon c hc := by
    rw [List.mem_singleton.mp hc]
    rfl

theorem exists_blanks {cs : List Char} (h : ∀ c ∈ cs, isBlank c) : ∃ bs, blanks bs = cs := by
  induction cs with
  | nil => exact ⟨[], rfl⟩
  | cons c cs ih =>
    obtain ⟨hc, hcs⟩ := List.forall_mem_cons.mp h
    obtain ⟨bs, rfl⟩ := ih hcs
    simp only [isBlank, Bool.or_eq_true, decide_eq_true_eq] at hc
    rcases hc with ((rfl | rfl) | rfl) | rfl
    · exact ⟨.space :: bs, rfl⟩
    · exact ⟨.newline :: bs, rfl⟩
    · exact ⟨.tab :: bs, rfl⟩
    · exact ⟨.carriageReturn :: bs, rfl⟩

namespace Piece

/-- The piece that a character is written as. -/
def ofChar (c : Char) : Piece :=
  if hquote : c = '"' then .letter .quote
  else if hslash : c = '\\' then .letter .backslash
  else if c = '\n' then .letter .newline
  else if c = '\r' then .letter .carriageReturn
  else if c = '\t' then .letter .tab
  else if c.toNat = 8 then .letter .backspace
  else if c.toNat = 12 then .letter .formFeed
  else if hcontrol : c.toNat < 32 then
    .unit ⟨0, false⟩ ⟨0, false⟩ ⟨⟨c.toNat / 16, by omega⟩, false⟩ ⟨⟨c.toNat % 16, by omega⟩, false⟩
  else .plain c ⟨Nat.le_of_not_lt hcontrol, hquote, hslash⟩

theorem chars_ofChar (c : Char) : (ofChar c).chars = escaped c := by
  unfold ofChar escaped
  repeat' split
  all_goals rfl

theorem meaning_ofChar (c : Char) (ps : List Piece) :
    meaning (ofChar c :: ps) = (c :: ·) <$> meaning ps := by
  have hletter {l : Letter} (h : c = l.meaning) :
      meaning (.letter l :: ps) = (c :: ·) <$> meaning ps := by
    rw [h]
    rfl
  unfold ofChar
  repeat' split
  · exact hletter ‹_›
  · exact hletter ‹_›
  · exact hletter ‹_›
  · exact hletter ‹_›
  · exact hletter ‹_›
  · exact hletter (Char.toNat_inj.mp ‹c.toNat = 8›)
  · exact hletter (Char.toNat_inj.mp ‹c.toNat = 12›)
  · have hvalue : unitValue ⟨0, false⟩ ⟨0, false⟩ ⟨⟨c.toNat / 16, by omega⟩, false⟩
        ⟨⟨c.toNat % 16, by omega⟩, false⟩ = c.toNat := by
      simp only [unitValue, Fin.val_zero]
      omega
    rw [meaning.eq_def]
    simp only [hvalue]
    rw [if_neg (by omega), if_neg (by omega), Char.ofNat_toNat]
  · rfl

def spell (s : String) : List Piece := s.toList.map ofChar

theorem quoted_spell (s : String) : quoted (spell s) = writeText s := by
  simp only [quoted, writeText, spell, List.flatMap_map, chars_ofChar]

theorem denoted_spell (s : String) : denoted (spell s) = some s := by
  have hmeaning (cs : List Char) : meaning (cs.map ofChar) = some cs := by
    induction cs with
    | nil => rfl
    | cons c cs ih =>
      rw [List.map_cons, meaning_ofChar, ih]
      rfl
  rw [denoted, spell, hmeaning, Option.map_some, String.ofList_toList]

end Piece

/-- The decimal digits of a positive number. -/
theorem exists_digits {m : Nat} (hm : 0 < m) : ∃ (d : Fin 10) (ds : Digits), d ≠ 0 ∧
    digits (d :: ds) = Nat.toDigits 10 m ∧
    Numeral.ofDigits ((d :: ds).map Fin.val) = m := by
  induction m using Nat.strongRecOn with
  | ind m ih =>
    by_cases hlt : m < 10
    · refine ⟨⟨m, hlt⟩, [], by simp; omega, ?_, by simp [Numeral.ofDigits]⟩
      rw [Nat.toDigits_of_lt_base hlt]
      rfl
    · obtain ⟨d, ds, hd, hchars, hvalue⟩ := ih (m / 10) (by omega) (by omega)
      refine ⟨d, ds ++ [⟨m % 10, by omega⟩], hd, ?_, ?_⟩
      · rw [Nat.toDigits_of_base_le (by decide) (by omega), ← hchars]
        simp [digits]
      · rw [← List.cons_append, List.map_append, Numeral.ofDigits, List.foldl_append]
        change (Numeral.ofDigits _) * 10 + m % 10 = m
        rw [hvalue]
        omega

theorem exists_figures {n : Int} (hn : Readable n) :
    ∃ f : Figures, f.chars = writeInteger n ∧ f.numeral.value = .integer n := by
  obtain ⟨hleast, hgreatest⟩ := hn
  by_cases hzero : n = 0
  · subst hzero
    exact ⟨⟨false, 0, [], fun _ => rfl, none, none⟩, rfl, rfl⟩
  · obtain ⟨d, ds, hd, hchars, hvalue⟩ := exists_digits (m := n.natAbs) (by omega)
    have hreversed : Numeral.ofDigits (Figures.reversed (d :: ds)).reverse = n.natAbs := by
      rw [Figures.reversed, List.reverse_reverse, hvalue]
    refine ⟨⟨decide (n < 0), d, ds, fun h => absurd h hd, none, none⟩, ?_, ?_⟩
    · by_cases hneg : n < 0
      · simp [Figures.chars, writeInteger, hneg, hchars]
      · simp [Figures.chars, writeInteger, hneg, hchars]
    · change (Numeral.start (decide (n < 0)) (Figures.reversed (d :: ds))).value = _
      rw [Numeral.value_start (by rw [hreversed, Numeral.largestSignificand]; omega), hreversed]
      by_cases hneg : n < 0
      · rw [Numeral.integer, if_neg (by simpa using hneg), if_pos ⟨by omega, by omega⟩]
        congr 1
        omega
      · rw [Numeral.integer, if_pos (by simpa using hneg)]
        congr 1
        omega

theorem exists_key {sp : Spacing} (hsp : sp.Blank) (depth : Nat) (k : String) :
    ∃ key : Key, key.chars = sp.line depth ++ writeText k ++ ':' :: sp.colon ∧
      Piece.denoted key.name = some k := by
  obtain ⟨before, hbefore⟩ := exists_blanks (hsp.line depth)
  obtain ⟨after, hafter⟩ := exists_blanks hsp.colon
  refine ⟨⟨before, Piece.spell k, [], after⟩, ?_, Piece.denoted_spell k⟩
  simp [Key.chars, hbefore, Piece.quoted_spell, hafter]

mutual

/-- A written value is a document. -/
theorem exists_document {sp : Spacing} (hsp : sp.Blank) (depth : Nat) (x : Json) (hx : x.Legible) :
    ∃ d : Document, d.chars = x.write sp depth ∧ d.tree = x.fragment := by
  cases x with
  | null => exact ⟨.null, rfl, rfl⟩
  | boolean b => exact ⟨.boolean b, by cases b <;> rfl, rfl⟩
  | integer n =>
    obtain ⟨f, hchars, hvalue⟩ := exists_figures hx
    exact ⟨.number f, hchars, congrArg Fragment.number hvalue⟩
  | text t =>
    exact ⟨.text (Piece.spell t), Piece.quoted_spell t,
      congrArg Fragment.text (Piece.denoted_spell t)⟩
  | array xs =>
    have hitems := exists_items hsp depth xs hx
    cases xs with
    | nil => exact ⟨.emptyArray [], rfl, rfl⟩
    | cons x xs =>
      obtain ⟨es, hchars, htree⟩ := hitems (List.cons_ne_nil x xs)
      obtain ⟨-, hchars⟩ := List.cons.inj hchars
      refine ⟨.array es, ?_, congrArg Fragment.array htree⟩
      simp [Document.chars, hchars, write]
  | object ms =>
    have hentries := exists_entries hsp depth ms hx
    cases ms with
    | nil => exact ⟨.emptyObject [], rfl, rfl⟩
    | cons m ms =>
      obtain ⟨es, hchars, htree⟩ := hentries (List.cons_ne_nil m ms)
      obtain ⟨-, hchars⟩ := List.cons.inj hchars
      refine ⟨.object es, ?_, congrArg Fragment.object htree⟩
      simp [Document.chars, hchars, write]

theorem exists_items {sp : Spacing} (hsp : sp.Blank) (depth : Nat) (xs : List Json)
    (hxs : LegibleElements xs) (hne : xs ≠ []) :
    ∃ es : Items, ',' :: es.chars = writeElements sp (depth + 1) xs ++ sp.line depth ∧
      es.tree = elements xs := by
  obtain ⟨before, hbefore⟩ := exists_blanks (hsp.line (depth + 1))
  cases xs with
  | nil => exact absurd rfl hne
  | cons x xs =>
    obtain ⟨d, hd, htree⟩ := exists_document hsp (depth + 1) x hxs.1
    have hitems := exists_items hsp depth xs hxs.2
    cases xs with
    | nil =>
      obtain ⟨after, hafter⟩ := exists_blanks (hsp.line depth)
      refine ⟨.last before d after, ?_, by rw [Items.tree, htree]; rfl⟩
      simp [Items.chars, hbefore, hd, hafter, writeElements]
    | cons y ys =>
      obtain ⟨rest, hrest, hresttree⟩ := hitems (List.cons_ne_nil y ys)
      refine ⟨.more before d [] rest, ?_, by rw [Items.tree, htree, hresttree]; rfl⟩
      simp [Items.chars, hbefore, hd, hrest, writeElements]

theorem exists_entries {sp : Spacing} (hsp : sp.Blank) (depth : Nat) (ms : List (String × Json))
    (hms : LegibleMembers ms) (hne : ms ≠ []) :
    ∃ es : Entries, ',' :: es.chars = writeMembers sp (depth + 1) ms ++ sp.line depth ∧
      es.tree = members ms := by
  cases ms with
  | nil => exact absurd rfl hne
  | cons m ms =>
    obtain ⟨k, x⟩ := m
    obtain ⟨key, hkey, hname⟩ := exists_key hsp (depth + 1) k
    obtain ⟨d, hd, htree⟩ := exists_document hsp (depth + 1) x hms.1
    have hentries := exists_entries hsp depth ms hms.2
    cases ms with
    | nil =>
      obtain ⟨after, hafter⟩ := exists_blanks (hsp.line depth)
      refine ⟨.last key d after, ?_, by rw [Entries.tree, hname, htree]; rfl⟩
      simp [Entries.chars, hkey, hd, hafter, writeMembers]
    | cons m ms =>
      obtain ⟨rest, hrest, hresttree⟩ := hentries (List.cons_ne_nil m ms)
      refine ⟨.more key d [] rest, ?_, by rw [Entries.tree, hname, htree, hresttree]; rfl⟩
      simp [Entries.chars, hkey, hd, hrest, writeMembers]

end

/-- Whatever is written can be passed over. -/
theorem skippable_fragment {x : Json} (hx : x.Legible) : x.fragment.skippable := by
  obtain ⟨d, -, htree⟩ := exists_document Spacing.blank_none 0 x hx
  exact htree ▸ d.skippable_tree

/-- A written text is read back as the tree of its value, with nothing left over. -/
theorem ofChars_write {sp : Spacing} (hsp : sp.Blank) {x : Json} (hx : x.Legible) :
    Fragment.ofChars (x.write sp 0) = (x.fragment, true) := by
  obtain ⟨d, hchars, htree⟩ := exists_document hsp 0 x hx
  have hread := ofChars_document d [] []
  rw [hchars, htree] at hread
  simpa using hread

end Json

end WindowKeeper
