import WindowKeeper.Proofs.Json.Document

namespace WindowKeeper.Json

theorem isBlank_blanks (bs : List Blank) : ∀ c ∈ blanks bs, isBlank c := by
  intro c hc
  obtain ⟨b, -, rfl⟩ := List.mem_map.mp hc
  cases b <;> rfl

theorem digit?_char (d : Fin 10) : digit? (Nat.digitChar d) = some d.val := by
  revert d
  decide

theorem hexDigit?_char (h : HexDigit) : hexDigit? h.char = some h.value := by
  have hall : ∀ (v : Fin 16) (u : Bool), hexDigit? (HexDigit.char ⟨v, u⟩) = some v.val := by decide
  exact hall h.value h.upper

namespace Quote

def addPiece (q : Quote) : Piece → Quote
  | .plain c _ => q.add c
  | .letter l => q.add l.meaning
  | .unit a b c d => q.addUnit (Piece.unitValue a b c d)

/-- What has been read so far, if no half of a surrogate pair is left alone. -/
def result (q : Quote) : Option (List Char) :=
  if q.whole && q.half.isNone then some q.chars.reverse else none

theorem token_eq (q : Quote) : q.token = .text (q.result.map String.ofList) := by
  rw [token, result]
  split <;> rfl

theorem addUnit_high {n : Nat} (hn : 0xD800 ≤ n ∧ n < 0xDC00) (q : Quote) :
    q.addUnit n = ⟨q.chars, some n, q.whole && q.half.isNone⟩ :=
  if_pos hn

theorem addUnit_pair {n : Nat} (hn : 0xDC00 ≤ n ∧ n < 0xE000) (cs : List Char) (h : Nat) :
    addUnit ⟨cs, some h, true⟩ n =
      ⟨Char.ofNat (0x10000 + (h - 0xD800) * 0x400 + (n - 0xDC00)) :: cs, none, true⟩ := by
  rw [addUnit, if_neg (by omega), if_pos hn]

theorem addUnit_lone {n : Nat} (hn : 0xDC00 ≤ n ∧ n < 0xE000) (cs : List Char) :
    addUnit ⟨cs, none, true⟩ n = ⟨cs, none, false⟩ := by
  rw [addUnit, if_neg (by omega), if_pos hn]

theorem addUnit_other {n : Nat} (hhigh : ¬ (0xD800 ≤ n ∧ n < 0xDC00))
    (hlow : ¬ (0xDC00 ≤ n ∧ n < 0xE000)) (q : Quote) : q.addUnit n = q.add (Char.ofNat n) := by
  rw [addUnit, if_neg hhigh, if_neg hlow]

/-- A half that was left alone is not made good by what follows. -/
theorem result_foldl_broken {q : Quote} (h : q.whole = false) (ps : List Piece) :
    (ps.foldl addPiece q).result = none := by
  induction ps generalizing q with
  | nil => simp [result, h]
  | cons p ps ih =>
    refine ih ?_
    cases p with
    | plain c hc => simp [addPiece, add, h]
    | letter l => simp [addPiece, add, h]
    | unit a b c d =>
      simp only [addPiece, addUnit]
      repeat' split
      all_goals simp [add, h]

theorem result_foldl (ps : List Piece) (cs : List Char) :
    (ps.foldl addPiece ⟨cs, none, true⟩).result = (Piece.meaning ps).map (cs.reverse ++ ·) := by
  fun_induction Piece.meaning ps generalizing cs with
  | case1 => simp [result]
  | case2 c hc ps ih =>
    rw [List.foldl_cons, addPiece, add]
    simp [ih, Function.comp_def]
  | case3 l ps ih =>
    rw [List.foldl_cons, addPiece, add]
    simp [ih, Function.comp_def]
  | case4 a b c d n hn a' b' c' d' ps m hm ih =>
    have hhigh : addPiece ⟨cs, none, true⟩ (.unit a b c d) = ⟨cs, some n, true⟩ :=
      addUnit_high hn _
    have hpair : addPiece ⟨cs, some n, true⟩ (.unit a' b' c' d') =
        ⟨Char.ofNat (0x10000 + (n - 0xD800) * 0x400 + (m - 0xDC00)) :: cs, none, true⟩ :=
      addUnit_pair hm cs n
    rw [List.foldl_cons, List.foldl_cons, hhigh, hpair, ih]
    simp [Function.comp_def]
  | case5 a b c d n hn a' b' c' d' ps m hm =>
    have hhigh : addPiece ⟨cs, none, true⟩ (.unit a b c d) = ⟨cs, some n, true⟩ :=
      addUnit_high hn _
    rw [List.foldl_cons, List.foldl_cons, hhigh]
    refine result_foldl_broken ?_ ps
    change (addUnit _ m).whole = false
    rw [addUnit, if_neg hm]
    split <;> simp [add]
  | case6 a b c d ps n hn hps =>
    rw [List.foldl_cons, addPiece, addUnit_high hn]
    cases ps with
    | nil => simp [result]
    | cons p ps =>
      refine result_foldl_broken ?_ ps
      cases p with
      | unit a' b' c' d' => exact (hps a' b' c' d' ps rfl).elim
      | _ => simp [addPiece, add]
  | case7 a b c d ps n hhigh hlow =>
    refine result_foldl_broken ?_ ps
    rw [addPiece, addUnit_lone hlow]
  | case8 a b c d ps n hhigh hlow ih =>
    rw [List.foldl_cons, addPiece, addUnit_other hhigh hlow, add]
    simp [ih, Function.comp_def, n]

end Quote

/-- Whether a numeral may end at a place. -/
def Place.ends : Place → Bool
  | .zero => true
  | .whole => true
  | .fraction => true
  | .power => true
  | _ => false

namespace Reader

def read (r : Reader) (cs : List Char) : Reader := cs.foldl step r

@[simp] theorem read_nil (r : Reader) : r.read [] = r := rfl

@[simp] theorem read_cons (r : Reader) (c : Char) (cs : List Char) :
    r.read (c :: cs) = (r.step c).read cs := rfl

@[simp] theorem read_append (r : Reader) (cs ds : List Char) :
    r.read (cs ++ ds) = (r.read cs).read ds := List.foldl_append

/-- A reader between two tokens. -/
def between (p : Progress) : Reader := ⟨.between, p⟩

theorem read_blanks {cs : List Char} (h : ∀ c ∈ cs, isBlank c) (p : Progress) :
    (between p).read cs = between p := by
  induction cs with
  | nil => rfl
  | cons c cs ih =>
    have hc : (between p).step c = between p := by
      simp [step, between, Scanner.step, Scanner.start, h c]
    rw [read_cons, hc]
    exact ih fun d hd => h d (List.mem_cons_of_mem _ hd)

theorem read_gap (bs : List Blank) (p : Progress) : (between p).read (blanks bs) = between p :=
  read_blanks (isBlank_blanks bs) p

theorem read_piece (q : Quote) (p : Progress) (s : Piece) :
    (⟨.text q, p⟩ : Reader).read s.chars = ⟨.text (q.addPiece s), p⟩ := by
  cases s with
  | plain c hc =>
    obtain ⟨hcontrol, hquote, hslash⟩ := hc
    have hcontrol' : ¬ c.toNat < 32 := by omega
    simp [Piece.chars, step, Scanner.step, hquote, hslash, hcontrol', Quote.addPiece]
  | letter l => cases l <;> rfl
  | unit a b c d =>
    simp [Piece.chars, step, Scanner.step, hexDigit?_char, Quote.addPiece, Piece.unitValue]

theorem read_quoted (ps : List Piece) (p : Progress) :
    (between p).read (quoted ps) = between (p.push (.text (Piece.denoted ps))) := by
  have hpieces (q : Quote) : (⟨.text q, p⟩ : Reader).read (ps.flatMap Piece.chars) =
      ⟨.text (ps.foldl Quote.addPiece q), p⟩ := by
    induction ps generalizing q with
    | nil => rfl
    | cons s ps ih => rw [List.flatMap_cons, read_append, read_piece, ih, List.foldl_cons]
  have hopen : (between p).step '"' = ⟨.text .empty, p⟩ := rfl
  have htoken : (ps.foldl Quote.addPiece .empty).token = .text (Piece.denoted ps) := by
    rw [Quote.token_eq, Quote.empty, Quote.result_foldl, Piece.denoted]
    simp
  rw [quoted, List.cons_append, read_cons, hopen, read_append, hpieces, ← htoken]
  rfl

theorem step_extend {k l : Place} {n m : Numeral} {c : Char} (h : n.extend? k c = some (l, m))
    (p : Progress) : (⟨.number k n, p⟩ : Reader).step c = ⟨.number l m, p⟩ := by
  simp [step, Scanner.step, h]

/-- Digits that leave the place in a numeral as it is. -/
theorem read_digits {k : Place} {add : Numeral → Nat → Numeral}
    (hadd : ∀ (n : Numeral) (d : Fin 10), n.extend? k (Nat.digitChar d) = some (k, add n d))
    (ds : Digits) (n : Numeral) (p : Progress) : (⟨.number k n, p⟩ : Reader).read (digits ds) =
      ⟨.number k ((ds.map Fin.val).foldl add n), p⟩ := by
  induction ds generalizing n with
  | nil => rfl
  | cons d ds ih =>
    rw [digits, List.map_cons, read_cons, step_extend (hadd n d)]
    exact ih (add n d)

theorem foldl_addWhole (ds : List Nat) (n : Numeral) :
    ds.foldl Numeral.addWhole n = { n with whole := ds.reverse ++ n.whole } := by
  induction ds generalizing n with
  | nil => rfl
  | cons d ds ih => simp [ih, Numeral.addWhole]

theorem foldl_addFraction (ds es : List Nat) (n : Numeral) :
    ds.foldl Numeral.addFraction { n with fraction := some es } =
      { n with fraction := some (ds.reverse ++ es) } := by
  induction ds generalizing es with
  | nil => rfl
  | cons d ds ih => simp [ih, Numeral.addFraction]

theorem foldl_addPower (ds es : List Nat) (b : Bool) (n : Numeral) :
    ds.foldl Numeral.addPower { n with power := some (b, es) } =
      { n with power := some (b, ds.reverse ++ es) } := by
  induction ds generalizing es with
  | nil => rfl
  | cons d ds ih => simp [ih, Numeral.addPower]

/-- The sign and the whole digits of a number. -/
theorem read_whole (n : Figures) (p : Progress) :
    (between p).read ((if n.negative then ['-'] else []) ++ digits (n.first :: n.rest)) =
      ⟨.number (if n.first = 0 then .zero else .whole)
        (.start n.negative (Figures.reversed (n.first :: n.rest))), p⟩ := by
  obtain ⟨negative, d, ds, hpadded, -, -⟩ := n
  by_cases hd : d = 0
  · subst hd
    obtain rfl : ds = [] := hpadded rfl
    cases negative <;> rfl
  · have hplus : ∀ d : Fin 10, d ≠ 0 → Scanner.start (Nat.digitChar d) =
        (.number .whole (.start false [d.val]), []) := by decide
    have hminus : ∀ d : Fin 10, d ≠ 0 → Numeral.extend? .sign (.start true []) (Nat.digitChar d) =
        some (.whole, .start true [d.val]) := by decide
    have hwhole (n : Numeral) (d : Fin 10) :
        n.extend? .whole (Nat.digitChar d) = some (.whole, n.addWhole d) := by
      simp [Numeral.extend?, digit?_char]
    have hfirst : (between p).read ((if negative then ['-'] else []) ++ [Nat.digitChar d]) =
        ⟨.number .whole (.start negative [d.val]), p⟩ := by
      cases negative with
      | false => simp [step, between, Scanner.step, hplus d hd]
      | true =>
        have hsign : (between p).step '-' = ⟨.number .sign (.start true []), p⟩ := rfl
        simp [hsign, step_extend (hminus d hd)]
    have hsplit : digits (d :: ds) = [Nat.digitChar d] ++ digits ds := rfl
    rw [hsplit, ← List.append_assoc, read_append, hfirst, read_digits hwhole, foldl_addWhole,
      if_neg hd]
    simp [Figures.reversed, Numeral.start]

/-- A number can be given a fraction after its whole digits. -/
theorem read_fraction {k : Place} (hk : k = .zero ∨ k = .whole) (n : Numeral) (d : Fin 10)
    (ds : Digits) (p : Progress) : (⟨.number k n, p⟩ : Reader).read ('.' :: digits (d :: ds)) =
      ⟨.number .fraction { n with fraction := some (Figures.reversed (d :: ds)) }, p⟩ := by
  have hpoint : n.extend? k '.' = some (.point, { n with fraction := some [] }) := by
    rcases hk with rfl | rfl <;> rfl
  have hfirst (n : Numeral) : n.extend? .point (Nat.digitChar d) =
      some (.fraction, n.addFraction d) := by
    simp [Numeral.extend?, digit?_char]
  have hrest (n : Numeral) (d : Fin 10) :
      n.extend? .fraction (Nat.digitChar d) = some (.fraction, n.addFraction d) := by
    simp [Numeral.extend?, digit?_char]
  have hsplit : digits (d :: ds) = Nat.digitChar d :: digits ds := rfl
  rw [read_cons, step_extend hpoint, hsplit, read_cons, step_extend (hfirst _), read_digits hrest]
  have hadd := foldl_addFraction ((d :: ds).map Fin.val) [] n
  rw [List.append_nil] at hadd
  exact congrArg (fun m => (⟨.number .fraction m, p⟩ : Reader)) hadd

/-- A number can be given an exponent at its end. -/
theorem read_power {k : Place} (hk : k = .zero ∨ k = .whole ∨ k = .fraction) (n : Numeral)
    (w : Power) (p : Progress) : (⟨.number k n, p⟩ : Reader).read w.chars =
      ⟨.number .power
        { n with power := some (w.sign = some true, Figures.reversed (w.first :: w.rest)) }, p⟩ := by
  obtain ⟨upper, sign, d, ds⟩ := w
  have hmark : n.extend? k (if upper then 'E' else 'e') =
      some (.mark, { n with power := some (false, []) }) := by
    rcases hk with rfl | rfl | rfl <;> cases upper <;> rfl
  obtain ⟨l, hl, hsign⟩ : ∃ l, (l = .mark ∨ l = .markSign) ∧
      (⟨.number .mark { n with power := some (false, []) }, p⟩ : Reader).read (signChars sign) =
      ⟨.number l { n with power := some (decide (sign = some true), []) }, p⟩ := by
    rcases sign with _ | _ | _
    · exact ⟨.mark, .inl rfl, rfl⟩
    · exact ⟨.markSign, .inr rfl, rfl⟩
    · exact ⟨.markSign, .inr rfl, rfl⟩
  have hfirst (n : Numeral) : n.extend? l (Nat.digitChar d) = some (.power, n.addPower d) := by
    rcases hl with rfl | rfl <;> simp [Numeral.extend?, digit?_char]
  have hrest (n : Numeral) (d : Fin 10) :
      n.extend? .power (Nat.digitChar d) = some (.power, n.addPower d) := by
    simp [Numeral.extend?, digit?_char]
  have hsplit : digits (d :: ds) = Nat.digitChar d :: digits ds := rfl
  rw [Power.chars, List.cons_append, read_cons, step_extend hmark, read_append, hsign, hsplit,
    read_cons, step_extend (hfirst _), read_digits hrest]
  have hadd := foldl_addPower ((d :: ds).map Fin.val) [] (decide (sign = some true)) n
  rw [List.append_nil] at hadd
  exact congrArg (fun m => (⟨.number .power m, p⟩ : Reader)) hadd

theorem read_figures (n : Figures) (p : Progress) :
    ∃ k : Place, k.ends ∧ (between p).read n.chars = ⟨.number k n.numeral, p⟩ := by
  obtain ⟨k, hk, hwhole⟩ : ∃ k : Place, (k = .zero ∨ k = .whole) ∧
      (between p).read ((if n.negative then ['-'] else []) ++ digits (n.first :: n.rest)) =
        ⟨.number k (.start n.negative (Figures.reversed (n.first :: n.rest))), p⟩ :=
    ⟨_, by split <;> simp, read_whole n p⟩
  rw [Figures.chars, List.append_assoc, read_append, hwhole, Figures.numeral]
  obtain ⟨negative, d, ds, hpadded, fraction, power⟩ := n
  cases fraction with
  | none =>
    cases power with
    | none => exact ⟨k, by rcases hk with rfl | rfl <;> rfl, rfl⟩
    | some w => exact ⟨.power, rfl, read_power (hk.imp_right .inl) _ w p⟩
  | some f =>
    rw [read_append, read_fraction hk]
    cases power with
    | none => exact ⟨.fraction, rfl, rfl⟩
    | some w => exact ⟨.power, rfl, read_power (.inr (.inr rfl)) _ w p⟩

end Reader

end WindowKeeper.Json
