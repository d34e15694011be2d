import WindowKeeper.Proofs.Json.Scanned

namespace WindowKeeper.Json

/-- The containers around a value that is read at a spot. -/
def Spot.around? : Spot → List Frame → Option (List Frame)
  | .top, outer => some outer
  | .element xs _, outer => some (.array xs :: outer)
  | .member ms k, outer => some (.object ms k :: outer)
  | _, _ => none

/-- Whether a token begins a value. -/
def Token.opens : Token → Bool
  | .openBrace => true
  | .openBracket => true
  | .null => true
  | .boolean _ => true
  | .number _ => true
  | .text _ => true
  | _ => false

theorem Progress.push_opens {spot : Spot} {outer frames : List Frame} {t : Token}
    (hs : spot.around? outer = some frames) (ht : t.opens) :
    (Progress.reading spot outer).push t = begin t frames spot outer := by
  cases spot with
  | element xs atStart =>
    cases hs
    cases atStart <;> cases t <;> first | rfl | cases ht
  | top =>
    cases hs
    cases t <;> rfl
  | member ms k =>
    cases hs
    cases t <;> rfl
  | _ => cases hs

/-- Whether a character stands only between values. -/
def isEnd (c : Char) : Bool := isBlank c || c == ',' || c == ']' || c == '\x7d'

/-- The reader has read all of a value and goes on from `p`; a number may still be open. -/
structure Reader.Ends (r : Reader) (p : Progress) : Prop where
  step : ∀ c, isEnd c → r.step c = (between p).step c
  finish : r.finish = (between p).finish

namespace Reader

theorem Ends.refl (p : Progress) : (between p).Ends p := ⟨fun _ _ => rfl, rfl⟩

theorem Ends.number {k : Place} (hk : k.ends) (num : Numeral) (p : Progress) :
    (⟨.number k num, p⟩ : Reader).Ends (p.push (.number num.value)) := by
  refine ⟨fun c hc => ?_, ?_⟩
  · simp only [isEnd, isBlank, Bool.or_eq_true, decide_eq_true_eq, beq_iff_eq] at hc
    cases k
    case zero | whole | fraction | power =>
      rcases hc with (((((rfl | rfl) | rfl) | rfl) | rfl) | rfl) | rfl <;> rfl
    all_goals cases hk
  · cases k
    case zero | whole | fraction | power => rfl
    all_goals cases hk

theorem Ends.read {r : Reader} {p : Progress} (h : r.Ends p) {c : Char} (hc : isEnd c)
    (cs : List Char) : r.read (c :: cs) = ((between p).step c).read cs := by
  rw [read_cons, h.step c hc]

theorem read_null (p : Progress) : (between p).read ['n', 'u', 'l', 'l'] = between (p.push .null) :=
  rfl

theorem read_true (p : Progress) :
    (between p).read ['t', 'r', 'u', 'e'] = between (p.push (.boolean true)) := rfl

theorem read_false (p : Progress) :
    (between p).read ['f', 'a', 'l', 's', 'e'] = between (p.push (.boolean false)) := rfl

theorem step_openBracket {spot : Spot} {outer frames : List Frame}
    (hs : spot.around? outer = some frames) :
    (between (.reading spot outer)).step '[' = between (.reading (.element [] true) frames) := by
  change between ((Progress.reading spot outer).push .openBracket) = _
  rw [Progress.push_opens hs rfl]
  rfl

theorem step_openBrace {spot : Spot} {outer frames : List Frame}
    (hs : spot.around? outer = some frames) :
    (between (.reading spot outer)).step '\x7b' = between (.reading (.key [] true) frames) := by
  change between ((Progress.reading spot outer).push .openBrace) = _
  rw [Progress.push_opens hs rfl]
  rfl

theorem Ends.gap {r : Reader} {p : Progress} (h : r.Ends p) (bs : List Blank) :
    (r.read (blanks bs)).Ends p := by
  cases bs with
  | nil => exact h
  | cons b bs =>
    have hb : isEnd b.char := by cases b <;> rfl
    have hgap := read_gap (b :: bs) p
    rw [blanks, List.map_cons, read_cons] at hgap ⊢
    rw [h.step _ hb, hgap]
    exact .refl p

/-- A key is read up to where the value of its member begins. -/
theorem read_keyChars (k : Key) (ms : List (Option String × Fragment)) (first : Bool)
    (frames : List Frame) : (between (.reading (.key ms first) frames)).read k.chars =
      between (.reading (.member ms (Piece.denoted k.name)) frames) := by
  have hname : (Progress.reading (.key ms first) frames).push (.text (Piece.denoted k.name)) =
      .reading (.colon ms (Piece.denoted k.name)) frames := by
    cases first <;> rfl
  have hcolon : (between (.reading (.colon ms (Piece.denoted k.name)) frames)).step ':' =
      between (.reading (.member ms (Piece.denoted k.name)) frames) := rfl
  rw [Key.chars, read_append, read_append, read_append, read_gap, read_quoted, hname, read_gap,
    read_cons, hcolon, read_gap]

end Reader

/-- Values that are read after those in `ys`, which has the last first. -/
def Items.after (ys : List Fragment) : Items → List Fragment
  | .last _ x _ => x.tree :: ys
  | .more _ x _ rest => rest.after (x.tree :: ys)

def Entries.after (ns : List (Option String × Fragment)) :
    Entries → List (Option String × Fragment)
  | .last k x _ => (Piece.denoted k.name, x.tree) :: ns
  | .more k x _ rest => rest.after ((Piece.denoted k.name, x.tree) :: ns)

theorem Items.ofReversed_after (es : Items) (ys : List Fragment) :
    Elements.ofReversed (es.after ys) .closed = Elements.ofReversed ys es.tree :=
  match es with
  | .last _ _ _ => rfl
  | .more _ x _ rest => rest.ofReversed_after (x.tree :: ys)

theorem Entries.ofReversed_after (ms : Entries) (ns : List (Option String × Fragment)) :
    Members.ofReversed (ms.after ns) .closed = Members.ofReversed ns ms.tree :=
  match ms with
  | .last _ _ _ => rfl
  | .more k x _ rest => rest.ofReversed_after ((Piece.denoted k.name, x.tree) :: ns)

open Reader Progress

mutual

/-- A value is read into the container around it. -/
theorem Document.read_chars (d : Document) (spot : Spot) (outer : List Frame)
    {frames : List Frame} (hs : spot.around? outer = some frames) :
    ((between (.reading spot outer)).read d.chars).Ends (place d.tree frames) := by
  cases d with
  | null =>
    rw [Document.chars, read_null, push_opens hs rfl]
    exact .refl _
  | boolean b =>
    cases b with
    | true =>
      rw [Document.chars, read_true, push_opens hs rfl]
      exact .refl _
    | false =>
      rw [Document.chars, read_false, push_opens hs rfl]
      exact .refl _
  | number n =>
    obtain ⟨k, hk, hread⟩ := read_figures n (.reading spot outer)
    have hends := Ends.number hk n.numeral (.reading spot outer)
    rw [push_opens hs rfl] at hends
    rw [Document.chars, hread]
    exact hends
  | text ps =>
    rw [Document.chars, read_quoted, push_opens hs rfl]
    exact .refl _
  | emptyArray gap =>
    rw [Document.chars, List.cons_append, read_cons, step_openBracket hs, read_append, read_gap]
    exact .refl _
  | array es =>
    have hes := es.read_chars [] true frames
    rw [Document.chars, List.cons_append, read_cons, step_openBracket hs, read_append,
      hes.read rfl []]
    change (between (place (.array (Elements.ofReversed _ .closed)) frames)).Ends _
    rw [Items.ofReversed_after]
    exact .refl _
  | emptyObject gap =>
    rw [Document.chars, List.cons_append, read_cons, step_openBrace hs, read_append, read_gap]
    exact .refl _
  | object ms =>
    have hms := ms.read_chars [] true frames
    rw [Document.chars, List.cons_append, read_cons, step_openBrace hs, read_append,
      hms.read rfl []]
    change (between (place (.object (Members.ofReversed _ .closed)) frames)).Ends _
    rw [Entries.ofReversed_after]
    exact .refl _

theorem Items.read_chars (es : Items) (ys : List Fragment) (first : Bool) (frames : List Frame) :
    ((between (.reading (.element ys first) frames)).read es.chars).Ends
      (.reading (.afterElement (es.after ys)) frames) := by
  cases es with
  | last before x after =>
    have hx := x.read_chars (.element ys first) frames rfl
    rw [Items.chars, read_append, read_append, read_gap]
    exact hx.gap after
  | more before x after rest =>
    have hx := (x.read_chars (.element ys first) frames rfl).gap after
    have hcomma : (between (.reading (.afterElement (x.tree :: ys)) frames)).step ',' =
        between (.reading (.element (x.tree :: ys) false) frames) := rfl
    have hrest := rest.read_chars (x.tree :: ys) false frames
    rw [Items.chars, read_append, read_append, read_append, read_gap, hx.read rfl, place, hcomma]
    exact hrest

theorem Entries.read_chars (ms : Entries) (ns : List (Option String × Fragment)) (first : Bool)
    (frames : List Frame) :
    ((between (.reading (.key ns first) frames)).read ms.chars).Ends
      (.reading (.afterMember (ms.after ns)) frames) := by
  cases ms with
  | last k x after =>
    have hx := x.read_chars (.member ns (Piece.denoted k.name)) frames rfl
    rw [Entries.chars, read_append, read_append, read_keyChars]
    exact hx.gap after
  | more k x after rest =>
    have hx := (x.read_chars (.member ns (Piece.denoted k.name)) frames rfl).gap after
    have hcomma : (between (.reading (.afterMember ((Piece.denoted k.name, x.tree) :: ns))
        frames)).step ',' =
        between (.reading (.key ((Piece.denoted k.name, x.tree) :: ns) false) frames) := rfl
    have hrest := rest.read_chars ((Piece.denoted k.name, x.tree) :: ns) false frames
    rw [Entries.chars, read_append, read_append, read_append, read_keyChars, hx.read rfl, place,
      hcomma]
    exact hrest

end

/-- A text is read as the tree of its document, with nothing left over. -/
theorem ofChars_document (d : Document) (before after : List Blank) :
    Fragment.ofChars (blanks before ++ d.chars ++ blanks after) = (d.tree, true) := by
  have hread := (d.read_chars .top [] rfl).gap after
  change ((between .initial).read _).finish = _
  rw [read_append, read_append, read_gap]
  exact hread.finish

end WindowKeeper.Json
