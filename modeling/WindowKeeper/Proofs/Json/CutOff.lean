import WindowKeeper.Proofs.Json.Scanned

namespace WindowKeeper.Json

namespace Progress

/-- Whether the value of the text has been begun. -/
def Begun : Progress → Prop
  | .reading .top _ => False
  | _ => True

theorem begun_place (x : Fragment) (outer : List Frame) : (place x outer).Begun := by
  cases outer with
  | nil => trivial
  | cons f outer => cases f <;> trivial

theorem begun_push {p : Progress} (hp : p.Begun) (t : Token) : (p.push t).Begun := by
  cases p with
  | done x => trivial
  | stopped x => trivial
  | reading spot outer =>
    cases spot with
    | top => cases hp
    | element xs first => cases first <;> cases t <;> first | exact begun_place _ _ | trivial
    | key ms first => cases first <;> cases t <;> first | exact begun_place _ _ | trivial
    | _ => cases t <;> first | exact begun_place _ _ | trivial

/-- A value that has been begun is a container, and only a closing bracket completes it. -/
theorem closes_of_push {p : Progress} (hp : p.Begun) {t : Token} {x : Fragment}
    (h : p.push t = .done x) : t = .closeBracket ∨ t = .closeBrace := by
  cases p with
  | done x => cases h
  | stopped x => cases h
  | reading spot outer =>
    cases spot with
    | top => cases hp
    | element xs first => cases first <;> cases t <;> first | cases h | simp
    | key ms first => cases first <;> cases t <;> first | cases h | simp
    | _ => cases t <;> first | cases h | simp

theorem begun_foldl {p : Progress} (hp : p.Begun) (ts : List Token) : (ts.foldl push p).Begun := by
  induction ts generalizing p with
  | nil => exact hp
  | cons t ts ih => exact ih (begun_push hp t)

theorem foldl_stopped (x : Fragment) (ts : List Token) :
    ts.foldl push (.stopped x) = .stopped x := by
  induction ts with
  | nil => rfl
  | cons t ts ih => exact ih

end Progress

namespace Scanner

/-- What a character leads to that is no blank between tokens: it ends one or leaves one open. -/
def Consumes (o : Scanner × List Token) : Prop := o.1 ≠ .between ∨ o.2 ≠ []

theorem consumes_start {c : Char} (hc : isBlank c = false) : Consumes (start c) := by
  rw [start, if_neg (by simp [hc])]
  repeat refine iteInduction (fun _ => by simp [Consumes]) fun _ => ?_
  split <;> simp [Consumes]

theorem consumes_step {s : Scanner} (hs : s ≠ .between) (c : Char) : Consumes (s.step c) := by
  cases s with
  | between => exact absurd rfl hs
  | word next rest t =>
    rw [step.eq_def]
    simp only
    split
    · split <;> simp [Consumes]
    · simp [Consumes]
  | _ =>
    simp only [step]
    repeat' split
    all_goals simp [Consumes]

end Scanner

namespace Reader

/-- Whether a text goes on after its value, or is no JSON. -/
def Past (r : Reader) : Prop :=
  match r.progress with
  | .reading _ _ => False
  | .done _ => r.scanner ≠ .between
  | .stopped _ => True

/-- After the value of a text, a token too many stops it. -/
theorem past_scanned {s : Scanner} {ts : List Token} (h : Scanner.Consumes (s, ts)) (x : Fragment) :
    Past ⟨s, ts.foldl Progress.push (.done x)⟩ := by
  cases ts with
  | nil => exact h.resolve_right (by simp)
  | cons t ts =>
    rw [List.foldl_cons]
    change Past ⟨s, ts.foldl Progress.push (.stopped x)⟩
    rw [Progress.foldl_stopped]
    trivial

theorem past_step {r : Reader} (hr : r.Past) (c : Char) : (r.step c).Past := by
  obtain ⟨s, p⟩ := r
  cases p with
  | reading spot outer => cases hr
  | stopped x =>
    simp only [step, Progress.foldl_stopped]
    trivial
  | done x => exact past_scanned (Scanner.consumes_step hr c) x

theorem past_read {r : Reader} (hr : r.Past) (cs : List Char) : (r.read cs).Past := by
  induction cs generalizing r with
  | nil => exact hr
  | cons c cs ih => exact ih (past_step hr c)

theorem finish_past {r : Reader} (hr : r.Past) : r.finish.2 = false := by
  obtain ⟨s, p⟩ := r
  cases p with
  | reading spot outer => cases hr
  | stopped x => simp only [finish, Progress.foldl_stopped]
  | done x =>
    cases s with
    | between => exact absurd rfl hr
    | _ => rfl

/-- A text that goes on after its value with something other than blanks is past it. -/
theorem past_of_done {x : Fragment} {cs : List Char} (hcs : ∃ c ∈ cs, isBlank c = false) :
    ((between (.done x)).read cs).Past := by
  induction cs with
  | nil => simp at hcs
  | cons c cs ih =>
    by_cases hc : isBlank c
    · have hstep : (between (.done x)).step c = between (.done x) :=
        read_blanks (show ∀ d ∈ [c], isBlank d by simpa using hc) _
      rw [read_cons, hstep]
      simp only [List.mem_cons, exists_eq_or_imp, hc] at hcs
      exact ih (by simpa using hcs)
    · exact past_read (past_scanned (Scanner.consumes_start (by simpa using hc)) x) cs

/-- Once its value has been begun, a text is complete only between two tokens. -/
theorem done_of_finish {r : Reader} (hr : r.progress.Begun) (h : r.finish.2) :
    ∃ x, r = between (.done x) := by
  obtain ⟨s, p⟩ := r
  obtain ⟨x, hx⟩ : ∃ x, s.finish.foldl Progress.push p = .done x := by
    simp only [finish] at h
    split at h
    · exact ⟨_, by assumption⟩
    · cases h
    · cases h
  cases s with
  | between => exact ⟨x, congrArg (Reader.mk .between) hx⟩
  | number k n =>
    rcases Progress.closes_of_push hr hx with hclose | hclose <;> cases k <;> cases hclose
  | _ => rcases Progress.closes_of_push hr hx with hclose | hclose <;> cases hclose

theorem begun_read {r : Reader} (hr : r.progress.Begun) (cs : List Char) :
    (r.read cs).progress.Begun := by
  induction cs generalizing r with
  | nil => exact hr
  | cons c cs ih => exact ih (Progress.begun_foldl hr _)

end Reader

open Reader in
/-- A complete text that begins with a brace and ends with no blank is not complete if it is cut off
earlier. -/
theorem ofChars_prefix {cs p : List Char} {c : Char} (hclean : (Fragment.ofChars cs).2)
    (hhead : cs.head? = some '\x7b') (hlast : cs.getLast? = some c) (hc : isBlank c = false)
    (hp : p <+: cs) (hne : p ≠ cs) : (Fragment.ofChars p).2 = false := by
  obtain ⟨ds, rfl⟩ := hp
  cases p with
  | nil => rfl
  | cons b p =>
    cases hhead
    rw [← Bool.not_eq_true]
    intro hcomplete
    have hbegun : ((between .initial).read ('\x7b' :: p)).progress.Begun :=
      begun_read (r := (between .initial).step '\x7b') trivial p
    obtain ⟨x, hdone⟩ := done_of_finish hbegun hcomplete
    have hrest : c ∈ ds := by
      rcases List.eq_nil_or_concat ds with rfl | ⟨es, d, rfl⟩
      · exact absurd (List.append_nil _).symm hne
      · rw [List.concat_eq_append, ← List.append_assoc, List.getLast?_concat] at hlast
        cases hlast
        simp
    have hpast := finish_past (past_of_done (x := x) ⟨c, hrest, hc⟩)
    rw [← hdone, ← read_append] at hpast
    cases hpast.symm.trans hclean

end WindowKeeper.Json
