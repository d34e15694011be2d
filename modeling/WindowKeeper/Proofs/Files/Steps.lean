import Mathlib.Data.List.TakeWhile
import WindowKeeper.Files.Path

namespace WindowKeeper.Path

theorem pieces_ne_nil (cs : List Char) : pieces cs ≠ [] := by
  unfold pieces
  split
  · simp
  · simp
  · split <;> simp

theorem pieces_of_not_mem {p : List Char} (h : '/' ∉ p) : pieces p = [p] := by
  induction p with
  | nil => rfl
  | cons c p ih =>
    simp only [List.mem_cons, not_or] at h
    rw [pieces, ih h.2]
    exact Ne.symm h.1

theorem pieces_append {p : List Char} (h : '/' ∉ p) (cs : List Char) :
    pieces (p ++ '/' :: cs) = p :: pieces cs := by
  induction p with
  | nil => rfl
  | cons c p ih =>
    simp only [List.mem_cons, not_or] at h
    rw [List.cons_append, pieces, ih h.2]
    exact Ne.symm h.1

theorem not_mem_of_mem_pieces {cs p : List Char} (h : p ∈ pieces cs) : '/' ∉ p := by
  fun_induction pieces cs generalizing p with
  | case1 => simp_all
  | case2 cs ih =>
    rcases List.mem_cons.mp h with rfl | h
    · exact List.not_mem_nil
    · exact ih h
  | case3 c cs hc q qs hq ih =>
    rw [hq] at ih
    rcases List.mem_cons.mp h with rfl | h
    · simp only [List.mem_cons, not_or]
      exact ⟨Ne.symm hc, ih List.mem_cons_self⟩
    · exact ih (List.mem_cons_of_mem _ h)
  | case4 c cs hc hq ih =>
    rw [List.mem_singleton.mp h]
    simpa using Ne.symm hc

theorem not_mem_of_mem_steps {path s : String} (h : s ∈ steps path) : '/' ∉ s.toList := by
  obtain ⟨p, hp, rfl⟩ := List.mem_map.mp h
  rw [String.toList_ofList]
  exact not_mem_of_mem_pieces hp

/-- The last piece of a text is empty only after a slash. -/
theorem getLast?_of_pieces {cs : List Char} (h : (pieces cs).getLast? = some []) :
    cs = [] ∨ cs.getLast? = some '/' := by
  fun_induction pieces cs with
  | case1 => exact .inl rfl
  | case2 cs ih =>
    obtain ⟨p, ps, hp⟩ := List.exists_cons_of_ne_nil (pieces_ne_nil cs)
    rw [hp, List.getLast?_cons_cons, ← hp] at h
    right
    rcases ih h with rfl | hlast
    · rfl
    · rw [List.getLast?_cons, hlast]
      rfl
  | case3 c cs hc p ps hp ih =>
    right
    cases ps with
    | nil => cases h
    | cons q qs =>
      rw [hp, List.getLast?_cons_cons] at ih
      rw [List.getLast?_cons_cons] at h
      rcases ih h with rfl | hlast
      · cases hp
      · rw [List.getLast?_cons, hlast]
        rfl
  | case4 c cs hc hp ih => exact absurd hp (pieces_ne_nil cs)

theorem steps_joined {ss : List String} {name : String} (hss : ∀ s ∈ ss, '/' ∉ s.toList)
    (hname : '/' ∉ name.toList) :
    steps (String.join (ss.map (· ++ "/")) ++ name) = ss ++ [name] := by
  induction ss with
  | nil => simp [steps, pieces_of_not_mem hname]
  | cons s ss ih =>
    have hs : '/' ∉ s.toList := hss s List.mem_cons_self
    have hrest := ih fun s hs => hss s (List.mem_cons_of_mem _ hs)
    have htext : (String.join ((s :: ss).map (· ++ "/")) ++ name).toList =
        s.toList ++ '/' :: (String.join (ss.map (· ++ "/")) ++ name).toList := by
      simp
    rw [steps, htext, pieces_append hs, List.map_cons, String.ofList_toList]
    exact congrArg (s :: ·) hrest

/-- A step that stays where it is. -/
def Idle (s : String) : Prop := s = "" ∨ s = "."

theorem idle_of_lastSteps {path : String} (h : lastSteps path = []) : ∀ s ∈ steps path, Idle s := by
  intro s hs
  have hall := List.dropWhile_eq_nil_iff.mp h s (List.mem_reverse.mpr hs)
  simpa [Idle] using hall

theorem eq_append_of_dropWhile {α : Type} {p : α → Bool} {l rest : List α} {a : α}
    (h : l.dropWhile p = a :: rest) :
    p a = false ∧ ∃ dropped, l = dropped ++ a :: rest ∧ ∀ x ∈ dropped, p x := by
  have hne : l.dropWhile p ≠ [] := by simp [h]
  have hsplit := List.takeWhile_append_dropWhile (p := p) (l := l)
  have hnot := List.head_dropWhile_not p hne
  simp only [h, List.head_cons] at hsplit hnot
  exact ⟨hnot, l.takeWhile p, hsplit.symm, fun x hx => List.mem_takeWhile_imp hx⟩

/-- What stands after the last name or step up of a path is idle. -/
theorem steps_of_lastSteps {path name : String} {before : List String}
    (h : lastSteps path = name :: before) :
    ¬ Idle name ∧ ∃ idle, steps path = before.reverse ++ name :: idle ∧ ∀ s ∈ idle, Idle s := by
  obtain ⟨hlast, dropped, hsteps, hidle⟩ := eq_append_of_dropWhile h
  refine ⟨by simpa [Idle] using hlast, dropped.reverse, ?_, fun s hs => ?_⟩
  · have hreversed := congrArg List.reverse hsteps
    simpa using hreversed
  · have hs' := hidle s (List.mem_reverse.mp hs)
    simpa [Idle] using hs'

/-- The name at the end of a path, if it ends in one. -/
def name? (path : String) : Option String :=
  match lastSteps path with
  | [] => none
  | name :: _ => if name = ".." then none else some name

/-- The directory in which the last name of a path is. -/
def parent (path : String) : String :=
  match (lastSteps path).tail.reverse with
  | [] => "."
  | s :: ss => String.join ((s :: ss).map (· ++ "/"))

/-- A path that ends in its name has the steps before it, and it. -/
theorem steps_of_name? {path name : String} (h : name? path = some name)
    (hslash : path.toList.getLast? ≠ some '/') (hdot : (steps path).getLast? ≠ some ".") :
    ¬ Idle name ∧ name ≠ ".." ∧ steps path = (lastSteps path).tail.reverse ++ [name] := by
  unfold name? at h
  split at h
  · cases h
  · rename_i last before hlast
    split at h
    · cases h
    · rename_i hup
      cases h
      obtain ⟨hidle, idle, hsteps, hafter⟩ := steps_of_lastSteps hlast
      refine ⟨hidle, hup, ?_⟩
      rw [hlast, hsteps, List.tail_cons]
      suffices hnone : idle = [] by rw [hnone]
      by_contra hne
      obtain ⟨before', s, rfl⟩ := (List.eq_nil_or_concat idle).resolve_left hne
      have hend : (steps path).getLast? = some s := by
        rw [hsteps, List.concat_eq_append, ← List.cons_append, ← List.append_assoc,
          List.getLast?_concat]
      rcases hafter s (by simp) with rfl | rfl
      · rw [steps, List.getLast?_map, Option.map_eq_some_iff] at hend
        obtain ⟨p, hp, hempty⟩ := hend
        obtain rfl : p = [] := by simpa using hempty
        rcases getLast?_of_pieces hp with hpath | hpath
        · have hnil : lastSteps path = [] := by simp [lastSteps, steps, hpath, pieces]
          rw [hnil] at hlast
          cases hlast
        · exact hslash hpath
      · exact hdot hend

/-- A name is its stem, or its stem with an extension, in which there is no dot. -/
theorem stem_cases (name : List Char) :
    stem name = name ∨ ∃ ext, '.' ∉ ext ∧ name = stem name ++ '.' :: ext := by
  unfold stem
  split
  · exact .inl rfl
  · exact .inl rfl
  · rename_i dot before hbefore hdrop
    obtain ⟨hdot, dropped, hname, hplain⟩ := eq_append_of_dropWhile hdrop
    obtain rfl : dot = '.' := by simpa using hdot
    refine .inr ⟨dropped.reverse, fun hmem => ?_, ?_⟩
    · have hne := hplain '.' (List.mem_reverse.mp hmem)
      simp at hne
    · have hreversed := congrArg List.reverse hname
      simpa using hreversed

theorem mem_of_mem_stem {name : List Char} {c : Char} (h : c ∈ stem name) : c ∈ name := by
  rcases stem_cases name with hstem | ⟨ext, -, hname⟩
  · rwa [hstem] at h
  · rw [hname]
    exact List.mem_append_left _ h

/-- The name with another last extension. -/
def renamed (name ext : String) : String := String.ofList (stem name.toList) ++ "." ++ ext

theorem toList_renamed (name ext : String) :
    (renamed name ext).toList = stem name.toList ++ '.' :: ext.toList := by
  simp [renamed]

/-- An extension of two parts is not the one that a name has. -/
theorem renamed_ne {name ext : String} (hext : '.' ∈ ext.toList) : renamed name ext ≠ name := by
  intro h
  have htext : stem name.toList ++ '.' :: ext.toList = name.toList := by
    rw [← toList_renamed, h]
  rcases stem_cases name.toList with hstem | ⟨old, hold, hname⟩
  · have hlength := congrArg List.length htext
    rw [hstem, List.length_append, List.length_cons] at hlength
    omega
  · have hsame := List.append_cancel_left (htext.trans hname)
    rw [(List.cons.inj hsame).2] at hext
    exact hold hext

/-- With another extension the last name of a path changes, and idle steps after it are gone. -/
theorem steps_withExtension {path name ext : String} {before : List String}
    (h : lastSteps path = name :: before) (hname : name ≠ "..") (hext : '/' ∉ ext.toList) :
    steps (withExtension path ext) = before.reverse ++ [renamed name ext] := by
  obtain ⟨-, idle, hsteps, -⟩ := steps_of_lastSteps h
  have hpath : withExtension path ext =
      String.join (before.reverse.map (· ++ "/")) ++ renamed name ext := by
    simp [withExtension, h, hname, renamed, String.append_assoc]
  have hplain : ∀ s ∈ before.reverse ++ name :: idle, '/' ∉ s.toList := by
    rw [← hsteps]
    exact fun s hs => not_mem_of_mem_steps hs
  have hlast : '/' ∉ (renamed name ext).toList := by
    have hstem : '/' ∉ stem name.toList := fun hmem => hplain name (by simp) (mem_of_mem_stem hmem)
    rw [toList_renamed]
    simp [hstem, hext]
  rw [hpath]
  exact steps_joined (fun s hs => hplain s (List.mem_append_left _ hs)) hlast

end WindowKeeper.Path
