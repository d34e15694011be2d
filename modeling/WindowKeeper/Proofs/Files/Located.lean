import WindowKeeper.Files.Tree
import WindowKeeper.Proofs.Files.Steps

namespace WindowKeeper.Tree

open WindowKeeper.Path (Idle)

variable {t : Tree}

theorem isDirectory_of_standing {k : Location} (h : isStanding k) : t.isDirectory k := by
  simp [isDirectory, at?, h]

theorem walk_append (ss rest : List String) (k : Location) :
    t.walk (ss ++ rest) k = (t.walk ss k).bind (t.walk rest) := by
  induction ss generalizing k with
  | nil => rfl
  | cons s ss ih =>
    rw [List.cons_append, walk, walk]
    split
    · exact ih _
    · rfl

theorem advance_idle {s : String} (h : Idle s) (k : Location) : advance k s = k := by
  unfold Idle at h
  rw [advance, if_pos h]

theorem advance_name {s : String} (hidle : ¬ Idle s) (hup : s ≠ "..") (k : Location) :
    advance k s = k ++ [s] := by
  unfold Idle at hidle
  rw [advance, if_neg hidle, if_neg hup]

/-- Idle steps end where they begin, and only at a directory can there be any. -/
theorem walk_idle {ss : List String} (hss : ∀ s ∈ ss, Idle s) {k l : Location}
    (h : t.walk ss k = some l) : l = k ∧ (ss = [] ∨ t.isDirectory k) := by
  induction ss with
  | nil =>
    cases h
    exact ⟨rfl, .inl rfl⟩
  | cons s ss ih =>
    rw [walk, advance_idle (hss s List.mem_cons_self)] at h
    split at h
    · rename_i hdir
      exact ⟨(ih (fun s hs => hss s (List.mem_cons_of_mem _ hs)) h).1, .inr hdir⟩
    · cases h

/-- Where the walk along some steps begins. -/
def origin (ss : List String) : Location := if ss.head? = some "" then ["/"] else []

theorem isStanding_origin (ss : List String) : isStanding (origin ss) := by
  unfold origin
  split <;> rfl

theorem locate_eq_walk {path : String} (h : path ≠ "") :
    t.locate path = t.walk (Path.steps path) (origin (Path.steps path)) := by
  rw [locate, if_neg h]
  split
  · rename_i rest hsteps
    rw [hsteps, walk]
    rfl
  · rename_i hsteps
    have horigin : origin (Path.steps path) = [] := by
      rw [origin, if_neg]
      intro hhead
      obtain ⟨rest, hrest⟩ := List.head?_eq_some_iff.mp hhead
      exact hsteps rest hrest
    rw [horigin]

theorem origin_append {a b : String} (ha : ¬ Idle a) (hb : ¬ Idle b) (ss xs ys : List String) :
    origin (ss ++ a :: xs) = origin (ss ++ b :: ys) := by
  cases ss with
  | nil =>
    simp only [Idle, not_or] at ha hb
    simp [origin, ha.1, hb.1]
  | cons s ss => rfl

theorem isStanding_above {j k : Location} (hj : j <+: k) (h : isStanding k) :
    isStanding j := by
  simp only [isStanding, Bool.or_eq_true, decide_eq_true_eq, List.all_eq_true] at h ⊢
  rcases h with rfl | h
  · rcases List.prefix_cons_iff.mp hj with rfl | ⟨rest, rfl, hrest⟩
    · exact .inr (by simp)
    · rw [List.prefix_nil.mp hrest]
      exact .inl rfl
  · exact .inr fun s hs => h s (hj.subset hs)

/-- Every location on the way to `k` is a directory. -/
def Grounded (t : Tree) (k : Location) : Prop := ∀ j, j <+: k → j ≠ k → t.isDirectory j

theorem grounded_of_standing {k : Location} (h : isStanding k) : t.Grounded k :=
  fun _ hj _ => isDirectory_of_standing (isStanding_above hj h)

/-- A step up ends at a standing place, or one step less deep. -/
theorem advance_up (k : Location) :
    isStanding (advance k "..") ∨ advance k ".." = k.dropLast ∧ k.dropLast.length < k.length := by
  have hidle : ¬ (".." = "" ∨ ".." = ".") := by decide
  rw [advance, if_neg hidle, if_pos rfl]
  split
  · rename_i hroot
    rw [hroot]
    exact .inl rfl
  · split
    · rename_i hall
      exact .inl (by simp [isStanding, hall])
    · rename_i hall
      have hne : k ≠ [] := by
        rintro rfl
        exact hall rfl
      have hpos := List.length_pos_iff.mpr hne
      refine .inr ⟨rfl, ?_⟩
      rw [List.length_dropLast]
      omega

theorem grounded_advance {k : Location} (hk : t.Grounded k) (hdir : t.isDirectory k) (s : String) :
    t.Grounded (advance k s) := by
  by_cases hidle : Idle s
  · rwa [advance_idle hidle]
  by_cases hup : s = ".."
  · subst hup
    rcases advance_up k with hstanding | ⟨hlast, hlength⟩
    · exact grounded_of_standing hstanding
    · rw [hlast]
      intro j hj hjne
      refine hk j (hj.trans (List.dropLast_prefix k)) ?_
      rintro rfl
      exact Nat.not_lt.mpr hj.length_le hlength
  · rw [advance_name hidle hup]
    intro j hj hjne
    rcases List.prefix_concat_iff.mp hj with rfl | hj
    · exact absurd rfl hjne
    · by_cases hjk : j = k
      · rwa [hjk]
      · exact hk j hj hjk

theorem grounded_walk {ss : List String} {k l : Location} (hk : t.Grounded k)
    (h : t.walk ss k = some l) : t.Grounded l := by
  induction ss generalizing k with
  | nil =>
    cases h
    exact hk
  | cons s ss ih =>
    rw [walk] at h
    split at h
    · rename_i hdir
      exact ih (grounded_advance hk hdir s) h
    · cases h

/-- A step up leads to a directory. -/
theorem isDirectory_up {k : Location} (hk : t.Grounded k) : t.isDirectory (advance k "..") := by
  rcases advance_up k with hstanding | ⟨hlast, hlength⟩
  · exact isDirectory_of_standing hstanding
  · rw [hlast]
    refine hk _ (List.dropLast_prefix k) fun heq => ?_
    rw [heq] at hlength
    exact Nat.lt_irrefl _ hlength

/-- The last step of a path that is not idle is taken from a directory. -/
theorem locate_eq_some {path name : String} {before : List String} {k : Location}
    (hlast : Path.lastSteps path = name :: before) (h : t.locate path = some k) :
    ∃ d, t.walk before.reverse (origin (Path.steps path)) = some d ∧ t.isDirectory d ∧
      t.Grounded d ∧ k = advance d name := by
  obtain ⟨-, idle, hsteps, hidle⟩ := Path.steps_of_lastSteps hlast
  have hpath : path ≠ "" := by
    rintro rfl
    cases hlast
  rw [locate_eq_walk hpath] at h
  have hstanding := isStanding_origin (Path.steps path)
  generalize origin (Path.steps path) = o at h hstanding ⊢
  rw [hsteps, walk_append, Option.bind_eq_some_iff] at h
  obtain ⟨d, hd, h⟩ := h
  rw [walk] at h
  split at h
  · rename_i hdir
    exact ⟨d, hd, hdir, grounded_walk (grounded_of_standing hstanding) hd, (walk_idle hidle h).1⟩
  · cases h

/-- A path that leads to no directory ends in a name. -/
theorem name_of_file {path : String} {k : Location} (h : t.locate path = some k)
    (hfile : t.isDirectory k = false) :
    ∃ name before, Path.lastSteps path = name :: before ∧ name ≠ ".." := by
  cases hlast : Path.lastSteps path with
  | nil =>
    have hpath : path ≠ "" := by
      rintro rfl
      cases h
    rw [locate_eq_walk hpath] at h
    rw [(walk_idle (Path.idle_of_lastSteps hlast) h).1,
      isDirectory_of_standing (isStanding_origin _)] at hfile
    cases hfile
  | cons name before =>
    refine ⟨name, before, rfl, ?_⟩
    rintro rfl
    obtain ⟨d, -, hdir, hground, rfl⟩ := locate_eq_some hlast h
    rw [isDirectory_up hground] at hfile
    cases hfile

/-- A path that ends in its name leads into its directory. -/
theorem locate_of_parent {path name : String} (h : Path.name? path = some name)
    (hslash : path.toList.getLast? ≠ some '/') (hdot : (Path.steps path).getLast? ≠ some ".")
    (hparent : t.find? (Path.parent path) = some .directory) :
    ∃ d, t.locate path = some (d ++ [name]) := by
  obtain ⟨hidle, hup, hsteps⟩ := Path.steps_of_name? h hslash hdot
  have hpath : path ≠ "" := by
    rintro rfl
    cases h
  have hplain : ∀ s ∈ (Path.lastSteps path).tail.reverse, '/' ∉ s.toList := fun s hs =>
    Path.not_mem_of_mem_steps (hsteps ▸ List.mem_append_left _ hs)
  -- the walk to the directory is the first part of the walk to the name
  have hinto {o d : Location}
      (hd : t.walk (Path.lastSteps path).tail.reverse o = some d) (hdir : t.isDirectory d) :
      t.walk ((Path.lastSteps path).tail.reverse ++ [name]) o = some (d ++ [name]) := by
    rw [walk_append, hd, Option.bind_some, walk, if_pos hdir, advance_name hidle hup]
    rfl
  rw [find?, Option.bind_eq_some_iff] at hparent
  obtain ⟨d, hd, -⟩ := hparent
  rw [locate_eq_walk hpath, hsteps]
  unfold Path.parent at hd
  generalize (Path.lastSteps path).tail.reverse = before at hd hplain hinto ⊢
  cases before with
  | nil =>
    refine ⟨[], hinto ?_ (isDirectory_of_standing rfl)⟩
    have horigin := origin_append hidle (b := "x") (by simp [Idle]) [] [] []
    rw [horigin]
    rfl
  | cons s ss =>
    have hsteps' : Path.steps (String.join ((s :: ss).map (· ++ "/"))) = (s :: ss) ++ [""] := by
      have hempty : '/' ∉ "".toList := by simp
      have hjoined := Path.steps_joined hplain hempty
      rwa [String.append_empty] at hjoined
    have hne : String.join ((s :: ss).map (· ++ "/")) ≠ "" := by
      intro hempty
      rw [hempty] at hsteps'
      have hlength := congrArg List.length hsteps'
      simp [Path.steps, Path.pieces] at hlength
    rw [locate_eq_walk hne, hsteps', walk_append, Option.bind_eq_some_iff] at hd
    obtain ⟨e, he, hd⟩ := hd
    rw [walk] at hd
    split at hd
    · rename_i hdir
      exact ⟨e, hinto he hdir⟩
    · cases hd

/-- With another extension a path leads to a place in the same directory. -/
theorem locate_withExtension {path ext : String} {k : Location} (hslash : '/' ∉ ext.toList)
    (hlong : 2 ≤ ext.toList.length) (h : t.locate path = some k)
    (hfile : t.isDirectory k = false) :
    ∃ d name, k = d ++ [name] ∧
      t.locate (Path.withExtension path ext) = some (d ++ [Path.renamed name ext]) := by
  obtain ⟨name, before, hlast, hup⟩ := name_of_file h hfile
  obtain ⟨hname, idle, hsteps, -⟩ := Path.steps_of_lastSteps hlast
  obtain ⟨d, hwalk, hdir, -, rfl⟩ := locate_eq_some hlast h
  have hlength : 3 ≤ (Path.renamed name ext).toList.length := by
    rw [Path.toList_renamed, List.length_append, List.length_cons]
    omega
  have hne {s : String} (hs : s.toList.length < 3) : Path.renamed name ext ≠ s := by
    rintro rfl
    omega
  have hrenamed : ¬ Idle (Path.renamed name ext) := not_or.mpr ⟨hne (by decide), hne (by decide)⟩
  have hrest := Path.steps_withExtension hlast hup hslash
  have hpath : Path.withExtension path ext ≠ "" := by
    intro hempty
    rw [hempty] at hrest
    have hend := congrArg List.getLast? hrest
    rw [List.getLast?_concat] at hend
    exact hrenamed (.inl (Option.some.inj hend).symm)
  refine ⟨d, name, advance_name hname hup d, ?_⟩
  rw [locate_eq_walk hpath, hrest,
    origin_append hrenamed hname _ [] idle, ← hsteps, walk_append, hwalk, Option.bind_some, walk,
    if_pos hdir, advance_name hrenamed (hne (by decide))]
  rfl

end WindowKeeper.Tree
