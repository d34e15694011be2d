import WindowKeeper.Config
import WindowKeeper.Icon.Logo
import WindowKeeper.Proofs.Files.Located
import WindowKeeper.Proofs.Files.Replaced
import WindowKeeper.Settings.File

namespace WindowKeeper

namespace Path

/-- A slash cuts the pieces of a text in two. -/
theorem pieces_slash (cs ds : List Char) : pieces (cs ++ '/' :: ds) = pieces cs ++ pieces ds := by
  induction cs using pieces.induct with
  | case1 => simp [pieces]
  | case2 cs ih => simp [pieces, ih]
  | case3 c cs hc p ps hp ih => simp [pieces, hp, ih]
  | case4 c cs hc hp ih => exact absurd hp (pieces_ne_nil cs)

theorem steps_slash {path name : String} (cs : List Char) (hname : '/' ∉ name.toList)
    (hpath : path.toList = cs ++ '/' :: name.toList) : ∃ before, steps path = before ++ [name] := by
  refine ⟨(pieces cs).map String.ofList, ?_⟩
  rw [steps, hpath, pieces_slash, pieces_of_not_mem hname, List.map_append, List.map_singleton,
    String.ofList_toList]

/-- A path to a name in a directory ends with the name. -/
theorem steps_join (dir : String) {name : String} (hname : '/' ∉ name.toList) :
    ∃ before, steps (join dir name) = before ++ [name] := by
  unfold join
  split
  · rename_i hhead
    exact absurd (List.mem_of_head? hhead) hname
  · split
    · rename_i hdir
      rcases hdir with rfl | hdir
      · refine ⟨[], ?_⟩
        simp [steps, pieces_of_not_mem hname]
      · obtain ⟨cs, hcs⟩ := List.getLast?_eq_some_iff.mp hdir
        exact steps_slash cs hname (by simp [hcs])
    · exact steps_slash dir.toList hname (by simp)

theorem lastSteps_of_steps {path name : String} {before : List String} (hname : ¬ Idle name)
    (h : steps path = before ++ [name]) : lastSteps path = name :: before.reverse := by
  have hreversed : (steps path).reverse = name :: before.reverse := by simp [h]
  rw [lastSteps, hreversed, List.dropWhile_cons_of_neg]
  simpa [Idle] using hname

/-- What ends in another letter than a dot is a name. -/
theorem name_of_getLast? {name : String} {c : Char} (h : name.toList.getLast? = some c)
    (hc : c ≠ '.') : ¬ Idle name ∧ name ≠ ".." := by
  have hne {other : String} (hother : other.toList.getLast? ≠ some c) : name ≠ other := by
    rintro rfl
    exact hother h
  have hdot : some '.' ≠ some c := fun heq => hc (Option.some.inj heq).symm
  exact ⟨not_or.mpr ⟨hne (by simp), hne hdot⟩, hne hdot⟩

end Path

/-- Where the icon of a configuration is looked for. -/
inductive Config.IsPicture (c : Config) : String → Prop
  | own : c.IsPicture (Logo.ownPath c.workingDir)
  | logo (id : Int) : c.IsPicture (Logo.path c.assetsDir id)

namespace Tree

variable {c : Config} {t u v : Tree} {path picture name : String} {k : Location}

/-- The location of a path ends with the name at the end of the path. -/
theorem getLast?_locate {before : List String} {ch : Char} (hname : name.toList.getLast? = some ch)
    (hch : ch ≠ '.') (hsteps : Path.steps path = before ++ [name]) (h : t.locate path = some k) :
    k.getLast? = some name := by
  obtain ⟨hidle, hup⟩ := Path.name_of_getLast? hname hch
  obtain ⟨d, -, -, -, rfl⟩ := locate_eq_some (Path.lastSteps_of_steps hidle hsteps) h
  rw [advance_name hidle hup, List.getLast?_concat]

/-- Pictures have names that end in `g`. -/
theorem getLast?_picture (hpicture : c.IsPicture picture) (h : t.locate picture = some k) :
    ∃ name, k.getLast? = some name ∧ name.toList.getLast? = some 'g' := by
  have hnamed {dir name : String} (hslash : '/' ∉ name.toList)
      (hend : name.toList.getLast? = some 'g') (h : t.locate (Path.join dir name) = some k) :
      ∃ name, k.getLast? = some name ∧ name.toList.getLast? = some 'g' := by
    obtain ⟨before, hsteps⟩ := Path.steps_join dir hslash
    exact ⟨name, getLast?_locate hend (by decide) hsteps h, hend⟩
  cases hpicture with
  | own => exact hnamed (by decide) (by decide) h
  | logo id =>
    have hsuffix : '/' ∉ (Logo.suffix id).toList := by
      unfold Logo.suffix
      split_ifs <;> decide
    refine hnamed ?_ ?_ h
    · simp [hsuffix]
    · rw [String.toList_append, List.getLast?_append]
      rfl

/-- The temporary file of settings has a name that ends in `p`. -/
theorem getLast?_temporaryPath {before : List String} (hlast : Path.lastSteps path = name :: before)
    (hup : name ≠ "..") (h : t.locate (Settings.temporaryPath path) = some k) :
    ∃ name, k.getLast? = some name ∧ name.toList.getLast? = some 'p' := by
  have hslash : '/' ∉ "json.tmp".toList := by decide
  have hsteps := Path.steps_withExtension hlast hup hslash
  have hend : (Path.renamed name "json.tmp").toList.getLast? = some 'p' := by
    rw [Path.toList_renamed, List.getLast?_append]
    rfl
  exact ⟨_, getLast?_locate hend (by decide) hsteps h, hend⟩

/-- Whether two trees make the same icons for a configuration. -/
def SameIcons (c : Config) (t u : Tree) : Prop :=
  ∀ id mode, Icon.create u c.workingDir c.assetsDir id mode =
    Icon.create t c.workingDir c.assetsDir id mode

theorem sameIcons_of_find?
    (h : ∀ picture, c.IsPicture picture → u.find? picture = t.find? picture) :
    t.SameIcons c u := by
  have hload {picture : String} (hpicture : c.IsPicture picture) :
      u.loadPicture picture = t.loadPicture picture := by
    simp only [loadPicture, h picture hpicture]
  have hfile : u.isFile (Logo.ownPath c.workingDir) = t.isFile (Logo.ownPath c.workingDir) := by
    simp only [isFile, h _ .own]
  intro id mode
  simp only [Icon.create, Icon.baseImage, hfile]
  cases t.isFile (Logo.ownPath c.workingDir) with
  | true => simp only [if_true, hload .own]
  | false => simp only [Bool.false_eq_true, if_false, hload (.logo id)]

/-- Whether a path leads to no picture for the icon. -/
def PictureFree (c : Config) (path : String) (t : Tree) : Prop :=
  ∀ picture, c.IsPicture picture → ∀ k, t.locate picture = some k → t.locate path ≠ some k

/-- The usual settings file is none of the pictures. -/
theorem pictureFree_settingsPath (c : Config) (t : Tree) : t.PictureFree c c.settingsPath := by
  intro picture hpicture k hk hsettings
  have hslash : '/' ∉ "settings.json".toList := by decide
  have hlast : "settings.json".toList.getLast? = some 'n' := rfl
  obtain ⟨before, hsteps⟩ := Path.steps_join c.workingDir hslash
  have hname := getLast?_locate hlast (by decide) hsteps hsettings
  obtain ⟨name, hpictureName, hend⟩ := getLast?_picture hpicture hk
  cases hname.symm.trans hpictureName
  exact absurd hend (by decide)

/-- The temporary file is never one of the pictures. -/
theorem PictureFree.temporaryPath (h : t.PictureFree c path) :
    t.PictureFree c (Settings.temporaryPath path) := by
  intro picture hpicture k hk htemporary
  have hname {name : String} {before : List String}
      (hlast : Path.lastSteps path = name :: before) (hup : name ≠ "..") : False := by
    obtain ⟨n, hn, hend⟩ := getLast?_temporaryPath hlast hup htemporary
    obtain ⟨n', hn', hend'⟩ := getLast?_picture hpicture hk
    cases hn.symm.trans hn'
    cases hend.symm.trans hend'
  -- without a name at its end the path has no other extension
  have hleft (hsame : Settings.temporaryPath path = path) : False :=
    h picture hpicture k hk (hsame ▸ htemporary)
  cases hlast : Path.lastSteps path with
  | nil => exact hleft (by simp [Settings.temporaryPath, Path.withExtension, hlast])
  | cons name before =>
    by_cases hup : name = ".."
    · exact hleft (by simp [Settings.temporaryPath, Path.withExtension, hlast, hup])
    · exact hname hlast hup

theorem sameIcons_of_sameBut (hpath : t.PictureFree c path)
    (h : SameBut [path, Settings.temporaryPath path] t u) : t.SameIcons c u := by
  apply sameIcons_of_find?
  intro picture hpicture
  unfold find?
  rw [h.locate]
  cases hk : t.locate picture with
  | none => rfl
  | some k =>
    refine h.at? k fun p hp => ?_
    simp only [List.mem_cons, List.not_mem_nil, or_false] at hp
    rcases hp with rfl | rfl
    · exact hpath picture hpicture k hk
    · exact hpath.temporaryPath picture hpicture k hk

end Tree

end WindowKeeper
