import FormatterConfig.Proofs.Discovery.Search
import FormatterConfig.Proofs.File.Path

set_option autoImplicit false

/-! # The chain of directories

Where a search looks depends on the normal form of its start alone, and on whether that is a
directory. It climbs from there to the root, and looks in the user's directory last. So searches
cohere: one that starts in a directory on the way of another looks where that one goes on looking,
and ends as that one does if nothing was found below. All this is about a start that can be asked
about; otherwise there is no search at all. -/

namespace FormatterConfig

/-- The normal form of a path's text, component by component: from the root, or from the working
directory, if there is one. -/
def Environment.lexicalForm? (env : Environment) (s : String) : Option Path :=
  if s.toList.head? = some '/' then
    some ⟨Path.rootSlashes s.toList, (Path.pieces s).foldl Path.enter []⟩
  else
    env.workingDirectory.map fun directory =>
      ⟨directory.slashes, (Path.pieces s).foldl Path.enter directory.parts⟩

namespace Environment

variable {env : Environment} {p q : Path}

theorem absolute_eq_ok :
    env.absolute p = .ok q ↔
      (∃ directory, env.workingDirectory = some directory ∧ p.absolute directory = q) ∨
        env.workingDirectory = none ∧ p.isAbsolute = true ∧ p.normalize = q := by
  unfold absolute
  cases env.workingDirectory with
  | some directory => simp
  | none => cases p.isAbsolute <;> simp

/-- The absolute form of a path leads from a root and nowhere up. -/
theorem canonical_absolute (henv : ∀ d ∈ env.workingDirectory, d.Canonical)
    (h : env.absolute p = .ok q) : q.Canonical := by
  rcases absolute_eq_ok.1 h with ⟨directory, hdirectory, rfl⟩ | ⟨-, hp, rfl⟩
  · exact Path.canonical_normalize (Path.isAbsolute_join (henv directory hdirectory).absolute)
  · exact Path.canonical_normalize hp

/-- Such a path stands for itself in any surroundings. -/
theorem absolute_of_canonical (env : Environment) (hp : p.Canonical) : env.absolute p = .ok p := by
  rw [absolute_eq_ok]
  cases env.workingDirectory with
  | some directory =>
    refine .inl ⟨directory, rfl, ?_⟩
    rw [Path.absolute, Path.join, if_pos hp.absolute, hp.normalize_eq]
  | none => exact .inr ⟨rfl, hp.absolute, hp.normalize_eq⟩

/-- The absolute form of a text is what its components lead to, one after the other. -/
theorem absolute_ofText (henv : ∀ d ∈ env.workingDirectory, d.Canonical) (s : String) :
    env.absolute (.ofText s) =
      (env.lexicalForm? s).elim (.error (.path ⟨.notFound, []⟩)) .ok := by
  unfold absolute lexicalForm?
  by_cases hroot : s.toList.head? = some '/'
  · have habsolute := Path.isAbsolute_ofText.2 hroot
    rw [if_pos hroot, Option.elim_some, ← Path.normalize_ofText hroot]
    cases env.workingDirectory with
    | some directory =>
      show Except.ok (directory.join (.ofText s)).normalize = _
      rw [Path.join, if_pos habsolute]
    | none => exact if_pos habsolute
  · rw [if_neg hroot]
    cases hdirectory : env.workingDirectory with
    | some directory =>
      exact congrArg _ ((henv directory hdirectory).normalize_join_ofText hroot)
    | none => exact if_neg fun habsolute => hroot (Path.isAbsolute_ofText.1 habsolute)

end Environment

namespace Discovery

variable {env : Environment} {fs : FileSystem} {start p d last : Path}

/-! ## Where a search looks -/

theorem searchDirectories_eq {isDirectory : Bool} (hstart : env.absolute start = .ok p)
    (hp : fs.isDirectory p = .ok isDirectory) (hlast : env.userDirectory = .ok last) :
    searchDirectories env fs start =
      .ok ((if isDirectory then p else p.parent).upward ++ [last]) := by
  unfold searchDirectories anchor
  rw [hstart, ok_bind, ask_eq_ok.2 hp, ok_bind, hlast]
  rfl

theorem searchDirectories_eq_error {fault : PathFault} (hstart : env.absolute start = .ok p)
    (hp : fs.isDirectory p = .error fault) :
    searchDirectories env fs start = .error (.path (fault.of p)) := by
  unfold searchDirectories anchor
  rw [hstart, ok_bind, ask_eq_error.2 ⟨fault, hp, rfl⟩, error_bind, error_bind]

theorem searchDirectories_congr_start {start' : Path}
    (h : env.absolute start = env.absolute start') :
    searchDirectories env fs start = searchDirectories env fs start' := by
  unfold searchDirectories anchor
  rw [h]

/-- A search that starts in a directory climbs from there. -/
theorem searchDirectories_of_canonical (hd : d.Canonical) (hdirectory : fs.isDirectory d = .ok true)
    (hlast : env.userDirectory = .ok last) :
    searchDirectories env fs d = .ok (d.upward ++ [last]) := by
  rw [searchDirectories_eq (env.absolute_of_canonical hd) hdirectory hlast, if_pos rfl]

/-- Directories without a file in them do not matter for what a search finds. -/
theorem find?_of_suffix {before directories : List Path}
    (hstart : searchDirectories env fs start = .ok (before ++ directories))
    (hd : searchDirectories env fs d = .ok directories)
    (hbefore : ∀ e ∈ before, fs.isFile (candidate e) = .ok false) :
    (find? env fs start).outcome = (find? env fs d).outcome := by
  rw [outcome_find?, outcome_find?, hstart, hd, ok_bind, ok_bind, List.map_append,
    outcome_firstFile_append (List.forall_mem_map.2 hbefore)]

/-- Where a search looks. From a start that can be asked about, it climbs from the start's normal
form, or from the directory that holds that, to the root, and comes last to the user's directory. A
search from a directory on the way looks where this one goes on looking, and finds what this one
finds if there is no file before. A start that cannot be asked about is not searched for. The normal
form of a text is where its components lead, and texts of one normal form are searched for alike. -/
theorem search_climbs (henv : ∀ d ∈ env.workingDirectory, d.Canonical)
    (hlast : env.userDirectory = .ok last) :
    (∀ start p isDirectory, env.absolute start = .ok p → fs.isDirectory p = .ok isDirectory →
      ∃ chain, searchDirectories env fs start = .ok (chain ++ [last]) ∧
        Path.IsClimb (if isDirectory then p else p.parent) chain ∧
        ∀ before d after, chain = before ++ d :: after → fs.isDirectory d = .ok true →
          searchDirectories env fs d = .ok (d :: after ++ [last]) ∧
          ((∀ e ∈ before, fs.isFile (candidate e) = .ok false) →
            (find? env fs start).outcome = (find? env fs d).outcome)) ∧
    (∀ start p fault, env.absolute start = .ok p → fs.isDirectory p = .error fault →
      searchDirectories env fs start = .error (.path (fault.of p))) ∧
    (∀ s, env.absolute (.ofText s) =
      (env.lexicalForm? s).elim (.error (.path ⟨.notFound, []⟩)) .ok) ∧
    ∀ s s', env.lexicalForm? s = env.lexicalForm? s' →
      searchDirectories env fs (.ofText s) = searchDirectories env fs (.ofText s') := by
  refine ⟨?_, fun start p fault => searchDirectories_eq_error, env.absolute_ofText henv, ?_⟩
  · intro start p isDirectory hstart hp
    have hsearch := searchDirectories_eq hstart hp hlast
    have hcanonical : (if isDirectory then p else p.parent).Canonical := by
      have hnormal := env.canonical_absolute henv hstart
      cases isDirectory with
      | true => exact hnormal
      | false => exact hnormal.parent
    generalize (if isDirectory then p else p.parent) = first at hsearch hcanonical ⊢
    refine ⟨first.upward, hsearch, first.isClimb_upward, ?_⟩
    intro before d after hsplit hdirectory
    have hd : d.Canonical := hcanonical.of_mem_upward (by simp [hsplit])
    have hfrom := searchDirectories_of_canonical hd hdirectory hlast
    rw [Path.upward_of_split hsplit] at hfrom
    refine ⟨hfrom, find?_of_suffix ?_ hfrom⟩
    rw [hsearch, hsplit, List.append_assoc]
  · intro s s' h
    refine searchDirectories_congr_start ?_
    rw [env.absolute_ofText henv, env.absolute_ofText henv, h]

/-- From a file whose path is spelled in two ways. What is named like a configuration file beside it
is a directory, so a search from the directory above ends alike. -/
theorem search_climbs_respelled :
    let fs := (nestedTree []).fileSystem none
    let env := workingIn ⟨1, ["w"]⟩
    let directories : List Path := [⟨1, ["w"]⟩, ⟨1, []⟩, ⟨1, ["root", ".config"]⟩]
    searchDirectories env fs (.ofText "a//./M.hs") = .ok (⟨1, ["w", "a"]⟩ :: directories) ∧
      searchDirectories env fs (.ofText "../w/a/b/../M.hs") =
        .ok (⟨1, ["w", "a"]⟩ :: directories) ∧
      searchDirectories env fs ⟨1, ["w"]⟩ = .ok directories ∧
      (find? env fs (.ofText "a//./M.hs")).outcome = (find? env fs ⟨1, ["w"]⟩).outcome := by
  intro fs env directories
  have henv : ∀ d ∈ env.workingDirectory, d.Canonical := by
    rintro d ⟨⟩
    exact ⟨rfl, by decide⟩
  have hlast : env.userDirectory = .ok ⟨1, ["root", ".config"]⟩ := by decide
  obtain ⟨hclimbs, -, -, hspelled⟩ := @search_climbs env fs _ henv hlast
  obtain ⟨hsource, hpassed, -⟩ := answers_nestedTree []
  have hstart : env.absolute (.ofText "a//./M.hs") = .ok ⟨1, ["w", "a", "M.hs"]⟩ := by
    decide +kernel
  have hsearch : searchDirectories env fs (.ofText "a//./M.hs") =
      .ok ([⟨1, ["w", "a"]⟩, ⟨1, ["w"]⟩, ⟨1, []⟩] ++ [⟨1, ["root", ".config"]⟩]) :=
    searchDirectories_of_file hstart hsource.isDirectory hlast
  obtain ⟨chain, hchain, -, hcoheres⟩ := hclimbs _ _ _ hstart hsource.isDirectory
  obtain rfl : chain = [⟨1, ["w", "a"]⟩, ⟨1, ["w"]⟩, ⟨1, []⟩] :=
    List.append_cancel_right (Except.ok.inj (hchain.symm.trans hsearch))
  have hdirectory : (nestedTree []).isDirectory none ⟨1, ["w"]⟩ = .ok true :=
    Tree.isDirectory_of_isStraight (by decide) (by decide) rfl
  obtain ⟨hsuffix, hfind⟩ := hcoheres [⟨1, ["w", "a"]⟩] ⟨1, ["w"]⟩ [⟨1, []⟩] rfl hdirectory
  have hbefore : ∀ e ∈ [(⟨1, ["w", "a"]⟩ : Path)], fs.isFile (candidate e) = .ok false :=
    List.forall_mem_singleton.2 (Tree.isFile_of_isDirectory hpassed)
  have hsame := hspelled "../w/a/b/../M.hs" "a//./M.hs" (by decide +kernel)
  exact ⟨hsearch, hsame.trans hsearch, hsuffix, hfind hbefore⟩

theorem toList_longName : longName.toList = List.replicate 256 'n' := String.toList_ofList

theorem eq_of_mem_longName {c : Char} (h : c ∈ longName.toList) : c = 'n' := by
  rw [toList_longName] at h
  exact List.eq_of_mem_replicate h

theorem isAsked_longName : Tree.isAsked ⟨1, ["w", longName]⟩ = true := by
  have hsize : longName.utf8ByteSize = 256 := by decide +kernel
  have htext : (Path.mk 1 ["w", longName]).text = "/" ++ ("w" ++ "/" ++ longName) := rfl
  have hshort : Tree.isLongPath (Path.mk 1 ["w", longName]).text = false := by
    rw [htext, Tree.isLongPath, decide_eq_false_iff_not, String.utf8ByteSize_append,
      String.utf8ByteSize_append, hsize]
    decide
  have hnull : (Path.mk 1 ["w", longName]).holdsNull = false := by
    have hlong : longName.toList.contains '\x00' = false :=
      Bool.eq_false_iff.2 fun h =>
        absurd (eq_of_mem_longName (List.contains_iff_mem.1 h)) (by decide)
    rw [Path.holdsNull, List.any_cons, List.any_cons, hlong]
    decide
  rw [Tree.isAsked, hshort, hnull]
  decide

/-- A start with a name that is too long has no directory to start in: whether it is one itself has
no answer, although the directory that would hold it is there. -/
theorem search_breaks_off_at_long_start :
    let fs := (nestedTree []).fileSystem none
    let env := workingIn ⟨1, ["w"]⟩
    let start : Path := ⟨1, ["w", longName]⟩
    env.userDirectory = .ok ⟨1, ["root", ".config"]⟩ ∧ env.absolute start = .ok start ∧
      fs.isDirectory start.parent = .ok true ∧
      searchDirectories env fs start = .error (.path (PathFault.nameTooLong.of start)) ∧
      ¬∃ chain, searchDirectories env fs start = .ok (chain ++ [⟨1, ["root", ".config"]⟩]) := by
  intro fs env start
  have hlong : Tree.isLongName longName = true := by decide +kernel
  have hwalk : (nestedTree []).walk Tree.linkLimit [] ["w", longName] = .error .nameTooLong := by
    have hstraight : (nestedTree []).walk Tree.linkLimit [] (["w"] ++ [longName]) =
        (nestedTree []).walk Tree.linkLimit ([] ++ ["w"]) [longName] :=
      Tree.walk_append_of_isStraight (by decide)
    exact hstraight.trans (Tree.walk_cons_of_isLongName rfl hlong)
  have hunanswered : (nestedTree []).isDirectory none start = .error .nameTooLong :=
    Tree.isDirectory_of_walk_eq_error isAsked_longName hwalk rfl
  have hfileSystem : fs.isDirectory = (nestedTree []).isDirectory none := rfl
  rw [← hfileSystem] at hunanswered
  have hparent : (nestedTree []).isDirectory none start.parent = .ok true :=
    Tree.isDirectory_of_isStraight (by decide) (by decide) rfl
  have hcanonical : start.Canonical := by
    refine ⟨rfl, fun hmem => ?_⟩
    have hup : ".." = longName := by simpa [start] using hmem
    rw [← hup] at hlong
    exact absurd hlong (by decide)
  have hstart := env.absolute_of_canonical hcanonical
  have hsearch : searchDirectories env fs start =
      .error (.path (PathFault.nameTooLong.of start)) :=
    searchDirectories_eq_error hstart hunanswered
  have hnone : ¬∃ chain, searchDirectories env fs start =
      .ok (chain ++ [⟨1, ["root", ".config"]⟩]) := by
    rw [hsearch]
    rintro ⟨chain, ⟨⟩⟩
  exact ⟨by decide, hstart, hparent, hsearch, hnone⟩

end Discovery

end FormatterConfig
