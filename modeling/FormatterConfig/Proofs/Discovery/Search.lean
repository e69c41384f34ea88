import FormatterConfig.Proofs.Discovery.Load
import FormatterConfig.Proofs.File.Tree

set_option autoImplicit false

/-! # The nearest file

A search ends at the first candidate that is a file, or at the first one that it has no answer
about, whichever comes first. Loading ends the same way and reads what the search finds. Neither
asks for anything behind that candidate, so two file systems that agree up to it, and on what it
holds, are the same to them: nothing that a farther candidate holds matters, even if the nearest
file is invalid. -/

namespace FormatterConfig.Discovery

variable {runtime : Runtime} {env : Environment} {fs fs' : FileSystem} {start : Path}

/-! ## How a search ends -/

/-- The search for a file starts in the directory that holds it. -/
theorem searchDirectories_of_file {p last : Path} (habsolute : env.absolute start = .ok p)
    (hp : fs.isDirectory p = .ok false) (hlast : env.userDirectory = .ok last) :
    searchDirectories env fs start = .ok (p.parent :: p.parent.ancestors ++ [last]) := by
  unfold searchDirectories anchor
  rw [habsolute, ok_bind, ask_eq_ok.2 hp, ok_bind, hlast]
  rfl

/-- How a search ends: in a path, in none, or in what breaks it off. -/
inductive SearchEnding (env : Environment) (fs : FileSystem) (start : Path) :
    Except Breakdown (Option Path) → Prop
  | found {path : Path} (found : Finds env fs start path) :
      SearchEnding env fs start (.ok (some path))
  | nothing {directories : List Path} (known : searchDirectories env fs start = .ok directories)
      (absent : ∀ d ∈ directories, fs.isFile (candidate d) = .ok false) :
      SearchEnding env fs start (.ok none)
  | unknown {breakdown : Breakdown} (unknown : searchDirectories env fs start = .error breakdown) :
      SearchEnding env fs start (.error breakdown)
  | unanswered {path : Path} {fault : PathFault} (reached : Reaches env fs start path)
      (unanswered : fs.isFile path = .error fault) :
      SearchEnding env fs start (.error (.path (fault.of path)))

theorem outcome_find? (env : Environment) (fs : FileSystem) (start : Path) :
    (find? env fs start).outcome =
      searchDirectories env fs start >>= fun directories =>
        (firstFile fs (directories.map candidate)).outcome := by
  rw [find?, Logged.outcome_bind, Logged.outcome_ofExcept]

theorem SearchEnding.outcome_eq {r : Except Breakdown (Option Path)}
    (h : SearchEnding env fs start r) : (find? env fs start).outcome = r := by
  rw [outcome_find?]
  cases h with
  | found found =>
    obtain ⟨⟨directories, before, after, hsearch, hsplit, hbefore⟩, hfile⟩ := found
    rw [hsearch, ok_bind, hsplit, outcome_firstFile_of_isFile hbefore hfile]
  | nothing known absent =>
    rw [known, ok_bind, outcome_firstFile_of_none (List.forall_mem_map.2 absent)]
  | unknown unknown => rw [unknown, error_bind]
  | unanswered reached unanswered =>
    obtain ⟨directories, before, after, hsearch, hsplit, hbefore⟩ := reached
    rw [hsearch, ok_bind, hsplit, outcome_firstFile_of_unanswered hbefore unanswered]

/-- A search ends in one way only. -/
theorem find?_eq_iff {r : Except Breakdown (Option Path)} :
    (find? env fs start).outcome = r ↔ SearchEnding env fs start r := by
  refine ⟨?_, SearchEnding.outcome_eq⟩
  have hsome : ∃ r', SearchEnding env fs start r' := by
    rcases search_cases env fs start with ⟨b, hsearch⟩ | ⟨directories, hsearch, hnone⟩ |
      ⟨path, fault, hreaches, hfault⟩ | ⟨path, hfinds⟩
    · exact ⟨_, .unknown hsearch⟩
    · exact ⟨_, .nothing hsearch hnone⟩
    · exact ⟨_, .unanswered hreaches hfault⟩
    · exact ⟨_, .found hfinds⟩
  obtain ⟨r', hr'⟩ := hsome
  rintro rfl
  rwa [hr'.outcome_eq]

theorem find?_eq_some {path : Path} :
    (find? env fs start).outcome = .ok (some path) ↔ Finds env fs start path := by
  rw [find?_eq_iff]
  constructor
  · intro h
    cases h with
    | found found => exact found
  · exact .found

theorem find?_eq_none :
    (find? env fs start).outcome = .ok none ↔
      ∃ directories, searchDirectories env fs start = .ok directories ∧
        ∀ d ∈ directories, fs.isFile (candidate d) = .ok false := by
  rw [find?_eq_iff]
  constructor
  · intro h
    cases h with
    | nothing known absent => exact ⟨_, known, absent⟩
  · rintro ⟨_, known, absent⟩
    exact .nothing known absent

theorem find?_eq_error {breakdown : Breakdown} :
    (find? env fs start).outcome = .error breakdown ↔
      searchDirectories env fs start = .error breakdown ∨
        ∃ path fault, Reaches env fs start path ∧ fs.isFile path = .error fault ∧
          breakdown = .path (fault.of path) := by
  rw [find?_eq_iff]
  constructor
  · intro h
    cases h with
    | unknown unknown => exact .inl unknown
    | unanswered reached unanswered => exact .inr ⟨_, _, reached, unanswered, rfl⟩
  · rintro (unknown | ⟨path, fault, reached, unanswered, rfl⟩)
    · exact .unknown unknown
    · exact .unanswered reached unanswered

/-! ## The search in loading -/

/-- The file that an outcome is about. -/
def Outcome.path? : Outcome → Option Path
  | .loaded path _ => some path
  | .invalid path _ => some path
  | .notFound _ => none

/-- Loading goes through the candidates as the search does. -/
theorem outcome_load_eq_find? (runtime : Runtime) (env : Environment) (fs : FileSystem)
    (start : Path) :
    (load runtime env fs start).outcome =
      (find? env fs start).outcome >>= fun found =>
        match found with
        | some path => (readFound runtime fs path).outcome
        | none => (searchDirectories env fs start).map .notFound := by
  rw [outcome_load, outcome_find?]
  cases searchDirectories env fs start with
  | error breakdown => rfl
  | ok directories =>
    simp only [ok_bind]
    rfl

theorem path?_of_readFound {path : Path} {o : Outcome}
    (h : (readFound runtime fs path).outcome = .ok o) : o.path? = some path := by
  rw [outcome_readFound] at h
  split at h
  · cases h
    rfl
  · cases h
    rfl
  · cases h

/-- What loading ends in is about what the search finds. -/
theorem find?_of_load {o : Outcome} (h : (load runtime env fs start).outcome = .ok o) :
    (find? env fs start).outcome = .ok o.path? ∧
      ∀ searched, o = .notFound searched → searchDirectories env fs start = .ok searched := by
  rw [outcome_load_eq_find?] at h
  obtain ⟨found, hfind, hrest⟩ := bind_eq_ok.1 h
  cases found with
  | some path =>
    have hpath := path?_of_readFound hrest
    refine ⟨hfind.trans (congrArg _ hpath.symm), ?_⟩
    rintro searched rfl
    exact absurd hpath (by simp [Outcome.path?])
  | none =>
    obtain ⟨directories, hsearch, -⟩ := find?_eq_none.1 hfind
    rw [hsearch] at hrest
    cases hrest
    refine ⟨hfind, ?_⟩
    rintro searched ⟨⟩
    exact hsearch

/-! ## What a search does not see -/

/-- Whether two file systems agree on all that a search asks: whether the start is a directory,
whether each candidate that it comes to is a file, and what the one that it finds holds. -/
structure AgreesUpToHit (env : Environment) (start : Path) (fs fs' : FileSystem) : Prop where
  anchor : ∀ p, env.absolute start = .ok p → fs.isDirectory p = fs'.isDirectory p
  candidates : ∀ p, Reaches env fs start p → fs.isFile p = fs'.isFile p
  content : ∀ p, Finds env fs start p → fs.read p = fs'.read p

theorem searchDirectories_congr
    (h : ∀ p, env.absolute start = .ok p → fs.isDirectory p = fs'.isDirectory p) :
    searchDirectories env fs start = searchDirectories env fs' start := by
  unfold searchDirectories anchor
  cases habsolute : env.absolute start with
  | error breakdown => rfl
  | ok p => simp only [ok_bind, ask, h p habsolute]

/-- What is noted about a candidate depends on the answer about it alone. -/
theorem lookAt_congr {p : Path} (h : fs.isFile p = fs'.isFile p) : lookAt fs p = lookAt fs' p := by
  simp only [lookAt, ask, h]

/-- Only the candidates up to the first that is a file, or has no answer, are asked about. -/
theorem firstFile_congr {candidates : List Path}
    (h : ∀ before p after, candidates = before ++ p :: after →
      (∀ q ∈ before, fs.isFile q = .ok false) → fs.isFile p = fs'.isFile p) :
    firstFile fs candidates = firstFile fs' candidates := by
  induction candidates with
  | nil => rfl
  | cons p rest ih =>
    rw [firstFile, firstFile, ← lookAt_congr (h [] p rest rfl (by simp))]
    refine Logged.bind_congr fun answer hanswer => ?_
    cases answer with
    | true => rfl
    | false =>
      -- the search goes on only behind a candidate that is no file
      have hfalse : fs.isFile p = .ok false := by
        rwa [outcome_lookAt, ask_eq_ok] at hanswer
      refine ih fun before q after hsplit hbefore => ?_
      exact h (p :: before) q after (by rw [hsplit, List.cons_append])
        (List.forall_mem_cons.2 ⟨hfalse, hbefore⟩)

/-- A search that finds a path comes to nothing behind it. -/
theorem mem_of_reaches {directories before after : List Path} {path p : Path}
    (hsearch : searchDirectories env fs start = .ok directories)
    (hsplit : directories.map candidate = before ++ path :: after)
    (hfile : fs.isFile path = .ok true) (hreaches : Reaches env fs start p) :
    p ∈ before ++ [path] := by
  obtain ⟨directories', before', after', hsearch', hsplit', hbefore'⟩ := hreaches
  obtain rfl : directories = directories' := Except.ok.inj (hsearch.symm.trans hsearch')
  rw [hsplit] at hsplit'
  rcases List.append_eq_append_iff.1 hsplit' with ⟨more, rfl, hmore⟩ | ⟨more, rfl, hmore⟩
  · cases more with
    | nil =>
      obtain rfl : path = p := (List.cons.inj hmore).1
      simp
    | cons q more =>
      -- the path itself would have been passed over
      obtain rfl : path = q := (List.cons.inj hmore).1
      have hpassed : fs.isFile path = .ok false := hbefore' path (by simp)
      rw [hfile] at hpassed
      exact absurd hpassed (by simp)
  · cases more with
    | nil =>
      obtain rfl : p = path := (List.cons.inj hmore).1
      simp
    | cons q more =>
      obtain rfl : p = q := (List.cons.inj hmore).1
      simp

/-- To agree, it is enough to agree on the candidates up to the one that is found. -/
theorem AgreesUpToHit.of_split {directories before after : List Path} {path : Path}
    (hsearch : searchDirectories env fs start = .ok directories)
    (hsplit : directories.map candidate = before ++ path :: after)
    (hbefore : ∀ p ∈ before, fs.isFile p = .ok false) (hfile : fs.isFile path = .ok true)
    (hanchor : ∀ p, env.absolute start = .ok p → fs.isDirectory p = fs'.isDirectory p)
    (hcandidates : ∀ p ∈ before ++ [path], fs.isFile p = fs'.isFile p)
    (hcontent : fs.read path = fs'.read path) : AgreesUpToHit env start fs fs' where
  anchor := hanchor
  candidates p hreaches := hcandidates p (mem_of_reaches hsearch hsplit hfile hreaches)
  content p hfinds := by
    have hpath : (find? env fs start).outcome = .ok (some path) :=
      find?_eq_some.2 ⟨⟨directories, before, after, hsearch, hsplit, hbefore⟩, hfile⟩
    rw [find?_eq_some.2 hfinds] at hpath
    obtain rfl : p = path := by simpa using hpath
    exact hcontent

/-- File systems that agree up to the first file are the same to a search, its notes included. -/
theorem find?_congr (h : AgreesUpToHit env start fs fs') :
    find? env fs start = find? env fs' start := by
  rw [find?, find?, ← searchDirectories_congr h.anchor]
  refine Logged.bind_congr fun directories hsearch => firstFile_congr ?_
  intro before p after hsplit hbefore
  exact h.candidates p ⟨directories, before, after, hsearch, hsplit, hbefore⟩

/-- They are the same to loading, which reads nothing but the first file. -/
theorem load_congr (runtime : Runtime) (h : AgreesUpToHit env start fs fs') :
    load runtime env fs start = load runtime env fs' start := by
  rw [load_eq, load_eq, ← searchDirectories_congr h.anchor]
  refine Logged.bind_congr fun directories hsearch => ?_
  rw [Logged.outcome_ofExcept] at hsearch
  have hfirst : firstFile fs (directories.map candidate) =
      firstFile fs' (directories.map candidate) := by
    refine firstFile_congr fun before p after hsplit hbefore => ?_
    exact h.candidates p ⟨directories, before, after, hsearch, hsplit, hbefore⟩
  rw [← hfirst]
  refine Logged.bind_congr fun found hfound => ?_
  cases found with
  | none => rfl
  | some path =>
    have hfind : (find? env fs start).outcome = .ok (some path) := by
      rw [outcome_find?, hsearch, ok_bind, hfound]
    have hread : fs.read path = fs'.read path := h.content path (find?_eq_some.1 hfind)
    show readFound runtime fs path = readFound runtime fs' path
    unfold readFound
    rw [hread]

/-! ## The nearest file -/

/-- The nearest file is taken. A search finds a path exactly if it is the first candidate that is a
file, with those before it answered to be none, as a directory is; it finds nothing exactly if no
candidate is a file; and it breaks off exactly if the directories are not known or it comes to a
candidate without an answer. Loading ends in what is about that path, or in the directories if there
is none, and breaks off with the search. Nothing that the search does not ask for changes either. -/
theorem search_takes_nearest (runtime : Runtime) (env : Environment) (fs : FileSystem)
    (start : Path) :
    (∀ path, (find? env fs start).outcome = .ok (some path) ↔ Finds env fs start path) ∧
      ((find? env fs start).outcome = .ok none ↔
        ∃ directories, searchDirectories env fs start = .ok directories ∧
          ∀ d ∈ directories, fs.isFile (candidate d) = .ok false) ∧
      (∀ breakdown, (find? env fs start).outcome = .error breakdown ↔
        searchDirectories env fs start = .error breakdown ∨
          ∃ path fault, Reaches env fs start path ∧ fs.isFile path = .error fault ∧
            breakdown = .path (fault.of path)) ∧
      (∀ (t : Tree) (workingDirectory : Option Tree.Place) (p : Path),
        t.isDirectory workingDirectory p = .ok true → t.isFile workingDirectory p = .ok false) ∧
      (∀ o, (load runtime env fs start).outcome = .ok o →
        (find? env fs start).outcome = .ok o.path? ∧
          ∀ searched, o = .notFound searched → searchDirectories env fs start = .ok searched) ∧
      ((find? env fs start).outcome = .ok none →
        ∃ directories, searchDirectories env fs start = .ok directories ∧
          (load runtime env fs start).outcome = .ok (.notFound directories)) ∧
      (∀ breakdown, (find? env fs start).outcome = .error breakdown →
        (load runtime env fs start).outcome = .error breakdown) ∧
      ∀ fs', AgreesUpToHit env start fs fs' →
        find? env fs start = find? env fs' start ∧
          load runtime env fs start = load runtime env fs' start := by
  refine ⟨fun path => find?_eq_some, find?_eq_none, fun breakdown => find?_eq_error,
    fun t workingDirectory p => Tree.isFile_of_isDirectory, fun o => find?_of_load, ?_, ?_,
    fun fs' h => ⟨find?_congr h, load_congr runtime h⟩⟩
  · intro hfind
    obtain ⟨directories, hsearch, -⟩ := find?_eq_none.1 hfind
    refine ⟨directories, hsearch, ?_⟩
    rw [outcome_load_eq_find?, hfind, ok_bind, hsearch]
    rfl
  · intro breakdown hfind
    rw [outcome_load_eq_find?, hfind, error_bind]

/-- A source file beside a directory that is named like a configuration file, and below a
configuration file that is no text. More may stand elsewhere. -/
def nestedTree (farther : List (Tree.Place × Tree.Entry)) : Tree where
  entries :=
    [(["w"], .directory), (["w", configFileName], .file [0xff]), (["w", "a"], .directory),
      (["w", "a", configFileName], .directory), (["w", "a", "M.hs"], .file [])] ++ farther

theorem answers_nestedTree (farther : List (Tree.Place × Tree.Entry)) :
    (nestedTree farther).IsFileAt none ⟨1, ["w", "a", "M.hs"]⟩ [] ∧
      (nestedTree farther).isDirectory none ⟨1, ["w", "a", configFileName]⟩ = .ok true ∧
      (nestedTree farther).IsFileAt none ⟨1, ["w", configFileName]⟩ [0xff] :=
  ⟨Tree.isFileAt_of_isStraight (by decide) rfl rfl,
    Tree.isDirectory_of_isStraight (by decide) rfl rfl,
    Tree.isFileAt_of_isStraight (by decide) rfl rfl⟩

/-- The directory is passed over, the invalid file ends the search, and a file farther up makes no
difference. -/
theorem search_takes_nearest_invalid :
    let fs := (nestedTree []).fileSystem none
    let fs' := (nestedTree [([configFileName], .file [])]).fileSystem none
    let env := workingIn ⟨1, ["w"]⟩
    let start : Path := ⟨1, ["w", "a", "M.hs"]⟩
    AgreesUpToHit env start fs fs' ∧
      (nestedTree []).isDirectory none ⟨1, ["w", "a", configFileName]⟩ = .ok true ∧
      (nestedTree []).isFile none ⟨1, ["w", "a", configFileName]⟩ = .ok false ∧
      (find? env fs start).outcome = .ok (some ⟨1, ["w", configFileName]⟩) ∧
      find? env fs start = find? env fs' start ∧
      load (.ample Yaml.decode) env fs start = load (.ample Yaml.decode) env fs' start := by
  intro fs fs' env start
  obtain ⟨hfound, -, -, hskips, -, -, -, hagrees⟩ :=
    search_takes_nearest (.ample Yaml.decode) env fs start
  obtain ⟨hsource, hdirectory, hfile⟩ := answers_nestedTree []
  obtain ⟨hsource', hdirectory', hfile'⟩ := answers_nestedTree [([configFileName], .file [])]
  have hskipped := hskips _ _ _ hdirectory
  have hskipped' := hskips _ _ _ hdirectory'
  have habsolute : env.absolute start = .ok start := by decide
  have hlast : env.userDirectory = .ok ⟨1, ["root", ".config"]⟩ := by decide
  have hsearch : searchDirectories env fs start =
      .ok [⟨1, ["w", "a"]⟩, ⟨1, ["w"]⟩, ⟨1, []⟩, ⟨1, ["root", ".config"]⟩] :=
    searchDirectories_of_file habsolute hsource.isDirectory hlast
  have hsplit : [(⟨1, ["w", "a"]⟩ : Path), ⟨1, ["w"]⟩, ⟨1, []⟩, ⟨1, ["root", ".config"]⟩].map
      candidate = [⟨1, ["w", "a", configFileName]⟩] ++ ⟨1, ["w", configFileName]⟩ ::
        [⟨1, [configFileName]⟩, ⟨1, ["root", ".config", configFileName]⟩] := rfl
  have hbefore : ∀ p ∈ [(⟨1, ["w", "a", configFileName]⟩ : Path)], fs.isFile p = .ok false :=
    List.forall_mem_singleton.2 hskipped
  have hagreement : AgreesUpToHit env start fs fs' := by
    refine .of_split hsearch hsplit hbefore hfile.isFile ?_ ?_ (hfile.read.trans hfile'.read.symm)
    · intro p hp
      obtain rfl : start = p := Except.ok.inj (habsolute.symm.trans hp)
      exact hsource.isDirectory.trans hsource'.isDirectory.symm
    · intro p hp
      rcases List.mem_cons.1 hp with rfl | hp
      · exact hskipped.trans hskipped'.symm
      · obtain rfl := List.mem_singleton.1 hp
        exact hfile.isFile.trans hfile'.isFile.symm
  refine ⟨hagreement, hdirectory, hskipped, ?_, hagrees fs' hagreement⟩
  exact (hfound _).2 ⟨⟨_, _, _, hsearch, hsplit, hbefore⟩, hfile.isFile⟩

/-- A name that no directory can hold. -/
def longName : String := String.ofList (List.replicate 256 'n')

/-- A source file beside a link, named like a configuration file, to a name that is too long, and
below a configuration file. -/
def linkedTree : Tree where
  entries :=
    [(["w"], .directory), (["w", configFileName], .file []), (["w", "a"], .directory),
      (["w", "a", configFileName], .link longName), (["w", "a", "M.hs"], .file [])]

/-- A candidate that is no file is not always passed over: whether a link to a name that is too long
is one has no answer, and the search breaks off before the file above it. -/
theorem search_stops_at_long_link :
    let fs := linkedTree.fileSystem none
    let env := workingIn ⟨1, ["w"]⟩
    let start : Path := ⟨1, ["w", "a", "M.hs"]⟩
    searchDirectories env fs start =
        .ok [⟨1, ["w", "a"]⟩, ⟨1, ["w"]⟩, ⟨1, []⟩, ⟨1, ["root", ".config"]⟩] ∧
      fs.isFile (candidate ⟨1, ["w", "a"]⟩) ≠ .ok true ∧
      fs.isFile (candidate ⟨1, ["w"]⟩) = .ok true ∧
      (find? env fs start).outcome ≠ .ok (some (candidate ⟨1, ["w"]⟩)) ∧
      (find? env fs start).outcome =
        .error (.path (PathFault.nameTooLong.of (candidate ⟨1, ["w", "a"]⟩))) := by
  intro fs env start
  have hsource : linkedTree.IsFileAt none start [] :=
    Tree.isFileAt_of_isStraight (by decide) (by decide) rfl
  have hfile : linkedTree.IsFileAt none (candidate ⟨1, ["w"]⟩) [] :=
    Tree.isFileAt_of_isStraight (by decide) (by decide) rfl
  have hlong : Tree.isLongName longName = true := by decide +kernel
  have hslash : '/' ∉ longName.toList := by
    intro h
    have hmem : '/' ∈ List.replicate 256 'n' := by
      rwa [← String.toList_ofList (l := List.replicate 256 'n')]
    exact absurd (List.eq_of_mem_replicate hmem) (by decide)
  have hwalk : linkedTree.walk Tree.linkLimit [] ["w", "a", configFileName] =
      .error .nameTooLong := by
    have hstraight : linkedTree.walk Tree.linkLimit [] (["w", "a"] ++ [configFileName]) =
        linkedTree.walk Tree.linkLimit ([] ++ ["w", "a"]) [configFileName] :=
      Tree.walk_append_of_isStraight (by decide)
    have hlink : linkedTree.walk (39 + 1) ["w", "a"] [configFileName] = .error .nameTooLong :=
      Tree.walk_cons_of_longLink rfl (by decide) rfl hslash hlong
    exact hstraight.trans hlink
  have hlink : linkedTree.isFile none (candidate ⟨1, ["w", "a"]⟩) = .error .nameTooLong :=
    Tree.isFile_of_walk_eq_error (by decide) hwalk rfl
  have habsolute : env.absolute start = .ok start := by decide
  have hlast : env.userDirectory = .ok ⟨1, ["root", ".config"]⟩ := by decide
  have hsearch : searchDirectories env fs start =
      .ok [⟨1, ["w", "a"]⟩, ⟨1, ["w"]⟩, ⟨1, []⟩, ⟨1, ["root", ".config"]⟩] :=
    searchDirectories_of_file habsolute hsource.isDirectory hlast
  have hfind : (find? env fs start).outcome =
      .error (.path (PathFault.nameTooLong.of (candidate ⟨1, ["w", "a"]⟩))) :=
    find?_eq_error.2 (.inr ⟨_, _, ⟨_, [], _, hsearch, rfl, by simp⟩, hlink, rfl⟩)
  refine ⟨hsearch, ?_, hfile.isFile, ?_, hfind⟩
  · exact fun h => absurd (hlink.symm.trans h) (by simp)
  · simp [hfind]

end FormatterConfig.Discovery
