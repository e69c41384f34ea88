import FormatterConfig.Proofs.ConfigFile.Reading
import FormatterConfig.RunConfig.Load
import FormatterConfig.Yaml.Document

set_option autoImplicit false

/-! # What loading ends in

The search takes the first candidate that is a file, and what is found is read. Loading goes through
the directories itself; it comes to the same file, or to all of the directories. It ends in one of
three ways: the file's contents, an error that names the file, or the directories that were
searched. `Escape` lists all that keeps it from ending so: the directories are not known, a question
about a candidate has no answer, or the found file's path or text breaks its reading off. The last
is the one that a file's author can bring about, with a scalar that does not convert. All this holds
whatever decodes documents, and however far the stack reaches. -/

namespace FormatterConfig.Discovery

open ConfigFile (HasText Breaks decodeMapping ofMapping)

variable {runtime : Runtime} {env : Environment} {fs : FileSystem} {start : Path}

/-! ## The search -/

theorem ask_eq_ok {question : Path → Except PathFault Bool} {p : Path} {answer : Bool} :
    ask question p = .ok answer ↔ question p = .ok answer :=
  mapError_eq_ok

theorem ask_eq_error {question : Path → Except PathFault Bool} {p : Path} {breakdown : Breakdown} :
    ask question p = .error breakdown ↔
      ∃ fault, question p = .error fault ∧ .path (fault.of p) = breakdown :=
  mapError_eq_error

theorem outcome_lookAt (fs : FileSystem) (p : Path) : (lookAt fs p).outcome = ask fs.isFile p := by
  rw [lookAt, Logged.outcome_bind, Logged.outcome_note, ok_bind, Logged.outcome_bind,
    Logged.outcome_ofExcept]
  cases ask fs.isFile p with
  | error breakdown => rfl
  | ok found => cases found <;> rfl

theorem outcome_firstFile_cons (fs : FileSystem) (p : Path) (rest : List Path) :
    (firstFile fs (p :: rest)).outcome =
      ask fs.isFile p >>= fun answer =>
        if answer then .ok (some p) else (firstFile fs rest).outcome := by
  rw [firstFile, Logged.outcome_bind, outcome_lookAt]
  congr 1
  funext answer
  cases answer <;> rfl

/-- Candidates that are no files are passed over. -/
theorem outcome_firstFile_append {before : List Path} (h : ∀ p ∈ before, fs.isFile p = .ok false)
    (rest : List Path) : (firstFile fs (before ++ rest)).outcome = (firstFile fs rest).outcome := by
  induction before with
  | nil => rfl
  | cons p before ih =>
    rw [List.cons_append, outcome_firstFile_cons, ask_eq_ok.2 (h p List.mem_cons_self), ok_bind,
      if_neg Bool.false_ne_true]
    exact ih fun q hq => h q (List.mem_cons_of_mem _ hq)

/-- The first candidate that is a file is taken. -/
theorem outcome_firstFile_of_isFile {before after : List Path} {path : Path}
    (hbefore : ∀ p ∈ before, fs.isFile p = .ok false) (hfile : fs.isFile path = .ok true) :
    (firstFile fs (before ++ path :: after)).outcome = .ok (some path) := by
  rw [outcome_firstFile_append hbefore, outcome_firstFile_cons, ask_eq_ok.2 hfile, ok_bind,
    if_pos rfl]

/-- A candidate without an answer ends the search. -/
theorem outcome_firstFile_of_unanswered {before after : List Path} {path : Path} {fault : PathFault}
    (hbefore : ∀ p ∈ before, fs.isFile p = .ok false) (hfault : fs.isFile path = .error fault) :
    (firstFile fs (before ++ path :: after)).outcome = .error (.path (fault.of path)) := by
  rw [outcome_firstFile_append hbefore, outcome_firstFile_cons,
    ask_eq_error.2 ⟨fault, hfault, rfl⟩, error_bind]

theorem outcome_firstFile_of_none {candidates : List Path}
    (h : ∀ p ∈ candidates, fs.isFile p = .ok false) :
    (firstFile fs candidates).outcome = .ok none := by
  have hall := outcome_firstFile_append h []
  rw [List.append_nil] at hall
  exact hall

/-- Whether a search comes to a path: it is a candidate, and those before it are no files. -/
def Reaches (env : Environment) (fs : FileSystem) (start path : Path) : Prop :=
  ∃ directories before after, searchDirectories env fs start = .ok directories ∧
    directories.map candidate = before ++ path :: after ∧ ∀ p ∈ before, fs.isFile p = .ok false

/-- Whether a search finds a path: it comes to it, and it is a file. -/
def Finds (env : Environment) (fs : FileSystem) (start path : Path) : Prop :=
  Reaches env fs start path ∧ fs.isFile path = .ok true

/-! ## The search in loading -/

/-- What follows a search through some directories. -/
def afterSearch (runtime : Runtime) (fs : FileSystem) (directories : List Path) :
    Option Path → Logged Breakdown Outcome
  | some path => readFound runtime fs path
  | none => noteNotFound directories

/-- Loading goes through directories as a search does, its notes included, and counts them up. -/
theorem loadFrom_eq (runtime : Runtime) (fs : FileSystem) (searched directories : List Path) :
    loadFrom runtime fs searched directories =
      firstFile fs (directories.map candidate) >>=
        afterSearch runtime fs (searched ++ directories) := by
  induction directories generalizing searched with
  | nil =>
    rw [List.append_nil]
    rfl
  | cons directory rest ih =>
    rw [List.map_cons, loadFrom, firstFile, Logged.bind_assoc]
    congr 1
    funext found
    cases found with
    | true => rfl
    | false =>
      show loadFrom runtime fs (searched ++ [directory]) rest = _
      rw [ih, List.append_assoc]
      rfl

/-- Loading is a search and what follows it. -/
theorem load_eq (runtime : Runtime) (env : Environment) (fs : FileSystem) (start : Path) :
    load runtime env fs start =
      Logged.ofExcept (searchDirectories env fs start) >>= fun directories =>
        firstFile fs (directories.map candidate) >>= afterSearch runtime fs directories := by
  unfold load
  congr 1
  funext directories
  exact loadFrom_eq runtime fs [] directories

/-- The outcome of loading, notes aside. -/
theorem outcome_load (runtime : Runtime) (env : Environment) (fs : FileSystem)
    (start : Path) :
    (load runtime env fs start).outcome =
      searchDirectories env fs start >>= fun directories =>
        (firstFile fs (directories.map candidate)).outcome >>= fun found =>
          match found with
          | some path => (readFound runtime fs path).outcome
          | none => .ok (.notFound directories) := by
  rw [load_eq, Logged.outcome_bind, Logged.outcome_ofExcept]
  congr 1
  funext directories
  rw [Logged.outcome_bind]
  congr 1
  funext found
  cases found <;> rfl

theorem outcome_load_of_finds {path : Path} (h : Finds env fs start path) :
    (load runtime env fs start).outcome = (readFound runtime fs path).outcome := by
  obtain ⟨⟨directories, before, after, hsearch, hsplit, hbefore⟩, hfile⟩ := h
  rw [outcome_load, hsearch, ok_bind, hsplit, outcome_firstFile_of_isFile hbefore hfile, ok_bind]

theorem outcome_load_of_unanswered {path : Path} {fault : PathFault}
    (h : Reaches env fs start path) (hfault : fs.isFile path = .error fault) :
    (load runtime env fs start).outcome = .error (.path (fault.of path)) := by
  obtain ⟨directories, before, after, hsearch, hsplit, hbefore⟩ := h
  rw [outcome_load, hsearch, ok_bind, hsplit, outcome_firstFile_of_unanswered hbefore hfault,
    error_bind]

theorem outcome_load_of_none {directories : List Path}
    (hsearch : searchDirectories env fs start = .ok directories)
    (hnone : ∀ d ∈ directories, fs.isFile (candidate d) = .ok false) :
    (load runtime env fs start).outcome = .ok (.notFound directories) := by
  rw [outcome_load, hsearch, ok_bind, outcome_firstFile_of_none (List.forall_mem_map.2 hnone),
    ok_bind]

/-- A search fails, finds nothing, is stuck at a candidate, or finds one. -/
theorem search_cases (env : Environment) (fs : FileSystem) (start : Path) :
    (∃ breakdown, searchDirectories env fs start = .error breakdown) ∨
      (∃ directories, searchDirectories env fs start = .ok directories ∧
        ∀ d ∈ directories, fs.isFile (candidate d) = .ok false) ∨
      (∃ path fault, Reaches env fs start path ∧ fs.isFile path = .error fault) ∨
      ∃ path, Finds env fs start path := by
  cases hsearch : searchDirectories env fs start with
  | error breakdown => exact .inl ⟨breakdown, rfl⟩
  | ok directories =>
    rcases exists_first (fun p => fs.isFile p = .ok false) (directories.map candidate) with
      hall | ⟨before, p, after, hsplit, hbefore, hp⟩
    · exact .inr (.inl ⟨directories, rfl, fun d hd => hall _ (List.mem_map_of_mem hd)⟩)
    · have hreaches : Reaches env fs start p :=
        ⟨directories, before, after, hsearch, hsplit, hbefore⟩
      cases hfile : fs.isFile p with
      | error fault => exact .inr (.inr (.inl ⟨p, fault, hreaches, hfile⟩))
      | ok answer =>
        cases answer with
        | false => exact absurd hfile hp
        | true => exact .inr (.inr (.inr ⟨p, hreaches, hfile⟩))

/-! ## What is found -/

theorem outcome_readFound (runtime : Runtime) (fs : FileSystem) (path : Path) :
    (readFound runtime fs path).outcome =
      match (ConfigFile.read runtime path (fs.read path)).outcome with
      | .ok config => .ok (.loaded path config)
      | .error (.refused error) => .ok (.invalid path error)
      | .error (.broken breakdown) => .error breakdown := by
  unfold readFound
  generalize ConfigFile.read runtime path (fs.read path) = reading
  obtain ⟨outcome, records⟩ := reading
  cases outcome with
  | ok config => rfl
  | error failure => cases failure <;> rfl

theorem outcome_readFound_eq_error {path : Path} {breakdown : Breakdown} :
    (readFound runtime fs path).outcome = .error breakdown ↔
      (ConfigFile.read runtime path (fs.read path)).outcome = .error (.broken breakdown) := by
  rw [outcome_readFound]
  split <;> next h => simp [h]

/-! ## Loading -/

/-- What keeps loading from ending in one of its three ways. -/
inductive Escape (runtime : Runtime) (env : Environment) (fs : FileSystem) (start : Path) :
    Breakdown → Prop
  /-- The directories to search are not known. -/
  | directories {breakdown : Breakdown}
      (unknown : searchDirectories env fs start = .error breakdown) :
      Escape runtime env fs start breakdown
  /-- Whether a candidate is a file has no answer. -/
  | candidate {path : Path} {fault : PathFault} (reached : Reaches env fs start path)
      (unanswered : fs.isFile path = .error fault) :
      Escape runtime env fs start (.path (fault.of path))
  /-- The file that is found has no path that it could be read by. -/
  | nullInPath {path : Path} (found : Finds env fs start path) (null : path.holdsNull = true) :
      Escape runtime env fs start .nullInPath
  /-- The text of the file that is found breaks its reading off. -/
  | text {path : Path} {text : List Char} {breakdown : Breakdown} (found : Finds env fs start path)
      (proper : path.holdsNull = false) (holds : HasText (fs.read path) text)
      (breaks : Breaks runtime text breakdown) : Escape runtime env fs start breakdown

/-- Whether a file has valid contents. -/
def Holds (runtime : Runtime) (fs : FileSystem) (path : Path) (config : ConfigFile) : Prop :=
  ∃ text table, HasText (fs.read path) text ∧ decodeMapping runtime.decode text = .ok table ∧
    (ofMapping table).outcome = .ok config

/-- The three ways in which loading ends. -/
inductive Ending (runtime : Runtime) (env : Environment) (fs : FileSystem) (start : Path) :
    Outcome → Prop
  | loaded {path : Path} {config : ConfigFile} (found : Finds env fs start path)
      (valid : Holds runtime fs path config) : Ending runtime env fs start (.loaded path config)
  | invalid {path : Path} {error : ConfigError} (found : Finds env fs start path)
      (unusable : ∀ config, ¬ Holds runtime fs path config) (names : error.path = some path) :
      Ending runtime env fs start (.invalid path error)
  | notFound {directories : List Path} (known : searchDirectories env fs start = .ok directories)
      (none : ∀ d ∈ directories, fs.isFile (Discovery.candidate d) = .ok false) :
      Ending runtime env fs start (.notFound directories)

/-- What is found ends in its contents, in an error that names it, or in what breaks it off. -/
theorem load_of_finds {path : Path} (h : Finds env fs start path) :
    (∃ config, (load runtime env fs start).outcome = .ok (.loaded path config) ∧
        Holds runtime fs path config) ∨
      (∃ error, (load runtime env fs start).outcome = .ok (.invalid path error) ∧
        error.path = some path ∧ ∀ config, ¬ Holds runtime fs path config) ∨
      ∃ b, (load runtime env fs start).outcome = .error b ∧ Escape runtime env fs start b := by
  rw [outcome_load_of_finds h]
  cases hnull : path.holdsNull with
  | true =>
    refine .inr (.inr ⟨.nullInPath, outcome_readFound_eq_error.2 ?_, .nullInPath h hnull⟩)
    rw [ConfigFile.outcome_read, hnull, if_pos rfl]
  | false =>
    rw [outcome_readFound]
    cases hread : (ConfigFile.read runtime path (fs.read path)).outcome with
    | ok config => exact .inl ⟨config, rfl, (ConfigFile.outcome_read_eq_ok hnull).1 hread⟩
    | error failure =>
      cases failure with
      | refused error =>
        refine .inr (.inl ⟨error, rfl, ConfigFile.path_of_refused hread, ?_⟩)
        -- valid contents would have been read
        intro config hvalid
        rw [(ConfigFile.outcome_read_eq_ok hnull).2 hvalid] at hread
        exact absurd hread (by simp)
      | broken b =>
        obtain ⟨text, htext, hbreaks⟩ := (ConfigFile.outcome_read_eq_broken hnull).1 hread
        exact .inr (.inr ⟨b, rfl, .text h hnull htext hbreaks⟩)

theorem load_total (runtime : Runtime) (env : Environment) (fs : FileSystem) (start : Path) :
    (∃ o, (load runtime env fs start).outcome = .ok o ∧ Ending runtime env fs start o) ∨
      ∃ b, (load runtime env fs start).outcome = .error b ∧ Escape runtime env fs start b := by
  rcases search_cases env fs start with ⟨b, hsearch⟩ | ⟨directories, hsearch, hnone⟩ |
    ⟨path, fault, hreaches, hfault⟩ | ⟨path, hfinds⟩
  · refine .inr ⟨b, ?_, .directories hsearch⟩
    rw [outcome_load, hsearch, error_bind]
  · exact .inl ⟨_, outcome_load_of_none hsearch hnone, .notFound hsearch hnone⟩
  · exact .inr ⟨_, outcome_load_of_unanswered hreaches hfault, .candidate hreaches hfault⟩
  · rcases load_of_finds hfinds with ⟨config, hload, hvalid⟩ | ⟨error, hload, hnames, hunusable⟩ |
      hescape
    · exact .inl ⟨_, hload, .loaded hfinds hvalid⟩
    · exact .inl ⟨_, hload, .invalid hfinds hunusable hnames⟩
    · exact .inr hescape

theorem Escape.outcome_eq {breakdown : Breakdown} (h : Escape runtime env fs start breakdown) :
    (load runtime env fs start).outcome = .error breakdown := by
  cases h with
  | directories unknown => rw [outcome_load, unknown, error_bind]
  | candidate reached unanswered => exact outcome_load_of_unanswered reached unanswered
  | nullInPath found null =>
    rw [outcome_load_of_finds found, outcome_readFound_eq_error, ConfigFile.outcome_read, null,
      if_pos rfl]
  | text found proper holds breaks =>
    rw [outcome_load_of_finds found, outcome_readFound_eq_error]
    exact (ConfigFile.outcome_read_eq_broken proper).2 ⟨_, holds, breaks⟩

/-- Loading a run's configuration fails with what loading ends in. -/
theorem outcome_loadRun_eq_error {base : RunConfig Region} {overrides : Option PartialSettings}
    {failure : Failure} :
    (RunConfig.load runtime env fs start base overrides).outcome = .error failure ↔
      (∃ b, (load runtime env fs start).outcome = .error b ∧ failure = .broken b) ∨
        ∃ path error, (load runtime env fs start).outcome = .ok (.invalid path error) ∧
          failure = .refused error := by
  rw [RunConfig.load, Logged.outcome_bind, Logged.outcome_mapError, bind_eq_error,
    mapError_eq_error]
  simp only [mapError_eq_ok]
  constructor
  · rintro (⟨b, hb, rfl⟩ | ⟨o, ho, hlayer⟩)
    · exact .inl ⟨b, hb, rfl⟩
    · cases o with
      | loaded path config => exact absurd hlayer (by simp [RunConfig.layerOutcome])
      | notFound searched => exact absurd hlayer (by simp [RunConfig.layerOutcome])
      | invalid path error =>
        cases hlayer
        exact .inr ⟨path, error, ho, rfl⟩
  · rintro (⟨b, hb, rfl⟩ | ⟨path, error, hinvalid, rfl⟩)
    · exact .inl ⟨b, hb, rfl⟩
    · exact .inr ⟨_, hinvalid, rfl⟩

/-- Loading breaks off exactly in an escape, and otherwise ends in one of its three ways. A file
that is found and has no valid contents gives an error that names it, unless its text breaks the
reading off. Loading a run's configuration fails with that error or the escape, and with nothing
else. -/
theorem load_escapes_iff (runtime : Runtime) (env : Environment) (fs : FileSystem)
    (start : Path) :
    (∀ b, (load runtime env fs start).outcome = .error b ↔ Escape runtime env fs start b) ∧
      (∀ o, (load runtime env fs start).outcome = .ok o → Ending runtime env fs start o) ∧
      (∀ path, Finds env fs start path → (∀ config, ¬ Holds runtime fs path config) →
        (∀ b, ¬ Escape runtime env fs start b) →
        ∃ error, (load runtime env fs start).outcome = .ok (.invalid path error) ∧
          error.path = some path) ∧
      ∀ base overrides failure,
        (RunConfig.load runtime env fs start base overrides).outcome = .error failure ↔
          (∃ b, Escape runtime env fs start b ∧ failure = .broken b) ∨
            ∃ path error, (load runtime env fs start).outcome = .ok (.invalid path error) ∧
              failure = .refused error := by
  have hescape : ∀ b, (load runtime env fs start).outcome = .error b ↔
      Escape runtime env fs start b := by
    intro b
    constructor
    · intro h
      rcases load_total runtime env fs start with ⟨o, ho, -⟩ | ⟨b', hb', hescape⟩
      · rw [h] at ho
        exact absurd ho (by simp)
      · rw [h] at hb'
        cases hb'
        exact hescape
    · exact Escape.outcome_eq
  have hending : ∀ o, (load runtime env fs start).outcome = .ok o →
      Ending runtime env fs start o := by
    intro o h
    rcases load_total runtime env fs start with ⟨o', ho', hending⟩ | ⟨b, hb, -⟩
    · rw [h] at ho'
      cases ho'
      exact hending
    · rw [h] at hb
      exact absurd hb (by simp)
  refine ⟨hescape, hending, ?_, ?_⟩
  · intro path hfinds hunusable hnone
    rcases load_of_finds hfinds with ⟨config, -, hvalid⟩ | ⟨error, hload, hnames, -⟩ | ⟨b, -, hb⟩
    · exact absurd hvalid (hunusable config)
    · exact ⟨error, hload, hnames⟩
    · exact absurd hb (hnone b)
  · intro base overrides failure
    simp only [outcome_loadRun_eq_error, hescape]

/-- A file system that holds one configuration file, in one directory. -/
def singleFile (directory : Path) (bytes : List UInt8) : FileSystem where
  isDirectory p := .ok (p == directory)
  isFile p := .ok (p == candidate directory)
  read p := if p = candidate directory then .ok bytes else .error (.path .notFound)

/-- A process that works in a directory and has no variables set. -/
def workingIn (directory : Path) : Environment :=
  ⟨some directory, none, some "/root", none, none, false⟩

/-- A date that does not exist, where a truth value should be, is no refusal of the file: it breaks
loading off. -/
theorem load_escapes_of_date :
    (load (.ample Yaml.decode) (workingIn (Path.ofText "/w"))
        (singleFile (Path.ofText "/w")
          ("respectful: 2024-02-30\n".toList.map fun c => UInt8.ofNat c.toNat))
        (Path.ofText "/w")).outcome = .error (.conversion (.calendar .day)) ∧
      (RunConfig.load (.ample Yaml.decode) (workingIn (Path.ofText "/w"))
        (singleFile (Path.ofText "/w")
          ("respectful: 2024-02-30\n".toList.map fun c => UInt8.ofNat c.toNat))
        (Path.ofText "/w") .default none).outcome =
        .error (.broken (.conversion (.calendar .day))) := by
  have hload : (match (load (.ample Yaml.decode) (workingIn (Path.ofText "/w"))
      (singleFile (Path.ofText "/w")
        ("respectful: 2024-02-30\n".toList.map fun c => UInt8.ofNat c.toNat))
      (Path.ofText "/w")).outcome with
    | .error b => decide (b = .conversion (.calendar .day))
    | .ok _ => false) = true := by
    decide +kernel
  split at hload
  · next b hb =>
    obtain rfl := of_decide_eq_true hload
    exact ⟨hb, outcome_loadRun_eq_error.2 (.inl ⟨_, hb, rfl⟩)⟩
  · exact absurd hload (by simp)

/-- So is a value that stands for itself, under a tag that says it is text. -/
example : (match (load (.ample Yaml.decode) (workingIn (Path.ofText "/w"))
    (singleFile (Path.ofText "/w")
      ("x: &a !!str \x7b=: *a\x7d\n".toList.map fun c => UInt8.ofNat c.toNat))
    (Path.ofText "/w")).outcome with
    | .error b => decide (b = .crash .stackExhausted)
    | .ok _ => false) = true := by
  decide +kernel

end FormatterConfig.Discovery
