import FormatterConfig.Proofs.RunConfig.Loading

set_option autoImplicit false

/-! # Errors that name their file

A configuration file is refused because it has no text, because its text is no document, or because
its document's contents are invalid. Only the first is found by what knows the file; the others are
stated without it and have it added on the way out. That must happen for either of them, and it must
leave alone what the error says: its message and its line and column. -/

namespace FormatterConfig

namespace ConfigError

/-- The text of an error in a file: a line is shown if it is known, a column if the line is known
too. -/
theorem text_of_path {e : ConfigError} {path : Path} (h : e.path = some path) :
    e.text = path.text ++ (e.line.elim "" fun line => ":" ++ toString line) ++
      ((e.line.bind fun _ => e.column).elim "" fun column => ":" ++ toString column) ++ ": " ++
        e.message := by
  obtain ⟨cause, _, line, column⟩ := e
  obtain rfl : _ = some path := h
  cases line with
  | none => simp [text]
  | some line =>
    cases column with
    | none => simp [text]
    | some column => simp [text, String.append_assoc]

/-- Naming a file after another leaves only the last. -/
theorem foldl_withPath (e : ConfigError) (paths : List Path) :
    paths.foldl withPath e = { e with path := paths.getLast?.or e.path } := by
  induction paths generalizing e with
  | nil => rfl
  | cons path rest ih =>
    rw [List.foldl_cons, ih, List.getLast?_cons]
    cases rest.getLast? <;> rfl

end ConfigError

namespace ConfigFile

variable {runtime : Runtime} {path : Path} {bytes : Except ReadFault (List UInt8)}

/-- Why a file is refused, by an error that need not name it. A path that holds the null character
leads to no file that could be, and an error that cannot be worded is none. -/
inductive Refused (runtime : Runtime) (path : Path) (bytes : Except ReadFault (List UInt8)) :
    ConfigError → Prop
  | noText {fault : ReadFault} (proper : path.holdsNull = false)
      (unreadable : bytes.bind textOfBytes = .error fault) :
      Refused runtime path bytes (.of (.unreadable path fault))
  | noDocument {text : List Char} {e : ConfigError} (proper : path.holdsNull = false)
      (holds : HasText bytes text)
      (undecoded : decodeMapping runtime.decode text = .error (.refused e)) :
      Refused runtime path bytes e
  | contents {text : List Char} {table : Mapping} {e : ConfigError}
      (proper : path.holdsNull = false) (holds : HasText bytes text)
      (decoded : decodeMapping runtime.decode text = .ok table)
      (invalid : (ofMapping table).outcome = .error (.refused e))
      (worded : runtime.canWord e = true) : Refused runtime path bytes e

theorem Refused.proper {e : ConfigError} (h : Refused runtime path bytes e) :
    path.holdsNull = false := by
  cases h with
  | noText proper unreadable => exact proper
  | noDocument proper holds undecoded => exact proper
  | contents proper holds decoded invalid worded => exact proper

/-- A file without a text is refused for that. -/
theorem refused_iff_of_error {fault : ReadFault} {e : ConfigError}
    (hpath : path.holdsNull = false) (htext : bytes.bind textOfBytes = .error fault) :
    Refused runtime path bytes e ↔ e = .of (.unreadable path fault) := by
  constructor
  · intro h
    cases h with
    | noText proper unreadable =>
      obtain rfl := Except.error.inj (htext.symm.trans unreadable)
      rfl
    | noDocument proper holds undecoded =>
      exact absurd (htext.symm.trans (bind_textOfBytes_eq_ok.2 holds)) (by simp)
    | contents proper holds decoded invalid worded =>
      exact absurd (htext.symm.trans (bind_textOfBytes_eq_ok.2 holds)) (by simp)
  · rintro rfl
    exact .noText hpath htext

/-- A file with a text is refused for what its text is. -/
theorem refused_iff_of_ok {text : List Char} {e : ConfigError} (hpath : path.holdsNull = false)
    (htext : bytes.bind textOfBytes = .ok text) :
    Refused runtime path bytes e ↔ (ofText runtime text).outcome = .error (.refused e) := by
  rw [outcome_ofText_eq_error]
  simp only [Runtime.limit_eq_refused]
  have hunique : ∀ text', HasText bytes text' → text = text' := fun text' holds =>
    Except.ok.inj (htext.symm.trans (bind_textOfBytes_eq_ok.2 holds))
  have hholds : HasText bytes text := bind_textOfBytes_eq_ok.1 htext
  constructor
  · intro h
    cases h with
    | noText proper unreadable => exact absurd (htext.symm.trans unreadable) (by simp)
    | noDocument proper holds undecoded =>
      obtain rfl := hunique _ holds
      exact .inl undecoded
    | contents proper holds decoded invalid worded =>
      obtain rfl := hunique _ holds
      exact .inr ⟨_, decoded, _, invalid, rfl, worded⟩
  · rintro (undecoded | ⟨table, decoded, _, invalid, rfl, worded⟩)
    · exact .noDocument hpath hholds undecoded
    · exact .contents hpath hholds decoded invalid worded

/-- Reading a file refuses it exactly for one of the three reasons, with the file added to it. -/
theorem outcome_read_eq_refused {error : ConfigError} :
    (read runtime path bytes).outcome = .error (.refused error) ↔
      ∃ e, Refused runtime path bytes e ∧ e.withPath path = error := by
  rw [outcome_read]
  cases hpath : path.holdsNull with
  | true =>
    have hnone : ∀ e, ¬ Refused runtime path bytes e := fun e h =>
      Bool.false_ne_true (h.proper.symm.trans hpath)
    simp [hnone]
  | false =>
    rw [if_neg Bool.false_ne_true]
    cases htext : bytes.bind textOfBytes with
    | error fault =>
      simp only [refused_iff_of_error hpath htext, exists_eq_left, Except.error.injEq,
        Failure.refused.injEq]
      rfl
    | ok text =>
      simp only [refused_iff_of_ok hpath htext, mapError_eq_error, mapError_eq_refused]
      constructor
      · rintro ⟨failure, hread, e, rfl, hnamed⟩
        exact ⟨e, hread, hnamed⟩
      · rintro ⟨e, hread, hnamed⟩
        exact ⟨_, hread, e, rfl, hnamed⟩

end ConfigFile

namespace Discovery

variable {runtime : Runtime} {env : Environment} {fs : FileSystem} {start path : Path}
  {error : ConfigError}

/-- Loading ends in the refusal of the file that the search finds. -/
theorem outcome_load_eq_invalid :
    (load runtime env fs start).outcome = .ok (.invalid path error) ↔
      (find? env fs start).outcome = .ok (some path) ∧
        (ConfigFile.read runtime path (fs.read path)).outcome = .error (.refused error) := by
  constructor
  · intro h
    obtain ⟨hfind, -⟩ := find?_of_load h
    refine ⟨hfind, ?_⟩
    rw [outcome_load_eq_find?, hfind, ok_bind] at h
    dsimp only [Outcome.path?] at h
    rw [outcome_readFound] at h
    split at h
    · cases h
    · next hread =>
      cases h
      exact hread
    · cases h
  · rintro ⟨hfind, hread⟩
    rw [outcome_load_eq_find?, hfind, ok_bind]
    dsimp only
    rw [outcome_readFound, hread]

end Discovery

namespace RunConfig

open ConfigFile (HasText Refused decodeMapping outcome_read_eq_refused read)
open Discovery (find? singleFile)

/-- Every refusal of a configuration file names it and loses nothing. For whatever reason a file is
refused, reading it ends in an error with its path and with the message, the line and the column of
the reason; its text is the path, the line if it is known, the column if both are, and the message.
Where the search finds the file, loading ends in that very error beside the same path, and loading a
run's configuration fails with it. Nothing else refuses a file. Naming files one after the other
changes nothing of an error but the file, which is the last. -/
theorem refusal_names_file (runtime : Runtime) (path : Path)
    (bytes : Except ReadFault (List UInt8)) :
    (∀ e, Refused runtime path bytes e →
      ∃ error, (read runtime path bytes).outcome = .error (.refused error) ∧ error.path = some path ∧
        error.message = e.message ∧ error.line = e.line ∧ error.column = e.column ∧
        error.text = path.text ++ (e.line.elim "" fun line => ":" ++ toString line) ++
          ((e.line.bind fun _ => e.column).elim "" fun column => ":" ++ toString column) ++ ": " ++
            e.message ∧
        ∀ env fs start, (find? env fs start).outcome = .ok (some path) → fs.read path = bytes →
          (Discovery.load runtime env fs start).outcome = .ok (.invalid path error) ∧
            ∀ base overrides,
              (load runtime env fs start base overrides).outcome = .error (.refused error)) ∧
      (∀ error, (read runtime path bytes).outcome = .error (.refused error) →
        ∃ e, Refused runtime path bytes e ∧ error = e.withPath path) ∧
      ∀ (e : ConfigError) (paths : List Path) (last : Path),
        let bound := (paths ++ [last]).foldl ConfigError.withPath e
        bound.path = some last ∧ bound.message = e.message ∧ bound.line = e.line ∧
          bound.column = e.column := by
  refine ⟨fun e hrefused => ?_, fun error hread => ?_, fun e paths last => ?_⟩
  · have hread : (read runtime path bytes).outcome = .error (.refused (e.withPath path)) :=
      outcome_read_eq_refused.2 ⟨e, hrefused, rfl⟩
    refine ⟨e.withPath path, hread, rfl, rfl, rfl, rfl, ConfigError.text_of_path rfl, ?_⟩
    rintro env fs start hfind rfl
    exact ⟨Discovery.outcome_load_eq_invalid.2 ⟨hfind, hread⟩,
      fun base overrides => load_eq_error.2 (.inr ⟨path, hfind, hread⟩)⟩
  · obtain ⟨e, hrefused, hnamed⟩ := outcome_read_eq_refused.1 hread
    exact ⟨e, hrefused, hnamed.symm⟩
  · intro bound
    have hbound : bound = { e with path := some last } := by
      show (paths ++ [last]).foldl ConfigError.withPath e = _
      rw [ConfigError.foldl_withPath, List.getLast?_concat]
      rfl
    rw [hbound]
    exact ⟨rfl, rfl, rfl, rfl⟩

/-- A file with a bracket that nothing opens. -/
def unopenedFile : FileSystem :=
  singleFile (Path.ofText "/w") ("fixities: ]\n".toList.map fun c => UInt8.ofNat c.toNat)

/-- The line and the column of the bracket come out behind the path. -/
theorem refusal_names_file_unopened :
    let path := Path.ofText "/w/fourmolu.yaml"
    ∃ e error, Refused (.ample Yaml.decode) path (unopenedFile.read path) e ∧ e.path = none ∧
      (load (.ample Yaml.decode) (Discovery.workingIn (Path.ofText "/w")) unopenedFile
        (Path.ofText "M.hs") .default none).outcome = .error (.refused error) ∧
      error.path = some path ∧ error.message = e.message ∧
      error.text = "/w/fourmolu.yaml:1:11: " ++ e.message := by
  intro path
  have hfind : (find? (Discovery.workingIn (Path.ofText "/w")) unopenedFile
      (Path.ofText "M.hs")).outcome = .ok (some path) := by
    decide +kernel
  have hholds : HasText (unopenedFile.read path) "fixities: ]\n".toList :=
    ⟨_, rfl, by decide +kernel⟩
  have hundecoded : (match decodeMapping Yaml.decode "fixities: ]\n".toList with
    | .error (.refused e) =>
      decide (e.path = none ∧ e.line = some 1 ∧ e.column = some 11)
    | .error (.broken _) => false
    | .ok _ => false) = true := by
    decide +kernel
  split at hundecoded
  · next e he =>
    obtain ⟨hpath, hline, hcolumn⟩ := of_decide_eq_true hundecoded
    have hrefused : Refused (.ample Yaml.decode) path (unopenedFile.read path) e :=
      .noDocument (by decide +kernel) hholds he
    obtain ⟨hnames, -⟩ := refusal_names_file (.ample Yaml.decode) path (unopenedFile.read path)
    obtain ⟨error, -, herror, hmessage, -, -, htext, hloads⟩ := hnames e hrefused
    obtain ⟨-, hfails⟩ := hloads _ unopenedFile _ hfind rfl
    refine ⟨e, error, hrefused, hpath, hfails _ _, herror, hmessage, ?_⟩
    rw [htext, hline, hcolumn]
    congr 1
  · exact absurd hundecoded (by simp)
  · exact absurd hundecoded (by simp)

end RunConfig

end FormatterConfig
