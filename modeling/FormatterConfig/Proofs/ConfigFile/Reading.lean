import FormatterConfig.Proofs.ConfigFile.Contents

set_option autoImplicit false

/-! # Reading a file's text

What a file's bytes end in, whatever decodes documents and however far the stack reaches. A file
that cannot be read, whose bytes are no text, whose text is no document or whose document is refused
ends in an error that names the file. What breaks the reading off instead is a scalar that does not
convert, a decoder that breaks down, a number too long to be converted, or a value that nests too
deep to be shown (`Breaks`): nothing on the way catches that. -/

namespace FormatterConfig.ConfigFile

variable {runtime : Runtime} {text : List Char} {path : Path}
  {bytes : Except ReadFault (List UInt8)}

/-- What breaks the reading of a text off: a scalar in it does not convert, its decoder breaks down,
or its document's first fault is a number of too many digits or a value that cannot be shown. -/
inductive Breaks (runtime : Runtime) (text : List Char) : Breakdown → Prop
  | conversion {fault : ConversionFault}
      (unconverted : runtime.decode text = .error (.conversion fault)) :
      Breaks runtime text (.conversion fault)
  | crash {cause : Yaml.Crash} (crashed : runtime.decode text = .error (.crash cause)) :
      Breaks runtime text (.crash cause)
  | contents {table : Mapping} {fault : ContentFault} {breakdown : Breakdown}
      (decoded : decodeMapping runtime.decode text = .ok table) (first : FirstFault table fault)
      (broken : fault.failure = .broken breakdown) : Breaks runtime text breakdown
  | unshown {table : Mapping} {expected : ExpectedKind} {place : Place} {found : Value}
      (decoded : decodeMapping runtime.decode text = .ok table)
      (first : FirstFault table (.check (.wrongKind expected place found)))
      (written : found.hasLongInteger = false) (deep : runtime.shows found = false) :
      Breaks runtime text (.crash .tooDeepToShow)

theorem decodeMapping_eq_broken {decode : Yaml.Decoder} {breakdown : Breakdown} :
    decodeMapping decode text = .error (.broken breakdown) ↔
      (∃ fault, decode text = .error (.conversion fault) ∧ .conversion fault = breakdown) ∨
        ∃ cause, decode text = .error (.crash cause) ∧ .crash cause = breakdown := by
  unfold decodeMapping
  cases decode text with
  | error error => cases error <;> simp
  | ok v =>
    dsimp only
    split <;> simp

theorem outcome_ofText_eq_error {failure : Failure} :
    (ofText runtime text).outcome = .error failure ↔
      decodeMapping runtime.decode text = .error failure ∨
        ∃ table, decodeMapping runtime.decode text = .ok table ∧
          ∃ f, (ofMapping table).outcome = .error f ∧ runtime.limit f = failure := by
  rw [ofText, Logged.outcome_bind, Logged.outcome_ofExcept, bind_eq_error]
  simp only [Runtime.outcome_bound, mapError_eq_error]

/-- A fault cannot be worded if it is about a value that cannot be shown. -/
theorem failure_eq_unworded {fault : ContentFault} :
    (∃ error, fault.failure = .refused error ∧ runtime.canWord error = false) ↔
      ∃ expected place found, fault = .check (.wrongKind expected place found) ∧
        found.hasLongInteger = false ∧ runtime.shows found = false := by
  cases fault with
  | check fault =>
    cases fault with
    | wrongKind expected place found =>
      cases hlong : found.hasLongInteger <;>
        simp [ContentFault.failure, CheckFault.isUnwritable, Runtime.canWord, ConfigError.of,
          ConfigError.Cause.shown?, hlong]
    -- the other refusals show a number or a text, which always can be shown
    | belowMinimum minimum place found =>
      cases hlong : (CheckFault.belowMinimum minimum place found).isUnwritable <;>
        simp [ContentFault.failure, hlong, Runtime.canWord, ConfigError.of,
          ConfigError.Cause.shown?]
    | unknownTag kind place found =>
      cases hlong : (CheckFault.unknownTag kind place found).isUnwritable <;>
        simp [ContentFault.failure, hlong, Runtime.canWord, ConfigError.of,
          ConfigError.Cause.shown?]
  | declaration text fault =>
    cases fault <;>
      simp [ContentFault.failure, Runtime.canWord, ConfigError.of, ConfigError.Cause.shown?]

/-- What breaks the reading of a text off. -/
theorem outcome_ofText_eq_broken {breakdown : Breakdown} :
    (ofText runtime text).outcome = .error (.broken breakdown) ↔ Breaks runtime text breakdown := by
  rw [outcome_ofText_eq_error, decodeMapping_eq_broken]
  constructor
  · rintro ((⟨fault, hdecode, rfl⟩ | ⟨cause, hdecode, rfl⟩) | ⟨table, hdecoded, f, h, hlimit⟩)
    · exact .conversion hdecode
    · exact .crash hdecode
    · obtain ⟨fault, hfirst, rfl⟩ := outcome_ofMapping_eq_error.1 h
      rcases Runtime.limit_eq_broken.1 hlimit with hbroken | ⟨hunworded, rfl⟩
      · exact .contents hdecoded hfirst hbroken
      · obtain ⟨_, _, _, rfl, hwritten, hdeep⟩ := failure_eq_unworded.1 hunworded
        exact .unshown hdecoded hfirst hwritten hdeep
  · rintro (⟨hdecode⟩ | ⟨hdecode⟩ | ⟨hdecoded, hfirst, hbroken⟩ |
      ⟨hdecoded, hfirst, hwritten, hdeep⟩)
    · exact .inl (.inl ⟨_, hdecode, rfl⟩)
    · exact .inl (.inr ⟨_, hdecode, rfl⟩)
    · exact .inr ⟨_, hdecoded, _, outcome_ofMapping_eq_error.2 ⟨_, hfirst, rfl⟩,
        Runtime.limit_eq_broken.2 (.inl hbroken)⟩
    · exact .inr ⟨_, hdecoded, _, outcome_ofMapping_eq_error.2 ⟨_, hfirst, rfl⟩,
        Runtime.limit_eq_broken.2
          (.inr ⟨failure_eq_unworded.2 ⟨_, _, _, rfl, hwritten, hdeep⟩, rfl⟩)⟩

theorem outcome_ofText_eq_ok {c : ConfigFile} :
    (ofText runtime text).outcome = .ok c ↔
      ∃ table, decodeMapping runtime.decode text = .ok table ∧
        (ofMapping table).outcome = .ok c := by
  rw [ofText, Logged.outcome_bind, Logged.outcome_ofExcept, bind_eq_ok]
  simp only [Runtime.outcome_bound, mapError_eq_ok]

/-! ## Files -/

/-- The text of a file that can be read. -/
def HasText (bytes : Except ReadFault (List UInt8)) (text : List Char) : Prop :=
  ∃ bs, bytes = .ok bs ∧ textOfBytes bs = .ok text

theorem bind_textOfBytes_eq_ok : bytes.bind textOfBytes = .ok text ↔ HasText bytes text :=
  bind_eq_ok

/-- What reading a file ends in, by its text. -/
theorem outcome_read (runtime : Runtime) (path : Path)
    (bytes : Except ReadFault (List UInt8)) :
    (read runtime path bytes).outcome =
      if path.holdsNull then .error (.broken .nullInPath)
      else
        match bytes.bind textOfBytes with
        | .error fault => .error (.refused ⟨.unreadable path fault, some path, none, none⟩)
        | .ok text => (ofText runtime text).outcome.mapError (Failure.mapError (·.withPath path)) := by
  rw [read, Logged.outcome_bind, Logged.outcome_note, ok_bind]
  split
  · rfl
  · cases bytes.bind textOfBytes with
    | error fault => rfl
    | ok text =>
      dsimp only
      rw [Logged.outcome_bind, Logged.outcome_mapError]
      simp only [Logged.outcome_bind, PartialSettings.outcome_note, ok_bind, Logged.outcome_pure]
      cases (ofText runtime text).outcome <;> rfl

theorem mapError_eq_broken {f : ConfigError → ConfigError} {failure : Failure}
    {breakdown : Breakdown} :
    failure.mapError f = .broken breakdown ↔ failure = .broken breakdown := by
  cases failure <;> simp [Failure.mapError]

theorem mapError_eq_refused {f : ConfigError → ConfigError} {failure : Failure}
    {error : ConfigError} :
    failure.mapError f = .refused error ↔ ∃ e, failure = .refused e ∧ f e = error := by
  cases failure <;> simp [Failure.mapError]

/-- Nothing but a file's text breaks its reading off. -/
theorem outcome_read_eq_broken (hpath : path.holdsNull = false) {breakdown : Breakdown} :
    (read runtime path bytes).outcome = .error (.broken breakdown) ↔
      ∃ text, HasText bytes text ∧ Breaks runtime text breakdown := by
  rw [outcome_read, hpath, if_neg Bool.false_ne_true]
  simp only [← bind_textOfBytes_eq_ok, ← outcome_ofText_eq_broken]
  cases bytes.bind textOfBytes with
  | error fault => simp
  | ok text =>
    simp only [mapError_eq_error, mapError_eq_broken, Except.ok.injEq, exists_eq_left',
      exists_eq_right]

/-- Whatever refuses a file names it. -/
theorem path_of_refused {error : ConfigError}
    (h : (read runtime path bytes).outcome = .error (.refused error)) : error.path = some path := by
  rw [outcome_read] at h
  split at h
  · exact absurd h (by simp)
  · split at h
    · cases h
      rfl
    · obtain ⟨failure, -, hfailure⟩ := mapError_eq_error.1 h
      obtain ⟨error', -, rfl⟩ := mapError_eq_refused.1 hfailure
      rfl

/-- A file is read exactly if it has a text, the text is a document, and its contents are valid. -/
theorem outcome_read_eq_ok (hpath : path.holdsNull = false) {c : ConfigFile} :
    (read runtime path bytes).outcome = .ok c ↔
      ∃ text table, HasText bytes text ∧ decodeMapping runtime.decode text = .ok table ∧
        (ofMapping table).outcome = .ok c := by
  rw [outcome_read, hpath, if_neg Bool.false_ne_true]
  simp only [← bind_textOfBytes_eq_ok]
  cases bytes.bind textOfBytes with
  | error fault => simp
  | ok text =>
    simp only [mapError_eq_ok, outcome_ofText_eq_ok, Except.ok.injEq, exists_and_left,
      exists_eq_left']

end FormatterConfig.ConfigFile
