import FormatterConfig.Proofs.Decimal.Digits
import FormatterConfig.Proofs.Log.Sessions

set_option autoImplicit false

/-! # The level that the environment names

A value of the environment variable is taken without the white space around it and in upper case.
Then it is a numeral, or one of the names, or names nothing. A run of digits that is no numeral is
none of these and breaks the set-up off; exactly that does (`environmentLevel_breaks_iff`). A set-up
without a level does what one with the environment's level does, unless that level is zero, which
is taken for none (`Session.setUp_agrees_iff`). -/

namespace FormatterConfig.Log

open Decimal

/-! ## Words -/

/-- A value of the variable without white space around it, in upper case. -/
def levelWord (text : String) : List Char := Text.upperCase (Text.trimBlanks text.toList)

/-- A text is the name of a level at most once. -/
theorem find?_namedLevels {name : String} {level : Level} :
    (namedLevels.find? (·.1 == name)).map (·.2) = some level ↔ (name, level) ∈ namedLevels := by
  have hfirst : ∀ e ∈ namedLevels,
      (namedLevels.find? (·.1 == e.1)).map (·.2) = some e.2 := by decide
  constructor
  · intro h
    obtain ⟨e, he, rfl⟩ := Option.map_eq_some_iff.1 h
    have hname : e.1 = name := by simpa using List.find?_some he
    rw [← hname]
    exact List.mem_of_find?_eq_some he
  · intro h
    exact hfirst (name, level) h

/-- No name of a level is a run of digits. -/
theorem not_isDigitRun_of_mem {cs : List Char} {level : Level}
    (h : (String.ofList cs, level) ∈ namedLevels) : ¬ IsDigitRun cs := by
  have hnames : ∀ e ∈ namedLevels, e.1.toList.all Text.isDigit = false := by decide
  intro hrun
  have hall : cs.all Text.isDigit = true := List.all_eq_true.2 hrun.digits
  have hnone := hnames _ h
  rw [String.toList_ofList, hall] at hnone
  exact Bool.noConfusion hnone

theorem environmentLevel_of_isDigitRun {text : String} (h : IsDigitRun (levelWord text)) :
    environmentLevel (some text) =
      match readInteger 10 (levelWord text) with
      | .ok n => .ok (some n)
      | .error cause => .error (.ofNumeral 10 (String.ofList (levelWord text)) cause) := by
  unfold environmentLevel
  dsimp only
  rw [← levelWord]
  refine (if_pos (isDigitRun_iff.1 h)).trans ?_
  cases readInteger 10 (levelWord text) <;> rfl

theorem environmentLevel_of_not_isDigitRun {text : String} (h : ¬ IsDigitRun (levelWord text)) :
    environmentLevel (some text) =
      .ok ((namedLevels.find? (·.1 == String.ofList (levelWord text))).map (·.2)) := by
  unfold environmentLevel
  dsimp only
  rw [← levelWord, if_neg (mt isDigitRun_iff.2 h)]

/-- A word breaks the set-up off exactly if it is a run of digits that is not read. -/
theorem environmentLevel_eq_error {text : String} {fault : ConversionFault} :
    environmentLevel (some text) = .error fault ↔
      IsDigitRun (levelWord text) ∧ Unreadable (levelWord text) fault := by
  by_cases hrun : IsDigitRun (levelWord text)
  · rw [environmentLevel_of_isDigitRun hrun, ← readInteger_eq_error hrun]
    cases readInteger 10 (levelWord text) with
    | ok n => simp
    | error cause => simp [hrun]
  · rw [environmentLevel_of_not_isDigitRun hrun]
    simp [hrun]

/-- A word stands for a level exactly if it is its number or its name. -/
theorem environmentLevel_eq_some {text : String} {level : Level} :
    environmentLevel (some text) = .ok (some level) ↔
      IsNumeral (levelWord text) ∧ level = placeValue (levelWord text) ∨
        (String.ofList (levelWord text), level) ∈ namedLevels := by
  by_cases hrun : IsDigitRun (levelWord text)
  · have hname : (String.ofList (levelWord text), level) ∉ namedLevels :=
      fun hmem => not_isDigitRun_of_mem hmem hrun
    rw [environmentLevel_of_isDigitRun hrun, ← readInteger_eq_ok hrun]
    cases readInteger 10 (levelWord text) with
    | ok n => simp [hname]
    | error cause => simp [hname]
  · have hnumeral : ¬ IsNumeral (levelWord text) := fun h => hrun h.isDigitRun
    rw [environmentLevel_of_not_isDigitRun hrun, ← find?_namedLevels]
    simp [hnumeral]

/-- A word that is neither digits nor a name stands for nothing. -/
theorem environmentLevel_eq_none {text : String} :
    environmentLevel (some text) = .ok none ↔
      ¬ IsDigitRun (levelWord text) ∧
        ∀ level, (String.ofList (levelWord text), level) ∉ namedLevels := by
  by_cases hrun : IsDigitRun (levelWord text)
  · rw [environmentLevel_of_isDigitRun hrun]
    cases readInteger 10 (levelWord text) <;> simp [hrun]
  · rw [environmentLevel_of_not_isDigitRun hrun]
    simp only [hrun, not_false_eq_true, true_and, ← find?_namedLevels, Except.ok.injEq]
    exact Option.eq_none_iff_forall_ne_some

/-- A set-up by the environment fails exactly if the level cannot be found there. -/
theorem Logging.levelOfSetUp_eq_error {value : Option String} {fault : ConversionFault} :
    levelOfSetUp value none = .error fault ↔ environmentLevel value = .error fault := by
  unfold levelOfSetUp levelOfEnvironment
  cases environmentLevel value with
  | ok level? => simp [Except.map]
  | error fault' => simp [Except.map]

/-- A value of the variable stands for the number that it denotes as a numeral, for the level that
it names, or for none. Exactly a run of digits that cannot be read breaks the set-up off: one with a
digit that is not decimal, or with more decimal digits than are converted. Nothing is changed
then. -/
theorem environmentLevel_breaks_iff (value : Option String) :
    (∀ fault, environmentLevel value = .error fault ↔
        ∃ text, value = some text ∧ IsDigitRun (levelWord text) ∧
          Unreadable (levelWord text) fault) ∧
      (∀ level, environmentLevel value = .ok (some level) ↔
        ∃ text, value = some text ∧
          (IsNumeral (levelWord text) ∧ level = placeValue (levelWord text) ∨
            (String.ofList (levelWord text), level) ∈ namedLevels)) ∧
      (environmentLevel value = .ok none ↔
        ∀ text, value = some text → ¬ IsDigitRun (levelWord text) ∧
          ∀ level, (String.ofList (levelWord text), level) ∉ namedLevels) ∧
      ∀ log fault log', (Logging.setUp value none).run log = .error fault log' ↔
        environmentLevel value = .error fault ∧ log' = log := by
  refine ⟨?_, ?_, ?_, ?_⟩
  · intro fault
    cases value with
    | none => simp [environmentLevel]
    | some text => simp [environmentLevel_eq_error]
  · intro level
    cases value with
    | none => simp [environmentLevel]
    | some text => simp [environmentLevel_eq_some]
  · cases value with
    | none => simp [environmentLevel]
    | some text => simp [environmentLevel_eq_none]
  · intro log fault log'
    rw [Logging.run_setUp_eq_error, Logging.levelOfSetUp_eq_error]

/-- A superscript is a digit and no decimal digit: it stands for no level, and breaks the set-up
off. -/
theorem environmentLevel_breaks_on_superscript :
    environmentLevel (some "²") = .error (.notInteger 10 "²") ∧
      (Logging.setUp (some "²") none).run .initial = .error (.notInteger 10 "²") .initial := by
  have hlevel : environmentLevel (some "²") = .error (.notInteger 10 "²") := by decide +kernel
  exact ⟨hlevel, Logging.run_setUp_of_error (Logging.levelOfSetUp_eq_error.2 hlevel)⟩

/-! ## Set-ups by the environment -/

namespace Logging

/-- A set-up by the environment is one with the level that the environment names, if it names one
other than zero, and else with the highest. -/
theorem run_setUp_none {value : Option String} {level? : Option Level} (log : Logging)
    (h : environmentLevel value = .ok level?) :
    (setUp value none).run log =
      .ok () (ready (if level?.getD .critical = 0 then .critical else level?.getD .critical)) := by
  apply run_setUp_of_ok
  unfold levelOfSetUp levelOfEnvironment
  rw [h]
  cases level? <;> rfl

/-- Of a record that does not pass nothing is written, and of any other one something, or there is
no such record. -/
theorem write_ready_eq_empty {paint : Paint} {level record : Level} {site : Site}
    {message : String} :
    (ready level).write paint record site message = .ok "" ↔ ¬ (0 < record ∧ level ≤ record) := by
  rw [write_ready]
  by_cases hpasses : 0 < record ∧ level ≤ record
  · cases record.name <;> simp [hpasses, Except.map]
  · simp [hpasses]

end Logging

namespace Session

open Logging (ready)

/-- What some steps write, one after the other. -/
def outputs (paint : Paint) (s : Session) : List Step → List (Except ConversionFault String)
  | [] => []
  | first :: rest => s.output paint first :: (s.step first).outputs paint rest

/-- A log at level zero writes errors, and one at the highest level does not. -/
theorem outputs_ready_ne (paint : Paint) (value : Option String) :
    ∃ steps, outputs paint ⟨value, ready .critical⟩ steps ≠
      outputs paint ⟨value, ready 0⟩ steps := by
  let site : Site := ⟨"", 0, ""⟩
  have hcritical : (ready .critical).write paint .error site "" = .ok "" :=
    Logging.write_ready_eq_empty.2 (by decide)
  have hzero : (ready 0).write paint .error site "" ≠ .ok "" := by
    rw [Ne, Logging.write_ready_eq_empty]
    decide
  refine ⟨[.record .error site ""], ?_⟩
  intro heq
  have hsame : (ready .critical).write paint .error site "" =
      (ready 0).write paint .error site "" := (List.cons.inj heq).1
  rw [hcritical] at hsame
  exact hzero hsame.symm

/-- Where the environment can be read, a set-up without a level leaves the log as one with the
environment's level does, or with the highest level where the environment names none, and everything
is written alike from then on. Level zero alone is the exception: by the environment it counts as no
level, and the set-up takes the highest one. -/
theorem setUp_agrees_iff (paint : Paint) (s : Session) (level? : Option Level)
    (hlevel : environmentLevel s.value = .ok level?) :
    let level := level?.getD .critical
    (Logging.setUp s.value none).run s.log =
        .ok () (ready (if level? = some 0 then .critical else level)) ∧
      (Logging.setUp s.value (some level)).run s.log = .ok () (ready level) ∧
      (s.step (.setUp none) = s.step (.setUp (some level)) ↔ level? ≠ some 0) ∧
      ((∀ steps, (s.step (.setUp none)).outputs paint steps =
          (s.step (.setUp (some level))).outputs paint steps) ↔ level? ≠ some 0) := by
  intro level
  have hzero : level = 0 ↔ level? = some 0 := by
    cases level? with
    | none => simp [level, Level.critical]
    | some given => simp [level]
  have hnone := Logging.run_setUp_none s.log hlevel
  rw [if_congr hzero rfl rfl] at hnone
  have hsome : (Logging.setUp s.value (some level)).run s.log = .ok () (ready level) :=
    Logging.run_setUp_of_ok rfl
  have hstepNone : s.step (.setUp none) =
      ⟨s.value, ready (if level? = some 0 then .critical else level)⟩ := by
    rw [step, hnone]
  have hstepSome : s.step (.setUp (some level)) = ⟨s.value, ready level⟩ := by
    rw [step, hsome]
  refine ⟨hnone, hsome, ?_, ?_⟩
  · rw [hstepNone, hstepSome]
    by_cases h : level? = some 0
    · rw [if_pos h, hzero.2 h]
      simp [h, ready]
      decide
    · simp [h]
  · rw [hstepNone, hstepSome]
    by_cases h : level? = some 0
    · obtain ⟨steps, hne⟩ := outputs_ready_ne paint s.value
      rw [if_pos h, hzero.2 h]
      simp only [h, not_true_eq_false, ne_eq, iff_false, not_forall]
      exact ⟨steps, hne⟩
    · simp [h]

/-- The environment names level 20 by digits of another script. -/
theorem setUp_agrees_iff_padded :
    environmentLevel (some " ٢٠\n") = .ok (some .info) ∧
      (start (some " ٢٠\n")).step (.setUp none) =
        (start (some " ٢٠\n")).step (.setUp (some .info)) := by
  have hlevel : environmentLevel (some " ٢٠\n") = .ok (some .info) := by decide +kernel
  obtain ⟨-, -, hstep, -⟩ :=
    setUp_agrees_iff terminalPaint (start (some " ٢٠\n")) (some .info) hlevel
  exact ⟨hlevel, hstep.2 (by decide)⟩

/-- The environment names the lowest level, at which a set-up writes errors; the set-up by the
environment is at the highest level, and does not. -/
theorem setUp_disagrees_on_notset :
    let s := start (some "notset")
    let site : Site := ⟨"/w/Main.hs", 3, "main"⟩
    environmentLevel s.value = .ok (some 0) ∧
      (s.step (.setUp none)).log.threshold = .critical ∧
      (s.step (.setUp (some 0))).log.threshold = 0 ∧
      (s.step (.setUp none)).output terminalPaint (.record .error site "m") = .ok "" ∧
      (s.step (.setUp (some 0))).output terminalPaint (.record .error site "m") =
        .ok "\x1b[31m[ERROR] [Main.hs:3] [main] m\x1b[39m\n" := by
  decide +kernel

end Session

end FormatterConfig.Log
