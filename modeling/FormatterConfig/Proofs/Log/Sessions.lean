import FormatterConfig.Log.Setup
import FormatterConfig.Log.Terminal
import Mathlib.Data.List.Basic

set_option autoImplicit false

/-! # Sessions of a log

A session changes the environment, sets the log up and writes records, in any order. A set-up finds
its level before it changes anything, and nothing after that can fail, so a set-up that fails leaves
the log as it was. One that returns leaves its level and one handler of the format for it, whatever
handlers were there. So from the first set-up that returns on there is one handler, and the last
set-up that returned decides what is written and how, whatever colours it. -/

namespace FormatterConfig.Log

namespace Logging

variable {value : Option String} {level? : Option Level} {level : Level} {log log' : Logging}
  {fault : ConversionFault}

/-! ## One set-up -/

/-- The log that a set-up at a level leaves behind. -/
def ready (level : Level) : Logging := ⟨level, [formatFor level]⟩

/-- Taking away the handlers that are there, one by one, leaves none. -/
theorem run_removeHandlers {handlers : List Format} (h : log.handlers = handlers) :
    (removeHandlers handlers).run log = .ok () ⟨log.threshold, []⟩ := by
  induction handlers generalizing log with
  | nil =>
    show EStateM.Result.ok () log = .ok () ⟨log.threshold, []⟩
    rw [← h]
  | cons f rest ih =>
    -- the handler in front is the first of its format, so it is the one that goes
    have hrest : log.handlers.erase f = rest := by rw [h, List.erase_cons_head]
    rw [removeHandlers, EStateM.run_bind, removeHandler, EStateM.run_modify]
    exact ih hrest

theorem run_setUp_of_ok (h : levelOfSetUp value level? = .ok level) :
    (setUp value level?).run log = .ok () (ready level) := by
  have hremoved : (removeHandlers log.handlers).run ⟨level, log.handlers⟩ = .ok () ⟨level, []⟩ :=
    run_removeHandlers rfl
  simp [setUp, h, setThreshold, addHandler, ready, hremoved]

theorem run_setUp_of_error (h : levelOfSetUp value level? = .error fault) :
    (setUp value level?).run log = .error fault log := by
  simp only [setUp, h]
  rfl

/-- A set-up returns exactly if its level can be found, and leaves nothing of the log before it. -/
theorem run_setUp_eq_ok :
    (setUp value level?).run log = .ok () log' ↔
      ∃ level, levelOfSetUp value level? = .ok level ∧ log' = ready level := by
  cases h : levelOfSetUp value level? with
  | ok level =>
    rw [run_setUp_of_ok h]
    simp [eq_comm]
  | error fault =>
    rw [run_setUp_of_error h]
    simp

/-- A set-up fails exactly if its level cannot be found, and leaves the log as it was. -/
theorem run_setUp_eq_error :
    (setUp value level?).run log = .error fault log' ↔
      levelOfSetUp value level? = .error fault ∧ log' = log := by
  cases h : levelOfSetUp value level? with
  | ok level =>
    rw [run_setUp_of_ok h]
    simp
  | error fault' =>
    rw [run_setUp_of_error h]
    simp [eq_comm]

theorem formatFor_eq_detailed : formatFor level = .detailed ↔ level < .info := by
  unfold formatFor
  by_cases h : level ≥ Level.info
  · simp [h]
  · simp only [if_neg h, true_iff]
    exact Int.not_le.1 h

/-- A log with one handler writes a record that passes once, if its level has a name, and no other
one. -/
theorem write_ready (paint : Paint) (level record : Level) (site : Site) (message : String) :
    (ready level).write paint record site message =
      if 0 < record ∧ level ≤ record then
        record.name.map fun name =>
          (formatFor level).colored paint record name site message ++ "\n"
      else .ok "" := by
  have hpasses : passes level record = decide (0 < record ∧ level ≤ record) :=
    (Bool.decide_and ..).symm
  unfold write
  show (if passes level record = true then _ else _) = _
  rw [hpasses]
  by_cases h : 0 < record ∧ level ≤ record
  · simp only [h, and_self, decide_true, if_true]
    cases record.name with
    | ok name =>
      have hone : String.join ((ready level).handlers.map fun f =>
          f.colored paint record name site message ++ "\n") =
            (formatFor level).colored paint record name site message ++ "\n" := by
        simp [ready, String.join]
      exact congrArg Except.ok hone
    | error fault => rfl
  · simp only [h, decide_false, if_false, Bool.false_eq_true]
    rfl

end Logging

/-! ## Sessions -/

/-- What is done in a session. -/
inductive Step where
  | environment (value : Option String)
  | setUp (level? : Option Level)
  | record (level : Level) (site : Site) (message : String)

/-- A log and the value of the variable that names a level for it. -/
structure Session where
  value : Option String
  log : Logging

/-- The levels of the set-ups that return, in order: each is given, or found in the environment as
it is by then. -/
def levelsSet (value : Option String) : List Step → List Level
  | [] => []
  | .environment value :: rest => levelsSet value rest
  | .setUp level? :: rest =>
    match Logging.levelOfSetUp value level? with
    | .ok level => level :: levelsSet value rest
    | .error _ => levelsSet value rest
  | .record .. :: rest => levelsSet value rest

namespace Session

open Logging (levelOfSetUp ready formatFor)

/-- A session in which nothing was set up. -/
def start (value : Option String) : Session := ⟨value, .initial⟩

/-- The session after a step. What a set-up that fails has changed of the log stays changed. -/
def step (s : Session) : Step → Session
  | .environment value => { s with value := value }
  | .setUp level? =>
    match (Logging.setUp s.value level?).run s.log with
    | .ok _ log => { s with log := log }
    | .error _ log => { s with log := log }
  | .record .. => s

/-- The session after some steps. -/
def run (s : Session) (steps : List Step) : Session := steps.foldl step s

/-- What a step writes. -/
def output (paint : Paint) (s : Session) : Step → Except ConversionFault String
  | .record level site message => s.log.write paint level site message
  | _ => .ok ""

theorem step_setUp_of_ok {s : Session} {level? : Option Level} {level : Level}
    (h : levelOfSetUp s.value level? = .ok level) :
    s.step (.setUp level?) = ⟨s.value, ready level⟩ := by
  rw [step, Logging.run_setUp_of_ok h]

theorem step_setUp_of_error {s : Session} {level? : Option Level} {fault : ConversionFault}
    (h : levelOfSetUp s.value level? = .error fault) : s.step (.setUp level?) = s := by
  rw [step, Logging.run_setUp_of_error h]

/-- The last set-up that returned has made the log, and without one it is as it was. -/
theorem log_run (s : Session) (steps : List Step) :
    (s.run steps).log = ((levelsSet s.value steps).getLast?.map ready).getD s.log := by
  induction steps generalizing s with
  | nil => rfl
  | cons first rest ih =>
    show ((s.step first).run rest).log = _
    rw [ih]
    cases first with
    | environment value => rfl
    | record level site message => rfl
    | setUp level? =>
      cases h : levelOfSetUp s.value level? with
      | error fault =>
        rw [step_setUp_of_error h]
        simp only [levelsSet, h]
      | ok level =>
        rw [step_setUp_of_ok h]
        simp only [levelsSet, h, List.getLast?_cons]
        cases (levelsSet s.value rest).getLast? <;> rfl

/-- Once a set-up has returned, the log is at the level of the last one that did, and has one
handler, which is detailed exactly below the level of information. Every record is written once if
its level is above zero and not below that level, and otherwise not at all; there is no record only
if its level would have a name of too many digits. Whether a set-up returns depends on its level
alone; one that fails leaves the log as it was. -/
theorem run_after_setUp (paint : Paint) (value : Option String) (steps : List Step) (level : Level)
    (hlast : (levelsSet value steps).getLast? = some level) :
    let s := (start value).run steps
    s.log.threshold = level ∧
      (∃ f, s.log.handlers = [f] ∧ (f = .detailed ↔ level < .info) ∧
        ∀ r site message, s.output paint (.record r site message) =
          if 0 < r ∧ level ≤ r then
            r.name.map fun name => f.colored paint r name site message ++ "\n"
          else .ok "") ∧
      (∀ (r : Level) (fault : ConversionFault), r.name = .error fault ↔
        fault = .longInteger ∧ Decimal.exceedsDigitLimit r = true) ∧
      (∀ more, (s.run more).log.handlers.length = 1) ∧
      (∀ value level? log log', (Logging.setUp value level?).run log = .ok () log' ↔
        ∃ level, levelOfSetUp value level? = .ok level ∧ log' = ready level) ∧
      ∀ value level? log fault log', (Logging.setUp value level?).run log = .error fault log' →
        log' = log := by
  intro s
  have hlog : s.log = ready level := by
    rw [log_run (start value) steps]
    show ((levelsSet value steps).getLast?.map ready).getD _ = _
    rw [hlast]
    rfl
  refine ⟨?_, ⟨formatFor level, ?_, Logging.formatFor_eq_detailed, ?_⟩, ?_, ?_, ?_, ?_⟩
  · rw [hlog]
    rfl
  · rw [hlog]
    rfl
  · intro r site message
    rw [output, hlog, Logging.write_ready]
  · intro r fault
    exact Level.name_eq_error
  · intro more
    rw [log_run s more, hlog]
    cases (levelsSet s.value more).getLast? <;> rfl
  · intro value level? log log'
    exact Logging.run_setUp_eq_ok
  · intro value level? log fault log' h
    exact (Logging.run_setUp_eq_error.1 h).2

/-- The environment names a level in small letters and then one that is no number, so that the
second set-up fails; the log keeps the first one's level, handler and format. -/
theorem run_after_setUp_failed :
    let steps : List Step :=
      [.setUp (some .error), .environment (some " debug"), .setUp none, .environment (some "²"),
        .setUp none]
    let s := (start none).run steps
    let site : Site := ⟨"/w/Main.hs", 3, "main"⟩
    (levelsSet none steps).getLast? = some .debug ∧
      s.log.threshold = .debug ∧ s.log.handlers.length = 1 ∧
      s.output terminalPaint (.record .trace site "m") = .ok "" ∧
      s.output terminalPaint (.record .debug site "m") =
        .ok "\x1b[90m[DEBUG] [Main.hs:3] [main] m\x1b[39m\n" ∧
      (Logging.setUp s.value none).run s.log = .error (.notInteger 10 "²") s.log := by
  intro steps s site
  have hlast : (levelsSet none steps).getLast? = some .debug := by decide +kernel
  obtain ⟨hthreshold, ⟨f, hhandlers, hdetailed, houtput⟩, -, hmore, -, -⟩ :=
    run_after_setUp terminalPaint none steps .debug hlast
  have hf : f = .detailed := hdetailed.2 (by decide)
  refine ⟨hlast, hthreshold, hmore [], ?_, ?_, ?_⟩
  · rw [houtput]
    rfl
  · rw [houtput, hf]
    decide +kernel
  · have hvalue : levelOfSetUp s.value none = .error (.notInteger 10 "²") := by
      decide +kernel
    exact Logging.run_setUp_of_error hvalue

end Session

end FormatterConfig.Log
