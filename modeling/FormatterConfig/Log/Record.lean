import FormatterConfig.Value.Conversion

set_option autoImplicit false

/-! # Log records

A record is a message with a level and the name of the logger that wrote it. Levels are integers,
the usual ones with names. `Logged` is an outcome together with the records written on the way to
it, whether it is a success or an error. -/

namespace FormatterConfig.Log

/-- The importance of a record. -/
abbrev Level := Int

def Level.trace : Level := 5
def Level.debug : Level := 10
def Level.info : Level := 20
def Level.warning : Level := 30
def Level.error : Level := 40
def Level.critical : Level := 50

/-- The names of levels. -/
def Level.names : List (Level × String) :=
  [(50, "CRITICAL"), (40, "ERROR"), (30, "WARNING"), (20, "INFO"), (10, "DEBUG"), (5, "TRACE"),
    (0, "NOTSET")]

/-- The name of a level in a record's text. A level without one is shown by its number, if that can
be written out. -/
def Level.name (level : Level) : Except ConversionFault String :=
  match Level.names.find? (·.1 == level) with
  | some (_, name) => .ok name
  | none => (writeInteger level).map ("Level " ++ ·)

/-- A level has a name unless its number is too long to be written out. -/
theorem Level.name_eq_error {level : Level} {fault : ConversionFault} :
    level.name = .error fault ↔
      fault = .longInteger ∧ Decimal.exceedsDigitLimit level = true := by
  have hshort : ∀ e ∈ names, e.1.natAbs < Nat.pow 10 2 := by decide
  unfold name writeInteger
  split
  · next n _ hfound =>
    have hlevel : n = level := by simpa using List.find?_some hfound
    have hwritten : Decimal.exceedsDigitLimit n = false :=
      Decimal.exceedsDigitLimit_of_lt (by decide) (hshort _ (List.mem_of_find?_eq_some hfound))
    simp [← hlevel, hwritten]
  · cases Decimal.exceedsDigitLimit level <;> simp [Except.map, eq_comm]

/-- A message for the log. -/
structure Record where
  level : Level
  logger : String
  message : String
  deriving DecidableEq

/-- Whether a log at a threshold lets a record through: levels of zero and below never pass. -/
def passes (threshold level : Level) : Bool := decide (0 < level) && decide (threshold ≤ level)

end FormatterConfig.Log

namespace FormatterConfig

open Log

/-- An outcome and the records written on the way to it. -/
structure Logged (ε α : Type) where
  outcome : Except ε α
  records : List Record

namespace Logged

variable {ε α β : Type}

/-- A success without records. -/
def ok (a : α) : Logged ε α := ⟨.ok a, []⟩

/-- An error without records. -/
def fail (e : ε) : Logged ε α := ⟨.error e, []⟩

/-- Goes on with a success; an error ends the run. The records of both parts are kept. -/
def andThen (x : Logged ε α) (f : α → Logged ε β) : Logged ε β :=
  match x.outcome with
  | .ok a => ⟨(f a).outcome, x.records ++ (f a).records⟩
  | .error e => ⟨.error e, x.records⟩

instance : Monad (Logged ε) where
  pure := ok
  bind := andThen

/-- Writes a record. -/
def note (level : Level) (logger message : String) : Logged ε Unit :=
  ⟨.ok (), [⟨level, logger, message⟩]⟩

/-- An outcome without records. -/
def ofExcept (x : Except ε α) : Logged ε α := ⟨x, []⟩

/-- Changes the error. -/
def mapError {ε' : Type} (f : ε → ε') (x : Logged ε α) : Logged ε' α :=
  ⟨x.outcome.mapError f, x.records⟩

/-- Goes on with an error; the records written before it are kept. -/
def orElse {ε' : Type} (x : Logged ε α) (handler : ε → Logged ε' α) : Logged ε' α :=
  match x.outcome with
  | .ok a => ⟨.ok a, x.records⟩
  | .error e => ⟨(handler e).outcome, x.records ++ (handler e).records⟩

@[simp] theorem outcome_pure (a : α) : (pure a : Logged ε α).outcome = .ok a := rfl

@[simp] theorem outcome_fail (e : ε) : (fail e : Logged ε α).outcome = .error e := rfl

@[simp] theorem outcome_ofExcept (x : Except ε α) : (ofExcept x).outcome = x := rfl

@[simp] theorem outcome_note (level : Level) (logger message : String) :
    (note level logger message : Logged ε Unit).outcome = .ok () := rfl

/-- The outcome of a sequence depends on the outcomes of its parts alone. -/
@[simp] theorem outcome_bind (x : Logged ε α) (f : α → Logged ε β) :
    (x >>= f).outcome = x.outcome >>= fun a => (f a).outcome := by
  show (andThen x f).outcome = _
  unfold andThen
  cases x.outcome <;> rfl

end Logged

end FormatterConfig
