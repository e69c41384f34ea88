import FormatterConfig.Error
import FormatterConfig.Log.Record

set_option autoImplicit false

/-! # What a run depends on

Two things in the reading of a document are decided elsewhere. One is what decodes it. The other is
how far the stack reaches: a message that shows a value goes into everything that the value holds,
and for a value that nests too deep there is no such message. -/

namespace FormatterConfig

/-- What is given to a run that reads documents. -/
structure Runtime where
  decode : Yaml.Decoder
  /-- Whether the stack suffices for a message to show a value. -/
  shows : Value → Bool

/-- The value that the wording of a cause shows with everything that it holds. -/
def ConfigError.Cause.shown? : ConfigError.Cause → Option Value
  | .check (.wrongKind _ _ found) => some found
  | _ => none

namespace Runtime

/-- A run whose stack suffices for every value. -/
def ample (decode : Yaml.Decoder) : Runtime := ⟨decode, fun _ => true⟩

/-- Whether the stack suffices for the wording of a refusal. -/
def canWord (runtime : Runtime) (error : ConfigError) : Bool :=
  error.cause.shown?.all runtime.shows

/-- What a failure comes to: a refusal that cannot be worded breaks the reading off. -/
def limit (runtime : Runtime) : Failure → Failure
  | .refused error =>
    if runtime.canWord error then .refused error else .broken (.crash .tooDeepToShow)
  | .broken breakdown => .broken breakdown

/-- What reading comes to. A refusal that cannot be worded leaves no note, which would be the last
one. -/
def bound {α : Type} (runtime : Runtime) (reading : Logged Failure α) : Logged Failure α :=
  match reading.outcome with
  | .error (.refused error) =>
    if runtime.canWord error then reading
    else ⟨.error (.broken (.crash .tooDeepToShow)), reading.records.dropLast⟩
  | _ => reading

theorem outcome_bound {α : Type} (runtime : Runtime) (reading : Logged Failure α) :
    (runtime.bound reading).outcome = reading.outcome.mapError runtime.limit := by
  obtain ⟨outcome, records⟩ := reading
  cases outcome with
  | ok a => rfl
  | error failure =>
    cases failure with
    | broken breakdown => rfl
    | refused error =>
      show (bound _ _).outcome = Except.error (limit _ _)
      unfold bound limit
      dsimp only
      split <;> rfl

theorem limit_eq_refused {runtime : Runtime} {failure : Failure} {error : ConfigError} :
    runtime.limit failure = .refused error ↔
      failure = .refused error ∧ runtime.canWord error = true := by
  cases failure with
  | broken breakdown => simp [limit]
  | refused e =>
    constructor
    · intro h
      cases hwords : runtime.canWord e with
      | true =>
        obtain rfl : e = error := by simpa [limit, hwords] using h
        exact ⟨rfl, hwords⟩
      | false => simp [limit, hwords] at h
    · rintro ⟨h, hwords⟩
      cases h
      simp [limit, hwords]

theorem limit_eq_broken {runtime : Runtime} {failure : Failure} {breakdown : Breakdown} :
    runtime.limit failure = .broken breakdown ↔
      failure = .broken breakdown ∨
        (∃ error, failure = .refused error ∧ runtime.canWord error = false) ∧
          .crash .tooDeepToShow = breakdown := by
  cases failure with
  | broken breakdown' => simp [limit]
  | refused e => cases hwords : runtime.canWord e <;> simp [limit, hwords]

end Runtime

end FormatterConfig
