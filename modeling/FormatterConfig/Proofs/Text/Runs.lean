import Mathlib.Data.List.TakeWhile

set_option autoImplicit false

/-! # Maximal runs

A reader takes characters of a class as long as they come. If what follows a run does not go on with
a character of the class, the reader takes exactly that run, and a text falls apart into such a run
and what follows it in one way only. -/

namespace FormatterConfig.Text

variable {p : Char → Bool}

/-- A text does not go on with a character of a class. -/
def Stops (p : Char → Bool) (rest : List Char) : Prop := ∀ c ∈ rest.head?, p c = false

@[simp] theorem stops_nil : Stops p [] := by simp [Stops]

@[simp] theorem stops_cons (c : Char) (rest : List Char) : Stops p (c :: rest) ↔ p c = false := by
  simp [Stops]

theorem stops_beq {a : Char} {rest : List Char} :
    Stops (· == a) rest ↔ ∀ tail, rest ≠ a :: tail := by
  cases rest with
  | nil => simp
  | cons c rest => simp [Stops]

theorem stops_dropWhile (p : Char → Bool) (cs : List Char) : Stops p (cs.dropWhile p) := by
  intro c hc
  have h := List.head?_dropWhile_not p cs
  rw [Option.mem_def.1 hc] at h
  simpa using h

theorem takeWhile_append_of_stops {run rest : List Char} (hrun : run.all p = true)
    (hrest : Stops p rest) : (run ++ rest).takeWhile p = run := by
  rw [List.takeWhile_append_of_pos (List.all_eq_true.1 hrun)]
  cases rest with
  | nil => simp
  | cons c rest => simp [(stops_cons c rest).1 hrest]

theorem dropWhile_append_of_stops {run rest : List Char} (hrun : run.all p = true)
    (hrest : Stops p rest) : (run ++ rest).dropWhile p = rest := by
  rw [List.dropWhile_append_of_pos (List.all_eq_true.1 hrun)]
  cases rest with
  | nil => rfl
  | cons c rest => simp [(stops_cons c rest).1 hrest]

/-- Where a run ends is determined by the text. -/
theorem append_inj_of_stops {run run' rest rest' : List Char} (hrun : run.all p = true)
    (hrest : Stops p rest) (hrun' : run'.all p = true) (hrest' : Stops p rest')
    (h : run ++ rest = run' ++ rest') : run = run' ∧ rest = rest' := by
  have htake := congrArg (List.takeWhile p) h
  have hdrop := congrArg (List.dropWhile p) h
  rw [takeWhile_append_of_stops hrun hrest, takeWhile_append_of_stops hrun' hrest'] at htake
  rw [dropWhile_append_of_stops hrun hrest, dropWhile_append_of_stops hrun' hrest'] at hdrop
  exact ⟨htake, hdrop⟩

/-- What a reader takes off a text is a run, and what it leaves does not go on with the class. -/
theorem takeWhile_run (p : Char → Bool) (cs : List Char) :
    (cs.takeWhile p).all p = true ∧ cs = cs.takeWhile p ++ cs.dropWhile p ∧
      Stops p (cs.dropWhile p) :=
  ⟨List.all_takeWhile, List.takeWhile_append_dropWhile.symm, stops_dropWhile p cs⟩

end FormatterConfig.Text
