import FormatterConfig.Value.Conversion
import Mathlib.Data.List.TakeWhile
import Mathlib.Data.Nat.Digits.Defs
import Mathlib.Tactic.Ring

set_option autoImplicit false

/-! # Runs of digits

A digit may be a decimal digit of some script, or only be written like one. A run of digits is read
as an integer exactly if all of them are decimal and there are not too many of them. The integer is
what the digits denote by their places, whatever scripts they are of (`readInteger_eq_ok`). Otherwise
the decimal digits in front decide how the reading fails (`Unreadable`). -/

namespace FormatterConfig.Text

/-- Whether a character is a decimal digit, of any script. -/
def isDecimal (c : Char) : Bool := (decimalValue? c).isSome

theorem isDigit_of_isDecimal {c : Char} (h : isDecimal c = true) : isDigit c = true := by
  rw [isDigit, ← isDecimal, h, Bool.true_or]

/-- A decimal digit stands in a script's run of ten, at the place of its value. -/
theorem decimalValue?_eq_some {c : Char} {v : Nat} (h : decimalValue? c = some v) :
    v < 10 ∧ ∃ z ∈ decimalZeros, c.toNat = z + v := by
  rw [decimalValue?, Option.map_eq_some_iff] at h
  obtain ⟨z, hz, rfl⟩ := h
  have hrange := List.find?_some hz
  simp only [Bool.and_eq_true, decide_eq_true_eq] at hrange
  refine ⟨by omega, z, List.mem_of_find?_eq_some hz, by omega⟩

/-- The only digits below the end of ASCII are its own ten. -/
theorem isDigit_ascii {c : Char} (hdigit : isDigit c = true) (hc : c.toNat < 0x7F) :
    ∃ v, decimalValue? c = some v ∧ c = Char.ofNat (48 + v) := by
  have hzeros : ∀ z ∈ decimalZeros, z = 48 ∨ 0x7F ≤ z := by decide
  have hloose : ∀ r ∈ looseDigitRanges, 0x7F ≤ r.1 := by decide
  rw [isDigit, Bool.or_eq_true] at hdigit
  rcases hdigit with hdecimal | hdigit
  · obtain ⟨v, hv⟩ := Option.isSome_iff_exists.1 hdecimal
    obtain ⟨-, z, hz, hcz⟩ := decimalValue?_eq_some hv
    rcases hzeros z hz with rfl | hlarge
    · exact ⟨v, hv, by rw [← hcz, Char.ofNat_toNat]⟩
    · omega
  · obtain ⟨r, hr, hle, -⟩ := Ranges.has_iff.1 hdigit
    have := hloose r hr
    omega

/-- No digit is white space. -/
theorem isBlank_of_isDigit {c : Char} (h : isDigit c = true) : isBlank c = false := by
  have hzeros : ∀ z ∈ decimalZeros, ∀ r ∈ blankRanges, r.2 < z ∨ z + 9 < r.1 := by decide
  have hloose : looseDigitRanges.apart blankRanges = true := by decide
  rw [isDigit, Bool.or_eq_true] at h
  rcases h with hdecimal | hdigit
  · obtain ⟨v, hv⟩ := Option.isSome_iff_exists.1 hdecimal
    obtain ⟨hv10, z, hz, hcz⟩ := decimalValue?_eq_some hv
    rw [isBlank, Bool.eq_false_iff]
    intro hblank
    obtain ⟨r, hr, hle, hge⟩ := Ranges.has_iff.1 hblank
    have := hzeros z hz r hr
    omega
  · exact Ranges.has_eq_false_of_apart hloose hdigit

end FormatterConfig.Text

namespace FormatterConfig.Decimal

open FormatterConfig.Text

/-! ## The ASCII form of digits -/

/-- What stands for a digit in the ASCII form of a text. -/
def asciiDigit (c : Char) : Char :=
  match decimalValue? c with
  | some v => Char.ofNat (48 + v)
  | none => '?'

theorem asciiDigit_of_some {c : Char} {v : Nat} (h : decimalValue? c = some v) :
    asciiDigit c = Char.ofNat (48 + v) := by
  rw [asciiDigit, h]

theorem asciiDigit_of_none {c : Char} (h : decimalValue? c = none) : asciiDigit c = '?' := by
  rw [asciiDigit, h]

theorem asciiForm_of_isDigit {cs : List Char} (h : ∀ c ∈ cs, isDigit c = true) :
    asciiForm cs = cs.map asciiDigit := by
  unfold asciiForm
  apply List.map_congr_left
  intro c hc
  by_cases hascii : c.toNat < 0x7F
  · obtain ⟨v, hv, hcv⟩ := isDigit_ascii (h c hc) hascii
    rw [if_pos hascii, asciiDigit_of_some hv]
    exact hcv
  · rw [if_neg hascii, isBlank_of_isDigit (h c hc)]
    rfl

/-- The ASCII digit of a value, as the scanner sees it. -/
theorem digitValue?_ofNat {v : Nat} (h : v < 10) :
    digitValue? (Char.ofNat (48 + v)) = some v ∧ Char.ofNat (48 + v) ≠ '_' ∧
      isPadding (Char.ofNat (48 + v)) = false ∧ Char.ofNat (48 + v) ≠ '-' ∧
      Char.ofNat (48 + v) ≠ '+' := by
  have hall : ∀ v < 10, digitValue? (Char.ofNat (48 + v)) = some v ∧ Char.ofNat (48 + v) ≠ '_' ∧
      isPadding (Char.ofNat (48 + v)) = false ∧ Char.ofNat (48 + v) ≠ '-' ∧
      Char.ofNat (48 + v) ≠ '+' := by decide
  exact hall v h

/-- What stands for a digit that is not decimal is no digit to the scanner. -/
theorem digitValue?_mark : digitValue? '?' = none := by decide

/-- What stands for a digit is neither white space nor a sign. -/
theorem asciiDigit_plain (c : Char) :
    isPadding (asciiDigit c) = false ∧ asciiDigit c ≠ '-' ∧ asciiDigit c ≠ '+' := by
  cases hv : decimalValue? c with
  | none =>
    rw [asciiDigit_of_none hv]
    decide
  | some v =>
    rw [asciiDigit_of_some hv]
    exact (digitValue?_ofNat (decimalValue?_eq_some hv).1).2.2

theorem dropWhile_isPadding_map (cs : List Char) :
    (cs.map asciiDigit).dropWhile isPadding = cs.map asciiDigit := by
  cases cs with
  | nil => rfl
  | cons c rest => simp [(asciiDigit_plain c).1]

theorem splitSign_map (cs : List Char) : splitSign (cs.map asciiDigit) = (false, cs.map asciiDigit) := by
  cases cs with
  | nil => rfl
  | cons c rest =>
    obtain ⟨-, hminus, hplus⟩ := asciiDigit_plain c
    rw [List.map_cons]
    unfold splitSign
    split
    · next heq => exact absurd (List.cons.inj heq).1 hminus
    · next heq => exact absurd (List.cons.inj heq).1 hplus
    · rfl

theorem all_isPadding_map (cs : List Char) :
    (cs.map asciiDigit).all isPadding = true ↔ cs = [] := by
  cases cs with
  | nil => simp
  | cons c rest => simp [(asciiDigit_plain c).1]

/-! ## Scanning -/

/-- The number that decimal digits of any script denote: each digit by its place. -/
def placeValue (digits : List Char) : Nat :=
  Nat.ofDigits 10 (digits.reverse.map fun c => (decimalValue? c).getD 0)

theorem placeValue_cons (c : Char) (cs : List Char) :
    placeValue (c :: cs) = (decimalValue? c).getD 0 * 10 ^ cs.length + placeValue cs := by
  simp only [placeValue, List.reverse_cons, List.map_append, List.map_cons, List.map_nil,
    Nat.ofDigits_append, Nat.ofDigits_singleton, List.length_map, List.length_reverse]
  ring

/-- The scanner takes the decimal digits in front and stops before the first other one. -/
theorem scanDigits_map (value count : Nat) (cs : List Char) :
    scanDigits 10 value count false (cs.map asciiDigit) =
      (value * 10 ^ (cs.takeWhile isDecimal).length + placeValue (cs.takeWhile isDecimal),
        count + (cs.takeWhile isDecimal).length, false,
        (cs.dropWhile isDecimal).map asciiDigit) := by
  induction cs generalizing value count with
  | nil => simp [scanDigits, placeValue]
  | cons c rest ih =>
    cases hv : decimalValue? c with
    | none =>
      have hc : ¬ isDecimal c = true := by simp [isDecimal, hv]
      rw [List.takeWhile_cons_of_neg hc, List.dropWhile_cons_of_neg hc, List.map_cons,
        asciiDigit_of_none hv]
      simp [scanDigits, digitValue?_mark, placeValue]
    | some v =>
      have hc : isDecimal c = true := by simp [isDecimal, hv]
      have hv10 := (decimalValue?_eq_some hv).1
      obtain ⟨hvalue, hline, -⟩ := digitValue?_ofNat hv10
      rw [List.takeWhile_cons_of_pos hc, List.dropWhile_cons_of_pos hc, List.map_cons,
        asciiDigit_of_some hv, scanDigits, if_neg hline, hvalue]
      simp only [hv10, if_true, ih, placeValue_cons, hv, Option.getD_some, List.length_cons]
      refine Prod.ext ?_ (Prod.ext ?_ rfl)
      · ring
      · simp only
        omega

/-- In front of any digit, a scan is one behind a digit unless there is none. -/
theorem scanDigits_start {c : Char} (rest : List Char) (h : isDecimal c = true) :
    scanDigits 10 0 0 true ((c :: rest).map asciiDigit) =
      scanDigits 10 0 0 false ((c :: rest).map asciiDigit) := by
  obtain ⟨v, hv⟩ := Option.isSome_iff_exists.1 h
  obtain ⟨hvalue, hline, -⟩ := digitValue?_ofNat (decimalValue?_eq_some hv).1
  rw [List.map_cons, asciiDigit_of_some hv, scanDigits, scanDigits, if_neg hline, if_neg hline,
    hvalue]
  simp only [(decimalValue?_eq_some hv).1, if_true]

/-! ## Reading -/

/-- A run of digits, decimal or not. -/
structure IsDigitRun (cs : List Char) : Prop where
  ne_nil : cs ≠ []
  digits : ∀ c ∈ cs, isDigit c = true

theorem isDigitRun_iff {cs : List Char} :
    IsDigitRun cs ↔ (!cs.isEmpty && cs.all isDigit) = true := by
  rw [Bool.and_eq_true, Bool.not_eq_true', List.isEmpty_eq_false_iff, List.all_eq_true]
  constructor
  · intro h
    exact ⟨h.ne_nil, h.digits⟩
  · rintro ⟨hne, hdigits⟩
    exact ⟨hne, hdigits⟩

/-- A run of digits that is read as an integer: all are decimal, and not too many. -/
structure IsNumeral (cs : List Char) : Prop where
  ne_nil : cs ≠ []
  decimal : ∀ c ∈ cs, isDecimal c = true
  length_le : cs.length ≤ digitLimit

theorem IsNumeral.isDigitRun {cs : List Char} (h : IsNumeral cs) : IsDigitRun cs :=
  ⟨h.ne_nil, fun c hc => isDigit_of_isDecimal (h.decimal c hc)⟩

/-- How a run of digits is not read: too many decimal digits stand in front, or else there is a digit
that is not decimal. -/
inductive Unreadable (cs : List Char) : ConversionFault → Prop where
  | tooManyDigits (h : digitLimit < (cs.takeWhile isDecimal).length) :
      Unreadable cs (.tooManyDigits (cs.takeWhile isDecimal).length)
  | notDecimal (hlength : (cs.takeWhile isDecimal).length ≤ digitLimit) {c : Char} (hc : c ∈ cs)
      (hdecimal : isDecimal c = false) : Unreadable cs (.notInteger 10 (String.ofList cs))

/-- What the reading of digits makes of their scan. -/
theorem readInteger_of_digits {cs : List Char} (h : ∀ c ∈ cs, isDigit c = true) :
    readInteger 10 cs =
      let scan := scanDigits 10 0 0 true (cs.map asciiDigit)
      if scan.2.2.1 then .error .malformed
      else if digitLimit < scan.2.1 then .error (.tooManyDigits scan.2.1)
      else if scan.2.2.2.all isPadding then .ok scan.1 else .error .malformed := by
  unfold readInteger
  rw [asciiForm_of_isDigit h, dropWhile_isPadding_map]
  simp only [splitSign_map]
  simp [dropBaseMarker]

/-- Only the decimal digits in front are scanned. -/
theorem readInteger_of_isDigitRun {cs : List Char} (h : IsDigitRun cs) :
    readInteger 10 cs =
      if digitLimit < (cs.takeWhile isDecimal).length then
        .error (.tooManyDigits (cs.takeWhile isDecimal).length)
      else if cs.dropWhile isDecimal = [] then .ok (placeValue (cs.takeWhile isDecimal))
      else .error .malformed := by
  rw [readInteger_of_digits h.digits]
  cases cs with
  | nil => exact absurd rfl h.ne_nil
  | cons c rest =>
    by_cases hc : isDecimal c = true
    · simp only [scanDigits_start rest hc, scanDigits_map, all_isPadding_map, Nat.zero_mul,
        Nat.zero_add, Bool.false_eq_true, if_false]
    · -- nothing is scanned, so that a digit is missing at the start
      have hmark := asciiDigit_of_none (Option.not_isSome_iff_eq_none.1 hc)
      simp [hmark, scanDigits, digitValue?_mark, List.takeWhile_cons_of_neg hc,
        List.dropWhile_cons_of_neg hc]

variable {cs : List Char}

/-- A run of digits is read exactly if it is a numeral, as what its digits denote. -/
theorem readInteger_eq_ok {n : Int} (h : IsDigitRun cs) :
    readInteger 10 cs = .ok n ↔ IsNumeral cs ∧ n = placeValue cs := by
  rw [readInteger_of_isDigitRun h]
  by_cases hall : ∀ c ∈ cs, isDecimal c = true
  · rw [List.takeWhile_eq_self_iff.2 hall, if_pos (List.dropWhile_eq_nil_iff.2 hall)]
    by_cases hlength : digitLimit < cs.length
    · rw [if_pos hlength]
      constructor
      · intro heq
        exact nomatch heq
      · rintro ⟨hnumeral, -⟩
        have := hnumeral.length_le
        omega
    · rw [if_neg hlength]
      constructor
      · intro heq
        exact ⟨⟨h.ne_nil, hall, Nat.le_of_not_lt hlength⟩, (Except.ok.inj heq).symm⟩
      · rintro ⟨-, rfl⟩
        rfl
  · rw [if_neg (mt List.dropWhile_eq_nil_iff.1 hall)]
    constructor
    · intro heq
      split at heq <;> exact nomatch heq
    · rintro ⟨hnumeral, -⟩
      exact absurd hnumeral.decimal hall

/-- A run of digits is not read exactly for one of the two causes. -/
theorem readInteger_eq_error {fault : ConversionFault} (h : IsDigitRun cs) :
    (∃ cause, readInteger 10 cs = .error cause ∧
      ConversionFault.ofNumeral 10 (String.ofList cs) cause = fault) ↔ Unreadable cs fault := by
  rw [readInteger_of_isDigitRun h]
  by_cases hlength : digitLimit < (cs.takeWhile isDecimal).length
  · rw [if_pos hlength]
    constructor
    · rintro ⟨cause, hcause, rfl⟩
      obtain rfl := Except.error.inj hcause
      exact .tooManyDigits hlength
    · intro hfault
      cases hfault with
      | tooManyDigits => exact ⟨_, rfl, rfl⟩
      | notDecimal hle => omega
  · rw [if_neg hlength]
    by_cases hall : ∀ c ∈ cs, isDecimal c = true
    · rw [if_pos (List.dropWhile_eq_nil_iff.2 hall)]
      constructor
      · rintro ⟨cause, hcause, -⟩
        exact nomatch hcause
      · intro hfault
        cases hfault with
        | tooManyDigits hlong => exact absurd hlong hlength
        | notDecimal _ hc hdecimal => exact absurd (hall _ hc) (by simp [hdecimal])
    · rw [if_neg (mt List.dropWhile_eq_nil_iff.1 hall)]
      constructor
      · rintro ⟨cause, hcause, rfl⟩
        obtain rfl := Except.error.inj hcause
        push Not at hall
        obtain ⟨c, hc, hdecimal⟩ := hall
        exact .notDecimal (Nat.le_of_not_lt hlength) hc (Bool.eq_false_iff.2 hdecimal)
      · intro hfault
        cases hfault with
        | tooManyDigits hlong => exact absurd hlong hlength
        | notDecimal => exact ⟨_, rfl, rfl⟩

theorem IsDigitRun.not_unreadable {n : Int} {fault : ConversionFault} (h : IsDigitRun cs)
    (hread : readInteger 10 cs = .ok n) : ¬ Unreadable cs fault := by
  intro hunreadable
  obtain ⟨cause, hcause, -⟩ := (readInteger_eq_error h).2 hunreadable
  rw [hread] at hcause
  exact nomatch hcause

/-- A run of digits is a numeral or is not read. -/
theorem IsDigitRun.isNumeral_or_unreadable (h : IsDigitRun cs) :
    IsNumeral cs ∨ ∃ fault, Unreadable cs fault := by
  cases hread : readInteger 10 cs with
  | ok n => exact .inl ((readInteger_eq_ok h).1 hread).1
  | error cause => exact .inr ⟨_, (readInteger_eq_error h).1 ⟨cause, hread, rfl⟩⟩

end FormatterConfig.Decimal
