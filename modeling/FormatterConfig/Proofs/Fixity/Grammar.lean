import FormatterConfig.Fixity.Declaration
import FormatterConfig.Proofs.Text.Runs
import Mathlib.Data.Nat.Digits.Defs

set_option autoImplicit false

/-! # The grammar of fixity declarations

A declaration is derived by `direction blank+ digit+ blank+ operators blank*`, where operators are
separated by a comma and perhaps blanks, and an operator is a run of symbols or an identifier
between backticks. `Sentence` is the type of derivations: a value of it holds every part of a
declaration as it is spelled, with the proof that the part may stand there, and `Sentence.chars` is
the text that it derives. A text has at most one derivation (`Sentence.chars_inj`): no part may end
in a character that the next one starts with. -/

namespace FormatterConfig.Declaration

open FormatterConfig.Text

/-! ## Derivations -/

/-- One or more characters of a class. -/
abbrev Run (p : Char → Bool) : Type := { cs : List Char // cs ≠ [] ∧ cs.all p = true }

/-- Blanks, perhaps none. -/
abbrev Blanks : Type := { cs : List Char // cs.all isHorizontalSpace = true }

/-- An operator as a declaration spells it: a run of symbols, or an identifier between backticks. -/
inductive Spelling where
  | symbols (name : List Char) (valid : isSymbolicName name = true)
  | quoted (name : List Char) (valid : isIdentifier name = true)

/-- One or more operators; behind a comma there may be blanks. -/
inductive Operators where
  | last (op : Spelling)
  | more (op : Spelling) (gap : Blanks) (rest : Operators)

/-- The number that decimal digits denote: each digit by its place. -/
def denoted (digits : List Char) : Nat :=
  Nat.ofDigits 10 (digits.reverse.map fun d => d.toNat - 48)

/-- A derivation of a declaration. -/
structure Sentence where
  direction : Direction
  gap : Run isHorizontalSpace
  digits : Run Char.isDigit
  denoted_le : denoted digits.1 ≤ maxPrecedence
  gap' : Run isHorizontalSpace
  operators : Operators
  trailing : Blanks

/-! ## What a derivation says and what it derives -/

namespace Spelling

/-- The operator's name, without backticks. -/
def name : Spelling → List Char
  | .symbols name _ => name
  | .quoted name _ => name

/-- The operator as it is spelled. -/
def chars : Spelling → List Char
  | .symbols name _ => name
  | .quoted name _ => '\x60' :: name ++ ['\x60']

end Spelling

namespace Operators

/-- The names of the operators, in order. -/
def names : Operators → List String
  | .last op => [String.ofList op.name]
  | .more op _ rest => String.ofList op.name :: rest.names

/-- The operators as they are spelled. -/
def chars : Operators → List Char
  | .last op => op.chars
  | .more op gap rest => op.chars ++ ',' :: (gap.1 ++ rest.chars)

end Operators

namespace Sentence

/-- The precedence that a declaration states. -/
def precedence (s : Sentence) : Nat := denoted s.digits.1

/-- The text that a derivation derives. -/
def chars (s : Sentence) : List Char :=
  (Choice.direction s.direction).tag.toList ++ (s.gap.1 ++ (s.digits.1 ++ (s.gap'.1 ++
    (s.operators.chars ++ s.trailing.1))))

/-- The operators of a declaration, each with the fixity that the declaration states. -/
def pairs (s : Sentence) : List (String × Fixity) :=
  s.operators.names.map fun name => (name, ⟨some s.direction, s.precedence, s.precedence⟩)

end Sentence

/-! ## Classes of characters -/

theorem isOperatorChar_of_isHorizontalSpace {c : Char} (h : isHorizontalSpace c = true) :
    isOperatorChar c = false := by
  simp only [isHorizontalSpace, Bool.or_eq_true, beq_iff_eq] at h
  rcases h with rfl | rfl <;> decide +kernel

theorem isDigit_of_isHorizontalSpace {c : Char} (h : isHorizontalSpace c = true) :
    c.isDigit = false := by
  simp only [isHorizontalSpace, Bool.or_eq_true, beq_iff_eq] at h
  rcases h with rfl | rfl <;> decide +kernel

theorem isHorizontalSpace_of_isDigit {c : Char} (h : c.isDigit = true) :
    isHorizontalSpace c = false := by
  rw [Bool.eq_false_iff]
  intro hblank
  rw [isDigit_of_isHorizontalSpace hblank] at h
  exact Bool.false_ne_true h

theorem isHorizontalSpace_of_isOperatorChar {c : Char} (h : isOperatorChar c = true) :
    isHorizontalSpace c = false := by
  rw [Bool.eq_false_iff]
  intro hblank
  rw [isOperatorChar_of_isHorizontalSpace hblank] at h
  exact Bool.false_ne_true h

theorem isOperatorChar_comma : isOperatorChar ',' = false := by decide +kernel

theorem isOperatorChar_backtick : isOperatorChar '\x60' = false := by decide +kernel

theorem isIdentifierChar_backtick : isIdentifierChar '\x60' = false := by decide +kernel

theorem isIdentifierChar_of_isLetter {c : Char} (h : isLetter c = true) :
    isIdentifierChar c = true := by
  simp [isIdentifierChar, isAlphanumeric_of_isLetter h]

/-! ## Where a part ends

What follows a part must not prolong it. Behind an identifier anything may follow, since its second
backtick closes it. -/

/-- A letter that makes a longer keyword out of the shortest one. -/
def isSideLetter (c : Char) : Bool := c == 'l' || c == 'r'

theorem isSideLetter_of_isHorizontalSpace {c : Char} (h : isHorizontalSpace c = true) :
    isSideLetter c = false := by
  simp only [isHorizontalSpace, Bool.or_eq_true, beq_iff_eq] at h
  rcases h with rfl | rfl <;> rfl

/-- An operator goes no further than its spelling. -/
def Spelling.Ends : Spelling → List Char → Prop
  | .symbols _ _, rest => Stops isOperatorChar rest
  | .quoted _ _, _ => True

/-- The operators go no further than their spelling. -/
def Operators.Ends : Operators → List Char → Prop
  | .last op, rest => op.Ends rest ∧ Stops (· == ',') rest
  | .more _ _ ops, rest => ops.Ends rest

/-- What a run starts with is of its class, and so outside of every class apart from it. -/
theorem stops_run_append {p q : Char → Bool} (run : Run p) (rest : List Char)
    (h : ∀ c, p c = true → q c = false) : Stops q (run.1 ++ rest) := by
  obtain ⟨cs, hne, hall⟩ := run
  cases cs with
  | nil => exact absurd rfl hne
  | cons c cs =>
    rw [List.cons_append, stops_cons]
    exact h c (List.all_eq_true.1 hall c List.mem_cons_self)

theorem Blanks.stops {q : Char → Bool} (blanks : Blanks)
    (h : ∀ c, isHorizontalSpace c = true → q c = false) : Stops q blanks.1 := by
  obtain ⟨cs, hall⟩ := blanks
  cases cs with
  | nil => exact stops_nil
  | cons c cs =>
    rw [stops_cons]
    exact h c (List.all_eq_true.1 hall c List.mem_cons_self)

namespace Spelling

theorem all_of_isSymbolicName {name : List Char} (h : isSymbolicName name = true) :
    name ≠ [] ∧ name.all isOperatorChar = true := by
  simpa [isSymbolicName, List.isEmpty_eq_false_iff] using h

theorem all_of_isIdentifier {name : List Char} (h : isIdentifier name = true) :
    name.all isIdentifierChar = true := by
  cases name with
  | nil => rfl
  | cons c rest =>
    rw [isIdentifier, Bool.and_eq_true] at h
    rw [List.all_cons, Bool.and_eq_true]
    exact ⟨isIdentifierChar_of_isLetter h.1, h.2⟩

/-- A run of symbols never starts with a backtick. -/
theorem symbols_ne_backtick {name cs rest : List Char} (valid : isSymbolicName name = true) :
    name ++ rest ≠ '\x60' :: cs := by
  intro heq
  have hstop : Stops (· == '\x60') (name ++ rest) :=
    stops_run_append ⟨name, all_of_isSymbolicName valid⟩ rest fun c hc => by
      rw [beq_eq_false_iff_ne]
      rintro rfl
      rw [isOperatorChar_backtick] at hc
      exact Bool.false_ne_true hc
  exact stops_beq.1 hstop cs heq

/-- No spelling starts with a blank. -/
theorem stops_chars (op : Spelling) (rest : List Char) :
    Stops isHorizontalSpace (op.chars ++ rest) := by
  cases op with
  | symbols name valid =>
    exact stops_run_append ⟨name, all_of_isSymbolicName valid⟩ rest
      fun c => isHorizontalSpace_of_isOperatorChar
  | quoted name valid =>
    show Stops isHorizontalSpace ('\x60' :: _)
    rw [stops_cons]
    rfl

/-- Where an operator ends, and how it is spelled, is determined by the text. -/
theorem chars_append_inj {op op' : Spelling} {rest rest' : List Char} (hend : op.Ends rest)
    (hend' : op'.Ends rest') (h : op.chars ++ rest = op'.chars ++ rest') :
    op = op' ∧ rest = rest' := by
  cases op with
  | symbols name valid =>
    cases op' with
    | symbols name' valid' =>
      obtain ⟨rfl, rfl⟩ := append_inj_of_stops (all_of_isSymbolicName valid).2 hend
        (all_of_isSymbolicName valid').2 hend' h
      exact ⟨rfl, rfl⟩
    | quoted name' valid' => exact absurd h (symbols_ne_backtick valid)
  | quoted name valid =>
    cases op' with
    | symbols name' valid' => exact absurd h.symm (symbols_ne_backtick valid')
    | quoted name' valid' =>
      have hcut : name ++ '\x60' :: rest = name' ++ '\x60' :: rest' := by simpa [chars] using h
      have hstop : ∀ tail, Stops isIdentifierChar ('\x60' :: tail) := fun tail =>
        (stops_cons _ _).2 isIdentifierChar_backtick
      obtain ⟨rfl, htail⟩ := append_inj_of_stops (all_of_isIdentifier valid) (hstop rest)
        (all_of_isIdentifier valid') (hstop rest') hcut
      exact ⟨rfl, (List.cons.inj htail).2⟩

/-- A comma ends every operator. -/
theorem ends_comma (op : Spelling) (rest : List Char) : op.Ends (',' :: rest) := by
  cases op with
  | symbols name valid => exact (stops_cons _ _).2 isOperatorChar_comma
  | quoted name valid => trivial

end Spelling

namespace Operators

theorem stops_chars (ops : Operators) (rest : List Char) :
    Stops isHorizontalSpace (ops.chars ++ rest) := by
  cases ops with
  | last op => exact op.stops_chars rest
  | more op gap ops =>
    rw [chars, List.append_assoc]
    exact op.stops_chars _

/-- Blanks end every list of operators. -/
theorem ends_blanks (ops : Operators) (blanks : Blanks) : ops.Ends blanks.1 := by
  induction ops with
  | last op =>
    refine ⟨?_, blanks.stops fun c hc => ?_⟩
    · cases op with
      | symbols name valid => exact blanks.stops fun c => isOperatorChar_of_isHorizontalSpace
      | quoted name valid => trivial
    · rw [beq_eq_false_iff_ne]
      rintro rfl
      exact absurd hc (by decide)
  | more op gap ops ih => exact ih

/-- Where a list of operators ends, and how they are spelled, is determined by the text. -/
theorem chars_append_inj {ops ops' : Operators} {rest rest' : List Char} (hend : ops.Ends rest)
    (hend' : ops'.Ends rest') (h : ops.chars ++ rest = ops'.chars ++ rest') :
    ops = ops' ∧ rest = rest' := by
  induction ops generalizing ops' with
  | last op =>
    cases ops' with
    | last op' =>
      obtain ⟨rfl, rfl⟩ := Spelling.chars_append_inj hend.1 hend'.1 h
      exact ⟨rfl, rfl⟩
    | more op' gap' ops' =>
      rw [chars, chars, List.append_assoc, List.cons_append] at h
      obtain ⟨-, rfl⟩ := Spelling.chars_append_inj hend.1 (op'.ends_comma _) h
      exact absurd rfl (stops_beq.1 hend.2 _)
  | more op gap ops ih =>
    cases ops' with
    | last op' =>
      rw [chars, chars, List.append_assoc, List.cons_append] at h
      obtain ⟨-, rfl⟩ := Spelling.chars_append_inj (op.ends_comma _) hend'.1 h
      exact absurd rfl (stops_beq.1 hend'.2 _)
    | more op' gap' ops' =>
      rw [chars, chars, List.append_assoc, List.append_assoc, List.cons_append,
        List.cons_append] at h
      obtain ⟨rfl, htail⟩ := Spelling.chars_append_inj (op.ends_comma _) (op'.ends_comma _) h
      have hgap := (List.cons.inj htail).2
      rw [List.append_assoc, List.append_assoc] at hgap
      obtain ⟨hblank, hops⟩ := append_inj_of_stops gap.2 (ops.stops_chars rest) gap'.2
        (ops'.stops_chars rest') hgap
      have hlast : ops'.Ends rest' := hend'
      obtain ⟨rfl, rfl⟩ := ih hend hlast hops
      obtain rfl := Subtype.ext hblank
      exact ⟨rfl, rfl⟩

end Operators

/-- Where the keyword ends, and which one it is, is determined by the text. -/
theorem keyword_append_inj {d d' : Direction} {rest rest' : List Char}
    (hend : Stops isSideLetter rest) (hend' : Stops isSideLetter rest')
    (h : (Choice.direction d).tag.toList ++ rest = (Choice.direction d').tag.toList ++ rest') :
    d = d' ∧ rest = rest' := by
  cases d <;> cases d' <;> simp [Choice.tag] at h <;> subst h <;> simp_all [isSideLetter]

namespace Sentence

variable (s : Sentence)

/-- What is left of a declaration behind its second blanks, and so on towards its start. -/
theorem stops_rest :
    Stops isHorizontalSpace (s.operators.chars ++ s.trailing.1) ∧
      Stops Char.isDigit (s.gap'.1 ++ (s.operators.chars ++ s.trailing.1)) ∧
      Stops isHorizontalSpace (s.digits.1 ++ (s.gap'.1 ++ (s.operators.chars ++ s.trailing.1))) ∧
      Stops isSideLetter (s.gap.1 ++ (s.digits.1 ++ (s.gap'.1 ++
        (s.operators.chars ++ s.trailing.1)))) := by
  refine ⟨s.operators.stops_chars _, stops_run_append s.gap' _ fun c => isDigit_of_isHorizontalSpace,
    stops_run_append s.digits _ fun c => isHorizontalSpace_of_isDigit,
    stops_run_append s.gap _ fun c => isSideLetter_of_isHorizontalSpace⟩

/-- A text has at most one derivation. -/
theorem chars_inj {s t : Sentence} (h : s.chars = t.chars) : s = t := by
  obtain ⟨hs₁, hs₂, hs₃, hs₄⟩ := s.stops_rest
  obtain ⟨ht₁, ht₂, ht₃, ht₄⟩ := t.stops_rest
  obtain ⟨hdirection, h⟩ := keyword_append_inj hs₄ ht₄ h
  obtain ⟨hgap, h⟩ := append_inj_of_stops s.gap.2.2 hs₃ t.gap.2.2 ht₃ h
  obtain ⟨hdigits, h⟩ := append_inj_of_stops s.digits.2.2 hs₂ t.digits.2.2 ht₂ h
  obtain ⟨hgap', h⟩ := append_inj_of_stops s.gap'.2.2 hs₁ t.gap'.2.2 ht₁ h
  obtain ⟨hoperators, htrailing⟩ := Operators.chars_append_inj (s.operators.ends_blanks s.trailing)
    (t.operators.ends_blanks t.trailing) h
  cases s
  cases t
  simp_all [Subtype.ext_iff]

end Sentence

end FormatterConfig.Declaration
