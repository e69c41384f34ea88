import FormatterConfig.Proofs.Fixity.Reading
import FormatterConfig.Proofs.Text.Classes

set_option autoImplicit false

/-! # Writing a declaration

Whether an operator stands between backticks is decided by the first character of its name alone.
That is enough: a name that a declaration can spell is a run of symbols or an identifier, and no
symbol is a letter. So what reading gives can be written, and reading what is written gives it
back. -/

namespace FormatterConfig.Declaration

open FormatterConfig.Text

/-- A name that a declaration can spell. -/
def IsOperatorName (name : String) : Prop :=
  isSymbolicName name.toList = true ∨ isIdentifier name.toList = true

/-- An operator with a fixity that a declaration can state. -/
structure Declarable (e : String × Fixity) : Prop where
  name : IsOperatorName e.1
  fixity : ∃ (d : Direction) (n : Nat), n ≤ maxPrecedence ∧ e.2 = ⟨some d, n, n⟩

theorem Operators.isOperatorName_of_mem {ops : Operators} {name : String} (h : name ∈ ops.names) :
    IsOperatorName name := by
  have hop : ∀ op : Spelling, IsOperatorName (String.ofList op.name) := by
    intro op
    cases op with
    | symbols name valid => exact .inl (by rw [String.toList_ofList]; exact valid)
    | quoted name valid => exact .inr (by rw [String.toList_ofList]; exact valid)
  induction ops with
  | last op =>
    obtain rfl := List.mem_singleton.1 h
    exact hop op
  | more op gap ops ih =>
    rcases List.mem_cons.1 h with rfl | hmem
    · exact hop op
    · exact ih hmem

/-- Whatever a declaration states, a declaration can state. -/
theorem Sentence.declarable_of_mem {s : Sentence} {e : String × Fixity} (h : e ∈ s.pairs) :
    Declarable e := by
  obtain ⟨name, hname, rfl⟩ := List.mem_map.1 h
  exact ⟨Operators.isOperatorName_of_mem hname, s.direction, s.precedence, s.denoted_le, rfl⟩

theorem isLetter_of_isOperatorChar {c : Char} (h : isOperatorChar c = true) :
    isLetter c = false := by
  rw [isOperatorChar, Bool.and_eq_true] at h
  rw [Bool.eq_false_iff]
  intro hletter
  rw [isSymbol_of_isLetter hletter] at h
  exact Bool.false_ne_true h.1

/-- The first character decides between the two kinds of names. -/
theorem exists_spelling {name : String} (h : IsOperatorName name) :
    ∃ op : Spelling, op.chars = (operatorText name).toList ∧ String.ofList op.name = name := by
  rcases h with h | h
  · refine ⟨.symbols name.toList h, ?_, String.ofList_toList⟩
    obtain ⟨hne, hall⟩ := Spelling.all_of_isSymbolicName h
    have hstart : startsWithLetter name.toList = false := by
      cases hcs : name.toList with
      | nil => exact absurd hcs hne
      | cons c cs =>
        rw [hcs] at hall
        simpa [startsWithLetter] using
          isLetter_of_isOperatorChar (List.all_eq_true.1 hall c List.mem_cons_self)
    rw [operatorText, hstart]
    rfl
  · refine ⟨.quoted name.toList h, ?_, String.ofList_toList⟩
    have hstart : startsWithLetter name.toList = true := by
      cases hcs : name.toList with
      | nil =>
        rw [hcs] at h
        exact absurd h (by decide)
      | cons c cs =>
        rw [hcs, isIdentifier, Bool.and_eq_true] at h
        simpa [startsWithLetter] using h.1
    rw [operatorText, hstart]
    simp [Spelling.chars]

/-- A precedence is written as one digit. -/
theorem toList_toString_precedence :
    ∀ n ≤ maxPrecedence, (toString (n : Int)).toList = [Nat.digitChar n] ∧
      (Nat.digitChar n).isDigit = true ∧ denoted [Nat.digitChar n] = n := by
  decide

/-- The derivation of what is written: one digit, one operator and single blanks. -/
def Sentence.single (d : Direction) (n : Nat) (hn : n ≤ maxPrecedence) (op : Spelling) :
    Sentence where
  direction := d
  gap := ⟨[' '], by decide⟩
  digits := ⟨[Nat.digitChar n], by simp [(toList_toString_precedence n hn).2.1]⟩
  denoted_le := (toList_toString_precedence n hn).2.2.symm ▸ hn
  gap' := ⟨[' '], by decide⟩
  operators := .last op
  trailing := ⟨[], rfl⟩

/-- A bound in the range of precedences is short. -/
theorem exceedsDigitLimit_of_le {n : Int} (hlow : 0 ≤ n) (hhigh : n ≤ maxPrecedence) :
    Decimal.exceedsDigitLimit n = false := by
  have hone : n.natAbs < Nat.pow 10 1 := by
    show n.natAbs < 10
    simp only [maxPrecedence] at hhigh
    omega
  exact Decimal.exceedsDigitLimit_of_lt (by decide) hone

/-- A direction and one precedence are written, if that is not too long. -/
theorem write_of_stated (name : String) (d : Direction) {n : Int}
    (hshort : Decimal.exceedsDigitLimit n = false) :
    write name ⟨some d, n, n⟩ =
      .ok ((Choice.direction d).tag ++ " " ++ toString n ++ " " ++ operatorText name) := by
  simp [write, Fixity.hasLongBound, hshort]

/-- What a declaration can state is written, and read back as it is. -/
theorem parse_write {name : String} {f : Fixity} (h : Declarable (name, f)) :
    ∃ text, write name f = .ok text ∧ parse text = .ok [(name, f)] := by
  obtain ⟨hname, d, n, hn, hf⟩ := h
  obtain rfl : f = ⟨some d, n, n⟩ := hf
  obtain ⟨op, hchars, hop⟩ := exists_spelling hname
  obtain ⟨htext, -, hdenotes⟩ := toList_toString_precedence n hn
  have hshort : Decimal.exceedsDigitLimit n = false :=
    exceedsDigitLimit_of_le (Int.natCast_nonneg n) (Int.ofNat_le.2 hn)
  refine ⟨_, write_of_stated name d hshort, ?_⟩
  have hderived : (Sentence.single d n hn op).chars =
      ((Choice.direction d).tag ++ " " ++ toString (n : Int) ++ " " ++ operatorText name).toList := by
    rw [String.toList_append, String.toList_append, String.toList_append, String.toList_append,
      htext, ← hchars]
    simp [Sentence.single, Sentence.chars, Operators.chars]
  rw [parse_complete _ hderived (by simp [Sentence.single, Decimal.digitLimit])]
  simp [Sentence.pairs, Sentence.precedence, Sentence.single, Operators.names, hop, hdenotes]

/-- There is no declaration with a bound that cannot be written out. Of the other fixities those have
none whose direction is not known or whose precedence is a range. -/
theorem write_eq_error {name : String} {f : Fixity} {u : Unwritable} :
    write name f = .error u ↔
      f.hasLongBound = true ∧ u = .longBound ∨
        f.hasLongBound = false ∧ (f.direction = none ∨ f.lowest ≠ f.highest) ∧
          u = .unstated name f := by
  cases hlong : f.hasLongBound with
  | true => simp [write, hlong, eq_comm]
  | false =>
    rw [write, hlong]
    cases hdirection : f.direction with
    | none => simp [eq_comm]
    | some d =>
      by_cases h : f.lowest = f.highest
      · simp [h]
      · simp [h, eq_comm]

/-- A fixity has a declaration or not. -/
theorem exists_write_eq_error {name : String} {f : Fixity} :
    (∃ u, write name f = .error u) ↔
      f.direction = none ∨ f.lowest ≠ f.highest ∨ f.hasLongBound = true := by
  simp only [write_eq_error]
  cases f.hasLongBound <;> simp

/-- A fixity in the range of precedences that has a declaration is one that a declaration states. -/
theorem declarable_of_isOperatorName {e : String × Fixity} (hname : IsOperatorName e.1)
    (hlow : 0 ≤ e.2.lowest) (hhigh : e.2.lowest ≤ maxPrecedence)
    (hstated : ¬ (e.2.direction = none ∨ e.2.lowest ≠ e.2.highest)) : Declarable e := by
  obtain ⟨name, direction, lowest, highest⟩ := e
  rw [not_or, not_not] at hstated
  dsimp only at hname hlow hhigh hstated
  obtain ⟨hdirection, rfl⟩ := hstated
  obtain ⟨d, rfl⟩ := Option.ne_none_iff_exists'.1 hdirection
  obtain ⟨n, rfl⟩ := Int.eq_ofNat_of_zero_le hlow
  exact ⟨hname, d, n, by exact_mod_cast hhigh, rfl⟩

/-- There is a declaration exactly for a fixity with a direction and one precedence that is not too
long to be written out. It is read as the operator with its fixity exactly if the precedence is in
the range and the name is one that a declaration can spell, which holds of everything that is
read. -/
theorem write_reads_back (name : String) (f : Fixity) :
    ((∃ u, write name f = .error u) ↔
        f.direction = none ∨ f.lowest ≠ f.highest ∨ f.hasLongBound = true) ∧
      (∀ text, write name f = .ok text →
        ((parseLogged text).outcome = .ok [(name, f)] ↔
          (0 ≤ f.lowest ∧ f.lowest ≤ maxPrecedence) ∧
            (isSymbolicName name.toList = true ∨ isIdentifier name.toList = true))) ∧
      ∀ text pairs, (parseLogged text).outcome = .ok pairs → ∀ e ∈ pairs,
        ∃ written, write e.1 e.2 = .ok written ∧ (parseLogged written).outcome = .ok [e] := by
  refine ⟨exists_write_eq_error, fun text hwrite => ?_, fun text pairs hread e he => ?_⟩
  · rw [outcome_parseLogged]
    constructor
    · intro hread
      obtain ⟨s, -, hs⟩ := parse_sound hread
      obtain ⟨hname, d, n, hn, hf⟩ := s.declarable_of_mem (hs ▸ List.mem_singleton_self (name, f))
      dsimp only at hname hf
      subst hf
      exact ⟨⟨Int.natCast_nonneg n, Int.ofNat_le.2 hn⟩, hname⟩
    · rintro ⟨⟨hlow, hhigh⟩, hname⟩
      -- there being a text says that the fixity is stated
      have hstated : ¬ (f.direction = none ∨ f.lowest ≠ f.highest) := by
        intro hunstated
        obtain ⟨u, hu⟩ := exists_write_eq_error.2 (or_assoc.1 (.inl hunstated))
        rw [hu] at hwrite
        exact absurd hwrite (by simp)
      obtain ⟨written, hwritten, hread⟩ :=
        parse_write (declarable_of_isOperatorName (e := (name, f)) hname hlow hhigh hstated)
      rw [hwritten] at hwrite
      cases hwrite
      exact hread
  · rw [outcome_parseLogged] at hread
    obtain ⟨s, -, rfl⟩ := parse_sound hread
    obtain ⟨written, hwritten, hback⟩ := parse_write (s.declarable_of_mem he)
    exact ⟨written, hwritten, (outcome_parseLogged written).trans hback⟩

/-- An identifier with a prime, which is written between backticks; a name with a blank in front,
which is read without it. -/
theorem write_reads_back_primed :
    (∃ text, write "on'" ⟨some .left, 3, 3⟩ = .ok text ∧
        (parseLogged text).outcome = .ok [("on'", ⟨some .left, 3, 3⟩)]) ∧
      ∃ text, write " +" ⟨some .right, 9, 9⟩ = .ok text ∧
        (parseLogged text).outcome ≠ .ok [(" +", ⟨some .right, 9, 9⟩)] := by
  have hprimed := write_of_stated "on'" .left (n := 3)
    (exceedsDigitLimit_of_le (by decide) (by decide))
  have hblank := write_of_stated " +" .right (n := 9)
    (exceedsDigitLimit_of_le (by decide) (by decide))
  constructor
  · refine ⟨_, hprimed, ((write_reads_back "on'" ⟨some .left, 3, 3⟩).2.1 _ hprimed).2 ?_⟩
    exact ⟨by decide, by decide +kernel⟩
  · refine ⟨_, hblank, fun hread => ?_⟩
    obtain ⟨-, hname⟩ := ((write_reads_back " +" ⟨some .right, 9, 9⟩).2.1 _ hblank).1 hread
    exact absurd hname (by decide +kernel)

end FormatterConfig.Declaration
