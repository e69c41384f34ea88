import FormatterConfig.Proofs.Fixity.Reading

set_option autoImplicit false

/-! # Where reading stops

A text that is no declaration is refused at a place, and the grammar says which places these can be:
in front of a keyword, in front of a precedence that is too large, or behind a part that is spelled
in full or in its beginning, where the next character does not go on with it. `Stuck` lists the
places of the last kind, with what is wanted there. Of the text behind such a place it asks for the
first character alone, so the same refusal comes for every text that begins in the same way, and no
declaration does. A precedence with more digits than are converted fails without a place; `Fails`
has all four ways. -/

namespace FormatterConfig.Declaration

open FormatterConfig.Text

/-! ## What has been read -/

/-- What stands in front of the operators of a declaration that is read. -/
structure Head where
  direction : Direction
  gap : Run isHorizontalSpace
  digits : Run Char.isDigit
  denoted_le : denoted digits.1 ≤ maxPrecedence
  length_le : digits.1.length ≤ Decimal.digitLimit
  gap' : Run isHorizontalSpace

namespace Head

/-- The beginning of a declaration as it is spelled. -/
def chars (h : Head) : List Char :=
  (Choice.direction h.direction).tag.toList ++ (h.gap.1 ++ (h.digits.1 ++ h.gap'.1))

/-- The declaration of operators with a given beginning. -/
def sentence (h : Head) (operators : Operators) (trailing : Blanks) : Sentence :=
  ⟨h.direction, h.gap, h.digits, h.denoted_le, h.gap', operators, trailing⟩

theorem chars_sentence (h : Head) (operators : Operators) (trailing : Blanks) :
    (h.sentence operators trailing).chars = h.chars ++ (operators.chars ++ trailing.1) := by
  simp [sentence, Sentence.chars, chars]

end Head

/-! ## The places -/

/-- The places among the operators: in front of an operator, behind the backtick that opens one, and
behind an identifier that no backtick closes; there may be operators with commas in front. -/
inductive OperatorsStuck : (read rest : List Char) → List Expected → Prop
  | operator {rest : List Char} (blank : Stops isHorizontalSpace rest)
      (symbol : Stops isOperatorChar rest) (backtick : Stops (· == '\x60') rest) :
      OperatorsStuck [] rest [.backtick, .operatorCharacter]
  | letter {rest : List Char} (letter : Stops isLetter rest) :
      OperatorsStuck ['\x60'] rest [.letter]
  | closing {name rest : List Char} (valid : isIdentifier name = true)
      (char : Stops isIdentifierChar rest) (backtick : Stops (· == '\x60') rest) :
      OperatorsStuck ('\x60' :: name) rest [.backtick, .identifierCharacter]
  | more {read rest : List Char} {wanted : List Expected} (op : Spelling) (gap : Blanks)
      (stuck : OperatorsStuck read rest wanted) :
      OperatorsStuck (op.chars ++ ',' :: (gap.1 ++ read)) rest wanted

/-- The places behind a keyword: what has been read, what is left, and what is wanted there. -/
inductive Stuck : (read rest : List Char) → List Expected → Prop
  | gap {rest : List Char} (d : Direction) (blank : Stops isHorizontalSpace rest)
      (side : d = .neither → Stops isSideLetter rest) :
      Stuck (Choice.direction d).tag.toList rest [.whiteSpace]
  | precedence {rest : List Char} (d : Direction) (gap : Run isHorizontalSpace)
      (blank : Stops isHorizontalSpace rest) (digit : Stops Char.isDigit rest) :
      Stuck ((Choice.direction d).tag.toList ++ gap.1) rest [.integer]
  | gap' {rest : List Char} (d : Direction) (gap : Run isHorizontalSpace) (digits : Run Char.isDigit)
      (denoted_le : denoted digits.1 ≤ maxPrecedence)
      (length_le : digits.1.length ≤ Decimal.digitLimit) (digit : Stops Char.isDigit rest)
      (blank : Stops isHorizontalSpace rest) :
      Stuck ((Choice.direction d).tag.toList ++ (gap.1 ++ digits.1)) rest [.whiteSpace]
  | operators {read rest : List Char} {wanted : List Expected} (head : Head)
      (stuck : OperatorsStuck read rest wanted) : Stuck (head.chars ++ read) rest wanted
  | finish {rest : List Char} (head : Head) (operators : Operators) (trailing : Blanks)
      (more : rest ≠ []) (blank : Stops isHorizontalSpace rest)
      (ends : operators.Ends (trailing.1 ++ rest)) :
      Stuck (head.chars ++ (operators.chars ++ trailing.1)) rest [.comma, .endOfInput]

/-- The ways in which the reading of a text fails. -/
inductive Fails : List Char → Failure → Prop
  | keyword {cs : List Char} (none : ∀ d, ¬ (Choice.direction d).tag.toList <+: cs) :
      Fails cs
        (.malformed ⟨cs, .unexpected [.keyword .neither, .keyword .left, .keyword .right]⟩)
  | tooLarge {rest : List Char} (d : Direction) (gap : Run isHorizontalSpace)
      (digits : Run Char.isDigit) (ends : Stops Char.isDigit rest)
      (large : maxPrecedence < denoted digits.1) :
      Fails ((Choice.direction d).tag.toList ++ (gap.1 ++ (digits.1 ++ rest)))
        (.malformed ⟨digits.1 ++ rest, .precedenceTooLarge⟩)
  | tooLong {rest : List Char} (d : Direction) (gap : Run isHorizontalSpace)
      (digits : Run Char.isDigit) (ends : Stops Char.isDigit rest)
      (long : Decimal.digitLimit < digits.1.length) :
      Fails ((Choice.direction d).tag.toList ++ (gap.1 ++ (digits.1 ++ rest)))
        (.tooManyDigits digits.1.length)
  | stuck {read rest : List Char} {wanted : List Expected} (stuck : Stuck read rest wanted) :
      Fails (read ++ rest) (.malformed ⟨rest, .unexpected wanted⟩)

/-! ## Readers that fail -/

theorem refuse_eq_error {α : Type} {rest : List Char} {wanted : List Expected} {failure : Failure} :
    (refuse rest wanted : Except Failure α) = .error failure ↔
      failure = .malformed ⟨rest, .unexpected wanted⟩ := by
  simp [refuse, eq_comm]

theorem readDirection_eq_error {cs : List Char} {failure : Failure}
    (h : readDirection cs = .error failure) :
    (∀ d, ¬ (Choice.direction d).tag.toList <+: cs) ∧
      failure = .malformed
        ⟨cs, .unexpected [.keyword .neither, .keyword .left, .keyword .right]⟩ := by
  rw [readDirection_eq] at h
  split at h
  · exact absurd h (by simp)
  · next hl =>
    split at h
    · exact absurd h (by simp)
    · next hr =>
      split at h
      · exact absurd h (by simp)
      · next hn =>
        refine ⟨fun d => ?_, refuse_eq_error.1 h⟩
        cases d with
        | left => exact dropKeyword?_eq_none.1 hl
        | right => exact dropKeyword?_eq_none.1 hr
        | neither => exact dropKeyword?_eq_none.1 hn

theorem readBlanks_eq_error {cs : List Char} {failure : Failure} :
    readBlanks cs = .error failure ↔
      Stops isHorizontalSpace cs ∧ failure = .malformed ⟨cs, .unexpected [.whiteSpace]⟩ := by
  cases cs with
  | nil => simp [readBlanks, refuse_eq_error]
  | cons c cs =>
    rw [readBlanks, stops_cons]
    cases hc : isHorizontalSpace c with
    | true => simp
    | false => simp [refuse_eq_error]

/-- A run of digits that denotes no precedence. -/
theorem readPrecedence_eq_error {cs : List Char} {failure : Failure}
    (h : readPrecedence cs = .error failure) :
    Stops Char.isDigit cs ∧ failure = .malformed ⟨cs, .unexpected [.integer]⟩ ∨
      ∃ (digits : Run Char.isDigit) (rest : List Char), cs = digits.1 ++ rest ∧
        Stops Char.isDigit rest ∧
        (Decimal.digitLimit < digits.1.length ∧ failure = .tooManyDigits digits.1.length ∨
          maxPrecedence < denoted digits.1 ∧ failure = .malformed ⟨cs, .precedenceTooLarge⟩) := by
  obtain ⟨hall, heq, hstop⟩ := takeWhile_run Char.isDigit cs
  rw [readPrecedence, precedenceOf_eq_denoted] at h
  split at h
  · next hnil =>
    rw [List.isEmpty_iff.1 hnil, List.nil_append] at heq
    exact .inl ⟨heq ▸ hstop, refuse_eq_error.1 h⟩
  · next hne =>
    refine .inr ⟨⟨_, fun hnil => hne (List.isEmpty_iff.2 hnil), hall⟩, _, heq, hstop, ?_⟩
    split at h
    · next hlong => exact .inl ⟨hlong, (Except.error.inj h).symm⟩
    · split at h
      · next hlarge => exact .inr ⟨hlarge, (Except.error.inj h).symm⟩
      · exact absurd h (by simp)

theorem readPrecedence_of_stops {cs : List Char} (h : Stops Char.isDigit cs) :
    readPrecedence cs = refuse cs [.integer] := by
  cases cs with
  | nil => rfl
  | cons c cs => simp [readPrecedence, (stops_cons c cs).1 h]

theorem readPrecedence_of_length {digits rest : List Char} (hall : digits.all Char.isDigit = true)
    (hrest : Stops Char.isDigit rest) (hlength : Decimal.digitLimit < digits.length) :
    readPrecedence (digits ++ rest) = .error (.tooManyDigits digits.length) := by
  have hne : digits.isEmpty = false := by
    cases digits with
    | nil => exact absurd hlength (by simp)
    | cons d digits => rfl
  rw [readPrecedence, takeWhile_append_of_stops hall hrest, hne]
  simp [hlength]

theorem readIdentifier_eq_error {cs : List Char} {failure : Failure}
    (h : readIdentifier cs = .error failure) :
    ∃ read rest wanted, '\x60' :: cs = read ++ rest ∧ OperatorsStuck read rest wanted ∧
      failure = .malformed ⟨rest, .unexpected wanted⟩ := by
  cases cs with
  | nil => exact ⟨['\x60'], [], _, rfl, .letter stops_nil, refuse_eq_error.1 h⟩
  | cons c cs =>
    rw [readIdentifier] at h
    split at h
    · next hc =>
      split at h
      · exact absurd h (by simp)
      · next hopen =>
        obtain ⟨hall, heq, hstop⟩ := takeWhile_run isIdentifierChar cs
        refine ⟨'\x60' :: c :: cs.takeWhile isIdentifierChar, cs.dropWhile isIdentifierChar, _, ?_,
          .closing (by rw [isIdentifier, hc, hall]; rfl) hstop (stops_beq.2 hopen),
          refuse_eq_error.1 h⟩
        rw [List.cons_append, List.cons_append, ← heq]
    · next hc =>
      exact ⟨['\x60'], c :: cs, _, rfl, .letter ((stops_cons _ _).2 (by simpa using hc)),
        refuse_eq_error.1 h⟩

theorem readOperator_eq_error {cs : List Char} {failure : Failure}
    (hblank : Stops isHorizontalSpace cs) (h : readOperator cs = .error failure) :
    ∃ read rest wanted, cs = read ++ rest ∧ OperatorsStuck read rest wanted ∧
      failure = .malformed ⟨rest, .unexpected wanted⟩ := by
  unfold readOperator at h
  split at h
  · exact readIdentifier_eq_error h
  · next hopen =>
    dsimp only at h
    split at h
    · next hnil =>
      obtain ⟨-, heq, hstop⟩ := takeWhile_run isOperatorChar cs
      rw [List.isEmpty_iff.1 hnil, List.nil_append] at heq
      exact ⟨[], cs, _, rfl, .operator hblank (heq ▸ hstop) (stops_beq.2 hopen),
        refuse_eq_error.1 h⟩
    · exact absurd h (by simp)

/-- Since every operator takes a character, the reading never stops for want of fuel. -/
theorem readOperators_eq_error {fuel : Nat} {cs : List Char} {failure : Failure}
    (hfuel : cs.length < fuel) (hblank : Stops isHorizontalSpace cs)
    (h : readOperators fuel cs = .error failure) :
    ∃ read rest wanted, cs = read ++ rest ∧ OperatorsStuck read rest wanted ∧
      failure = .malformed ⟨rest, .unexpected wanted⟩ := by
  induction fuel generalizing cs with
  | zero => omega
  | succ fuel ih =>
    rw [readOperators] at h
    rcases bind_eq_error.1 h with hop | ⟨⟨name, after⟩, hop, htail⟩
    · exact readOperator_eq_error hblank hop
    · obtain ⟨op, rfl, rfl, -⟩ := readOperator_sound hop
      dsimp only at htail
      split at htail
      · next tail =>
        obtain ⟨hall, hcut, hstop⟩ := takeWhile_run isHorizontalSpace tail
        have hshorter : (tail.dropWhile isHorizontalSpace).length < fuel := by
          have hdrop := (List.dropWhile_sublist (l := tail) isHorizontalSpace).length_le
          simp only [List.length_append, List.length_cons] at hfuel
          omega
        rcases bind_eq_error.1 htail with hops | ⟨⟨names, rest⟩, -, hresult⟩
        · obtain ⟨read, rest, wanted, heq, hstuck, rfl⟩ := ih hshorter hstop hops
          refine ⟨_, rest, wanted, ?_, .more op ⟨_, hall⟩ hstuck, rfl⟩
          rw [List.append_assoc, List.cons_append, List.append_assoc, ← heq, ← hcut]
        · exact absurd hresult (by simp [pure, Except.pure])
      · exact absurd htail (by simp [pure, Except.pure])

/-- The four ways are all there are. -/
theorem fails_of_parts {cs : List Char} {failure : Failure} (h : parts cs = .error failure) :
    Fails cs failure := by
  rw [parts] at h
  rcases bind_eq_error.1 h with hkeyword | ⟨⟨d, afterKeyword⟩, hkeyword, h₁⟩
  · obtain ⟨hnone, rfl⟩ := readDirection_eq_error hkeyword
    exact .keyword hnone
  obtain ⟨rfl, hside⟩ := readDirection_iff.1 hkeyword
  dsimp only at h₁
  rcases bind_eq_error.1 h₁ with hgap | ⟨afterGap, hgap, h₂⟩
  · obtain ⟨hblank, rfl⟩ := readBlanks_eq_error.1 hgap
    exact .stuck (.gap d hblank hside)
  obtain ⟨gap, rfl, hblank⟩ := readBlanks_iff.1 hgap
  rcases bind_eq_error.1 h₂ with hdigits | ⟨⟨n, afterDigits⟩, hdigits, h₃⟩
  · rcases readPrecedence_eq_error hdigits with
      ⟨hdigit, rfl⟩ | ⟨digits, rest, rfl, hdigit, ⟨hlong, rfl⟩ | ⟨hlarge, rfl⟩⟩
    · rw [← List.append_assoc]
      exact .stuck (.precedence d gap hblank hdigit)
    · exact .tooLong d gap digits hdigit hlong
    · exact .tooLarge d gap digits hdigit hlarge
  obtain ⟨digits, rfl, hdigit, hlength, hle, -⟩ := readPrecedence_iff.1 hdigits
  dsimp only at h₃
  rcases bind_eq_error.1 h₃ with hgap' | ⟨afterGap', hgap', h₄⟩
  · obtain ⟨hblank', rfl⟩ := readBlanks_eq_error.1 hgap'
    rw [← List.append_assoc gap.1, ← List.append_assoc]
    exact .stuck (.gap' d gap digits hle hlength hdigit hblank')
  obtain ⟨gap', rfl, hblank'⟩ := readBlanks_iff.1 hgap'
  -- what has been read now is the beginning of a declaration up to its operators
  let head : Head := ⟨d, gap, digits, hle, hlength, gap'⟩
  have hhead : ∀ cs, (Choice.direction d).tag.toList ++ (gap.1 ++ (digits.1 ++ (gap'.1 ++ cs))) =
      head.chars ++ cs := by
    intro cs
    simp [head, Head.chars]
  rw [hhead]
  rcases bind_eq_error.1 h₄ with hoperators | ⟨⟨names, afterOperators⟩, hoperators, h₅⟩
  · obtain ⟨read, rest, wanted, rfl, hstuck, rfl⟩ :=
      readOperators_eq_error (Nat.lt_succ_self _) hblank' hoperators
    rw [← List.append_assoc]
    exact .stuck (.operators head hstuck)
  · obtain ⟨operators, rfl, -, hends⟩ := readOperators_sound hoperators
    dsimp only at h₅
    split at h₅
    · exact absurd h₅ (by simp [pure, Except.pure])
    · next hmore =>
      obtain ⟨hall, hcut, hstop⟩ := takeWhile_run isHorizontalSpace afterOperators
      obtain rfl := refuse_eq_error.1 h₅
      generalize afterOperators.takeWhile isHorizontalSpace = trailing at hall hcut
      generalize afterOperators.dropWhile isHorizontalSpace = rest at hcut hstop hmore ⊢
      subst hcut
      rw [← List.append_assoc operators.chars, ← List.append_assoc]
      exact .stuck (.finish head operators ⟨trailing, hall⟩
        (fun hnil => hmore (List.isEmpty_iff.2 hnil)) hstop hends)

theorem stops_congr {p : Char → Bool} {rest rest' : List Char} (heq : rest.head? = rest'.head?)
    (h : Stops p rest) : Stops p rest' := by
  intro c hc
  exact h c (heq ▸ hc)

theorem head?_append_congr {rest rest' : List Char} (heq : rest.head? = rest'.head?)
    (cs : List Char) : (cs ++ rest).head? = (cs ++ rest').head? := by
  simp [heq]

theorem Spelling.ends_congr {op : Spelling} {rest rest' : List Char}
    (heq : rest.head? = rest'.head?) (h : op.Ends rest) : op.Ends rest' := by
  cases op with
  | symbols name valid => exact stops_congr heq h
  | quoted name valid => trivial

theorem Operators.ends_congr {operators : Operators} {rest rest' : List Char}
    (heq : rest.head? = rest'.head?) (h : operators.Ends rest) : operators.Ends rest' := by
  induction operators with
  | last op => exact ⟨op.ends_congr heq h.1, stops_congr heq h.2⟩
  | more op gap operators ih => exact ih h

theorem OperatorsStuck.congr {read rest rest' : List Char} {wanted : List Expected}
    (h : OperatorsStuck read rest wanted) (heq : rest.head? = rest'.head?) :
    OperatorsStuck read rest' wanted := by
  induction h with
  | operator blank symbol backtick =>
    exact .operator (stops_congr heq blank) (stops_congr heq symbol) (stops_congr heq backtick)
  | letter letter => exact .letter (stops_congr heq letter)
  | closing valid char backtick =>
    exact .closing valid (stops_congr heq char) (stops_congr heq backtick)
  | more op gap stuck ih => exact .more op gap (ih heq)

/-- Whether a place is one is decided by the next character. -/
theorem Stuck.congr {read rest rest' : List Char} {wanted : List Expected}
    (h : Stuck read rest wanted) (heq : rest.head? = rest'.head?) : Stuck read rest' wanted := by
  cases h with
  | gap d blank side =>
    exact .gap d (stops_congr heq blank) fun hd => stops_congr heq (side hd)
  | precedence d gap blank digit =>
    exact .precedence d gap (stops_congr heq blank) (stops_congr heq digit)
  | gap' d gap digits denoted_le length_le digit blank =>
    exact .gap' d gap digits denoted_le length_le (stops_congr heq digit) (stops_congr heq blank)
  | operators head stuck => exact .operators head (stuck.congr heq)
  | finish head operators trailing more blank ends =>
    have hmore : rest' ≠ [] := by
      rintro rfl
      exact more (List.head?_eq_none_iff.1 heq)
    exact .finish head operators trailing hmore (stops_congr heq blank)
      (operators.ends_congr (head?_append_congr heq trailing.1) ends)

theorem readIdentifier_of_stops {cs : List Char} (h : Stops isLetter cs) :
    readIdentifier cs = refuse cs [.letter] := by
  cases cs with
  | nil => rfl
  | cons c cs => simp [readIdentifier, (stops_cons c cs).1 h]

theorem readIdentifier_of_open {name rest : List Char} (valid : isIdentifier name = true)
    (hchar : Stops isIdentifierChar rest) (hbacktick : Stops (· == '\x60') rest) :
    readIdentifier (name ++ rest) = refuse rest [.backtick, .identifierCharacter] := by
  cases name with
  | nil => exact absurd valid (by decide)
  | cons c name =>
    rw [isIdentifier, Bool.and_eq_true] at valid
    rw [List.cons_append, readIdentifier, if_pos valid.1, dropWhile_append_of_stops valid.2 hchar]
    split
    · exact absurd rfl (stops_beq.1 hbacktick _)
    · rfl

theorem readOperator_of_stops {cs : List Char} (hsymbol : Stops isOperatorChar cs)
    (hbacktick : Stops (· == '\x60') cs) :
    readOperator cs = refuse cs [.backtick, .operatorCharacter] := by
  unfold readOperator
  split
  · exact absurd rfl (stops_beq.1 hbacktick _)
  · cases cs with
    | nil => rfl
    | cons c cs => simp [(stops_cons c cs).1 hsymbol]

namespace OperatorsStuck

variable {read rest : List Char} {wanted : List Expected}

/-- No blank is left in front of operators. -/
theorem stops (h : OperatorsStuck read rest wanted) : Stops isHorizontalSpace (read ++ rest) := by
  cases h with
  | operator blank symbol backtick => exact blank
  | letter letter => exact (stops_cons _ _).2 (by decide)
  | closing valid char backtick => exact (stops_cons _ _).2 (by decide)
  | more op gap stuck =>
    rw [List.append_assoc]
    exact op.stops_chars _

theorem readOperators_eq {fuel : Nat} (h : OperatorsStuck read rest wanted)
    (hfuel : read.length < fuel) : readOperators fuel (read ++ rest) = refuse rest wanted := by
  induction h generalizing fuel with
  | operator blank symbol backtick =>
    obtain ⟨fuel, rfl⟩ := Nat.exists_eq_add_of_lt hfuel
    rw [List.nil_append, readOperators, readOperator_of_stops symbol backtick]
    rfl
  | letter letter =>
    obtain ⟨fuel, rfl⟩ := Nat.exists_eq_add_of_lt hfuel
    rw [readOperators, List.cons_append, List.nil_append, readOperator,
      readIdentifier_of_stops letter]
    rfl
  | closing valid char backtick =>
    obtain ⟨fuel, rfl⟩ := Nat.exists_eq_add_of_lt hfuel
    rw [readOperators, List.cons_append, readOperator, readIdentifier_of_open valid char backtick]
    rfl
  | @more read rest wanted op gap stuck ih =>
    cases fuel with
    | zero => omega
    | succ fuel =>
      have hfuel' : read.length < fuel := by
        simp only [List.length_append, List.length_cons] at hfuel
        omega
      rw [List.append_assoc, List.cons_append, List.append_assoc, readOperators,
        readOperator_complete op (op.ends_comma _), ok_bind]
      show (readOperators fuel ((gap.1 ++ (read ++ rest)).dropWhile isHorizontalSpace) >>= _) = _
      rw [dropWhile_append_of_stops gap.2 stuck.stops, ih hfuel']
      rfl

end OperatorsStuck

/-- Behind a beginning that is read come the operators. -/
theorem parts_head (head : Head) {cs : List Char} (hcs : Stops isHorizontalSpace cs) :
    parts (head.chars ++ cs) = readOperators (cs.length + 1) cs >>= fun found =>
      if (found.2.dropWhile isHorizontalSpace).isEmpty then
        .ok (head.direction, denoted head.digits.1, found.1)
      else refuse (found.2.dropWhile isHorizontalSpace) [.comma, .endOfInput] := by
  have hblank : Stops isHorizontalSpace (head.digits.1 ++ (head.gap'.1 ++ cs)) :=
    stops_run_append head.digits _ fun c => isHorizontalSpace_of_isDigit
  have hdigit : Stops Char.isDigit (head.gap'.1 ++ cs) :=
    stops_run_append head.gap' _ fun c => isDigit_of_isHorizontalSpace
  rw [Head.chars, List.append_assoc, List.append_assoc, List.append_assoc,
    parts_gap head.direction head.gap hblank,
    readPrecedence_iff.2 ⟨head.digits, rfl, hdigit, head.length_le, head.denoted_le, rfl⟩, ok_bind]
  dsimp only
  rw [readBlanks_iff.2 ⟨head.gap', rfl, hcs⟩, ok_bind]

/-- Reading stops at each of the places. -/
theorem Stuck.parts_eq {read rest : List Char} {wanted : List Expected}
    (h : Stuck read rest wanted) : parts (read ++ rest) = refuse rest wanted := by
  cases h with
  | gap d blank side =>
    rw [parts, readDirection_iff.2 ⟨rfl, side⟩, ok_bind]
    dsimp only
    rw [readBlanks_eq_error.2 ⟨blank, rfl⟩]
    rfl
  | precedence d gap blank digit =>
    rw [List.append_assoc, parts_gap d gap blank, readPrecedence_of_stops digit]
    rfl
  | gap' d gap digits denoted_le length_le digit blank =>
    have hdigits : Stops isHorizontalSpace (digits.1 ++ rest) :=
      stops_run_append digits _ fun c => isHorizontalSpace_of_isDigit
    rw [List.append_assoc, List.append_assoc, parts_gap d gap hdigits,
      readPrecedence_iff.2 ⟨digits, rfl, digit, length_le, denoted_le, rfl⟩, ok_bind]
    dsimp only
    rw [readBlanks_eq_error.2 ⟨blank, rfl⟩]
    rfl
  | @operators read rest wanted head stuck =>
    rw [List.append_assoc, parts_head head stuck.stops,
      stuck.readOperators_eq (Nat.lt_succ_of_le (by simp))]
    rfl
  | finish head operators trailing more blank ends =>
    rw [List.append_assoc, List.append_assoc, parts_head head (operators.stops_chars _),
      readOperators_complete operators (Nat.lt_succ_of_le (by simp)) ends, ok_bind]
    dsimp only
    rw [dropWhile_append_of_stops trailing.2 blank,
      if_neg fun hnil => more (List.isEmpty_iff.1 hnil)]

/-- A declaration that the grammar derives is never refused. -/
theorem Sentence.parts_ne_malformed (s : Sentence) (stop : Stop) :
    parts s.chars ≠ .error (.malformed stop) := by
  rcases Nat.lt_or_ge Decimal.digitLimit s.digits.1.length with hlong | hlength
  · obtain ⟨-, hdigit, hblank, -⟩ := s.stops_rest
    rw [Sentence.chars, parts_gap s.direction s.gap hblank,
      readPrecedence_of_length s.digits.2.2 hdigit hlong]
    simp
  · rw [parts_complete s hlength]
    simp

/-- No declaration goes on from a place where reading stops with the character that stands there. -/
theorem Stuck.not_isPrefix_chars {read rest : List Char} {c : Char} {wanted : List Expected}
    (h : Stuck read (c :: rest) wanted) (s : Sentence) : ¬ read ++ [c] <+: s.chars := by
  rintro ⟨tail, htail⟩
  have hstuck : Stuck read (c :: tail) wanted := h.congr rfl
  refine s.parts_ne_malformed ⟨c :: tail, .unexpected wanted⟩ ?_
  rw [← htail, List.append_assoc]
  exact hstuck.parts_eq

end FormatterConfig.Declaration
