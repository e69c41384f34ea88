import FormatterConfig.Proofs.Fixity.Grammar
import FormatterConfig.Proofs.Outcome
import Mathlib.Data.List.Induction

set_option autoImplicit false

/-! # Reading follows the grammar

Reading goes from left to right and never back, and each part is read as far as it goes. That loses
nothing: each reader accepts exactly the texts that start with a part of its kind, ended by what
follows, and returns the part and the rest. Put together, a declaration is read exactly if the
grammar derives it, and what is read is what its one derivation says. -/

namespace FormatterConfig.Declaration

open FormatterConfig.Text

/-! ## The keyword -/

theorem dropKeyword?_eq_some {keyword cs rest : List Char} :
    dropKeyword? keyword cs = some rest ↔ cs = keyword ++ rest := by
  unfold dropKeyword?
  split
  · next h =>
    obtain ⟨tail, rfl⟩ := List.isPrefixOf_iff_prefix.1 h
    simp
  · next h =>
    constructor
    · intro h'
      exact absurd h' (by simp)
    · rintro rfl
      exact absurd (List.isPrefixOf_iff_prefix.2 (List.prefix_append keyword rest)) h

theorem dropKeyword?_eq_none {keyword cs : List Char} :
    dropKeyword? keyword cs = none ↔ ¬ keyword <+: cs := by
  simp [dropKeyword?]

/-- The three attempts one after the other. -/
theorem readDirection_eq (cs : List Char) :
    readDirection cs =
      match dropKeyword? (Choice.direction .left).tag.toList cs with
      | some rest => .ok (.left, rest)
      | none =>
        match dropKeyword? (Choice.direction .right).tag.toList cs with
        | some rest => .ok (.right, rest)
        | none =>
          match dropKeyword? (Choice.direction .neither).tag.toList cs with
          | some rest => .ok (.neither, rest)
          | none => refuse cs [.keyword .neither, .keyword .left, .keyword .right] := by
  dsimp only [readDirection]
  cases dropKeyword? (Choice.direction .left).tag.toList cs <;>
    cases dropKeyword? (Choice.direction .right).tag.toList cs <;>
      cases dropKeyword? (Choice.direction .neither).tag.toList cs <;> rfl

/-- Only the shortest keyword is the beginning of another one, and so must not be prolonged. -/
theorem readDirection_iff {cs rest : List Char} {d : Direction} :
    readDirection cs = .ok (d, rest) ↔
      cs = (Choice.direction d).tag.toList ++ rest ∧ (d = .neither → Stops isSideLetter rest) := by
  rw [readDirection_eq]
  constructor
  · intro h
    split at h
    · next hl =>
      cases h
      exact ⟨dropKeyword?_eq_some.1 hl, fun hd => absurd hd (by decide)⟩
    · next hl =>
      split at h
      · next hr =>
        cases h
        exact ⟨dropKeyword?_eq_some.1 hr, fun hd => absurd hd (by decide)⟩
      · next hr =>
        split at h
        · next hn =>
          cases h
          obtain rfl := dropKeyword?_eq_some.1 hn
          refine ⟨rfl, fun _ c hc => ?_⟩
          obtain ⟨tail, rfl⟩ := List.head?_eq_some_iff.1 (Option.mem_def.1 hc)
          -- a letter that prolongs the keyword would have made one of the longer ones
          rw [isSideLetter, Bool.or_eq_false_iff, beq_eq_false_iff_ne, beq_eq_false_iff_ne]
          constructor
          · rintro rfl
            exact dropKeyword?_eq_none.1 hl ⟨tail, by simp [Choice.tag]⟩
          · rintro rfl
            exact dropKeyword?_eq_none.1 hr ⟨tail, by simp [Choice.tag]⟩
        · exact absurd h (by simp [refuse])
  · rintro ⟨rfl, hrest⟩
    -- no keyword that is tried before begins the text
    have hother : ∀ d', d' ≠ d → d' ≠ .neither →
        dropKeyword? (Choice.direction d').tag.toList
          ((Choice.direction d).tag.toList ++ rest) = none := by
      intro d' hne hside
      rw [Option.eq_none_iff_forall_ne_some]
      intro tail htail
      have heq := dropKeyword?_eq_some.1 htail
      cases d' <;> cases d <;> simp_all [Choice.tag, isSideLetter]
    have hown := dropKeyword?_eq_some.2 (rfl : (Choice.direction d).tag.toList ++ rest = _)
    cases d with
    | left => rw [hown]
    | right => rw [hother .left (by decide) (by decide), hown]
    | neither =>
      rw [hother .left (by decide) (by decide), hother .right (by decide) (by decide), hown]

/-! ## Blanks and the precedence -/

theorem readBlanks_iff {cs rest : List Char} :
    readBlanks cs = .ok rest ↔
      ∃ gap : Run isHorizontalSpace, cs = gap.1 ++ rest ∧ Stops isHorizontalSpace rest := by
  constructor
  · intro h
    cases cs with
    | nil => exact absurd h (by simp [readBlanks, refuse])
    | cons c cs =>
      rw [readBlanks] at h
      split at h
      · next hc =>
        cases h
        obtain ⟨hall, heq, hstop⟩ := takeWhile_run isHorizontalSpace cs
        refine ⟨⟨c :: cs.takeWhile isHorizontalSpace, List.cons_ne_nil _ _, ?_⟩, ?_, hstop⟩
        · rw [List.all_cons, hc, hall]
          rfl
        · rw [List.cons_append, ← heq]
      · exact absurd h (by simp [refuse])
  · rintro ⟨⟨gap, hne, hall⟩, rfl, hstop⟩
    cases gap with
    | nil => exact absurd rfl hne
    | cons c gap =>
      rw [List.all_cons, Bool.and_eq_true] at hall
      show readBlanks (c :: (gap ++ rest)) = _
      rw [readBlanks, if_pos hall.1, dropWhile_append_of_stops hall.2 hstop]

/-- Reading the digits from the left gives what they denote by their places. -/
theorem precedenceOf_eq_denoted (digits : List Char) :
    precedenceOf digits = denoted digits := by
  induction digits using List.reverseRecOn with
  | nil => rfl
  | append_singleton digits d ih =>
    have hstep : precedenceOf (digits ++ [d]) = precedenceOf digits * 10 + (d.toNat - 48) := by
      simp [precedenceOf]
    rw [hstep, ih, denoted, denoted, List.reverse_append, List.reverse_singleton,
      List.map_append, List.map_singleton, List.singleton_append, Nat.ofDigits_cons]
    omega

theorem readPrecedence_iff {cs rest : List Char} {n : Nat} :
    readPrecedence cs = .ok (n, rest) ↔
      ∃ digits : Run Char.isDigit, cs = digits.1 ++ rest ∧ Stops Char.isDigit rest ∧
        digits.1.length ≤ Decimal.digitLimit ∧ denoted digits.1 ≤ maxPrecedence ∧
        n = denoted digits.1 := by
  have hread : readPrecedence cs =
      if (cs.takeWhile Char.isDigit).isEmpty then refuse cs [.integer]
      else if Decimal.digitLimit < (cs.takeWhile Char.isDigit).length then
        .error (.tooManyDigits (cs.takeWhile Char.isDigit).length)
      else if maxPrecedence < denoted (cs.takeWhile Char.isDigit) then
        .error (.malformed ⟨cs, .precedenceTooLarge⟩)
      else .ok (denoted (cs.takeWhile Char.isDigit), cs.dropWhile Char.isDigit) := by
    rw [readPrecedence, precedenceOf_eq_denoted]
  constructor
  · intro h
    rw [hread] at h
    split at h
    · exact absurd h (by simp [refuse])
    · next hne =>
      split at h
      · exact absurd h (by simp)
      · next hlength =>
        split at h
        · exact absurd h (by simp)
        · next hle =>
          cases h
          obtain ⟨hall, heq, hstop⟩ := takeWhile_run Char.isDigit cs
          exact ⟨⟨_, fun hnil => hne (List.isEmpty_iff.2 hnil), hall⟩, heq, hstop,
            Nat.le_of_not_lt hlength, Nat.le_of_not_lt hle, rfl⟩
  · rintro ⟨⟨digits, hne, hall⟩, rfl, hstop, hlength, hle, rfl⟩
    rw [hread, takeWhile_append_of_stops hall hstop, dropWhile_append_of_stops hall hstop,
      if_neg (fun hnil => hne (List.isEmpty_iff.1 hnil)), if_neg (Nat.not_lt.2 hlength),
      if_neg (Nat.not_lt.2 hle)]

/-! ## Operators -/

/-- An identifier is read up to the backtick that closes it. -/
theorem readIdentifier_iff {cs name rest : List Char} :
    readIdentifier cs = .ok (name, rest) ↔
      isIdentifier name = true ∧ cs = name ++ '\x60' :: rest := by
  constructor
  · intro h
    cases cs with
    | nil => exact absurd h (by simp [readIdentifier, refuse])
    | cons c cs =>
      rw [readIdentifier] at h
      split at h
      · next hc =>
        split at h
        · next after hafter =>
          cases h
          obtain ⟨hall, heq, -⟩ := takeWhile_run isIdentifierChar cs
          rw [hafter] at heq
          refine ⟨?_, ?_⟩
          · rw [isIdentifier, hc, hall]
            rfl
          · rw [List.cons_append, ← heq]
        · exact absurd h (by simp [refuse])
      · exact absurd h (by simp [refuse])
  · rintro ⟨hname, rfl⟩
    cases name with
    | nil => exact absurd hname (by decide)
    | cons c name =>
      rw [isIdentifier, Bool.and_eq_true] at hname
      have hstop : Stops isIdentifierChar ('\x60' :: rest) :=
        (stops_cons _ _).2 isIdentifierChar_backtick
      rw [List.cons_append, readIdentifier, if_pos hname.1,
        dropWhile_append_of_stops hname.2 hstop, takeWhile_append_of_stops hname.2 hstop]
      rfl

theorem readOperator_sound {cs name rest : List Char} (h : readOperator cs = .ok (name, rest)) :
    ∃ op : Spelling, cs = op.chars ++ rest ∧ name = op.name ∧ op.Ends rest := by
  unfold readOperator at h
  split at h
  · next cs =>
    obtain ⟨hname, rfl⟩ := readIdentifier_iff.1 h
    exact ⟨.quoted name hname, by simp [Spelling.chars], rfl, trivial⟩
  · dsimp only at h
    split at h
    · exact absurd h (by simp [refuse])
    · next hne =>
      cases h
      obtain ⟨hall, heq, hstop⟩ := takeWhile_run isOperatorChar cs
      have hname : isSymbolicName (cs.takeWhile isOperatorChar) = true := by
        simp [isSymbolicName, hne, hall]
      exact ⟨.symbols _ hname, heq, rfl, hstop⟩

theorem readOperator_complete (op : Spelling) {rest : List Char} (hend : op.Ends rest) :
    readOperator (op.chars ++ rest) = .ok (op.name, rest) := by
  cases op with
  | symbols name valid =>
    obtain ⟨hne, hall⟩ := Spelling.all_of_isSymbolicName valid
    have htake := takeWhile_append_of_stops hall hend
    have hdrop := dropWhile_append_of_stops hall hend
    unfold readOperator
    split
    · next cs heq => exact absurd heq (Spelling.symbols_ne_backtick valid)
    · rw [Spelling.chars, htake, hdrop, if_neg (fun hnil => hne (List.isEmpty_iff.1 hnil))]
      rfl
  | quoted name valid =>
    show readIdentifier (name ++ ['\x60'] ++ rest) = _
    rw [List.append_assoc]
    exact readIdentifier_iff.2 ⟨valid, rfl⟩

theorem readOperators_sound {fuel : Nat} {cs rest : List Char} {names : List String}
    (h : readOperators fuel cs = .ok (names, rest)) :
    ∃ ops : Operators, cs = ops.chars ++ rest ∧ names = ops.names ∧ ops.Ends rest := by
  induction fuel generalizing cs names with
  | zero => exact absurd h (by simp [readOperators, refuse])
  | succ fuel ih =>
    rw [readOperators] at h
    obtain ⟨⟨name, after⟩, hop, htail⟩ := bind_eq_ok.1 h
    obtain ⟨op, rfl, rfl, hend⟩ := readOperator_sound hop
    dsimp only at htail
    split at htail
    · next tail =>
      obtain ⟨⟨names', rest'⟩, hops, hresult⟩ := bind_eq_ok.1 htail
      cases hresult
      obtain ⟨ops, heq, rfl, hends⟩ := ih hops
      obtain ⟨hall, hcut, -⟩ := takeWhile_run isHorizontalSpace tail
      refine ⟨.more op ⟨_, hall⟩ ops, ?_, rfl, hends⟩
      rw [Operators.chars, List.append_assoc, List.cons_append, List.append_assoc, ← heq, ← hcut]
    · next hcomma =>
      cases htail
      -- a comma would have been read as one
      exact ⟨.last op, rfl, rfl, hend, stops_beq.2 hcomma⟩

/-- Every operator takes a character, so that what is left bounds how many there can be. -/
theorem readOperators_complete (ops : Operators) {fuel : Nat} {rest : List Char}
    (hfuel : ops.chars.length < fuel) (hend : ops.Ends rest) :
    readOperators fuel (ops.chars ++ rest) = .ok (ops.names, rest) := by
  induction ops generalizing fuel with
  | last op =>
    cases fuel with
    | zero => omega
    | succ fuel =>
      rw [Operators.chars, readOperators, readOperator_complete op hend.1, ok_bind]
      dsimp only
      split
      · exact absurd rfl (stops_beq.1 hend.2 _)
      · rfl
  | more op gap ops ih =>
    cases fuel with
    | zero => omega
    | succ fuel =>
      -- the comma alone pays for the step
      have hfuel' : ops.chars.length < fuel := by
        simp only [Operators.chars, List.length_append, List.length_cons] at hfuel
        omega
      have hdrop : (gap.1 ++ (ops.chars ++ rest)).dropWhile isHorizontalSpace =
          ops.chars ++ rest :=
        dropWhile_append_of_stops gap.2 (ops.stops_chars rest)
      rw [Operators.chars, List.append_assoc, List.cons_append, List.append_assoc, readOperators,
        readOperator_complete op (op.ends_comma _), ok_bind]
      show (readOperators fuel ((gap.1 ++ (ops.chars ++ rest)).dropWhile isHorizontalSpace) >>=
        fun read => pure (String.ofList op.name :: read.1, read.2)) = _
      rw [hdrop, ih hfuel' hend]
      rfl

/-! ## The whole declaration -/

/-- What is read off a text is what a derivation of it says. -/
theorem parts_sound {cs : List Char} {d : Direction} {n : Nat} {names : List String}
    (h : parts cs = .ok (d, n, names)) :
    ∃ s : Sentence, s.chars = cs ∧ s.direction = d ∧ s.precedence = n ∧
      s.operators.names = names := by
  rw [parts] at h
  obtain ⟨⟨d', afterKeyword⟩, hkeyword, h₁⟩ := bind_eq_ok.1 h
  obtain ⟨afterGap, hgap, h₂⟩ := bind_eq_ok.1 h₁
  obtain ⟨⟨n', afterDigits⟩, hdigits, h₃⟩ := bind_eq_ok.1 h₂
  obtain ⟨afterGap', hgap', h₄⟩ := bind_eq_ok.1 h₃
  obtain ⟨⟨names', afterOperators⟩, hoperators, h₅⟩ := bind_eq_ok.1 h₄
  dsimp only at h₅
  split at h₅
  · next hnil =>
    cases h₅
    -- each reader's part, from the left; what is left at the end are blanks
    obtain ⟨rfl, -⟩ := readDirection_iff.1 hkeyword
    obtain ⟨gap, rfl, -⟩ := readBlanks_iff.1 hgap
    obtain ⟨digits, rfl, -, -, hle, rfl⟩ := readPrecedence_iff.1 hdigits
    obtain ⟨gap', rfl, -⟩ := readBlanks_iff.1 hgap'
    obtain ⟨operators, rfl, rfl, -⟩ := readOperators_sound hoperators
    have htrailing : afterOperators.all isHorizontalSpace = true :=
      List.all_eq_true.2 (List.dropWhile_eq_nil_iff.1 (List.isEmpty_iff.1 hnil))
    exact ⟨⟨d, gap, digits, hle, gap', operators, ⟨afterOperators, htrailing⟩⟩, rfl, rfl, rfl, rfl⟩
  · exact absurd h₅ (by simp [refuse])

/-- Behind the keyword and its blanks comes the precedence. -/
theorem parts_gap (d : Direction) (gap : Run isHorizontalSpace) {cs : List Char}
    (hcs : Stops isHorizontalSpace cs) :
    parts ((Choice.direction d).tag.toList ++ (gap.1 ++ cs)) =
      readPrecedence cs >>= fun precedence => readBlanks precedence.2 >>= fun rest =>
        readOperators (rest.length + 1) rest >>= fun found =>
          if (found.2.dropWhile isHorizontalSpace).isEmpty then .ok (d, precedence.1, found.1)
          else refuse (found.2.dropWhile isHorizontalSpace) [.comma, .endOfInput] := by
  have hside : Stops isSideLetter (gap.1 ++ cs) :=
    stops_run_append gap _ fun c => isSideLetter_of_isHorizontalSpace
  rw [parts, readDirection_iff.2 ⟨rfl, fun _ => hside⟩, ok_bind]
  dsimp only
  rw [readBlanks_iff.2 ⟨gap, rfl, hcs⟩, ok_bind]
  rfl

/-- What a derivation says is read off the text that it derives. -/
theorem parts_complete (s : Sentence) (hlength : s.digits.1.length ≤ Decimal.digitLimit) :
    parts s.chars = .ok (s.direction, s.precedence, s.operators.names) := by
  obtain ⟨hoperators, hgap', hdigits, -⟩ := s.stops_rest
  have hread := readOperators_complete s.operators
    (Nat.lt_succ_of_le (by simp : s.operators.chars.length ≤
      (s.operators.chars ++ s.trailing.1).length)) (s.operators.ends_blanks s.trailing)
  have htrailing : s.trailing.1.dropWhile isHorizontalSpace = [] :=
    List.dropWhile_eq_nil_iff.2 (List.all_eq_true.1 s.trailing.2)
  rw [Sentence.chars, parts_gap s.direction s.gap hdigits,
    readPrecedence_iff.2 ⟨s.digits, rfl, hgap', hlength, s.denoted_le, rfl⟩, ok_bind]
  dsimp only
  rw [readBlanks_iff.2 ⟨s.gap', rfl, hoperators⟩, ok_bind, hread, ok_bind]
  dsimp only
  rw [htrailing]
  rfl

/-- The digits in the place of the precedence. -/
def precedenceRun (cs : List Char) : List Char :=
  match readDirection cs with
  | .ok (_, rest) => (rest.dropWhile isHorizontalSpace).takeWhile Char.isDigit
  | .error _ => []

theorem precedenceRun_append (d : Direction) (gap : Run isHorizontalSpace)
    (digits : Run Char.isDigit) {rest : List Char} (hrest : Stops Char.isDigit rest) :
    precedenceRun ((Choice.direction d).tag.toList ++ (gap.1 ++ (digits.1 ++ rest))) =
      digits.1 := by
  have hside : Stops isSideLetter (gap.1 ++ (digits.1 ++ rest)) :=
    stops_run_append gap _ fun c => isSideLetter_of_isHorizontalSpace
  have hblank : Stops isHorizontalSpace (digits.1 ++ rest) :=
    stops_run_append digits _ fun c => isHorizontalSpace_of_isDigit
  rw [precedenceRun, readDirection_iff.2 ⟨rfl, fun _ => hside⟩]
  dsimp only
  rw [dropWhile_append_of_stops gap.2.2 hblank, takeWhile_append_of_stops digits.2.2 hrest]

theorem precedenceRun_chars (s : Sentence) : precedenceRun s.chars = s.digits.1 :=
  precedenceRun_append s.direction s.gap s.digits s.stops_rest.2.1

/-! ## The declaration with its operators -/

@[simp] theorem outcome_parseLogged (text : String) :
    (parseLogged text).outcome = parse text := by
  rw [parseLogged, Logged.outcome_bind, Logged.outcome_ofExcept]
  cases parse text <;> rfl

theorem parse_eq_error {text : String} {failure : Failure} :
    parse text = .error failure ↔ parts text.toList = .error failure := by
  rw [parse]
  cases parts text.toList with
  | ok found => simp [Except.map]
  | error fault => simp [Except.map]

theorem parse_sound {text : String} {pairs : List (String × Fixity)}
    (h : parse text = .ok pairs) : ∃ s : Sentence, s.chars = text.toList ∧ s.pairs = pairs := by
  rw [parse] at h
  cases hparts : parts text.toList with
  | error e =>
    rw [hparts] at h
    exact absurd h (by simp [Except.map])
  | ok found =>
    obtain ⟨d, n, names⟩ := found
    rw [hparts] at h
    cases h
    obtain ⟨s, hs, rfl, rfl, rfl⟩ := parts_sound hparts
    exact ⟨s, hs, rfl⟩

theorem parse_complete {text : String} (s : Sentence) (hs : s.chars = text.toList)
    (hlength : s.digits.1.length ≤ Decimal.digitLimit) : parse text = .ok s.pairs := by
  rw [parse, ← hs, parts_complete s hlength]
  rfl

/-- A text with few enough digits for its precedence is read exactly if it is a word of the grammar.
It has one derivation then, and what is read is one operator after the other, each with the
direction and the precedence that the derivation states. -/
theorem parse_iff_derived (text : String)
    (hrun : (precedenceRun text.toList).length ≤ Decimal.digitLimit) :
    ((∃ pairs, (parseLogged text).outcome = .ok pairs) ↔
        ∃ s : Sentence, s.chars = text.toList) ∧
      (∀ s t : Sentence, s.chars = text.toList → t.chars = text.toList → s = t) ∧
      ∀ s : Sentence, s.chars = text.toList → (parseLogged text).outcome = .ok s.pairs := by
  have hread : ∀ s : Sentence, s.chars = text.toList →
      (parseLogged text).outcome = .ok s.pairs := by
    intro s hs
    rw [outcome_parseLogged]
    refine parse_complete s hs ?_
    rw [← precedenceRun_chars, hs]
    exact hrun
  refine ⟨⟨?_, ?_⟩, ?_, hread⟩
  · rintro ⟨pairs, h⟩
    rw [outcome_parseLogged] at h
    obtain ⟨s, hs, -⟩ := parse_sound h
    exact ⟨s, hs⟩
  · rintro ⟨s, hs⟩
    exact ⟨s.pairs, hread s hs⟩
  · intro s t hs ht
    exact Sentence.chars_inj (hs.trans ht.symm)

/-- Leading zeros, a tab, blanks behind a comma and at the end, and an operator that is declared
twice. -/
theorem parse_iff_derived_repeated :
    (precedenceRun "infixr 007\t<+>,  `on`,<+> ".toList).length ≤ Decimal.digitLimit ∧
      (parseLogged "infixr 007\t<+>,  `on`,<+> ").outcome =
        .ok [("<+>", ⟨some .right, 7, 7⟩), ("on", ⟨some .right, 7, 7⟩),
          ("<+>", ⟨some .right, 7, 7⟩)] := by
  have hrun : (precedenceRun "infixr 007\t<+>,  `on`,<+> ".toList).length ≤ Decimal.digitLimit := by
    decide +kernel
  exact ⟨hrun, (parse_iff_derived _ hrun).2.2
    { direction := .right
      gap := ⟨[' '], by decide⟩
      digits := ⟨['0', '0', '7'], by decide⟩
      denoted_le := by decide
      gap' := ⟨['\t'], by decide⟩
      operators := .more (.symbols ['<', '+', '>'] (by decide +kernel)) ⟨[' ', ' '], rfl⟩
        (.more (.quoted ['o', 'n'] (by decide +kernel)) ⟨[], rfl⟩
          (.last (.symbols ['<', '+', '>'] (by decide +kernel))))
      trailing := ⟨[' '], rfl⟩ } (by decide +kernel)⟩

end FormatterConfig.Declaration
