import FormatterConfig.Proofs.Fixity.Refusal

set_option autoImplicit false

/-! # What goes on from a place

At a place where reading stops, the text in front of it is the beginning of a declaration, and any
character of a kind that is wanted there goes on with it. There is one exception: a comma is wanted
behind operators even where blanks follow them, and no declaration has blanks in front of a
comma. -/

namespace FormatterConfig.Declaration

open FormatterConfig.Text

/-! ## Beginnings -/

/-- The beginnings of the declarations that are read. -/
def Begins (cs : List Char) : Prop :=
  ∃ s : Sentence, (parseLogged (String.ofList s.chars)).outcome = .ok s.pairs ∧ cs <+: s.chars

theorem Begins.shorten {cs cs' : List Char} (h : Begins cs') (hinit : cs <+: cs') :
    Begins cs := by
  obtain ⟨s, hread, hs⟩ := h
  exact ⟨s, hread, hinit.trans hs⟩

namespace Head

/-- Any operators can follow a beginning that is read. -/
theorem parse_sentence (h : Head) (operators : Operators) (trailing : Blanks) :
    (parseLogged (String.ofList (h.sentence operators trailing).chars)).outcome =
      .ok (h.sentence operators trailing).pairs := by
  rw [outcome_parseLogged]
  exact parse_complete _ String.toList_ofList.symm h.length_le

theorem begins_append_of_operators (h : Head) {operators : Operators} {cs : List Char}
    (hinit : cs <+: operators.chars) : Begins (h.chars ++ cs) := by
  refine ⟨_, h.parse_sentence operators ⟨[], rfl⟩, ?_⟩
  rw [chars_sentence]
  obtain ⟨tail, heq⟩ := hinit
  exact ⟨tail, by simp [← heq]⟩

theorem begins (h : Head) : Begins h.chars := by
  have hplus : isSymbolicName ['+'] = true := by decide +kernel
  have hinit : [] <+: (Operators.last (.symbols ['+'] hplus)).chars := List.nil_prefix
  simpa using h.begins_append_of_operators hinit

end Head

/-! ## Strings of a kind -/

/-- Whether a string is of the kind that is wanted. -/
def Expected.spells : Expected → List Char → Bool
  | .keyword d, cs => cs == (Choice.direction d).tag.toList
  | .whiteSpace, cs => !cs.isEmpty && cs.all isHorizontalSpace
  | .integer, cs => !cs.isEmpty && cs.all Char.isDigit
  | .backtick, cs => cs == ['\x60']
  | .operatorCharacter, [c] => isOperatorChar c
  | .identifierCharacter, [c] => isIdentifierChar c
  | .letter, [c] => isLetter c
  | .comma, cs => cs == [',']
  | .endOfInput, cs => cs.isEmpty
  | _, _ => false

/-- A string of a kind. -/
def Expected.sample : Expected → List Char
  | .keyword d => (Choice.direction d).tag.toList
  | .whiteSpace => [' ']
  | .integer => ['0']
  | .backtick => ['\x60']
  | .operatorCharacter => ['+']
  | .identifierCharacter => ['a']
  | .letter => ['a']
  | .comma => [',']
  | .endOfInput => []

theorem Expected.spells_sample (e : Expected) : e.spells e.sample = true := by
  cases e with
  | keyword d => exact beq_self_eq_true _
  | _ => decide +kernel

/-- Whether something that is wanted would be accepted behind a text. -/
def Expected.Fits (e : Expected) (read : List Char) : Prop :=
  match e with
  | .endOfInput => ∃ pairs, (parseLogged (String.ofList read)).outcome = .ok pairs
  | e => ∃ cs, e.spells cs = true ∧ Begins (read ++ cs)

theorem Expected.fits_of_begins {e : Expected} {read cs : List Char} (hne : e ≠ .endOfInput)
    (hspells : e.spells cs = true) (hbegins : Begins (read ++ cs)) : e.Fits read := by
  cases e with
  | endOfInput => exact absurd rfl hne
  | _ => exact ⟨cs, hspells, hbegins⟩

/-! ## Continuations -/

/-- One digit never denotes too much. -/
theorem denoted_digit_le {c : Char} (h : c.isDigit = true) : denoted [c] ≤ maxPrecedence := by
  rw [Char.isDigit, Bool.and_eq_true, decide_eq_true_eq, decide_eq_true_eq] at h
  have hle : c.toNat ≤ 57 := UInt32.le_iff_toNat_le.1 h.2
  simp only [denoted, List.reverse_singleton, List.map_singleton, Nat.ofDigits_singleton,
    maxPrecedence]
  omega

/-- Among operators, every character of a kind that is wanted goes on with them. -/
theorem OperatorsStuck.exists_operators {read rest : List Char} {wanted : List Expected}
    (h : OperatorsStuck read rest wanted) {e : Expected} (he : e ∈ wanted) {c : Char}
    (hc : e.spells [c] = true) : ∃ operators : Operators, read ++ [c] <+: operators.chars := by
  induction h with
  | operator blank symbol backtick =>
    rcases List.mem_cons.1 he with rfl | hmem
    · obtain rfl : c = '\x60' := by simpa [Expected.spells] using hc
      have ha : isIdentifier ['a'] = true := by decide +kernel
      exact ⟨.last (.quoted ['a'] ha), ['a', '\x60'], rfl⟩
    · obtain rfl := List.mem_singleton.1 hmem
      have hname : isSymbolicName [c] = true := by
        simpa [isSymbolicName, Expected.spells] using hc
      exact ⟨.last (.symbols [c] hname), [], rfl⟩
  | letter letter =>
    obtain rfl := List.mem_singleton.1 he
    have hname : isIdentifier [c] = true := by simpa [isIdentifier, Expected.spells] using hc
    exact ⟨.last (.quoted [c] hname), ['\x60'], rfl⟩
  | @closing name rest valid char backtick =>
    rcases List.mem_cons.1 he with rfl | hmem
    · obtain rfl : c = '\x60' := by simpa [Expected.spells] using hc
      exact ⟨.last (.quoted name valid), [], by simp [Operators.chars, Spelling.chars]⟩
    · obtain rfl := List.mem_singleton.1 hmem
      have hname : isIdentifier (name ++ [c]) = true := by
        cases name with
        | nil => exact absurd valid (by decide)
        | cons d name =>
          rw [isIdentifier, Bool.and_eq_true] at valid
          have hlonger : (name ++ [c]).all isIdentifierChar = true := by
            simpa [valid.2, Expected.spells] using hc
          rw [List.cons_append, isIdentifier, valid.1, hlonger]
          rfl
      exact ⟨.last (.quoted _ hname), ['\x60'], by simp [Operators.chars, Spelling.chars]⟩
  | more op gap stuck ih =>
    obtain ⟨operators, tail, heq⟩ := ih he
    exact ⟨.more op gap operators, tail, by simp [Operators.chars, ← heq]⟩

/-- Among operators, single characters are wanted, and never a comma. -/
theorem OperatorsStuck.exists_sample {read rest : List Char} {wanted : List Expected}
    (h : OperatorsStuck read rest wanted) :
    wanted ≠ [] ∧ ∀ e ∈ wanted, e ≠ .comma ∧ ∃ c, e.sample = [c] := by
  induction h with
  | operator blank symbol backtick => simp [Expected.sample]
  | letter letter => simp [Expected.sample]
  | closing valid char backtick => simp [Expected.sample]
  | more op gap stuck ih => exact ih

/-- One more operator, with blanks in front. -/
def Operators.snoc (blanks : Blanks) (new : Spelling) : Operators → Operators
  | .last op => .more op blanks (.last new)
  | .more op gap rest => .more op gap (rest.snoc blanks new)

theorem Operators.chars_snoc (blanks : Blanks) (new : Spelling) (operators : Operators) :
    (operators.snoc blanks new).chars = operators.chars ++ ',' :: (blanks.1 ++ new.chars) := by
  induction operators with
  | last op => rfl
  | more op gap rest ih => simp [snoc, chars, ih]

/-- Whether a text ends in a blank. -/
def endsInBlank (cs : List Char) : Bool := cs.getLast?.any isHorizontalSpace

/-- No spelling ends in a blank. -/
theorem Spelling.getLast?_chars (op : Spelling) :
    ∃ c, op.chars.getLast? = some c ∧ isHorizontalSpace c = false := by
  cases op with
  | symbols name valid =>
    obtain ⟨hne, hall⟩ := all_of_isSymbolicName valid
    have hlast := List.getLast?_eq_some_getLast hne
    exact ⟨_, hlast, isHorizontalSpace_of_isOperatorChar
      (List.all_eq_true.1 hall _ (List.getLast_mem hne))⟩
  | quoted name valid => exact ⟨'\x60', List.getLast?_concat, rfl⟩

theorem Operators.getLast?_chars (operators : Operators) :
    ∃ c, operators.chars.getLast? = some c ∧ isHorizontalSpace c = false := by
  induction operators with
  | last op => exact op.getLast?_chars
  | more op gap rest ih =>
    obtain ⟨c, hlast, hc⟩ := ih
    exact ⟨c, by simp [chars, List.getLast?_append, List.getLast?_cons, hlast], hc⟩

/-- Behind operators, a text ends in a blank exactly if there are blanks. -/
theorem endsInBlank_append_blanks (cs : List Char) (operators : Operators) (trailing : Blanks) :
    endsInBlank (cs ++ (operators.chars ++ trailing.1)) = true ↔ trailing.1 ≠ [] := by
  obtain ⟨c, hlast, hc⟩ := operators.getLast?_chars
  rcases List.eq_nil_or_concat trailing.1 with hnil | ⟨blanks, b, hblanks⟩
  · simp [endsInBlank, List.getLast?_append, hnil, hlast, hc]
  · have hb : isHorizontalSpace b = true := by
      have hall := trailing.2
      rw [hblanks] at hall
      simpa using (List.all_eq_true.1 hall) b (by simp)
    simp [endsInBlank, hblanks, ← List.append_assoc, hb]

namespace Stuck

variable {read rest : List Char} {wanted : List Expected} {e : Expected} {c : Char}

/-- Every character of a kind that is wanted goes on with what has been read, except for a comma
behind blanks. -/
theorem begins_append (h : Stuck read rest wanted) (he : e ∈ wanted)
    (hc : e.spells [c] = true) (hcomma : ¬ (e = .comma ∧ endsInBlank read = true)) :
    Begins (read ++ [c]) := by
  have hzero : denoted ['0'] ≤ maxPrecedence := by decide
  have hlimit : ∀ d : Char, [d].length ≤ Decimal.digitLimit := by
    intro d
    simp [Decimal.digitLimit]
  cases h with
  | gap d blank side =>
    obtain rfl := List.mem_singleton.1 he
    have hblank : isHorizontalSpace c = true := by simpa [Expected.spells] using hc
    let gap : Run isHorizontalSpace := ⟨[c], by simp [hblank]⟩
    let head : Head := ⟨d, gap, ⟨['0'], by decide⟩, hzero, hlimit _, gap⟩
    exact head.begins.shorten ⟨['0', c], by simp [head, gap, Head.chars]⟩
  | precedence d gap blank digit =>
    obtain rfl := List.mem_singleton.1 he
    have hdigit : c.isDigit = true := by simpa [Expected.spells] using hc
    let head : Head :=
      ⟨d, gap, ⟨[c], by simp [hdigit]⟩, denoted_digit_le hdigit, hlimit _, gap⟩
    exact head.begins.shorten ⟨gap.1, by simp [head, Head.chars]⟩
  | gap' d gap digits denoted_le length_le digit blank =>
    obtain rfl := List.mem_singleton.1 he
    have hblank : isHorizontalSpace c = true := by simpa [Expected.spells] using hc
    let head : Head := ⟨d, gap, digits, denoted_le, length_le, ⟨[c], by simp [hblank]⟩⟩
    exact head.begins.shorten ⟨[], by simp [head, Head.chars]⟩
  | operators head stuck =>
    obtain ⟨operators, hinit⟩ := stuck.exists_operators he hc
    rw [List.append_assoc]
    exact head.begins_append_of_operators hinit
  | finish head operators trailing more blank ends =>
    rcases List.mem_cons.1 he with rfl | hmem
    · obtain rfl : c = ',' := by simpa [Expected.spells] using hc
      have hnil : trailing.1 = [] := by
        by_contra hne
        exact hcomma ⟨rfl, (endsInBlank_append_blanks _ operators trailing).2 hne⟩
      have hplus : isSymbolicName ['+'] = true := by decide +kernel
      rw [hnil, List.append_nil, List.append_assoc]
      have hinit : operators.chars ++ [','] <+:
          (operators.snoc trailing (.symbols ['+'] hplus)).chars := by
        rw [Operators.chars_snoc]
        exact ⟨trailing.1 ++ ['+'], by simp [Spelling.chars]⟩
      exact head.begins_append_of_operators hinit
    · obtain rfl := List.mem_singleton.1 hmem
      exact absurd hc (by simp [Expected.spells])

/-- What is wanted is a single character of some kind, or else the text is a declaration as it
is. -/
theorem sample_or_read (h : Stuck read rest wanted) (he : e ∈ wanted) :
    (∃ c, e.sample = [c]) ∨
      e = .endOfInput ∧ ∃ pairs, (parseLogged (String.ofList read)).outcome = .ok pairs := by
  cases h with
  | gap d blank side =>
    obtain rfl := List.mem_singleton.1 he
    exact .inl ⟨' ', rfl⟩
  | precedence d gap blank digit =>
    obtain rfl := List.mem_singleton.1 he
    exact .inl ⟨'0', rfl⟩
  | gap' d gap digits denoted_le length_le digit blank =>
    obtain rfl := List.mem_singleton.1 he
    exact .inl ⟨' ', rfl⟩
  | operators head stuck => exact .inl (stuck.exists_sample.2 e he).2
  | finish head operators trailing more blank ends =>
    rcases List.mem_cons.1 he with rfl | hmem
    · exact .inl ⟨',', rfl⟩
    · obtain rfl := List.mem_singleton.1 hmem
      rw [← head.chars_sentence]
      exact .inr ⟨rfl, _, head.parse_sentence operators trailing⟩

theorem exists_ne_comma (h : Stuck read rest wanted) : ∃ e ∈ wanted, e ≠ .comma := by
  cases h with
  | operators head stuck =>
    obtain ⟨hne, hsample⟩ := stuck.exists_sample
    obtain ⟨e, he⟩ := List.exists_mem_of_ne_nil _ hne
    exact ⟨e, he, (hsample e he).1⟩
  | _ => simp

/-- What has been read is the beginning of a declaration. -/
theorem begins (h : Stuck read rest wanted) : Begins read := by
  obtain ⟨e, he, hne⟩ := h.exists_ne_comma
  rcases h.sample_or_read he with ⟨c, hsample⟩ | ⟨-, pairs, hread⟩
  · have hspells : e.spells [c] = true := hsample ▸ e.spells_sample
    exact (h.begins_append he hspells fun hcomma => hne hcomma.1).shorten
      (List.prefix_append read [c])
  · rw [outcome_parseLogged] at hread
    obtain ⟨s, hs, rfl⟩ := parse_sound hread
    rw [String.toList_ofList] at hs
    subst hs
    exact ⟨s, by rw [outcome_parseLogged, hread], List.prefix_rfl⟩

/-- A comma behind blanks is wanted where it is not accepted. -/
theorem comma_of_endsInBlank (h : Stuck read rest wanted) (he : .comma ∈ wanted)
    (hblank : endsInBlank read = true) : Stuck read [','] wanted := by
  cases h with
  | gap d blank side => exact absurd he (by simp)
  | precedence d gap blank digit => exact absurd he (by simp)
  | gap' d gap digits denoted_le length_le digit blank => exact absurd he (by simp)
  | operators head stuck => exact absurd rfl (stuck.exists_sample.2 _ he).1
  | finish head operators trailing more blank ends =>
    have hne := (endsInBlank_append_blanks _ operators trailing).1 hblank
    have hhead : trailing.1.head? = (trailing.1 ++ [',']).head? := by
      rw [List.head?_append, Option.or_of_isSome (by simpa using hne)]
    exact .finish head operators trailing (by simp) ((stops_cons _ _).2 rfl)
      (operators.ends_congr hhead (operators.ends_blanks trailing))

/-- What is wanted is accepted, except for a comma behind blanks. -/
theorem fits_iff (h : Stuck read rest wanted) (he : e ∈ wanted) :
    e.Fits read ↔ ¬ (e = .comma ∧ endsInBlank read = true) := by
  constructor
  · rintro hfits ⟨rfl, hblank⟩
    obtain ⟨cs, hspells, s, -, hinit⟩ := hfits
    obtain rfl : cs = [','] := by simpa [Expected.spells] using hspells
    exact (h.comma_of_endsInBlank he hblank).not_isPrefix_chars s hinit
  · intro hcomma
    rcases h.sample_or_read he with ⟨c, hsample⟩ | ⟨rfl, hread⟩
    · have hspells : e.spells [c] = true := hsample ▸ e.spells_sample
      refine e.fits_of_begins ?_ hspells (h.begins_append he hspells hcomma)
      rintro rfl
      exact absurd hsample (by simp [Expected.sample])
    · exact hread

/-- The character at the place is of no kind that is wanted there, except for a comma behind
blanks. -/
theorem eq_comma_of_spells (h : Stuck read (c :: rest) wanted) (he : e ∈ wanted)
    (hc : e.spells [c] = true) : e = .comma ∧ endsInBlank read = true := by
  by_contra hcomma
  obtain ⟨s, -, hinit⟩ := h.begins_append he hc hcomma
  exact h.not_isPrefix_chars s hinit

end Stuck

end FormatterConfig.Declaration
