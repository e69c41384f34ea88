import FormatterConfig.Proofs.Fixity.Continuation

set_option autoImplicit false

/-! # Where a report points

The report of a refused declaration points at the first character that no declaration goes on with,
or at the end of the text if a declaration could go on there, or at the start of a precedence that
is too large. A declaration has one line, and so has what is in front of the place. What the report
expects there is what would be accepted, except that a comma is expected behind operators even where
blanks follow them. -/

namespace FormatterConfig

/-- In front of the first line end, the column is the offset. -/
theorem Report.line_and_column {r : Report} {place : Nat} (hoffset : r.offset = place)
    (hline : '\n' ∉ r.source.toList.take place) : r.line = 1 ∧ r.column = place + 1 := by
  have hbefore : before r.source.toList r.offset = r.source.toList.take place := by
    rw [before, hoffset]
    simp
  have hstart : r.lineStart = 0 := by
    have hall : ∀ c ∈ (r.source.toList.take place).reverse, (c != '\n') = true := by
      intro c hc
      rw [bne_iff_ne]
      rintro rfl
      exact hline (List.mem_reverse.1 hc)
    rw [lineStart, hbefore, List.takeWhile_eq_self_iff.2 hall]
    simp
  constructor
  · rw [line, hbefore, List.count_eq_zero.2 hline]
  · rw [column, hstart, hoffset]
    simp

namespace Declaration

open FormatterConfig.Text

/-! ## Declarations of one line -/

theorem notMem_of_all {p : Char → Bool} {cs : List Char} {c : Char} (hall : cs.all p = true)
    (hc : p c = false) : c ∉ cs := by
  intro hmem
  rw [List.all_eq_true.1 hall c hmem] at hc
  exact Bool.false_ne_true hc.symm

theorem Operators.newline_notMem (operators : Operators) : '\n' ∉ operators.chars := by
  have hop : ∀ op : Spelling, '\n' ∉ op.chars := by
    intro op
    cases op with
    | symbols name valid =>
      exact notMem_of_all (Spelling.all_of_isSymbolicName valid).2 (by decide +kernel)
    | quoted name valid =>
      have hname : '\n' ∉ name :=
        notMem_of_all (Spelling.all_of_isIdentifier valid) (by decide +kernel)
      simp [Spelling.chars, hname]
  induction operators with
  | last op => exact hop op
  | more op gap rest ih =>
    have hgap : '\n' ∉ gap.1 := notMem_of_all gap.2 (by decide)
    simp [chars, hop op, hgap, ih]

theorem Sentence.newline_notMem (s : Sentence) : '\n' ∉ s.chars := by
  have hkeyword : '\n' ∉ (Choice.direction s.direction).tag.toList := by
    cases s.direction <;> decide
  have hgap : '\n' ∉ s.gap.1 := notMem_of_all s.gap.2.2 (by decide)
  have hdigits : '\n' ∉ s.digits.1 := notMem_of_all s.digits.2.2 (by decide)
  have hgap' : '\n' ∉ s.gap'.1 := notMem_of_all s.gap'.2.2 (by decide)
  have htrailing : '\n' ∉ s.trailing.1 := notMem_of_all s.trailing.2 (by decide)
  simp [chars, hkeyword, hgap, hdigits, hgap', s.operators.newline_notMem, htrailing]

theorem Begins.newline_notMem {cs : List Char} (h : Begins cs) : '\n' ∉ cs := by
  obtain ⟨s, -, hinit⟩ := h
  exact fun hmem => s.newline_notMem (hinit.subset hmem)

/-! ## The place of a refusal -/

theorem Stuck.read_ne_nil {read rest : List Char} {wanted : List Expected}
    (h : Stuck read rest wanted) : read ≠ [] := by
  have hkeyword : ∀ d, (Choice.direction d).tag.toList ≠ [] := by
    intro d
    cases d <;> decide
  cases h with
  | gap d blank side => exact hkeyword d
  | _ => simp [Head.chars, hkeyword]

/-- What is in front of the place of a refusal is the beginning of a declaration. -/
theorem Fails.exists_read {cs : List Char} {stop : Stop} (h : Fails cs (.malformed stop)) :
    ∃ read, cs = read ++ stop.rest ∧ Begins read := by
  cases h with
  | keyword none =>
    have hstuck : Stuck (Choice.direction .left).tag.toList [] [.whiteSpace] :=
      .gap .left stops_nil fun hd => absurd hd (by decide)
    exact ⟨[], rfl, hstuck.begins.shorten List.nil_prefix⟩
  | tooLarge d gap digits ends large =>
    have hstuck : Stuck ((Choice.direction d).tag.toList ++ gap.1) [] [.integer] :=
      .precedence d gap stops_nil stops_nil
    exact ⟨_, by rw [List.append_assoc], hstuck.begins⟩
  | @stuck read rest wanted stuck => exact ⟨read, rfl, stuck.begins⟩

theorem getElem?_length_append (read rest : List Char) :
    (read ++ rest)[read.length]? = rest.head? := by
  rw [List.getElem?_append_right (Nat.le_refl _), Nat.sub_self, List.head?_eq_getElem?]

theorem Stop.offset_eq {text : String} {stop : Stop} {read : List Char}
    (h : text.toList = read ++ stop.rest) : stop.offset text = read.length := by
  rw [offset, ← String.length_toList, h, List.length_append, Nat.add_sub_cancel]

theorem Stop.take_offset {text : String} {stop : Stop} {read : List Char}
    (h : text.toList = read ++ stop.rest) : text.toList.take (stop.offset text) = read := by
  rw [offset_eq h, h, List.take_left]

/-! ## Reports -/

/-- A report of something that no declaration goes on with. -/
structure UnexpectedAt (text : String) (place : Nat) (r : Report) : Prop where
  reason : r.reason = none
  expecting : r.expecting ≠ []
  unexpected : r.unexpected = some (match text.toList[place]? with
    | some c => Text.quotedChar c
    | none => "end of input")
  /-- The character at the place is the first that no declaration goes on with. -/
  stuck : 0 < place → place < text.length →
    ∀ s : Sentence, ¬ text.toList.take (place + 1) <+: s.chars
  /-- Only a text without a keyword is refused at its start. -/
  start : place = 0 → ∀ d, ¬ (Choice.direction d).tag.toList <+: text.toList

/-- A report of a precedence that is too large. -/
structure TooLargeAt (text : String) (place : Nat) (r : Report) : Prop where
  reason : r.reason ≠ none
  unexpected : r.unexpected = none
  expecting : r.expecting = []
  large : maxPrecedence < denoted ((text.toList.drop place).takeWhile Char.isDigit)

/-- A report that points at a place in a text. -/
structure Located (text : String) (place : Nat) (r : Report) : Prop where
  source : r.source = text
  offset : r.offset = place
  le_length : place ≤ text.length
  begins : Begins (text.toList.take place)
  shape : Xor (UnexpectedAt text place r) (TooLargeAt text place r)
  noNewline : '\n' ∉ text.toList.take place
  line : r.line = 1
  column : r.column = place + 1

theorem fails_of_parse {text : String} {failure : Failure}
    (h : (parseLogged text).outcome = .error failure) : Fails text.toList failure := by
  rw [outcome_parseLogged] at h
  exact fails_of_parts (parse_eq_error.1 h)

@[simp] theorem Stop.source_report (text : String) (stop : Stop) :
    (stop.report text).source = text := by
  unfold report
  split <;> rfl

@[simp] theorem Stop.offset_report (text : String) (stop : Stop) :
    (stop.report text).offset = stop.offset text := by
  unfold report
  split <;> rfl

theorem Stop.unexpected_report {text : String} {read rest : List Char} {wanted : List Expected}
    (h : text.toList = read ++ rest) :
    (report text ⟨rest, .unexpected wanted⟩).unexpected = some (match text.toList[read.length]? with
      | some c => Text.quotedChar c
      | none => "end of input") := by
  rw [h, getElem?_length_append]
  cases rest with
  | nil => rfl
  | cons c rest => rfl

theorem UnexpectedAt.not_tooLargeAt {text : String} {place : Nat} {r : Report}
    (h : UnexpectedAt text place r) : ¬ TooLargeAt text place r :=
  fun hlarge => hlarge.reason h.reason

theorem Fails.shape {text : String} {cs : List Char} {stop : Stop}
    (h : Fails cs (.malformed stop)) (htext : text.toList = cs) :
    Xor (UnexpectedAt text (stop.offset text) (stop.report text))
      (TooLargeAt text (stop.offset text) (stop.report text)) := by
  cases h with
  | keyword none =>
    have hread : text.toList = [] ++ cs := htext
    have hunexpected : UnexpectedAt text 0 (Stop.report text
        ⟨cs, .unexpected [.keyword .neither, .keyword .left, .keyword .right]⟩) :=
      { reason := rfl
        expecting := List.cons_ne_nil _ _
        unexpected := Stop.unexpected_report hread
        stuck := fun hpos => absurd hpos (Nat.lt_irrefl 0)
        start := fun _ => htext ▸ none }
    rw [Stop.offset_eq hread]
    exact .inl ⟨hunexpected, hunexpected.not_tooLargeAt⟩
  | tooLarge d gap digits ends large =>
    rw [← List.append_assoc] at htext
    rw [Stop.offset_eq htext]
    refine .inr ⟨⟨nofun, rfl, rfl, ?_⟩, fun hunexpected => absurd hunexpected.reason nofun⟩
    rwa [htext, List.drop_left, takeWhile_append_of_stops digits.2.2 ends]
  | @stuck read rest wanted stuck =>
    have hunexpected : UnexpectedAt text read.length
        (Stop.report text ⟨rest, .unexpected wanted⟩) :=
      { reason := rfl
        expecting := by
          obtain ⟨e, he, -⟩ := stuck.exists_ne_comma
          exact List.ne_nil_of_mem (List.mem_map_of_mem he)
        unexpected := Stop.unexpected_report htext
        stuck := by
          intro _ hlt s
          cases rest with
          | nil =>
            rw [← String.length_toList, htext, List.append_nil] at hlt
            exact absurd hlt (Nat.lt_irrefl _)
          | cons c rest =>
            rw [htext, List.take_length_add_append]
            exact stuck.not_isPrefix_chars s
        start := fun hzero => absurd (List.length_eq_zero_iff.1 hzero) stuck.read_ne_nil }
    rw [Stop.offset_eq htext]
    exact .inl ⟨hunexpected, hunexpected.not_tooLargeAt⟩

/-- The report of a refused declaration points at a place in it, and what is in front of the place
is the beginning of a declaration. At the place stands either a character that no declaration goes
on with, or nothing, or a precedence that is too large. -/
theorem report_located {text : String} {stop : Stop}
    (h : (parseLogged text).outcome = .error (.malformed stop)) :
    Located text (stop.offset text) (stop.report text) := by
  have hfails := fails_of_parse h
  obtain ⟨read, htext, hbegins⟩ := hfails.exists_read
  have htake := Stop.take_offset htext
  have hnoNewline : '\n' ∉ text.toList.take (stop.offset text) := by
    rw [htake]
    exact hbegins.newline_notMem
  have hplace := Report.line_and_column (Stop.offset_report text stop)
    ((Stop.source_report text stop).symm ▸ hnoNewline)
  exact
    { source := Stop.source_report text stop
      offset := Stop.offset_report text stop
      le_length := Nat.sub_le _ _
      begins := htake ▸ hbegins
      shape := hfails.shape rfl
      noNewline := hnoNewline
      line := hplace.1
      column := hplace.2 }

/-- An identifier that no backtick closes, in front of a blank. -/
theorem report_located_unclosed :
    (parseLogged "infixl 1 &,\t`on' x").outcome =
        .error (.malformed ⟨[' ', 'x'], .unexpected [.backtick, .identifierCharacter]⟩) ∧
      Located "infixl 1 &,\t`on' x" 16
        ⟨"infixl 1 &,\t`on' x", 16, some "' '", ["'`'", "identifier character"], none⟩ := by
  have hparse : (parseLogged "infixl 1 &,\t`on' x").outcome =
      .error (.malformed ⟨[' ', 'x'], .unexpected [.backtick, .identifierCharacter]⟩) := by
    rw [outcome_parseLogged]
    decide +kernel
  exact ⟨hparse, report_located hparse⟩

/-! ## What is expected -/

/-- What is wanted at the place of a refusal. -/
def Stop.wanted (stop : Stop) : List Expected :=
  match stop.problem with
  | .unexpected wanted => wanted
  | .precedenceTooLarge => []

theorem Stop.expecting_report (text : String) (stop : Stop) :
    (stop.report text).expecting = stop.wanted.map Expected.text := by
  unfold report wanted
  cases stop.problem <;> rfl

/-- Every keyword is accepted at the start, and none is a single character. -/
theorem fits_keyword (d : Direction) :
    (Expected.keyword d).Fits [] ∧ ∀ c, (Expected.keyword d).spells [c] = false := by
  have hstuck : Stuck (Choice.direction d).tag.toList [] [.whiteSpace] :=
    .gap d stops_nil fun _ => stops_nil
  refine ⟨⟨_, Expected.spells_sample _, hstuck.begins⟩, fun c => ?_⟩
  cases d <;> simp [Expected.spells, Choice.tag]

/-- What is wanted at the place of a refusal is accepted there, and the character at the place is
not, except for a comma behind blanks. -/
theorem Fails.fits_iff {cs : List Char} {stop : Stop} (h : Fails cs (.malformed stop)) :
    ∃ read, cs = read ++ stop.rest ∧ ∀ e ∈ stop.wanted,
      (e.Fits read ↔ ¬ (e = .comma ∧ endsInBlank read = true)) ∧
      ∀ c ∈ stop.rest.head?, e.spells [c] = true → e = .comma ∧ endsInBlank read = true := by
  cases h with
  | keyword none =>
    refine ⟨[], rfl, fun e he => ?_⟩
    obtain ⟨d, rfl⟩ : ∃ d, e = .keyword d := by
      simp only [Stop.wanted, List.mem_cons, List.not_mem_nil, or_false] at he
      rcases he with rfl | rfl | rfl <;> exact ⟨_, rfl⟩
    obtain ⟨hfits, hspells⟩ := fits_keyword d
    exact ⟨iff_of_true hfits nofun, fun c _ hc => absurd hc (by simp [hspells])⟩
  | tooLarge d gap digits ends large =>
    exact ⟨_, by rw [List.append_assoc], fun e he => absurd he List.not_mem_nil⟩
  | @stuck read rest wanted stuck =>
    refine ⟨read, rfl, fun e he => ⟨stuck.fits_iff he, fun c hc hspells => ?_⟩⟩
    obtain ⟨tail, rfl⟩ := List.head?_eq_some_iff.1 (Option.mem_def.1 hc)
    exact stuck.eq_comma_of_spells he hspells

/-- What a report expects is accepted at its place, except for a comma where blanks follow
operators; only there can the character at the place be one that is expected. -/
theorem expecting_fits_iff {text : String} {stop : Stop}
    (h : (parseLogged text).outcome = .error (.malformed stop)) :
    (stop.report text).expecting = stop.wanted.map Expected.text ∧
      ∀ e ∈ stop.wanted,
        (e.Fits (text.toList.take (stop.offset text)) ↔
          ¬ (e = .comma ∧ endsInBlank (text.toList.take (stop.offset text)) = true)) ∧
        ∀ c, text.toList[stop.offset text]? = some c → e.spells [c] = true →
          e = .comma ∧ endsInBlank (text.toList.take (stop.offset text)) = true := by
  obtain ⟨read, htext, hfits⟩ := (fails_of_parse h).fits_iff
  have hnext : text.toList[stop.offset text]? = stop.rest.head? := by
    rw [Stop.offset_eq htext, htext, getElem?_length_append]
  rw [Stop.take_offset htext, hnext]
  exact ⟨stop.expecting_report text, hfits⟩

/-- A closing backtick and a longer identifier are both accepted where the text ends. -/
theorem expecting_fits_iff_unclosed :
    (parseLogged "infixr 5 `op").outcome =
        .error (.malformed ⟨[], .unexpected [.backtick, .identifierCharacter]⟩) ∧
      Expected.backtick.Fits "infixr 5 `op".toList ∧
      Expected.identifierCharacter.Fits "infixr 5 `op".toList := by
  have hparse : (parseLogged "infixr 5 `op").outcome =
      .error (.malformed ⟨[], .unexpected [.backtick, .identifierCharacter]⟩) := by
    rw [outcome_parseLogged]
    decide +kernel
  obtain ⟨-, hfits⟩ := expecting_fits_iff hparse
  exact ⟨hparse, (hfits .backtick (by decide)).1.2 nofun,
    (hfits .identifierCharacter (by decide)).1.2 nofun⟩

/-- A comma is expected behind a blank, although no declaration has one there: it is the very
character that is reported as unexpected. -/
theorem comma_wanted_behind_blank :
    ∃ stop, (parseLogged "infixl 5 + ,").outcome = .error (.malformed stop) ∧
      (stop.report "infixl 5 + ,").unexpected = some "','" ∧
      "','" ∈ (stop.report "infixl 5 + ,").expecting ∧
      .comma ∈ stop.wanted ∧
      ¬ Expected.comma.Fits ("infixl 5 + ,".toList.take (stop.offset "infixl 5 + ,")) := by
  have hparse : parse "infixl 5 + ," =
      .error (.malformed ⟨[','], .unexpected [.comma, .endOfInput]⟩) := by
    decide +kernel
  refine ⟨_, (outcome_parseLogged _).trans hparse, rfl, by decide, by decide, ?_⟩
  obtain ⟨read, htext, hfits⟩ := (fails_of_parts (parse_eq_error.1 hparse)).fits_iff
  obtain rfl : "infixl 5 + ".toList = read :=
    (List.append_left_inj [',']).1 (Eq.trans (by decide) htext)
  exact fun hcomma => (hfits .comma (by decide)).1.1 hcomma ⟨rfl, by decide⟩

end Declaration

end FormatterConfig
