import FormatterConfig.Proofs.ConfigFile.Contents
import FormatterConfig.Proofs.Fixity.Location

set_option autoImplicit false

/-! # Precedences of too many digits

A declaration is read, or it is refused with a report of the place, and a list of declarations is
read, or it is refused with the report of the first one that cannot be read. There is one exception:
digits in the place of the precedence that are more than are converted break the reading off without
a report, be they ones, which denote too large a number, or zeros, which the grammar derives. -/

namespace FormatterConfig

namespace Declaration

open FormatterConfig.Text

/-- Whether a text starts with a keyword, blanks and exactly so many digits, and these are more than
are converted. -/
def Overlong (text : String) (count : Nat) : Prop :=
  ∃ (d : Direction) (gap : Run isHorizontalSpace) (digits : Run Char.isDigit) (rest : List Char),
    text.toList = (Choice.direction d).tag.toList ++ (gap.1 ++ (digits.1 ++ rest)) ∧
      Stops Char.isDigit rest ∧ digits.1.length = count ∧ Decimal.digitLimit < count

theorem parse_eq_tooManyDigits_iff {text : String} {count : Nat} :
    parse text = .error (.tooManyDigits count) ↔ Overlong text count := by
  rw [parse_eq_error]
  constructor
  · intro h
    have hfails := fails_of_parts h
    generalize hcs : text.toList = cs at hfails
    cases hfails with
    | tooLong d gap digits ends long => exact ⟨d, gap, digits, _, hcs, ends, rfl, long⟩
  · rintro ⟨d, gap, digits, rest, hcs, ends, rfl, long⟩
    have hblank : Stops isHorizontalSpace (digits.1 ++ rest) :=
      stops_run_append digits _ fun c => isHorizontalSpace_of_isDigit
    rw [hcs, parts_gap d gap hblank, readPrecedence_of_length digits.2.2 ends long]
    rfl

theorem Operators.names_ne_nil (operators : Operators) : operators.names ≠ [] := by
  cases operators <;> exact List.cons_ne_nil _ _

theorem ne_nil_of_parse {text : String} {pairs : List (String × Fixity)}
    (h : parse text = .ok pairs) : pairs ≠ [] := by
  obtain ⟨s, -, rfl⟩ := parse_sound h
  exact fun hnil => s.operators.names_ne_nil (List.map_eq_nil_iff.1 hnil)

/-- The report of a refusal shows a line that the text has. -/
theorem Stop.line_report_le (text : String) (stop : Stop) :
    (stop.report text).line ≤ (cutAt '\n' text.toList).length := by
  have hline := (stop.report text).line_le
  rwa [source_report] at hline

/-- Whether a text is read, as one operator at least, or refused with a report that can be worded. -/
def ReadOrRefused (text : String) : Prop :=
  (∃ pairs, (parseLogged text).outcome = .ok pairs ∧ pairs ≠ []) ∨
    ∃ stop, (parseLogged text).outcome = .error (.malformed stop) ∧
      (stop.report text).line ≤ (cutAt '\n' text.toList).length

theorem readOrRefused_iff {text : String} : ReadOrRefused text ↔ ¬ ∃ count, Overlong text count := by
  simp only [← parse_eq_tooManyDigits_iff, ReadOrRefused, outcome_parseLogged]
  cases hparse : parse text with
  | ok pairs => simp [ne_nil_of_parse hparse]
  | error failure =>
    cases failure with
    | malformed stop => simp [stop.line_report_le text]
    | tooManyDigits count => simp

end Declaration

namespace ConfigFile

open Declaration (Overlong ReadOrRefused)

/-- Whether the first of some texts that is no declaration that can be read is overlong. -/
def FirstOverlong (texts : List String) (count : Nat) : Prop :=
  ∃ before text after, texts = before ++ text :: after ∧
    (∀ t ∈ before, ∃ pairs, (Declaration.parseLogged t).outcome = .ok pairs) ∧ Overlong text count

/-- Whether texts are read as declarations, or refused. -/
def AllReadOrRefused (texts : List String) : Prop :=
  (∃ table, (readFixities (texts.map Value.text)).outcome = .ok table) ∨
    ∃ error, (readFixities (texts.map Value.text)).outcome = .error (.refused error)

/-- Texts stand for themselves in a list of declarations. -/
theorem outcome_readFixities_eq_error {texts : List String} {failure : Failure} :
    (readFixities (texts.map Value.text)).outcome = .error failure ↔
      ∃ before text after fault, texts = before ++ text :: after ∧
        (∀ t ∈ before, ∃ pairs, Declaration.parse t = .ok pairs) ∧
        Declaration.parse text = .error fault ∧
        (ContentFault.declaration text fault).failure = failure := by
  rw [readFixities, outcome_declareAll_eq_error]
  constructor
  · rintro ⟨before, d, after, fault, hsplit, hbefore, hparse, hfailure⟩
    obtain ⟨before, rest, rfl, rfl, hrest⟩ := List.map_eq_append_iff.1 hsplit
    obtain ⟨text, after, rfl, rfl, rfl⟩ := List.map_eq_cons_iff.1 hrest
    exact ⟨before, text, after, fault, rfl,
      fun t ht => hbefore (.text t) (List.mem_map_of_mem ht), hparse, hfailure⟩
  · rintro ⟨before, text, after, fault, rfl, hbefore, hparse, hfailure⟩
    refine ⟨before.map Value.text, .text text, after.map Value.text, fault, by simp, ?_, hparse,
      hfailure⟩
    intro d hd
    obtain ⟨t, ht, rfl⟩ := List.mem_map.1 hd
    exact hbefore t ht

theorem outcome_readFixities_eq_broken {texts : List String} {breakdown : Breakdown} :
    (readFixities (texts.map Value.text)).outcome = .error (.broken breakdown) ↔
      ∃ count, FirstOverlong texts count ∧ breakdown = .conversion (.tooManyDigits count) := by
  rw [outcome_readFixities_eq_error]
  simp only [FirstOverlong, Declaration.outcome_parseLogged,
    ← Declaration.parse_eq_tooManyDigits_iff]
  constructor
  · rintro ⟨before, text, after, fault, hsplit, hbefore, hparse, hfailure⟩
    cases fault with
    | malformed stop => exact absurd hfailure (by simp [ContentFault.failure])
    | tooManyDigits count =>
      cases hfailure
      exact ⟨count, ⟨before, text, after, hsplit, hbefore, hparse⟩, rfl⟩
  · rintro ⟨count, ⟨before, text, after, hsplit, hbefore, hparse⟩, rfl⟩
    exact ⟨before, text, after, _, hsplit, hbefore, hparse, rfl⟩

theorem allReadOrRefused_iff {texts : List String} :
    AllReadOrRefused texts ↔ ¬ ∃ count, FirstOverlong texts count := by
  rw [AllReadOrRefused]
  constructor
  · rintro h ⟨count, hlong⟩
    rw [outcome_readFixities_eq_broken.2 ⟨count, hlong, rfl⟩] at h
    simp at h
  · intro hshort
    cases houtcome : (readFixities (texts.map Value.text)).outcome with
    | ok table => exact .inl ⟨table, rfl⟩
    | error failure =>
      cases failure with
      | refused error => exact .inr ⟨error, rfl⟩
      | broken breakdown =>
        obtain ⟨count, hlong, -⟩ := outcome_readFixities_eq_broken.1 houtcome
        exact absurd ⟨count, hlong⟩ hshort

/-- Declarations are read or refused, one by one and in a list, unless the precedence of one has more
digits than are converted. Exactly that breaks the reading off, and nothing else does. -/
theorem broken_iff_overlong (text : String) (texts : List String) :
    ((ReadOrRefused text ↔ ¬ ∃ count, Overlong text count) ∧
        ∀ count, (Declaration.parseLogged text).outcome = .error (.tooManyDigits count) ↔
          Overlong text count) ∧
      (AllReadOrRefused texts ↔ ¬ ∃ count, FirstOverlong texts count) ∧
        ∀ breakdown,
          (readFixities (texts.map Value.text)).outcome = .error (.broken breakdown) ↔
            ∃ count, FirstOverlong texts count ∧
              breakdown = .conversion (.tooManyDigits count) := by
  refine ⟨⟨Declaration.readOrRefused_iff, fun count => ?_⟩, allReadOrRefused_iff,
    fun breakdown => outcome_readFixities_eq_broken⟩
  rw [Declaration.outcome_parseLogged]
  exact Declaration.parse_eq_tooManyDigits_iff

/-! ## Overlong declarations -/

/-- A declaration whose precedence is one digit, repeated. -/
def repeatedDigit (digit : Char) (count : Nat) : String :=
  "infixl " ++ String.ofList (List.replicate count digit) ++ " +"

theorem toList_repeatedDigit (digit : Char) (count : Nat) :
    (repeatedDigit digit count).toList =
      (Choice.direction .left).tag.toList ++ ([' '] ++ (List.replicate count digit ++ [' ', '+'])) := by
  simp [repeatedDigit, Choice.tag]

/-- The digits of such a declaration. -/
def repeatedRun (digit : Char) (count : Nat) (hdigit : digit.isDigit = true) (hcount : 0 < count) :
    Declaration.Run Char.isDigit :=
  ⟨List.replicate count digit, by
    rw [Ne, List.replicate_eq_nil_iff]
    exact ⟨Nat.ne_of_gt hcount, by simp [hdigit]⟩⟩

theorem overlong_repeatedDigit {digit : Char} {count : Nat} (hdigit : digit.isDigit = true)
    (hcount : Decimal.digitLimit < count) : Overlong (repeatedDigit digit count) count := by
  have hpos : 0 < count := Nat.zero_lt_of_lt hcount
  exact ⟨.left, ⟨[' '], by decide⟩, repeatedRun digit count hdigit hpos, [' ', '+'],
    toList_repeatedDigit digit count, (Text.stops_cons _ _).2 rfl, List.length_replicate, hcount⟩

/-- Zeros denote zero, however many they are. -/
theorem denoted_zeros (count : Nat) : Declaration.denoted (List.replicate count '0') = 0 := by
  induction count with
  | zero => rfl
  | succ count ih =>
    rw [Declaration.denoted, List.reverse_replicate, List.map_replicate] at ih ⊢
    rw [List.replicate_succ, Nat.ofDigits_cons, ih]
    rfl

theorem exists_sentence_zeros {count : Nat} (hcount : 0 < count) :
    ∃ s : Declaration.Sentence, s.chars = (repeatedDigit '0' count).toList := by
  refine ⟨{ direction := .left
            gap := ⟨[' '], by decide⟩
            digits := repeatedRun '0' count rfl hcount
            denoted_le := (denoted_zeros count).trans_le (Nat.zero_le _)
            gap' := ⟨[' '], by decide⟩
            operators := .last (.symbols ['+'] (by decide +kernel))
            trailing := ⟨[], rfl⟩ }, ?_⟩
  rw [toList_repeatedDigit]
  rfl

/-- Neither as many ones, which denote too large a number, are reported, nor as many zeros, although
the grammar derives a declaration with them. -/
theorem overlong_unreported :
    (Declaration.parseLogged (repeatedDigit '1' 4301)).outcome = .error (.tooManyDigits 4301) ∧
      (readFixities [.text (repeatedDigit '1' 4301)]).outcome =
        .error (.broken (.conversion (.tooManyDigits 4301))) ∧
      (Declaration.parseLogged (repeatedDigit '0' 4301)).outcome = .error (.tooManyDigits 4301) ∧
      ∃ s : Declaration.Sentence, s.chars = (repeatedDigit '0' 4301).toList := by
  have hlong : Decimal.digitLimit < 4301 := Nat.lt_succ_self 4300
  have hones : Overlong (repeatedDigit '1' 4301) 4301 := overlong_repeatedDigit rfl hlong
  have hzeros : Overlong (repeatedDigit '0' 4301) 4301 := overlong_repeatedDigit rfl hlong
  have hlist : FirstOverlong [repeatedDigit '1' 4301] 4301 := ⟨[], _, [], rfl, nofun, hones⟩
  have hbroken := outcome_readFixities_eq_broken.2 ⟨4301, hlist, rfl⟩
  rw [Declaration.outcome_parseLogged, Declaration.outcome_parseLogged]
  exact ⟨Declaration.parse_eq_tooManyDigits_iff.2 hones, hbroken,
    Declaration.parse_eq_tooManyDigits_iff.2 hzeros, exists_sentence_zeros (Nat.succ_pos 4300)⟩

end ConfigFile

end FormatterConfig
