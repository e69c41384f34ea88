import FormatterConfig.Proofs.Settings.Writing

set_option autoImplicit false

/-! # Arguments and the document that states them

A caller passes settings under their names, and a document sets them under their keys. What is checked
is the value alone, by the one rule for the kind of the setting, and in the same order for both. So
arguments are read exactly as the document that states them, and where a setting is refused, it is the
same one, with a message that differs in the place alone. Whatever else a caller passes is never looked
at, not even under the key of a setting. -/

namespace FormatterConfig

/-! ## Messages -/

/-- Refusals that find a value in any place, if their message is the same but for that place. -/
def NamesPlaceAlone (fault : Place → CheckFault) : Prop :=
  ∃ before after, ∀ place, (fault place).message = before ++ place.text ++ after

theorem namesPlaceAlone_wrongKind (expected : ExpectedKind) (v : Value) :
    NamesPlaceAlone fun place => .wrongKind expected place v := by
  refine ⟨"Expected " ++ expected.wording ++ " in ",
    ", got " ++ (v.kindName ++ (": " ++ v.display)), fun place => ?_⟩
  dsimp only [CheckFault.message]
  rw [String.append_assoc, String.append_assoc, String.append_assoc]

theorem namesPlaceAlone_belowMinimum (minimum n : Int) :
    NamesPlaceAlone fun place => .belowMinimum minimum place n := by
  refine ⟨"Expected int >= " ++ toString minimum ++ " in ", ", got " ++ toString n,
    fun place => ?_⟩
  dsimp only [CheckFault.message]
  rw [String.append_assoc]

theorem namesPlaceAlone_unknownTag (kind : ChoiceKind) (v : Value) :
    NamesPlaceAlone fun place => .unknownTag kind place v := by
  -- the tags stay a name of their own, or they would be spelled out on the way
  obtain ⟨tags, htags⟩ : ∃ tags, tags = ", ".intercalate (kind.members.map Choice.tag) := ⟨_, rfl⟩
  refine ⟨"Invalid value for ", ": " ++ (v.display ++ (" (allowed: " ++ (tags ++ ")"))),
    fun place => ?_⟩
  dsimp only [CheckFault.message]
  rw [← htags, String.append_assoc, String.append_assoc, String.append_assoc, String.append_assoc]

/-- Of a refused value, the kind of the setting decides all of the message but the place. -/
theorem SettingKind.namesPlaceAlone_fault (kind : SettingKind) (v : Value) :
    NamesPlaceAlone fun place => kind.fault place v := by
  cases kind with
  | integer minimum =>
    cases minimum with
    | none => exact namesPlaceAlone_wrongKind .integer v
    | some m =>
      cases v with
      | int n => exact namesPlaceAlone_belowMinimum m n
      | _ => exact namesPlaceAlone_wrongKind .integer _
  | truth => exact namesPlaceAlone_wrongKind .truth v
  | choice kind =>
    cases htext : v.isText with
    | true =>
      simp only [fault, htext]
      exact namesPlaceAlone_unknownTag kind v
    | false =>
      simp only [fault, htext]
      exact namesPlaceAlone_wrongKind .choiceTag v

theorem Place.text_argument (s : Setting) :
    (⟨"args", s.name, none⟩ : Place).text = "args." ++ s.name := by
  simp only [text, String.append_empty]
  rfl

theorem Place.text_key (s : Setting) : (⟨"", s.key, none⟩ : Place).text = s.key := by
  simp only [text, if_true, String.append_empty]

/-- The error that refuses a value of a setting which is found in a place. -/
def Setting.refusal (s : Setting) (place : Place) (v : Value) : ConfigError :=
  .of (.check (s.kind.fault place v))

/-! ## Arguments -/

/-- The document that states a caller's arguments: what is passed under the name of a setting stands
under its key. -/
def documentOfArguments (args : Mapping) : Mapping :=
  Setting.all.filterMap fun s => (args.get? s.name).map fun v => (.text s.key, v)

theorem given?_documentOfArguments (args : Mapping) (s : Setting) :
    (documentOfArguments args).given? s.key = args.given? s.name := by
  refine Mapping.given?_congr ?_
  rw [documentOfArguments, Mapping.get?_filterMap_setting fun _ _ => Setting.key_inj,
    if_pos s.mem_all]

/-- The entries that a caller passes under the names of settings. -/
def argumentEntries (args : Mapping) : Mapping :=
  args.filter fun e => Setting.all.any fun s => Mapping.isEntryOf s.name e

theorem given?_argumentEntries (args : Mapping) (s : Setting) :
    (argumentEntries args).given? s.name = args.given? s.name :=
  Mapping.given?_congr <|
    Mapping.get?_filter (fun _ he => List.any_eq_true.2 ⟨s, s.mem_all, he⟩) args

namespace PartialSettings

theorem ofArguments_argumentEntries (args : Mapping) :
    ofArguments (argumentEntries args) = ofArguments args := by
  have hread : (SettingSource.ofArguments (argumentEntries args)).read =
      (SettingSource.ofArguments args).read :=
    SettingSource.read_congr (given?_argumentEntries args) fun _ => rfl
  rw [ofArguments, ofArguments, hread]

/-- Arguments are refused as what is read of them is. -/
theorem outcome_ofArguments_eq_error {args : Mapping} {failure : Failure} :
    (ofArguments args).outcome = .error failure ↔
      (settle (SettingSource.ofArguments args).read).outcome = .error failure := by
  rw [ofArguments, Logged.outcome_bind, bind_eq_error]
  simp [Logged.outcome_bind, Logged.outcome_pure]

/-- Arguments without integers too long to be written out are read exactly as the document that states
them. If they are refused, then both are for the first setting whose value is, and the messages are
the same but for the place, which is the name behind the scope of arguments in the one and the key in
the other. What is passed under other keys than the names of settings never matters. -/
theorem ofArguments_agrees_with_document (args : Mapping)
    (h : ∀ (s : Setting) (v : Value), args.given? s.name = some v → v.hasLongInteger = false) :
    (∀ p, (ofArguments args).outcome = .ok p ↔
        (ofDocument (documentOfArguments args) "").outcome = .ok p) ∧
      ((∃ p, (ofArguments args).outcome = .ok p) ∨
        ∃ (s : Setting) (v : Value) (before after : String),
          FirstRefused (fun t => args.given? t.name) s v ∧
          (ofArguments args).outcome = .error (.refused (s.refusal ⟨"args", s.name, none⟩ v)) ∧
          (ofDocument (documentOfArguments args) "").outcome =
            .error (.refused (s.refusal ⟨"", s.key, none⟩ v)) ∧
          (s.refusal ⟨"args", s.name, none⟩ v).message = before ++ ("args." ++ s.name) ++ after ∧
          (s.refusal ⟨"", s.key, none⟩ v).message = before ++ s.key ++ after) ∧
      ofArguments (argumentEntries args) = ofArguments args := by
  have hargs : ∀ s, (SettingSource.ofArguments args).table.given?
      ((SettingSource.ofArguments args).keyOf s) = args.given? s.name := fun _ => rfl
  have hdocument : ∀ s, (SettingSource.ofDocument (documentOfArguments args) "").table.given?
      ((SettingSource.ofDocument (documentOfArguments args) "").keyOf s) = args.given? s.name :=
    given?_documentOfArguments args
  refine ⟨fun p => ?_, ?_, ofArguments_argumentEntries args⟩
  · rw [ofArguments_eq_ok, ofDocument_eq_ok, SettingSource.read_eq_ok_of_given hargs,
      SettingSource.read_eq_ok_of_given hdocument]
  · cases hread : (SettingSource.ofArguments args).read with
    | ok p => exact .inl ⟨p, ofArguments_eq_ok.2 hread⟩
    | error fault =>
      obtain ⟨s, v, hfirst, rfl⟩ := (SettingSource.read_eq_error_of_given hargs).1 hread
      have hread' := (SettingSource.read_eq_error_of_given hdocument).2 ⟨s, v, hfirst, rfl⟩
      have hshort : v.hasLongInteger = false := h s v hfirst.given
      obtain ⟨before, after, hmessage⟩ := s.kind.namesPlaceAlone_fault v
      refine .inr ⟨s, v, before, after, hfirst, ?_, ?_, ?_, ?_⟩
      · rw [outcome_ofArguments_eq_error, hread]
        exact outcome_settle_error (Setting.isUnwritable_fault hshort)
      · rw [ofDocument, hread']
        exact outcome_settle_error (Setting.isUnwritable_fault hshort)
      · have hargument := hmessage ⟨"args", s.name, none⟩
        rwa [Place.text_argument] at hargument
      · have hkey := hmessage ⟨"", s.key, none⟩
        rwa [Place.text_key] at hkey

/-- A text that names no choice comes before a count below its minimum, in either source; the value
under the key of a setting is not looked at. -/
theorem ofArguments_agrees_with_document_refused :
    let args : Mapping := [(.text "newlines_between_decls", .int (-1)),
      (.text "haddock_style", .text "single"), (.text "comma-style", .int 7),
      (.text "respectful", .bool false)]
    (ofArguments args).outcome = .error (.refused
        (Setting.docStyle.refusal ⟨"args", "haddock_style", none⟩ (.text "single"))) ∧
      (ofDocument (documentOfArguments args) "").outcome = .error (.refused
        (Setting.docStyle.refusal ⟨"", "haddock-style", none⟩ (.text "single"))) ∧
      ofArguments (argumentEntries args) = ofArguments args := by
  intro args
  have hshort : ∀ (s : Setting) (v : Value), args.given? s.name = some v →
      v.hasLongInteger = false := by
    intro s v hv
    have hall : ∀ e ∈ args, e.2.hasLongInteger = false := by decide +kernel
    obtain ⟨k, -, hmem⟩ := Mapping.mem_of_get? (Mapping.given?_eq_some.1 hv).1
    exact hall _ hmem
  obtain ⟨-, ⟨p, hp⟩ | ⟨s, v, before, after, hfirst, hargs, hdocument, -, -⟩, hentries⟩ :=
    ofArguments_agrees_with_document args hshort
  · have htaken := (SettingSource.read_eq_ok.1 (ofArguments_eq_ok.1 hp)).1 .docStyle
    exact absurd rfl (SettingSource.refusal?_eq_none.1 htaken (.text "single") rfl)
  · have hs : s = .docStyle := by
      cases s with
      | docStyle => rfl
      | newlinesBetweenDecls =>
        exact absurd rfl (hfirst.before .docStyle (by decide) (.text "single") rfl)
      | respectful =>
        obtain rfl : Value.bool false = v := Option.some.inj hfirst.given
        exact absurd hfirst.refused (by decide)
      | _ => exact absurd hfirst.given (Option.some_ne_none v).symm
    subst hs
    obtain rfl : Value.text "single" = v := Option.some.inj hfirst.given
    exact ⟨hargs, hdocument, hentries⟩

end PartialSettings

end FormatterConfig
