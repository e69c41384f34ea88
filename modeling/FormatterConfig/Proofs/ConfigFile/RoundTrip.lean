import FormatterConfig.Proofs.ConfigFile.Reading
import FormatterConfig.Proofs.Fixity.Table
import FormatterConfig.Proofs.Fixity.Writing
import FormatterConfig.Proofs.Settings.Writing
import FormatterConfig.Proofs.Value.Equality
import FormatterConfig.Yaml.Document
import FormatterConfig.Yaml.Writing.Encode

set_option autoImplicit false

/-! # Writing contents and reading them again

What was read of a document can be written, and reading the written document gives the same contents
back: the same settings, and the same operators in the same order. Two invariants of what is read
carry this. A setting holds a value of its kind, which its written form is read as. A table holds no
operator twice, and only operators that a declaration can state, so that every entry is a declaration
of its own and inserting them one after the other makes the table again. -/

namespace FormatterConfig

namespace ConfigFile

/-- What is read of a setting is of its kind, and read from its written form. -/
theorem givenSettings_eq_some {table : Mapping} {s : Setting} {w : Value}
    (h : givenSettings table s = some w) :
    s.kind.admits w = true ∧ s.kind.reading? w.written = some w ∧ w.written ≠ .null := by
  obtain ⟨v, -, hread⟩ := Option.bind_eq_some_iff.1 h
  obtain ⟨hadmits, hwritten, hne⟩ := SettingKind.reading?_eq_some hread
  exact ⟨hadmits, hwritten, Value.written_ne_null hne⟩

/-! ## Fixities -/

/-- Every operator that was read is one that a declaration can state. -/
theorem declarable_of_mem {texts : List Value} {entries : List (List (String × Fixity))}
    (h : List.Forall₂ (fun d pairs => Declaration.parse (declarationText d) = .ok pairs)
      texts entries) {e : String × Fixity} (he : e ∈ FixityTable.insertAll [] entries.flatten) :
    Declaration.Declarable e := by
  rcases FixityTable.mem_insertAll he with hnil | hmem
  · exact absurd hnil (by simp)
  · obtain ⟨pairs, hpairs, hin⟩ := List.mem_flatten.1 hmem
    -- the entry stems from one of the declarations; both speak of the whole list
    clear he hmem
    induction h with
    | nil => exact absurd hpairs (by simp)
    | cons hparse _ ih =>
      rcases List.mem_cons.1 hpairs with rfl | hrest
      · obtain ⟨s, -, rfl⟩ := Declaration.parse_sound hparse
        exact s.declarable_of_mem hin
      · exact ih hrest

/-- A table that declarations can state is written, a declaration an entry. -/
theorem mapM_write {t : FixityTable} (h : ∀ e ∈ t, Declaration.Declarable e) :
    ∃ texts : List String, (t.mapM fun (name, f) => Declaration.write name f) = .ok texts ∧
      List.Forall₂ (fun d pairs => Declaration.parse (declarationText d) = .ok pairs)
        (texts.map Value.text) (t.map fun e => [e]) := by
  induction t with
  | nil => exact ⟨[], rfl, .nil⟩
  | cons e t ih =>
    obtain ⟨name, f⟩ := e
    obtain ⟨text, hwrite, hparse⟩ := Declaration.parse_write (h _ List.mem_cons_self)
    obtain ⟨texts, hwrites, hparses⟩ := ih fun e he => h e (List.mem_cons_of_mem _ he)
    refine ⟨text :: texts, ?_, .cons hparse hparses⟩
    rw [List.mapM_cons]
    dsimp only
    rw [hwrite, ok_bind, hwrites]
    rfl

/-! ## Contents -/

variable {c : ConfigFile}

/-- The list of declarations that is written below the settings, if it is not empty. -/
def writtenDeclarations (texts : List String) : Mapping :=
  if texts.isEmpty then [] else [(.text fixitiesKey, .list (texts.map Value.text))]

/-- The entries of contents whose declarations are given: those of the settings, and the list of the
declarations if there are any. -/
theorem entries_eq {texts : List String}
    (h : (c.fixities.mapM fun (name, f) => Declaration.write name f) = .ok texts)
    (hlength : c.fixities.length = texts.length) :
    c.entries = .ok (c.settings.entries ++ writtenDeclarations texts) := by
  have hempty : c.fixities.isEmpty = texts.isEmpty := by
    rw [Bool.eq_iff_iff, List.isEmpty_iff_length_eq_zero, List.isEmpty_iff_length_eq_zero, hlength]
  rw [entries, h, ok_bind, hempty, writtenDeclarations]
  split
  · rw [List.append_nil]
    rfl
  · rfl

/-- A setting is given by what is written exactly if it is given, and by its written form. -/
theorem given?_written {p : PartialSettings} {extra : Mapping} {s : Setting}
    (hextra : extra.get? s.key = none) (hne : ∀ w, p s = some w → w.written ≠ .null) :
    Mapping.given? (p.entries ++ extra) s.key = (p s).map Value.written := by
  have hget : Mapping.get? (p.entries ++ extra) s.key = (p s).map Value.written := by
    rw [Mapping.get?_append, PartialSettings.get?_entries, hextra, Option.or_none]
  cases hs : p s with
  | none =>
    rw [hs] at hget
    simp [Mapping.given?, hget]
  | some w =>
    rw [hs] at hget
    exact Mapping.given?_eq_some.2 ⟨hget, hne w hs⟩

theorem get?_writtenDeclarations (texts : List String) (s : Setting) :
    (writtenDeclarations texts).get? s.key = none := by
  unfold writtenDeclarations
  split
  · rfl
  · have hkey : fixitiesKey ≠ s.key := s.key_ne_fixitiesKey.symm
    simp [Mapping.get?_cons, Value.text?, hkey]

theorem declares_written (p : PartialSettings) (texts : List String) :
    Declares (p.entries ++ writtenDeclarations texts) (texts.map Value.text) := by
  have hget : Mapping.get? (p.entries ++ writtenDeclarations texts) fixitiesKey =
      (writtenDeclarations texts).get? fixitiesKey := by
    rw [Mapping.get?_append, PartialSettings.get?_entries_fixitiesKey, Option.none_or]
  cases texts with
  | nil =>
    refine .inl ⟨?_, rfl⟩
    rw [Mapping.given?, hget]
    rfl
  | cons text texts =>
    refine .inr ⟨_, Mapping.given?_eq_some.2 ⟨?_, by simp⟩, Value.list?_list _, ?_⟩
    · rw [hget]
      simp [writtenDeclarations, Mapping.get?_cons, Value.text?]
    · intro d hd
      obtain ⟨t, -, rfl⟩ := List.mem_map.1 hd
      rfl

/-- Settings that are each of their kind and written as they are read, and declarations that are read
as the entries of a table without repetitions, are read back from what is written. -/
theorem outcome_ofMapping_written {texts : List String}
    (hsettings : ∀ (s : Setting) (w : Value), c.settings s = some w →
      s.kind.reading? w.written = some w ∧ w.written ≠ .null)
    (htexts : List.Forall₂ (fun d pairs => Declaration.parse (declarationText d) = .ok pairs)
      (texts.map Value.text) (c.fixities.map fun e => [e]))
    (hnodup : (FixityTable.operators c.fixities).Nodup) :
    (ofMapping (c.settings.entries ++ writtenDeclarations texts)).outcome = .ok c := by
  have hgiven : ∀ s, Mapping.given? (c.settings.entries ++ writtenDeclarations texts) s.key =
      (c.settings s).map Value.written := fun s =>
    given?_written (get?_writtenDeclarations texts s) fun w hw => (hsettings s w hw).2
  -- every setting is taken, each is read as what was written, and the table is made again
  refine outcome_ofMapping_eq_ok.2 ⟨?_, ?_, _, _, declares_written _ texts, htexts, ?_⟩
  · intro s v hv
    rw [hgiven] at hv
    obtain ⟨w, hw, rfl⟩ := Option.map_eq_some_iff.1 hv
    simp [(hsettings s w hw).1]
  · funext s
    rw [givenSettings, hgiven]
    cases hs : c.settings s with
    | none => rfl
    | some w => exact (hsettings s w hs).1.symm
  · exact (FixityTable.insertAll_flatten_singletons hnodup).symm

theorem isFlat_of_mem_written {p : PartialSettings} {texts : List String}
    (hsettings : ∀ (s : Setting) (w : Value), p s = some w → s.kind.admits w = true)
    {e : Value × Value} (he : e ∈ p.entries ++ writtenDeclarations texts) :
    (∃ key, e.1 = .text key) ∧ e.2.IsFlat := by
  rcases List.mem_append.1 he with hmem | hmem
  · obtain ⟨s, w, hw, rfl⟩ := PartialSettings.mem_entries hmem
    exact ⟨⟨_, rfl⟩, SettingKind.isFlat_written (hsettings s w hw)⟩
  · unfold writtenDeclarations at hmem
    split at hmem
    · exact absurd hmem (by simp)
    · obtain rfl := List.mem_singleton.1 hmem
      exact ⟨⟨_, rfl⟩, .texts texts⟩

theorem ofText_of_decode {runtime : Runtime} {text : List Char} {table : Mapping}
    (hdecode : runtime.decode text = .ok (.map table)) (hkeys : ∀ e ∈ table, e.1.isText = true)
    (hcontents : (ofMapping table).outcome = .ok c) : (ofText runtime text).outcome = .ok c := by
  have htext : (Value.map table).isTextMapping = true := List.all_eq_true.2 hkeys
  have hmapping : decodeMapping runtime.decode text = .ok table := by
    rw [decodeMapping, hdecode]
    simp [htext]
  exact outcome_ofText_eq_ok.2 ⟨table, hmapping, hcontents⟩

/-- Contents that were read are written as texts, integers, truth values and a list of texts, and
the written mapping says the same; so does every text that is decoded as it, whatever decodes it. -/
theorem ofMapping_entries {table : Mapping} (h : (ofMapping table).outcome = .ok c) :
    ∃ written, c.entries = .ok written ∧
      (∀ e ∈ written, (∃ key, e.1 = .text key) ∧ e.2.IsFlat) ∧
      (ofMapping written).outcome = .ok c ∧
      ∀ (runtime : Runtime) (text : String), Mapping.yaml written = .ok text →
        runtime.decode text.toList = .ok (.map written) →
        (ofText runtime text.toList).outcome = .ok c := by
  obtain ⟨-, hsettings, texts, entries, -, hparse, hfixities⟩ := outcome_ofMapping_eq_ok.1 h
  -- the invariants of what was read: settings of their kinds, and each operator once
  have hsetting : ∀ (s : Setting) (w : Value), c.settings s = some w →
      s.kind.admits w = true ∧ s.kind.reading? w.written = some w ∧ w.written ≠ .null := by
    intro s w hw
    rw [hsettings] at hw
    exact givenSettings_eq_some hw
  have hnodup : (FixityTable.operators c.fixities).Nodup := by
    rw [hfixities]
    exact FixityTable.nodup_insertAll _ List.nodup_nil
  obtain ⟨declarations, hwrite, hread⟩ := mapM_write fun e (he : e ∈ c.fixities) =>
    declarable_of_mem hparse (hfixities ▸ he)
  have hlength : c.fixities.length = declarations.length := by simpa using hread.length_eq.symm
  have hflat : ∀ e ∈ c.settings.entries ++ writtenDeclarations declarations,
      (∃ key, e.1 = .text key) ∧ e.2.IsFlat := fun e he =>
    isFlat_of_mem_written (fun s w hw => (hsetting s w hw).1) he
  have hback := outcome_ofMapping_written (fun s w hw => (hsetting s w hw).2) hread hnodup
  refine ⟨_, entries_eq hwrite hlength, hflat, hback, fun runtime text _ hdecode => ?_⟩
  refine ofText_of_decode hdecode (fun e he => ?_) hback
  obtain ⟨key, hkey⟩ := (hflat e he).1
  rw [hkey]
  rfl

/-- A choice by its member, an unknown key, a setting without a value, and an operator that is
declared twice: it keeps its place and has its last fixity. -/
theorem ofMapping_entries_redeclared :
    ∃ c written text,
      (ofMapping [(.text fixitiesKey, .list [.text "infixr 5 <+>,`on`", .text "infixl 07 <+>"]),
        (.text "comma-style", .choice (.comma .trailing)), (.text "color", .int 1),
        (.text "respectful", .null)]).outcome = .ok c ∧
      c.fixities = [("<+>", ⟨some .left, 7, 7⟩), ("on", ⟨some .right, 5, 5⟩)] ∧
      c.entries = .ok written ∧ (ofMapping written).outcome = .ok c ∧
      Mapping.yaml written = .ok text ∧ Yaml.decode text.toList = .ok (.map written) ∧
      (ofText (.ample Yaml.decode) text.toList).outcome = .ok c := by
  have hread : ((ofMapping [(.text fixitiesKey,
        .list [.text "infixr 5 <+>,`on`", .text "infixl 07 <+>"]),
      (.text "comma-style", .choice (.comma .trailing)), (.text "color", .int 1),
      (.text "respectful", .null)]).outcome.toOption.map fun c =>
        (c.fixities, c.entries.toOption)) =
      some ([("<+>", ⟨some .left, 7, 7⟩), ("on", ⟨some .right, 5, 5⟩)],
        some [(.text "comma-style", .text "trailing"),
          (.text fixitiesKey, .list [.text "infixl 7 <+>", .text "infixr 5 `on`"])]) := by
    decide +kernel
  have hdecode : (Yaml.decode
      "comma-style: trailing\nfixities:\n- infixl 7 <+>\n- infixr 5 `on`\n".toList).toOption =
      some (.map [(.text "comma-style", .text "trailing"),
        (.text fixitiesKey, .list [.text "infixl 7 <+>", .text "infixr 5 `on`"])]) := by
    decide +kernel
  obtain ⟨c, hc, hparts⟩ := Option.map_eq_some_iff.1 hread
  obtain ⟨hfixities, hentries⟩ := Prod.mk.inj hparts
  obtain ⟨written, hwritten, -, hback, htext⟩ := ofMapping_entries (eq_ok_of_toOption hc)
  rw [hwritten] at hentries
  obtain rfl := Option.some.inj hentries
  have hdecoded := eq_ok_of_toOption hdecode
  exact ⟨c, _, _, eq_ok_of_toOption hc, hfixities, hwritten, hback, rfl, hdecoded,
    htext (.ample Yaml.decode) _ rfl hdecoded⟩

end ConfigFile

end FormatterConfig
