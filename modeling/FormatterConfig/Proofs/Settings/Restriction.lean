import FormatterConfig.Proofs.Settings.Grouping

set_option autoImplicit false

/-! # Documents read and written again

Reading the settings of a document drops nothing that it gives them and converts nothing but a choice
into its tag and back: what is written again are the entries of the document under the keys of
settings, without those that are null, in the order of the settings. So two documents are read alike
exactly if they give the same values, choices counting as their tags. -/

namespace FormatterConfig

/-! ## Values and their written forms -/

namespace SettingKind

variable {kind : SettingKind} {v w : Value}

/-- What is read has the written form of what it was read from. -/
theorem written_of_reading? (h : kind.reading? v = some w) : w.written = v.written := by
  unfold reading? at h
  split at h
  · split at h
    · cases h
      rfl
    · exact absurd h (by simp)
  · cases h
    rfl
  · split at h
    · cases h
      rfl
    · exact absurd h (by simp)
  · obtain ⟨c, htag, rfl⟩ := Option.map_eq_some_iff.1 h
    obtain ⟨-, rfl⟩ := ChoiceKind.ofTag?_eq_some.1 htag
    rfl
  · exact absurd h (by simp)

/-- A choice is read as its tag is. -/
theorem reading?_written (kind : SettingKind) (v : Value) :
    kind.reading? v.written = kind.reading? v := by
  cases v with
  | choice c =>
    cases kind with
    | integer minimum => cases minimum <;> rfl
    | truth => rfl
    | choice kind =>
      rw [Value.written, reading?, reading?, ChoiceKind.ofTag?_tag_eq]
      split <;> rfl
  | _ => rfl

/-- Values of one kind are equal only if they are the same: what they are keyed by tells them apart. -/
theorem eq_of_same (hv : kind.admits v = true) (hw : kind.admits w = true)
    (h : v.same w = true) : v = w := by
  have hform := (same_of_admits hw).1.1 h
  cases kind with
  | integer minimum =>
    obtain ⟨m, rfl⟩ : ∃ m, v = .int m := by cases v <;> simp_all [admits]
    obtain ⟨n, rfl⟩ : ∃ n, w = .int n := by cases w <;> simp_all [admits]
    simpa [Value.keyForm?] using hform
  | truth =>
    obtain ⟨b, rfl⟩ : ∃ b, v = .bool b := by cases v <;> simp_all [admits]
    obtain ⟨c, rfl⟩ : ∃ c, w = .bool c := by cases w <;> simp_all [admits]
    cases b <;> cases c <;> simp_all [Value.keyForm?]
  | choice kind =>
    obtain ⟨c, rfl⟩ : ∃ c, v = .choice c := by cases v <;> simp_all [admits]
    obtain ⟨d, rfl⟩ : ∃ d, w = .choice d := by cases w <;> simp_all [admits]
    have htag : c.tag = d.tag := by simpa [Value.keyForm?] using hform
    rw [Choice.tag_inj htag]

end SettingKind

theorem PartialSettings.same_iff_eq {p q : PartialSettings} (hp : p.wellFormed = true)
    (hq : q.wellFormed = true) : p.same q = true ↔ p = q := by
  rw [same_iff]
  constructor
  · intro h
    funext s
    have hs := h s
    have hadmits := wellFormed_iff.1 hp s
    have hadmits' := wellFormed_iff.1 hq s
    generalize p s = v at hs hadmits
    generalize q s = w at hs hadmits'
    cases hs with
    | none => rfl
    | some hsame => rw [SettingKind.eq_of_same (hadmits _ rfl) (hadmits' _ rfl) hsame]
  · rintro rfl s
    cases hv : p s with
    | none => exact .none
    | some v => exact .some ((SettingKind.same_of_admits (wellFormed_iff.1 hp s v hv)).1.2 rfl)

/-! ## Settings of a source -/

namespace SettingSource

variable {source : SettingSource} {p : PartialSettings}

/-- What a source gives the settings, by its written form. -/
def writtenValue (source : SettingSource) (s : Setting) : Option Value :=
  (source.table.given? (source.keyOf s)).map Value.written

theorem accepted?_eq_written (source : SettingSource) (s : Setting) :
    source.accepted? s = (source.writtenValue s).bind s.kind.reading? := by
  rw [accepted?_eq, writtenValue]
  cases source.table.given? (source.keyOf s) with
  | none => rfl
  | some v => exact (s.kind.reading?_written v).symm

theorem map_written_of_read (h : source.read = .ok p) (s : Setting) :
    (p s).map Value.written = source.writtenValue s := by
  obtain ⟨htaken, rfl⟩ := (read_eq_ok_of_given fun _ => rfl).1 h
  show ((source.table.given? (source.keyOf s)).bind s.kind.reading?).map Value.written = _
  rw [writtenValue]
  cases hgiven : source.table.given? (source.keyOf s) with
  | none => rfl
  | some v =>
    obtain ⟨w, hw⟩ := Option.ne_none_iff_exists'.1 (htaken s v hgiven)
    rw [Option.bind_some, hw, Option.map_some, Option.map_some, SettingKind.written_of_reading? hw]

end SettingSource

/-! ## Documents -/

/-- What a document gives the settings, as the entries of another: those of the settings that it gives
a value other than null, in order, with choices by their tags. -/
def Mapping.settingEntries (table : Mapping) : Mapping :=
  Setting.all.filterMap fun s => (table.given? s.key).map fun v => (.text s.key, v.written)

namespace PartialSettings

/-- What is read of a document is written again as the document gave it, and two documents are read
alike exactly if they give each setting the same, choices counting as their tags. What is read is
equal only if it is the same. -/
theorem entries_of_ofDocument {table : Mapping} {scope : String} {p : PartialSettings}
    (h : (ofDocument table scope).outcome = .ok p) :
    p.entries = table.settingEntries ∧
      ∀ (table' : Mapping) (scope' : String) (q : PartialSettings),
        (ofDocument table' scope').outcome = .ok q →
        (p.same q = true ↔ p = q) ∧
          (p = q ↔ ∀ s : Setting, (table.given? s.key).map Value.written =
            (table'.given? s.key).map Value.written) := by
  have hread := ofDocument_eq_ok.1 h
  have hwritten := SettingSource.map_written_of_read hread
  constructor
  · rw [entries_eq_filterMap, Mapping.settingEntries]
    congr 1
    funext s
    rw [hwritten, SettingSource.writtenValue, Option.map_map]
    rfl
  · intro table' scope' q h'
    have hread' := ofDocument_eq_ok.1 h'
    refine ⟨same_iff_eq (wellFormed_of_read hread) (wellFormed_of_read hread'), ?_⟩
    -- the written form is read off what is read, and what is read off the written form
    constructor
    · rintro rfl s
      exact (hwritten s).symm.trans (SettingSource.map_written_of_read hread' s)
    · intro hsame
      obtain ⟨-, rfl⟩ := SettingSource.read_eq_ok.1 hread
      obtain ⟨-, rfl⟩ := SettingSource.read_eq_ok.1 hread'
      funext s
      rw [SettingSource.accepted?_eq_written, SettingSource.accepted?_eq_written]
      exact congrArg (Option.bind · s.kind.reading?) (hsame s)

/-- A tag and the choice that it names are read alike, and written as the tag; null and a further key
are dropped, and a zero is kept. -/
theorem entries_of_ofDocument_tagged :
    let document : Mapping := [(.text "haddock-style", .choice (.doc .singleLine)),
      (.text "respectful", .null), (.text "color", .bool true), (.text "indentation", .int 0)]
    let tagged : Mapping :=
      [(.text "indentation", .int 0), (.text "haddock-style", .text "single-line")]
    ∃ p, (ofDocument document "").outcome = .ok p ∧ (ofDocument tagged "").outcome = .ok p ∧
      p.entries = tagged := by
  intro document tagged
  have hread : (SettingSource.ofDocument document "").read =
      .ok (SettingSource.ofDocument document "").accepted? :=
    SettingSource.read_eq_ok.2 ⟨fun s => by cases s <;> decide, rfl⟩
  have htagged : (SettingSource.ofDocument tagged "").read =
      .ok (SettingSource.ofDocument tagged "").accepted? :=
    SettingSource.read_eq_ok.2 ⟨fun s => by cases s <;> decide, rfl⟩
  obtain ⟨hentries, hsame⟩ := entries_of_ofDocument (ofDocument_eq_ok.2 hread)
  have heq := (hsame tagged "" _ (ofDocument_eq_ok.2 htagged)).2.2 fun s => by cases s <;> rfl
  refine ⟨_, ofDocument_eq_ok.2 hread, ?_, hentries.trans rfl⟩
  rw [heq]
  exact ofDocument_eq_ok.2 htagged

end PartialSettings

end FormatterConfig
