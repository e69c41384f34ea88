import FormatterConfig.Proofs.Settings.Writing
import FormatterConfig.Settings.View

set_option autoImplicit false

/-! # Views that a run makes

A run starts with no view of the settings and makes views one after the other: the defaults, what is
read of a document or of a caller's arguments, and what comes of earlier views by filling gaps. The
readers check the kind of every value, and no other step makes a value, so every view of a run is
well formed, whatever the mappings were. This is what lets each view be read back from its written
form. -/

namespace FormatterConfig

namespace TotalSettings

variable {t : TotalSettings}

theorem wellFormed_iff :
    t.wellFormed = true ↔ ∀ s : Setting, s.kind.admits (t s) = true := by
  rw [wellFormed, List.all_eq_true]
  exact ⟨fun h s => h s s.mem_all, fun h s _ => h s⟩

theorem wellFormed_defaults : defaults.wellFormed = true := by decide

theorem wellFormed_thaw (ht : t.wellFormed = true) : t.thaw.wellFormed = true := by
  refine PartialSettings.wellFormed_iff.2 fun s v hv => ?_
  obtain rfl : t s = v := Option.some.inj hv
  exact wellFormed_iff.1 ht s

/-- Full settings leave nothing to a base. -/
theorem resolve_thaw (t base : TotalSettings) : t.thaw.resolve base = t := rfl

/-- Full settings are written as given ones are. -/
theorem entries_thaw (t : TotalSettings) : t.thaw.entries = t.entries := rfl

end TotalSettings

namespace PartialSettings

variable {p q : PartialSettings}

theorem wellFormed_combine (hp : p.wellFormed = true) (hq : q.wellFormed = true) :
    (p.combine q).wellFormed = true := by
  refine wellFormed_iff.2 fun s v hv => ?_
  rcases Option.or_eq_some_iff.1 hv with hv | ⟨-, hv⟩
  · exact wellFormed_iff.1 hp s v hv
  · exact wellFormed_iff.1 hq s v hv

theorem wellFormed_resolve {base : TotalSettings} (hp : p.wellFormed = true)
    (hbase : base.wellFormed = true) : (p.resolve base).wellFormed = true := by
  refine TotalSettings.wellFormed_iff.2 fun s => ?_
  show s.kind.admits ((p s).getD (base s)) = true
  cases hv : p s with
  | none => exact TotalSettings.wellFormed_iff.1 hbase s
  | some v => exact wellFormed_iff.1 hp s v hv

/-- Whatever a mapping holds, only values of the right kind are read from it. -/
theorem wellFormed_of_read {source : SettingSource} (h : source.read = .ok p) :
    p.wellFormed = true := by
  obtain ⟨-, rfl⟩ := SettingSource.read_eq_ok.1 h
  refine wellFormed_iff.2 fun s v hv => ?_
  rw [SettingSource.accepted?_eq] at hv
  obtain ⟨raw, -, hread⟩ := Option.bind_eq_some_iff.1 hv
  exact (SettingKind.reading?_eq_some hread).1

end PartialSettings

namespace SettingsView

/-- Whether every setting that a view gives has a value of its kind. -/
def wellFormed : SettingsView → Bool
  | .part p => p.wellFormed
  | .whole t => t.wellFormed

variable {caller file base high low v : SettingsView} {views : List SettingsView}

theorem wellFormed_given (hv : v.wellFormed = true) : v.given.wellFormed = true := by
  cases v with
  | part p => exact hv
  | whole t => exact TotalSettings.wellFormed_thaw hv

theorem wellFormed_fill (hhigh : high.wellFormed = true) (hlow : low.wellFormed = true) :
    (high.fill low).wellFormed = true := by
  cases low with
  | part p => exact PartialSettings.wellFormed_combine (wellFormed_given hhigh) hlow
  | whole t => exact PartialSettings.wellFormed_resolve (wellFormed_given hhigh) hlow

theorem wellFormed_layer (hcaller : caller.wellFormed = true) (hfile : file.wellFormed = true)
    (hbase : base.wellFormed = true) : (layer caller file base).wellFormed = true :=
  wellFormed_fill hcaller (wellFormed_fill hfile hbase)

/-! ## Runs -/

/-- One step: a view that is made of nothing, of a mapping or of earlier views. -/
inductive Made (views : List SettingsView) : SettingsView → Prop
  | defaults : Made views (.whole .defaults)
  | document {table : Mapping} {scope : String} {p : PartialSettings}
      (read : (PartialSettings.ofDocument table scope).outcome = .ok p) : Made views (.part p)
  | arguments {table : Mapping} {p : PartialSettings}
      (read : (PartialSettings.ofArguments table).outcome = .ok p) : Made views (.part p)
  | combine {p q : PartialSettings} (hp : .part p ∈ views) (hq : .part q ∈ views) :
      Made views (.part (p.combine q))
  | resolve {p : PartialSettings} {t : TotalSettings} (hp : .part p ∈ views)
      (ht : .whole t ∈ views) : Made views (.whole (p.resolve t))
  | fill {high low : SettingsView} (hhigh : high ∈ views) (hlow : low ∈ views) :
      Made views (high.fill low)
  | layer {caller file base : SettingsView} (hcaller : caller ∈ views) (hfile : file ∈ views)
      (hbase : base ∈ views) : Made views (layer caller file base)
  | layerDefaults {caller file : SettingsView} (hcaller : caller ∈ views) (hfile : file ∈ views) :
      Made views (layer caller file (.whole .defaults))
  | thaw {t : TotalSettings} (ht : .whole t ∈ views) : Made views (.part t.thaw)

/-- A run, by the views that it has made. -/
inductive Run : List SettingsView → Prop
  | start : Run []
  | step {views : List SettingsView} {v : SettingsView} (run : Run views) (made : Made views v) :
      Run (v :: views)

/-- A step keeps to well-formed views. -/
theorem Made.wellFormed (hmade : Made views v) (hviews : ∀ w ∈ views, w.wellFormed = true) :
    v.wellFormed = true := by
  cases hmade with
  | defaults => exact TotalSettings.wellFormed_defaults
  | document read =>
    exact PartialSettings.wellFormed_of_read (PartialSettings.ofDocument_eq_ok.1 read)
  | arguments read =>
    exact PartialSettings.wellFormed_of_read (PartialSettings.ofArguments_eq_ok.1 read)
  | combine hp hq => exact PartialSettings.wellFormed_combine (hviews _ hp) (hviews _ hq)
  | resolve hp ht => exact PartialSettings.wellFormed_resolve (hviews _ hp) (hviews _ ht)
  | fill hhigh hlow => exact wellFormed_fill (hviews _ hhigh) (hviews _ hlow)
  | layer hcaller hfile hbase =>
    exact wellFormed_layer (hviews _ hcaller) (hviews _ hfile) (hviews _ hbase)
  | layerDefaults hcaller hfile =>
    exact wellFormed_layer (hviews _ hcaller) (hviews _ hfile) TotalSettings.wellFormed_defaults
  | thaw ht => exact TotalSettings.wellFormed_thaw (hviews _ ht)

theorem Run.wellFormed (hrun : Run views) : ∀ v ∈ views, v.wellFormed = true := by
  induction hrun with
  | start => simp
  | step run made ih => exact List.forall_mem_cons.2 ⟨made.wellFormed ih, ih⟩

/-- Every view that a run makes is well formed, and full settings have no gap. A partial view is what
is read of its written form and of the arguments that state it, and full settings are what is
resolved from their written form, or from themselves as given ones, against any base. -/
theorem Run.wellFormed_and_read_back (hrun : Run views) :
    (∀ p, .part p ∈ views →
      p.wellFormed = true ∧
        (∀ scope, (PartialSettings.ofDocument p.entries scope).outcome = .ok p) ∧
        (PartialSettings.ofArguments p.arguments).outcome = .ok p) ∧
      ∀ t, .whole t ∈ views →
        t.wellFormed = true ∧ (∀ s, t s ≠ .null) ∧
          (∀ scope, ∃ p, (PartialSettings.ofDocument t.entries scope).outcome = .ok p ∧
            ∀ base, p.resolve base = t) ∧
          ∀ base, t.thaw.resolve base = t := by
  refine ⟨fun p hmem => ?_, fun t hmem => ?_⟩
  · have hp : p.wellFormed = true := hrun.wellFormed _ hmem
    exact ⟨hp, PartialSettings.outcome_ofDocument_entries hp,
      PartialSettings.outcome_ofArguments_arguments hp⟩
  · have ht : t.wellFormed = true := hrun.wellFormed _ hmem
    have hthaw := TotalSettings.wellFormed_thaw ht
    refine ⟨ht, fun s => SettingKind.ne_null_of_admits (TotalSettings.wellFormed_iff.1 ht s),
      fun scope => ⟨t.thaw, ?_, TotalSettings.resolve_thaw t⟩, TotalSettings.resolve_thaw t⟩
    rw [← TotalSettings.entries_thaw]
    exact PartialSettings.outcome_ofDocument_entries hthaw scope

/-- A document with a zero and a tag, arguments with a member and a negation, and their layers over
the defaults. -/
theorem Run.wellFormed_and_read_back_layered :
    let document : Mapping := [(.text "indentation", .int 0), (.text "comma-style", .text "trailing"),
      (.text "color", .list [.null])]
    let arguments : Mapping := [(.text "comma_style", .choice (.comma .leading)),
      (.text "respectful", .bool false), (.text "indentation", .null)]
    ∃ p q t,
      (PartialSettings.ofDocument document "").outcome = .ok p ∧
      (PartialSettings.ofArguments arguments).outcome = .ok q ∧
      Run [.part t.thaw, .whole t, .part q, .part p] ∧
      t .indentation = .int 0 ∧ t .commaStyle = .choice (.comma .leading) ∧
      t .respectful = .bool false ∧ t.wellFormed = true ∧
      (PartialSettings.ofDocument p.entries "").outcome = .ok p ∧
      (PartialSettings.ofArguments q.arguments).outcome = .ok q ∧
      t.thaw.resolve .defaults = t := by
  intro document arguments
  have hdocument : (SettingSource.ofDocument document "").read =
      .ok (SettingSource.ofDocument document "").accepted? :=
    SettingSource.read_eq_ok.2 ⟨fun s => by cases s <;> decide, rfl⟩
  have harguments : (SettingSource.ofArguments arguments).read =
      .ok (SettingSource.ofArguments arguments).accepted? :=
    SettingSource.read_eq_ok.2 ⟨fun s => by cases s <;> decide, rfl⟩
  obtain ⟨p, hp⟩ : ∃ p, p = (SettingSource.ofDocument document "").accepted? := ⟨_, rfl⟩
  obtain ⟨q, hq⟩ : ∃ q, q = (SettingSource.ofArguments arguments).accepted? := ⟨_, rfl⟩
  rw [← hp] at hdocument
  rw [← hq] at harguments
  have hread := PartialSettings.ofDocument_eq_ok.2 hdocument
  have hpassed := PartialSettings.ofArguments_eq_ok.2 harguments
  have hcaller : .part q ∈ [.part q, SettingsView.part p] := by simp
  have hfile : .part p ∈ [.part q, SettingsView.part p] := by simp
  have hlayers : Run [.whole (layerSettings q p .defaults), .part q, .part p] :=
    ((Run.start.step (.document hread)).step (.arguments hpassed)).step
      (.layerDefaults hcaller hfile)
  have hrun := hlayers.step (.thaw List.mem_cons_self)
  obtain ⟨hparts, hwholes⟩ := Run.wellFormed_and_read_back hrun
  obtain ⟨ht, -, -, hresolved⟩ := hwholes (layerSettings q p .defaults) (by simp)
  refine ⟨p, q, layerSettings q p .defaults, hread, hpassed, hrun, ?_, ?_, ?_, ht,
    (hparts p (by simp)).2.1 "", (hparts q (by simp)).2.2, hresolved .defaults⟩
  all_goals
    subst hp hq
    rfl

end SettingsView

end FormatterConfig
