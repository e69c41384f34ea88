import FormatterConfig.Proofs.ConfigFile.RoundTrip
import FormatterConfig.Proofs.RunConfig.Loading
import FormatterConfig.Proofs.Settings.Runs

set_option autoImplicit false

/-! # Writing the configuration of a run

The written form of a configuration shows what it was made of. It fails only for a fixity that has
no declaration, and then at the first such operator. What is written is read back: each operator has
a declaration of its own, and each setting its key. A configuration that was made of read files
holds only operators that were declared, since a layer invents none; so it can always be written. -/

namespace FormatterConfig

namespace ConfigFile

open Declaration (Declarable)

/-- A table that declarations can state is written, and read back with its operators in order. -/
theorem readFixities_write {t : FixityTable} (hnodup : t.operators.Nodup)
    (h : ∀ e ∈ t, Declarable e) :
    ∃ texts : List String, (t.mapM fun (name, f) => Declaration.write name f) = .ok texts ∧
      (readFixities (texts.map Value.text)).outcome = .ok t := by
  obtain ⟨texts, hwrite, hread⟩ := mapM_write h
  exact ⟨texts, hwrite, outcome_declareAll_eq_ok.2
    ⟨_, hread, (FixityTable.insertAll_flatten_singletons hnodup).symm⟩⟩

/-- Contents that some document has. -/
def IsRead (c : ConfigFile) : Prop := ∃ table, (ofMapping table).outcome = .ok c

theorem IsRead.declarable {c : ConfigFile} (h : c.IsRead) : ∀ e ∈ c.fixities, Declarable e := by
  obtain ⟨table, hread⟩ := h
  obtain ⟨-, -, texts, entries, -, hparse, hfixities⟩ := outcome_ofMapping_eq_ok.1 hread
  rw [hfixities]
  exact fun e he => declarable_of_mem hparse he

theorem IsRead.nodup {c : ConfigFile} (h : c.IsRead) :
    (FixityTable.operators c.fixities).Nodup := by
  obtain ⟨table, hread⟩ := h
  obtain ⟨-, -, texts, entries, -, -, hfixities⟩ := outcome_ofMapping_eq_ok.1 hread
  rw [hfixities]
  exact FixityTable.nodup_insertAll _ List.nodup_nil

theorem isRead_of_read {runtime : Runtime} {path : Path}
    {bytes : Except ReadFault (List UInt8)} {c : ConfigFile}
    (h : (read runtime path bytes).outcome = .ok c) : c.IsRead := by
  cases hnull : path.holdsNull with
  | true =>
    rw [outcome_read, hnull, if_pos rfl] at h
    exact absurd h (by simp)
  | false =>
    obtain ⟨text, table, -, -, hread⟩ := (outcome_read_eq_ok hnull).1 h
    exact ⟨table, hread⟩

end ConfigFile

namespace RunConfig

open Declaration (Declarable IsOperatorName declarable_of_isOperatorName)
open FixityTable (operators)

variable {ρ : Type}

/-- The written form as far as it can fail: the declarations of the operators come first. -/
theorem entries_eq_error [RegionForm ρ] {c : RunConfig ρ} {u : Declaration.Unwritable} :
    c.entries = .error u ↔
      (c.fixities.mapM fun (name, f) => Declaration.write name f) = .error u := by
  rw [entries, bind_eq_error]
  simp [pure, Except.pure]

/-- The keys of the written form that are read back. -/
theorem get?_entries [RegionForm ρ] {c : RunConfig ρ} {texts : List String} {dump : Mapping}
    (hwrite : (c.fixities.mapM fun (name, f) => Declaration.write name f) = .ok texts)
    (hdump : c.entries = .ok dump) :
    dump.get? fixitiesKey = some (.list (texts.map Value.text)) ∧
      dump.get? "printer-opts" = some (.map c.settings.entries) := by
  rw [entries, hwrite] at hdump
  obtain rfl := Except.ok.inj hdump
  constructor <;> simp [Mapping.get?_cons, Value.text?, fixitiesKey]

/-! ## Configurations that are made of read files -/

/-- Whether a configuration comes of the default one by loading, by layers with read files and by
making margins of its region. -/
inductive Obtained : ∀ {ρ : Type}, RunConfig ρ → Prop
  | default : Obtained RunConfig.default
  | load {base c : RunConfig Region} {runtime : Runtime} {env : Environment} {fs : FileSystem}
      {start : Path} {overrides : Option PartialSettings} (obtained : Obtained base)
      (loaded : (RunConfig.load runtime env fs start base overrides).outcome = .ok c) : Obtained c
  | layer {ρ : Type} {base : RunConfig ρ} {file : Option ConfigFile}
      {overrides : Option PartialSettings} (obtained : Obtained base)
      (read : ∀ f ∈ file, f.IsRead) : Obtained (base.layer file overrides)
  | margins {base : RunConfig Region} {c : RunConfig Margins} {total : Int}
      (obtained : Obtained base) (converted : base.withMargins total = .ok c) : Obtained c

theorem isRead_of_supplies {runtime : Runtime} {env : Environment} {fs : FileSystem}
    {start : Path} {file : Option ConfigFile} (h : Supplies runtime env fs start file) :
    ∀ f ∈ file, f.IsRead := by
  cases h with
  | nothing absent => simp
  | contents found valid =>
    intro f hf
    obtain rfl := Option.some.inj hf
    exact ConfigFile.isRead_of_read valid

theorem withMargins_eq_ok {c : RunConfig Region} {total : Int} {d : RunConfig Margins} :
    c.withMargins total = .ok d ↔ c.region.check total = .ok () ∧ d = c.convertRegion total := by
  unfold withMargins
  cases c.region.check total with
  | ok _ => simp [Except.map, eq_comm]
  | error fault => simp [Except.map]

/-- Operators that declarations state, each once: what a layer of read files keeps. -/
structure Declared (c : RunConfig ρ) : Prop where
  nodup : (operators c.fixities).Nodup
  declarable : ∀ e ∈ c.fixities, Declarable e

theorem Declared.layer {c : RunConfig ρ} (h : Declared c) {file : Option ConfigFile}
    (hfile : ∀ f ∈ file, f.IsRead) (overrides : Option PartialSettings) :
    Declared (c.layer file overrides) := by
  cases file with
  | none => exact ⟨h.nodup, h.declarable⟩
  | some f =>
    have hread : f.IsRead := hfile f rfl
    refine ⟨FixityTable.nodup_overlay c.fixities hread.nodup, fun e he => ?_⟩
    rcases FixityTable.mem_insertAll he with hlow | hhigh
    · exact hread.declarable e hlow
    · exact h.declarable e hhigh

theorem Obtained.declared {c : RunConfig ρ} (h : Obtained c) : Declared c := by
  induction h with
  | default => exact ⟨List.nodup_nil, by simp [RunConfig.default]⟩
  | load obtained loaded ih =>
    obtain ⟨file, hsupplies, rfl⟩ := load_eq_ok.1 loaded
    exact ih.layer (isRead_of_supplies hsupplies) _
  | layer obtained read ih => exact ih.layer read _
  | margins obtained converted ih =>
    obtain ⟨-, rfl⟩ := withMargins_eq_ok.1 converted
    exact ⟨ih.nodup, ih.declarable⟩

/-! ## The written form -/

theorem exists_entries_eq_error [RegionForm ρ] {c : RunConfig ρ} :
    (∃ u, c.entries = .error u) ↔
      ∃ e ∈ c.fixities,
        e.2.direction = none ∨ e.2.lowest ≠ e.2.highest ∨ e.2.hasLongBound = true := by
  simp only [entries_eq_error, exists_mapM_eq_error, Declaration.exists_write_eq_error]

/-- The written form shows what a configuration holds. There is none exactly if the direction of an
operator is not known, its precedence is a range, or that is too long to be written out. The
declarations in it are read as the same operators in the same order, if these have names and
precedences that a declaration can spell; the settings in it are read as the same settings over any
base, if each has a value of its kind. A configuration that is made of read files always has
one. -/
theorem entries_read_back [RegionForm ρ] (c : RunConfig ρ) :
    ((∃ u, c.entries = .error u) ↔
        ∃ e ∈ c.fixities,
          e.2.direction = none ∨ e.2.lowest ≠ e.2.highest ∨ e.2.hasLongBound = true) ∧
      (∀ dump, c.entries = .ok dump →
        ((operators c.fixities).Nodup →
          (∀ e ∈ c.fixities, IsOperatorName e.1 ∧ 0 ≤ e.2.lowest ∧
            e.2.lowest ≤ Declaration.maxPrecedence) →
          ∃ declarations, dump.get? fixitiesKey = some (.list declarations) ∧
            (ConfigFile.readFixities declarations).outcome = .ok c.fixities) ∧
        (c.settings.wellFormed = true →
          ∃ table p, dump.get? "printer-opts" = some (.map table) ∧
            (PartialSettings.ofDocument table "").outcome = .ok p ∧
            ∀ base, p.resolve base = c.settings)) ∧
      (Obtained c → ∃ dump, c.entries = .ok dump) := by
  refine ⟨exists_entries_eq_error, fun dump hdump => ?_, fun hobtained => ?_⟩
  -- that there is a written form says that each operator has a declaration
  · have hstated : ∀ e ∈ c.fixities, ¬ (e.2.direction = none ∨ e.2.lowest ≠ e.2.highest) := by
      intro e he hunstated
      obtain ⟨u, hu⟩ := exists_entries_eq_error.2 ⟨e, he, or_assoc.1 (.inl hunstated)⟩
      rw [hdump] at hu
      exact absurd hu (by simp)
    refine ⟨fun hnodup hnamed => ?_, fun hwell => ?_⟩
    · obtain ⟨texts, hwrite, hread⟩ := ConfigFile.readFixities_write hnodup fun e he =>
        declarable_of_isOperatorName (hnamed e he).1 (hnamed e he).2.1 (hnamed e he).2.2
          (hstated e he)
      exact ⟨_, (get?_entries hwrite hdump).1, hread⟩
    · obtain ⟨texts, hwrite, -⟩ := bind_eq_ok.1 hdump
      refine ⟨_, c.settings.thaw, (get?_entries hwrite hdump).2, ?_, c.settings.resolve_thaw⟩
      rw [← TotalSettings.entries_thaw]
      exact PartialSettings.outcome_ofDocument_entries (TotalSettings.wellFormed_thaw hwell) ""
  · obtain ⟨texts, hwrite, -⟩ :=
      ConfigFile.readFixities_write hobtained.declared.nodup hobtained.declared.declarable
    exact ⟨_, bind_eq_ok.2 ⟨texts, hwrite, rfl⟩⟩

/-- Two operators of one declaration, in a configuration with margins. -/
theorem entries_read_back_margins :
    ∃ file c dump,
      (ConfigFile.ofMapping [(.text fixitiesKey, .list [.text "infixr 5 <+>,`on`"]),
        (.text "indentation", .int 0)]).outcome = .ok file ∧
      (RunConfig.default.layer (some file) none).withMargins 3 = .ok c ∧ Obtained c ∧
      c.entries = .ok dump ∧
      (∃ declarations, dump.get? fixitiesKey = some (.list declarations) ∧
        (ConfigFile.readFixities declarations).outcome = .ok c.fixities) ∧
      ∃ table p, dump.get? "printer-opts" = some (.map table) ∧
        (PartialSettings.ofDocument table "").outcome = .ok p ∧
        ∀ base, p.resolve base = c.settings := by
  have hread : ((ConfigFile.ofMapping [(.text fixitiesKey, .list [.text "infixr 5 <+>,`on`"]),
        (.text "indentation", .int 0)]).outcome.toOption.map fun file =>
          (file.fixities, (RunConfig.default.layer (some file) none).settings.wellFormed)) =
      some ([("<+>", ⟨some .right, 5, 5⟩), ("on", ⟨some .right, 5, 5⟩)], true) := by
    decide +kernel
  obtain ⟨file, hfile, hparts⟩ := Option.map_eq_some_iff.1 hread
  obtain ⟨hfixities, hwell⟩ := Prod.mk.inj hparts
  have hmargins : (RunConfig.default.layer (some file) none).withMargins 3 =
      .ok ((RunConfig.default.layer (some file) none).convertRegion 3) :=
    withMargins_eq_ok.2 ⟨rfl, rfl⟩
  have hobtained : Obtained ((RunConfig.default.layer (some file) none).convertRegion 3) :=
    .margins (.layer .default fun f hf => ⟨_, Option.some.inj hf ▸ eq_ok_of_toOption hfile⟩)
      hmargins
  obtain ⟨-, hback, hwritten⟩ := entries_read_back
    ((RunConfig.default.layer (some file) none).convertRegion 3)
  obtain ⟨dump, hdump⟩ := hwritten hobtained
  obtain ⟨hoperators, hsettings⟩ := hback dump hdump
  have hlayer : ((RunConfig.default.layer (some file) none).convertRegion 3).fixities =
      [("<+>", ⟨some .right, 5, 5⟩), ("on", ⟨some .right, 5, 5⟩)] := by
    show FixityTable.overlay [] file.fixities = _
    rw [hfixities]
    rfl
  refine ⟨file, _, dump, eq_ok_of_toOption hfile, hmargins, hobtained, hdump,
    hoperators (by rw [hlayer]; decide) ?_, hsettings hwell⟩
  rw [hlayer]
  unfold IsOperatorName
  decide +kernel

end RunConfig

end FormatterConfig
