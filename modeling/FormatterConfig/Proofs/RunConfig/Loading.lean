import FormatterConfig.Proofs.Discovery.Search
import FormatterConfig.Proofs.RunConfig.Layering
import FormatterConfig.Proofs.Value.Equality

set_option autoImplicit false

/-! # Loading as search, reading and layering

The configuration of a run is its base below what the search supplies: one layer with the contents
of the file that it finds, or one without a file if it finds none. If the file that it finds is
refused, that refusal is all that loading gives. The base is the weakest source of a setting and the
strongest of a fixity. All this holds whatever decodes documents. -/

namespace FormatterConfig.RunConfig

open Discovery (find? singleFile)
open FixityTable (operators)

variable {runtime : Runtime} {env : Environment} {fs : FileSystem} {start : Path}
  {base : RunConfig Region} {overrides : Option PartialSettings}

/-- What a search supplies for a layer. -/
inductive Supplies (runtime : Runtime) (env : Environment) (fs : FileSystem) (start : Path) :
    Option ConfigFile → Prop
  | nothing (absent : (find? env fs start).outcome = .ok none) :
      Supplies runtime env fs start none
  | contents {path : Path} {config : ConfigFile}
      (found : (find? env fs start).outcome = .ok (some path))
      (valid : (ConfigFile.read runtime path (fs.read path)).outcome = .ok config) :
      Supplies runtime env fs start (some config)

/-- The outcome of loading, notes aside: the search, the reading of what it finds, and one layer. -/
theorem outcome_load (runtime : Runtime) (env : Environment) (fs : FileSystem) (start : Path)
    (base : RunConfig Region) (overrides : Option PartialSettings) :
    (load runtime env fs start base overrides).outcome =
      (find? env fs start).outcome.mapError Failure.broken >>= fun found =>
        match found with
        | some path =>
          (ConfigFile.read runtime path (fs.read path)).outcome >>= fun config =>
            .ok (base.layer (some config) overrides)
        | none => .ok (base.layer none overrides) := by
  rw [load, Logged.outcome_bind, Logged.outcome_mapError, Discovery.outcome_load_eq_find?]
  cases hfind : (find? env fs start).outcome with
  | error breakdown => rfl
  | ok found =>
    cases found with
    | none =>
      obtain ⟨directories, hsearch, -⟩ := Discovery.find?_eq_none.1 hfind
      rw [ok_bind, hsearch]
      rfl
    | some path =>
      show ((Discovery.readFound runtime fs path).outcome.mapError Failure.broken >>= fun o =>
          (base.layerOutcome overrides o).outcome) =
        ((ConfigFile.read runtime path (fs.read path)).outcome >>= fun config =>
          .ok (base.layer (some config) overrides))
      rw [Discovery.outcome_readFound]
      cases (ConfigFile.read runtime path (fs.read path)).outcome with
      | ok config => rfl
      | error failure => cases failure <;> rfl

theorem load_eq_ok {c : RunConfig Region} :
    (load runtime env fs start base overrides).outcome = .ok c ↔
      ∃ file, Supplies runtime env fs start file ∧ c = base.layer file overrides := by
  rw [outcome_load, bind_eq_ok]
  simp only [mapError_eq_ok]
  constructor
  · rintro ⟨found, hfind, h⟩
    cases found with
    | none => exact ⟨none, .nothing hfind, (Except.ok.inj h).symm⟩
    | some path =>
      obtain ⟨config, hread, h⟩ := bind_eq_ok.1 h
      exact ⟨some config, .contents hfind hread, (Except.ok.inj h).symm⟩
  · rintro ⟨file, hsupplies, rfl⟩
    cases hsupplies with
    | nothing absent => exact ⟨none, absent, rfl⟩
    | contents found valid => exact ⟨_, found, bind_eq_ok.2 ⟨_, valid, rfl⟩⟩

/-- Loading fails with what breaks the search off, or with what reading the file fails with. -/
theorem load_eq_error {failure : Failure} :
    (load runtime env fs start base overrides).outcome = .error failure ↔
      (∃ breakdown, (find? env fs start).outcome = .error breakdown ∧
          failure = .broken breakdown) ∨
        ∃ path, (find? env fs start).outcome = .ok (some path) ∧
          (ConfigFile.read runtime path (fs.read path)).outcome = .error failure := by
  rw [outcome_load, bind_eq_error]
  simp only [mapError_eq_ok, mapError_eq_error]
  constructor
  · rintro (⟨breakdown, hfind, rfl⟩ | ⟨found, hfind, h⟩)
    · exact .inl ⟨breakdown, hfind, rfl⟩
    · cases found with
      | none => cases h
      | some path =>
        rcases bind_eq_error.1 h with hread | ⟨config, -, h⟩
        · exact .inr ⟨path, hfind, hread⟩
        · cases h
  · rintro (⟨breakdown, hfind, rfl⟩ | ⟨path, hfind, hread⟩)
    · exact .inl ⟨breakdown, hfind, rfl⟩
    · exact .inr ⟨some path, hfind, bind_eq_error.2 (.inl hread)⟩

/-- Loading succeeds exactly if the search supplies a layer, and then gives the base below it. It is
refused exactly if the file that the search finds is, with the same error, and breaks off exactly if
the search or that reading does. In what it gives, a setting is the caller's, else the file's, else
the base's; a fixity is the base's, else the file's; all else is the base's. A missing base is the
default one. -/
theorem load_layers_supplied (runtime : Runtime) (env : Environment) (fs : FileSystem)
    (start : Path) (given : Option (RunConfig Region)) (overrides : Option PartialSettings)
    (hbase : (operators (given.getD .default).fixities).Nodup) :
    let base := given.getD .default
    let loaded := (load runtime env fs start base overrides).outcome
    (∀ c, loaded = .ok c ↔
        ∃ file, Supplies runtime env fs start file ∧ c = base.layer file overrides) ∧
      (∀ error, loaded = .error (.refused error) ↔
        ∃ path, (find? env fs start).outcome = .ok (some path) ∧
          (ConfigFile.read runtime path (fs.read path)).outcome = .error (.refused error)) ∧
      (∀ breakdown, loaded = .error (.broken breakdown) ↔
        (find? env fs start).outcome = .error breakdown ∨
          ∃ path, (find? env fs start).outcome = .ok (some path) ∧
            (ConfigFile.read runtime path (fs.read path)).outcome = .error (.broken breakdown)) ∧
      ∀ file,
        (∀ s, (base.layer file overrides).settings s =
          ((overrides.bind fun p => p s).or (file.bind fun f => f.settings s)).getD
            (base.settings s)) ∧
        (∀ name, (base.layer file overrides).fixities.find? name =
          (base.fixities.find? name).or (file.bind fun f => f.fixities.find? name)) ∧
        { base.layer file overrides with
          settings := base.settings, fixities := base.fixities } = base := by
  intro base loaded
  refine ⟨fun c => load_eq_ok, fun error => ?_, fun breakdown => ?_, fun file =>
    ⟨settings_layer base file overrides, find?_fixities_layer hbase file overrides,
      rest_layer base file overrides⟩⟩
  · rw [load_eq_error]
    constructor
    · rintro (⟨breakdown, -, h⟩ | h)
      · exact absurd h (by simp)
      · exact h
    · exact .inr
  · rw [load_eq_error]
    simp only [Failure.broken.injEq, exists_eq_right']

/-- A file that sets zero and declares two operators. -/
def zeroFile : FileSystem :=
  singleFile (Path.ofText "/w")
    ("indentation: 0\nfixities:\n- infix 4 +,*\n".toList.map fun c => UInt8.ofNat c.toNat)

/-- The file's zero wins over the default, the caller's negation too; one of the file's operators is
the base's already and keeps its fixity. -/
theorem load_layers_supplied_zero :
    let base : RunConfig Region := { RunConfig.default with fixities := [("+", .declared .left 1)] }
    let overrides : PartialSettings := fun s => if s = .respectful then some (.bool false) else none
    (operators base.fixities).Nodup ∧
      ∃ c, (load (.ample Yaml.decode) (Discovery.workingIn (Path.ofText "/w")) zeroFile
          (Path.ofText "M.hs") base (some overrides)).outcome = .ok c ∧
        c.settings .indentation = .int 0 ∧ c.settings .respectful = .bool false ∧
        c.settings .docStyle = base.settings .docStyle ∧
        c.fixities.find? "+" = some (.declared .left 1) ∧
        c.fixities.find? "*" = some (.declared .neither 4) := by
  intro base overrides
  have hbase : (operators base.fixities).Nodup := by decide
  obtain ⟨hloads, -, -, hlayer⟩ := load_layers_supplied (.ample Yaml.decode)
    (Discovery.workingIn (Path.ofText "/w")) zeroFile (Path.ofText "M.hs") (some base)
    (some overrides) hbase
  have hfind : (find? (Discovery.workingIn (Path.ofText "/w")) zeroFile
      (Path.ofText "M.hs")).outcome = .ok (some (Path.ofText "/w/fourmolu.yaml")) := by
    decide +kernel
  have hreads : (match (ConfigFile.read (.ample Yaml.decode) (Path.ofText "/w/fourmolu.yaml")
      (zeroFile.read (Path.ofText "/w/fourmolu.yaml"))).outcome with
    | .ok config => decide (config.settings .indentation = some (.int 0) ∧
        config.settings .docStyle = none ∧
        config.fixities = [("+", .declared .neither 4), ("*", .declared .neither 4)])
    | .error _ => false) = true := by
    decide +kernel
  split at hreads
  · next config hread =>
    obtain ⟨hindentation, hstyle, hfixities⟩ := of_decide_eq_true hreads
    obtain ⟨hsettings, hoperators, -⟩ := hlayer (some config)
    refine ⟨hbase, _, (hloads _).2 ⟨some config, .contents hfind hread, rfl⟩, ?_, ?_, ?_, ?_, ?_⟩
    · rw [hsettings]
      show (config.settings .indentation).getD _ = _
      rw [hindentation]
      rfl
    · rw [hsettings]
      rfl
    · rw [hsettings]
      show (config.settings .docStyle).getD _ = _
      rw [hstyle]
      rfl
    · rw [hoperators]
      rfl
    · rw [hoperators]
      show config.fixities.find? "*" = _
      rw [hfixities]
      decide
  · exact absurd hreads (by simp)

end FormatterConfig.RunConfig
