import FormatterConfig.Proofs.Outcome
import FormatterConfig.Proofs.RunConfig.Layering
import FormatterConfig.RunConfig.Staged

set_option autoImplicit false

/-! # Layers and regions

Two kinds of steps change a configuration: a layer is put over it, or its region is changed. A
layer reads and changes the settings and the fixities, a change of the region reads and changes the
region, and no step of either kind touches what the other one reads. So in any run the two kinds can
be told apart: the region is what the region steps make of the first region, and all else is what
the layers make of the first configuration. A step that fails changes nothing. The region may take
its other form on the way, so a configuration at either stage is taken for one whose region has
either form. -/

namespace FormatterConfig

/-- What a step that may fail leaves: its result, or what was there before. -/
def settled {ε α : Type} (before : α) : Except ε α → α
  | .ok a => a
  | .error _ => before

theorem map_settled {ε α β : Type} (f : α → β) (before : α) (x : Except ε α) :
    f (settled before x) = settled (f before) (x.map f) := by
  cases x with
  | ok a => rfl
  | error e => rfl

/-- A region in either form. -/
inductive StagedRegion where
  | bounds (r : Region)
  | margins (m : Margins)
  deriving DecidableEq

/-- A step that changes a region: by a function, which may refuse it, or into the margins in an
input of `total` lines. -/
inductive RegionStep where
  | map (f : StagedRegion → Except StageFault StagedRegion)
  | fit (total : Int)

namespace StagedRegion

/-- What a step makes of a region. Margins are made of bounds that fit. -/
def attempt (r : StagedRegion) : RegionStep → Except StageFault StagedRegion
  | .map f => f r
  | .fit total =>
    match r with
    | .bounds r => ((r.check total).map fun _ => .margins (r.margins total)).mapError .region
    | .margins _ => .error .noBounds

/-- The region after a step: as it was if the step fails. -/
def step (r : StagedRegion) (s : RegionStep) : StagedRegion := settled r (r.attempt s)

/-- The region after some steps. -/
def run (r : StagedRegion) (steps : List RegionStep) : StagedRegion := steps.foldl step r

end StagedRegion

namespace RunConfig

variable {ρ σ : Type}

/-! ## One step of each kind -/

/-- A layer neither sees nor changes the region. -/
theorem layer_mapRegion (f : ρ → σ) (c : RunConfig ρ) (file : Option ConfigFile)
    (overrides : Option PartialSettings) :
    (c.mapRegion f).layer file overrides = (c.layer file overrides).mapRegion f := rfl

theorem layerAll_mapRegion (f : ρ → σ) (c : RunConfig ρ) (layers : List Layer) :
    (c.mapRegion f).layerAll layers = (c.layerAll layers).mapRegion f := by
  induction layers generalizing c with
  | nil => rfl
  | cons l layers ih => rw [layerAll_cons, layer_mapRegion, ih, layerAll_cons]

/-- Layers change nothing but the settings and the fixities. -/
theorem rest_layerAll (c : RunConfig ρ) (layers : List Layer) :
    c.layerAll layers =
      { c with
        settings := (c.layerAll layers).settings
        fixities := (c.layerAll layers).fixities } := by
  induction layers generalizing c with
  | nil => rfl
  | cons l layers ih => exact ih (c.layer l.file l.overrides)

/-- A layer below margins is a layer below the bounds that they are made of. -/
theorem withMargins_layer (c : RunConfig Region) (file : Option ConfigFile)
    (overrides : Option PartialSettings) (total : Int) :
    (c.layer file overrides).withMargins total =
      (c.withMargins total).map fun d => d.layer file overrides := by
  show ((c.region.check total).map fun _ => (c.layer file overrides).convertRegion total) = _
  unfold withMargins
  cases c.region.check total with
  | ok _ => rfl
  | error fault => rfl

/-- The note of the margins does not matter for the outcome. -/
theorem outcome_withMarginsLogged (c : RunConfig Region) (total : Int) :
    (c.withMarginsLogged total).outcome = c.withMargins total := by
  unfold withMarginsLogged withMargins
  rw [Logged.outcome_bind, Logged.outcome_ofExcept]
  cases c.region.check total with
  | ok _ =>
    rw [ok_bind, Logged.outcome_bind, Region.outcome_marginsLogged]
    rfl
  | error failure => rfl

end RunConfig

namespace StagedConfig

open RunConfig (Layer)

/-- A step of a run. -/
inductive Step where
  | layer (l : Layer)
  | region (s : RegionStep)

/-- The layer that a step puts on. -/
def Step.layer? : Step → Option Layer
  | .layer l => some l
  | .region _ => none

/-- The change of the region that a step makes. -/
def Step.region? : Step → Option RegionStep
  | .layer _ => none
  | .region s => some s

/-- A configuration at either stage, with its region in the form that it has. -/
def whole : StagedConfig → RunConfig StagedRegion
  | .bounded c => c.mapRegion .bounds
  | .marginal c => c.mapRegion .margins

/-- The configuration at the stage that its region's form says. -/
def ofWhole (c : RunConfig StagedRegion) : StagedConfig :=
  match c.region with
  | .bounds r => .bounded (c.mapRegion fun _ => r)
  | .margins m => .marginal (c.mapRegion fun _ => m)

/-- What a step makes of a configuration. -/
def attempt (c : StagedConfig) : Step → Except StageFault StagedConfig
  | .layer l => .ok (c.layer l.file l.overrides)
  | .region (.map f) => (f c.whole.region).map fun r => ofWhole (c.whole.mapRegion fun _ => r)
  | .region (.fit total) => (c.withMargins total).outcome

/-- The configuration after a step: as it was if the step fails. -/
def step (c : StagedConfig) (s : Step) : StagedConfig := settled c (c.attempt s)

/-- The configuration after some steps. -/
def run (c : StagedConfig) (steps : List Step) : StagedConfig := steps.foldl step c

theorem whole_ofWhole (c : RunConfig StagedRegion) : (ofWhole c).whole = c := by
  unfold ofWhole
  cases h : c.region with
  | bounds r =>
    show c.mapRegion (fun _ => .bounds r) = c
    rw [← h]
    rfl
  | margins m =>
    show c.mapRegion (fun _ => .margins m) = c
    rw [← h]
    rfl

theorem whole_layer (c : StagedConfig) (file : Option ConfigFile)
    (overrides : Option PartialSettings) :
    (c.layer file overrides).whole = c.whole.layer file overrides := by
  cases c with
  | bounded c => rfl
  | marginal c => rfl

theorem outcome_withMargins_bounded (c : RunConfig Region) (total : Int) :
    ((bounded c).withMargins total).outcome =
      ((c.withMargins total).map marginal).mapError StageFault.region := by
  unfold withMargins
  rw [Logged.outcome_bind, Logged.outcome_mapError, RunConfig.outcome_withMarginsLogged]
  cases c.withMargins total with
  | ok d => rfl
  | error fault => rfl

/-- A region step makes of a configuration what it makes of its region, and fails as it does. -/
theorem attempt_region (c : StagedConfig) (s : RegionStep) :
    (c.attempt (.region s)).map whole =
      (c.whole.region.attempt s).map fun r => c.whole.mapRegion fun _ => r := by
  cases s with
  | map f =>
    show ((f c.whole.region).map fun r => ofWhole (c.whole.mapRegion fun _ => r)).map whole =
      (f c.whole.region).map fun r => c.whole.mapRegion fun _ => r
    cases f c.whole.region with
    | ok r => exact congrArg Except.ok (whole_ofWhole _)
    | error fault => rfl
  | fit total =>
    cases c with
    | bounded c =>
      show (((bounded c).withMargins total).outcome).map whole =
        (((c.region.check total).map fun _ =>
          StagedRegion.margins (c.region.margins total)).mapError .region).map fun r =>
            (bounded c).whole.mapRegion fun _ => r
      rw [outcome_withMargins_bounded, RunConfig.withMargins]
      cases c.region.check total with
      | ok _ => rfl
      | error fault => rfl
    | marginal c => rfl

/-- What one step does: a layer keeps the region, and a region step keeps all else. -/
theorem whole_step (c : StagedConfig) (s : Step) :
    (c.step s).whole =
      match s with
      | .layer l => c.whole.layer l.file l.overrides
      | .region s => c.whole.mapRegion fun r => r.step s := by
  cases s with
  | layer l => exact whole_layer c l.file l.overrides
  | region s =>
    calc (settled c (c.attempt (.region s))).whole
        = settled c.whole ((c.attempt (.region s)).map whole) := map_settled whole c _
      _ = settled c.whole
            ((c.whole.region.attempt s).map fun r => c.whole.mapRegion fun _ => r) := by
          rw [attempt_region]
      _ = c.whole.mapRegion fun r => r.step s :=
          (map_settled (fun r => c.whole.mapRegion fun _ => r) c.whole.region _).symm

/-- What a run does: its layers are put on as if the region had never changed, and its region steps
are taken as if nothing had been put on. -/
theorem whole_run (c : StagedConfig) (steps : List Step) :
    (c.run steps).whole =
      (c.whole.layerAll (steps.filterMap Step.layer?)).mapRegion fun r =>
        r.run (steps.filterMap Step.region?) := by
  induction steps generalizing c with
  | nil => rfl
  | cons s steps ih =>
    show ((c.step s).run steps).whole = _
    rw [ih, whole_step]
    cases s with
    | layer l => rfl
    | region s =>
      -- the layers that follow do not see that the region has changed
      dsimp only
      rw [RunConfig.layerAll_mapRegion]
      rfl

/-- Layers and region steps do not meet. In any run the region is what the region steps make of the
first region, the settings and the fixities are what the layers make of the first configuration, and
all else is as it was. To put a layer on before the region becomes margins or after it gives the
same configuration or the same fault. -/
theorem run_independent (c : StagedConfig) (steps : List Step) :
    let layers := steps.filterMap Step.layer?
    let regionSteps := steps.filterMap Step.region?
    let d := (c.run steps).whole
    d.region = c.whole.region.run regionSteps ∧
      d.settings = (c.whole.layerAll layers).settings ∧
      d.fixities = (c.whole.layerAll layers).fixities ∧
      d.parserOptions = c.whole.parserOptions ∧ d.dependencies = c.whole.dependencies ∧
      d.skipsSafetyCheck = c.whole.skipsSafetyCheck ∧ d.debugs = c.whole.debugs ∧
      d.checksIdempotence = c.whole.checksIdempotence ∧ d.sourceKind = c.whole.sourceKind ∧
      d.colorMode = c.whole.colorMode ∧
      ∀ (base : RunConfig Region) file overrides total,
        (base.layer file overrides).withMargins total =
          (base.withMargins total).map fun d => d.layer file overrides := by
  intro layers regionSteps d
  have hrun : d = (c.whole.layerAll layers).mapRegion fun r => r.run regionSteps :=
    whole_run c steps
  rw [RunConfig.rest_layerAll] at hrun
  rw [hrun]
  exact ⟨rfl, rfl, rfl, rfl, rfl, rfl, rfl, rfl, rfl, rfl, RunConfig.withMargins_layer⟩

/-- A region that does not fit at first, and a layer before it does. -/
example :
    ((bounded { RunConfig.default with region := ⟨some 2, some 5⟩ }).run
      [.region (.fit 3), .layer ⟨some ⟨.empty, [("+", .declared .left 6)]⟩, none⟩,
        .region (.fit 10), .region (.fit 20)]).whole.region = .margins ⟨1, 5⟩ := by
  decide +kernel

end StagedConfig

end FormatterConfig
