import FormatterConfig.Proofs.Fixity.Overlay
import FormatterConfig.Proofs.Settings.Combination
import FormatterConfig.RunConfig

set_option autoImplicit false

/-! # Layers of a configuration

One layer is what is put over a configuration at once: the contents of a file and a caller's
overrides, each of which may be missing. Settings and fixities are layered in opposite directions.
The settings of a later layer win, and within a layer those of the caller; an operator keeps the
fixity of the earliest layer that has one. Both are associative, so any run of layers collapses into
one. Tables are taken to hold each operator once, as every table does that was read or laid over
another. -/

namespace FormatterConfig.RunConfig

open PartialSettings (combineAll)
open FixityTable (operators overlay overlayAll)

variable {ρ : Type}

/-- What is put over a configuration at once. -/
structure Layer where
  file : Option ConfigFile
  overrides : Option PartialSettings

namespace Layer

/-- The settings of the caller, none without overrides. -/
def callerSettings (l : Layer) : PartialSettings := l.overrides.getD .empty

/-- The settings of the file, none without a file. -/
def fileSettings (l : Layer) : PartialSettings := (l.file.map ConfigFile.settings).getD .empty

/-- The fixities of the file, none without a file. -/
def fixities (l : Layer) : FixityTable := (l.file.map ConfigFile.fixities).getD []

/-- The sources of settings in layers that are put on one after the other. The strongest comes first:
the caller of the last layer, then the file of the last layer. -/
def sources (layers : List Layer) : List PartialSettings :=
  layers.reverse.flatMap fun l => [l.callerSettings, l.fileSettings]

theorem sources_cons (l : Layer) (layers : List Layer) :
    sources (l :: layers) = sources layers ++ [l.callerSettings, l.fileSettings] := by
  simp [sources]

theorem sources_concat (layers : List Layer) (l : Layer) :
    sources (layers ++ [l]) = l.callerSettings :: l.fileSettings :: sources layers := by
  simp [sources]

end Layer

/-- The configuration below some layers, the first of which is put on first. -/
def layerAll (c : RunConfig ρ) (layers : List Layer) : RunConfig ρ :=
  layers.foldl (fun c l => c.layer l.file l.overrides) c

theorem layerAll_cons (c : RunConfig ρ) (l : Layer) (layers : List Layer) :
    c.layerAll (l :: layers) = (c.layer l.file l.overrides).layerAll layers := rfl

/-! ## One layer -/

/-- A missing file is as good as an empty one. -/
theorem layer_eq {c : RunConfig ρ} (hc : (operators c.fixities).Nodup) (l : Layer) :
    c.layer l.file l.overrides =
      { c with
        settings := (l.callerSettings.combine l.fileSettings).resolve c.settings
        fixities := overlay c.fixities l.fixities } := by
  obtain ⟨file, overrides⟩ := l
  rw [← PartialSettings.resolve_resolve]
  cases file with
  | none =>
    have hempty : overlay c.fixities (Layer.fixities ⟨none, overrides⟩) = c.fixities :=
      FixityTable.overlay_nil hc
    rw [hempty]
    rfl
  | some f => rfl

theorem settings_layer (c : RunConfig ρ) (file : Option ConfigFile)
    (overrides : Option PartialSettings) (s : Setting) :
    (c.layer file overrides).settings s =
      ((overrides.bind fun p => p s).or (file.bind fun f => f.settings s)).getD (c.settings s) := by
  show ((overrides.getD .empty).resolve (((file.map ConfigFile.settings).getD .empty).resolve
    c.settings)) s = _
  rw [PartialSettings.resolve_resolve]
  cases overrides <;> cases file <;> rfl

theorem find?_fixities_layer {c : RunConfig ρ} (hc : (operators c.fixities).Nodup)
    (file : Option ConfigFile) (overrides : Option PartialSettings) (name : String) :
    (c.layer file overrides).fixities.find? name =
      (c.fixities.find? name).or (file.bind fun f => f.fixities.find? name) := by
  cases file with
  | none => exact (Option.or_none).symm
  | some f => exact FixityTable.find?_overlay hc f.fixities name

/-- Nothing but the settings and the fixities is layered. -/
theorem rest_layer (c : RunConfig ρ) (file : Option ConfigFile)
    (overrides : Option PartialSettings) :
    { c.layer file overrides with settings := c.settings, fixities := c.fixities } = c := rfl

/-! ## Many layers -/

/-- What becomes of a configuration below some layers: its settings are resolved against all their
sources at once, and its table lies over all their tables. -/
theorem layerAll_eq {layers : List Layer} (hlayers : ∀ l ∈ layers, (operators l.fixities).Nodup)
    {c : RunConfig ρ} (hc : (operators c.fixities).Nodup) :
    c.layerAll layers =
      { c with
        settings := (combineAll (Layer.sources layers)).resolve c.settings
        fixities := overlay c.fixities (overlayAll (layers.map Layer.fixities)) } := by
  induction layers generalizing c with
  | nil =>
    show c = { c with settings := c.settings, fixities := overlay c.fixities [] }
    rw [FixityTable.overlay_nil hc]
  | cons l layers ih =>
    obtain ⟨hl, hrest⟩ := List.forall_mem_cons.1 hlayers
    have hlayer : (operators (overlay c.fixities l.fixities)).Nodup :=
      FixityTable.nodup_overlay c.fixities hl
    rw [layerAll_cons, layer_eq hc, ih hrest hlayer, FixityTable.overlay_assoc hl,
      PartialSettings.resolve_resolve, Layer.sources_cons, PartialSettings.combineAll_append,
      PartialSettings.combineAll_cons, PartialSettings.combineAll_cons,
      PartialSettings.combineAll_nil, PartialSettings.combine_empty]
    rfl

/-- The last layer put on a second time changes nothing. -/
theorem layerAll_repeated {earlier : List Layer} {last : Layer}
    (hlayers : ∀ l ∈ earlier ++ [last], (operators l.fixities).Nodup) {c : RunConfig ρ}
    (hc : (operators c.fixities).Nodup) :
    c.layerAll (earlier ++ [last, last]) = c.layerAll (earlier ++ [last]) := by
  have hlast : (operators last.fixities).Nodup := hlayers last (by simp)
  have hrepeated : ∀ l ∈ earlier ++ [last, last], (operators l.fixities).Nodup := by
    intro l hl
    exact hlayers l (by simpa using hl)
  -- the layer's two sources stand in front twice, and its table lies over itself
  have hsources : combineAll (Layer.sources (earlier ++ [last, last])) =
      combineAll (Layer.sources (earlier ++ [last])) := by
    rw [List.append_cons, Layer.sources_concat, Layer.sources_concat]
    simp only [PartialSettings.combineAll_cons]
    rw [← PartialSettings.combine_assoc, ← PartialSettings.combine_assoc last.callerSettings,
      ← PartialSettings.combine_assoc (last.callerSettings.combine _), PartialSettings.combine_self]
  have htables : overlayAll ((earlier ++ [last, last]).map Layer.fixities) =
      overlayAll ((earlier ++ [last]).map Layer.fixities) := by
    simp only [List.map_append, List.map_cons, List.map_nil, overlayAll, List.foldr_append,
      List.foldr_cons, List.foldr_nil]
    rw [FixityTable.overlay_nil hlast, FixityTable.overlay_self hlast]
  rw [layerAll_eq hrepeated hc, layerAll_eq hlayers hc, hsources, htables]

/-- A run of layers is one layer. Its caller is that of the last layer; its file has the settings of
all other sources, the later over the earlier ones, and the fixities of all files, the earlier over
the later ones, in one order of the operators. So the last source that gives a setting decides it,
and the first table that holds an operator; to repeat the last layer changes nothing. -/
theorem layerAll_eq_layer (c : RunConfig ρ) (earlier : List Layer) (last : Layer)
    (hc : (operators c.fixities).Nodup)
    (hlayers : ∀ l ∈ earlier ++ [last], (operators l.fixities).Nodup) :
    c.layerAll (earlier ++ [last]) =
        c.layer
          (some ⟨combineAll (last.fileSettings :: Layer.sources earlier),
            overlayAll ((earlier ++ [last]).map Layer.fixities)⟩)
          last.overrides ∧
      (∀ s, (c.layerAll (earlier ++ [last])).settings s =
        ((Layer.sources (earlier ++ [last])).findSome? fun p => p s).getD (c.settings s)) ∧
      (∀ name, (c.layerAll (earlier ++ [last])).fixities.find? name =
        (c.fixities :: (earlier ++ [last]).map Layer.fixities).findSome? fun t => t.find? name) ∧
      c.layerAll (earlier ++ [last, last]) = c.layerAll (earlier ++ [last]) := by
  have htables : ∀ t ∈ c.fixities :: (earlier ++ [last]).map Layer.fixities, (operators t).Nodup := by
    refine List.forall_mem_cons.2 ⟨hc, fun t ht => ?_⟩
    obtain ⟨l, hl, rfl⟩ := List.mem_map.1 ht
    exact hlayers l hl
  have hall := layerAll_eq hlayers hc
  refine ⟨?_, fun s => ?_, fun name => ?_, layerAll_repeated hlayers hc⟩
  · rw [hall, Layer.sources_concat, PartialSettings.combineAll_cons,
      ← PartialSettings.resolve_resolve]
    rfl
  · rw [hall, ← PartialSettings.combineAll_apply]
    rfl
  · rw [hall, ← FixityTable.find?_overlayAll htables]
    rfl

/-- Three layers, of which the second puts nothing on. A setting of zero in the last file wins over
an earlier caller; the first file wins for an operator that the last one declares again. -/
theorem layerAll_eq_layer_thrice :
    let c : RunConfig Region :=
      { RunConfig.default with fixities := [("<+>", .declared .left 1)] }
    let earlier : List Layer :=
      [⟨some ⟨fun s => if s = .respectful then some (.bool false) else none,
          [("<+>", .declared .right 5), ("<->", .declared .left 6)]⟩,
        some fun s => if s = .indentation then some (.int 2) else none⟩, ⟨none, none⟩]
    let last : Layer :=
      ⟨some ⟨fun s => if s = .indentation then some (.int 0) else none,
        [("on", .declared .right 0), ("<->", .declared .neither 4)]⟩, none⟩
    (operators c.fixities).Nodup ∧ (∀ l ∈ earlier ++ [last], (operators l.fixities).Nodup) ∧
      c.layerAll (earlier ++ [last]) =
        c.layer
          (some ⟨combineAll (last.fileSettings :: Layer.sources earlier),
            overlayAll ((earlier ++ [last]).map Layer.fixities)⟩)
          last.overrides ∧
      c.layerAll (earlier ++ [last, last]) = c.layerAll (earlier ++ [last]) ∧
      (c.layerAll (earlier ++ [last])).settings .indentation = .int 0 ∧
      (c.layerAll (earlier ++ [last])).settings .respectful = .bool false ∧
      (c.layerAll (earlier ++ [last])).fixities =
        [("on", .declared .right 0), ("<->", .declared .left 6), ("<+>", .declared .left 1)] := by
  intro c earlier last
  have hc : (operators c.fixities).Nodup := by decide
  have hlayers : ∀ l ∈ earlier ++ [last], (operators l.fixities).Nodup := by decide
  obtain ⟨hone, -, -, hrepeated⟩ := layerAll_eq_layer c earlier last hc hlayers
  exact ⟨hc, hlayers, hone, hrepeated, rfl, rfl, by decide⟩

end FormatterConfig.RunConfig
