import FormatterConfig.Proofs.Settings.Reading
import Mathlib.Data.List.Nodup

set_option autoImplicit false

/-! # Settings written and read again

Settings are written under the keys of a document or under the names that a caller uses, and either
way each of them is found again, since no two settings share a key or a name. If every setting has a
value of its kind, what is found is read as that value: a choice from its tag or by itself, all else
by itself. So a source that is well formed is read back whole. -/

namespace FormatterConfig

/-! ## Keys -/

/-- No two of the keys that are read are the same. -/
theorem nodup_knownKeys : (Setting.all.map Setting.key ++ [fixitiesKey]).Nodup := by
  decide +kernel

theorem Setting.key_inj {s t : Setting} (h : s.key = t.key) : s = t :=
  List.inj_on_of_nodup_map (List.nodup_append.1 nodup_knownKeys).1 s.mem_all t.mem_all h

/-- The keys of two settings are one only if the settings are. -/
theorem Setting.sameKey_key {s t : Setting} :
    (Value.text s.key).sameKey (.text t.key) = true ↔ s = t := by
  rw [Value.sameKey_text]
  exact ⟨fun h => key_inj (Option.some.inj h), fun h => congrArg _ (congrArg key h)⟩

theorem Setting.key_ne_fixitiesKey (s : Setting) : s.key ≠ fixitiesKey :=
  (List.nodup_append.1 nodup_knownKeys).2.2 _ (List.mem_map_of_mem s.mem_all) _
    List.mem_cons_self

theorem Setting.name_inj {s t : Setting} (h : s.name = t.name) : s = t :=
  List.inj_on_of_nodup_map (by decide) s.mem_all t.mem_all h

/-- Settings that are listed under keys of their own are found there. -/
theorem Mapping.get?_filterMap_setting {keyOf : Setting → String}
    (hkeys : ∀ s t, keyOf s = keyOf t → s = t) (f : Setting → Option Value)
    (settings : List Setting) (s : Setting) :
    Mapping.get? (settings.filterMap fun t => (f t).map fun v => (.text (keyOf t), v)) (keyOf s) =
      if s ∈ settings then f s else none := by
  induction settings with
  | nil => simp
  | cons t settings ih =>
    by_cases ht : s = t
    · subst ht
      cases hv : f s with
      | none => simp [hv, ih]
      | some v => simp [hv, Mapping.get?_cons, Value.text?]
    · have hkey : keyOf t ≠ keyOf s := fun h => ht (hkeys t s h).symm
      cases hv : f t with
      | none => simp [hv, ih, ht]
      | some v => simp [hv, ih, ht, hkey, Mapping.get?_cons, Value.text?]

/-! ## Written values -/

/-- Values that a document holds without any nesting but lists of texts. -/
inductive Value.IsFlat : Value → Prop
  | text (s : String) : IsFlat (.text s)
  | int (n : Int) : IsFlat (.int n)
  | bool (b : Bool) : IsFlat (.bool b)
  | texts (texts : List String) : IsFlat (.list (texts.map Value.text))

theorem SettingKind.isFlat_written {kind : SettingKind} {v : Value} (h : kind.admits v = true) :
    v.written.IsFlat := by
  unfold admits at h
  split at h
  · exact .int _
  · exact .bool _
  · exact .text _
  · exact absurd h (by simp)

namespace SettingKind

variable {kind : SettingKind} {v : Value}

/-- A value of a kind stands for itself. -/
theorem reading?_of_admits (h : kind.admits v = true) : kind.reading? v = some v := by
  unfold admits at h
  split at h
  · next minimum n => simp [reading?, h]
  · rfl
  · next kind c =>
    rw [beq_iff_eq] at h
    simp [reading?, h]
  · exact absurd h (by simp)

theorem reading?_written_of_admits (h : kind.admits v = true) :
    kind.reading? v.written = some v :=
  (reading?_eq_some (reading?_of_admits h)).2.1

theorem ne_null_of_admits (h : kind.admits v = true) : v ≠ .null :=
  (reading?_eq_some (reading?_of_admits h)).2.2

end SettingKind

theorem Value.written_ne_null {v : Value} (h : v ≠ .null) : v.written ≠ .null := by
  cases v <;> simp_all [written]

namespace PartialSettings

variable {p : PartialSettings}

theorem wellFormed_iff :
    p.wellFormed = true ↔ ∀ (s : Setting) (v : Value), p s = some v → s.kind.admits v = true := by
  rw [wellFormed, List.all_eq_true]
  constructor
  · intro h s v hv
    have hs := h s s.mem_all
    rwa [hv] at hs
  · intro h s _
    cases hv : p s with
    | none => rfl
    | some v => exact h s v hv

/-! ## Entries of a document -/

/-- The entries are determined by the written forms of the settings. -/
theorem entries_eq_filterMap (p : PartialSettings) :
    p.entries =
      Setting.all.filterMap fun s => ((p s).map Value.written).map fun v => (.text s.key, v) := by
  simp only [entries, Option.map_map]
  rfl

/-- A written setting is found under its key. -/
theorem get?_entries (p : PartialSettings) (s : Setting) :
    p.entries.get? s.key = (p s).map Value.written := by
  rw [entries_eq_filterMap, Mapping.get?_filterMap_setting fun _ _ => Setting.key_inj,
    if_pos s.mem_all]

theorem mem_entries {e : Value × Value} (h : e ∈ p.entries) :
    ∃ (s : Setting) (v : Value), p s = some v ∧ e = (.text s.key, v.written) := by
  obtain ⟨s, -, hs⟩ := List.mem_filterMap.1 h
  obtain ⟨v, hv, rfl⟩ := Option.map_eq_some_iff.1 hs
  exact ⟨s, v, hv, rfl⟩

theorem get?_entries_eq_none (p : PartialSettings) {key : String} (h : ∀ s : Setting, s.key ≠ key) :
    p.entries.get? key = none := by
  cases hget : p.entries.get? key with
  | none => rfl
  | some v =>
    obtain ⟨k, hk, hmem⟩ := Mapping.mem_of_get? hget
    obtain ⟨s, w, -, heq⟩ := mem_entries hmem
    cases heq
    exact absurd (Option.some.inj hk) (h s)

/-- No setting is written under the key of the declarations. -/
theorem get?_entries_fixitiesKey (p : PartialSettings) : p.entries.get? fixitiesKey = none :=
  p.get?_entries_eq_none Setting.key_ne_fixitiesKey

/-! ## Arguments -/

/-- All settings as a caller would pass them, null for those that are not given. -/
def arguments (p : PartialSettings) : Mapping :=
  Setting.all.map fun s => (.text s.name, (p s).getD .null)

theorem get?_arguments (p : PartialSettings) (s : Setting) :
    p.arguments.get? s.name = some ((p s).getD .null) := by
  have harguments : p.arguments =
      Setting.all.filterMap fun t => (some ((p t).getD .null)).map fun v => (.text t.name, v) := rfl
  rw [harguments, Mapping.get?_filterMap_setting fun _ _ => Setting.name_inj, if_pos s.mem_all]

/-! ## Reading back -/

theorem given?_entries (hp : p.wellFormed = true) (s : Setting) :
    p.entries.given? s.key = (p s).map Value.written := by
  have hget := get?_entries p s
  cases hv : p s with
  | none =>
    rw [hv] at hget
    rw [Mapping.given?, hget]
    rfl
  | some v =>
    rw [hv] at hget
    have hne := SettingKind.ne_null_of_admits (wellFormed_iff.1 hp s v hv)
    exact Mapping.given?_eq_some.2 ⟨hget, Value.written_ne_null hne⟩

theorem given?_arguments (hp : p.wellFormed = true) (s : Setting) :
    p.arguments.given? s.name = p s := by
  have hget := get?_arguments p s
  cases hv : p s with
  | none =>
    rw [hv] at hget
    rw [Mapping.given?, hget]
    rfl
  | some v =>
    rw [hv] at hget
    have hne := SettingKind.ne_null_of_admits (wellFormed_iff.1 hp s v hv)
    exact Mapping.given?_eq_some.2 ⟨hget, hne⟩

end PartialSettings

/-- A source is read as settings if it gives each of them in a form that is read as its value. -/
theorem SettingSource.read_of_given? {source : SettingSource} {p : PartialSettings}
    {f : Value → Value}
    (hgiven : ∀ s, source.table.given? (source.keyOf s) = (p s).map f)
    (hread : ∀ (s : Setting) (v : Value), p s = some v → s.kind.reading? (f v) = some v) :
    source.read = .ok p := by
  refine (read_eq_ok_of_given hgiven).2 ⟨fun s v hv => ?_, funext fun s => ?_⟩
  · obtain ⟨w, hw, rfl⟩ := Option.map_eq_some_iff.1 hv
    simp [hread s w hw]
  · cases hv : p s with
    | none => rfl
    | some v => exact (hread s v hv).symm

namespace PartialSettings

variable {p : PartialSettings}

theorem outcome_ofDocument_entries (hp : p.wellFormed = true) (scope : String) :
    (ofDocument p.entries scope).outcome = .ok p :=
  ofDocument_eq_ok.2 <| SettingSource.read_of_given? (given?_entries hp) fun s v hv =>
    SettingKind.reading?_written_of_admits (wellFormed_iff.1 hp s v hv)

theorem outcome_ofArguments_arguments (hp : p.wellFormed = true) :
    (ofArguments p.arguments).outcome = .ok p := by
  refine ofArguments_eq_ok.2 (SettingSource.read_of_given? (f := id) (fun s => ?_) fun s v hv =>
    SettingKind.reading?_of_admits (wellFormed_iff.1 hp s v hv))
  rw [Option.map_id]
  exact given?_arguments hp s

end PartialSettings

end FormatterConfig
