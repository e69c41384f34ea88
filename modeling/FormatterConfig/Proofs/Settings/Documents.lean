import FormatterConfig.Proofs.Settings.Writing
import FormatterConfig.Proofs.Value.Overlay

set_option autoImplicit false

/-! # Layers as documents

Settings are layered as such, or written and laid over each other as documents, and it comes to the
same. In a full document the values change in their places; a document of given settings may have to
be put in order. Documents that are laid over each other are read as the settings of the one over
those of the other, as long as the upper one has no null, which gives nothing and would yet hide
what is below. -/

namespace FormatterConfig

open Mapping (overlay)

/-! ## Documents with every setting -/

/-- In a list of settings, the value of one is replaced. -/
theorem insert_map_setting {settings : List Setting} (hnodup : settings.Nodup) {s : Setting}
    (hs : s ∈ settings) (f : Setting → Value) (v : Value) :
    Mapping.insert (settings.map fun t => (.text t.key, f t)) (.text s.key) v =
      settings.map fun t => (.text t.key, if t = s then v else f t) := by
  induction settings with
  | nil => exact absurd hs (by simp)
  | cons t settings ih =>
    obtain ⟨ht, hnodup⟩ := List.nodup_cons.1 hnodup
    rw [List.map_cons, List.map_cons, Mapping.insert]
    by_cases hts : t = s
    · subst hts
      have hrest : settings.map (fun u => (Value.text u.key, f u)) =
          settings.map fun u => (Value.text u.key, if u = t then v else f u) := by
        refine List.map_congr_left fun u hu => ?_
        have hut : u ≠ t := by
          rintro rfl
          exact ht hu
        rw [if_neg hut]
      rw [if_pos (Setting.sameKey_key.2 rfl), if_pos rfl, hrest]
    · have hne : (Value.text t.key).sameKey (.text s.key) ≠ true := fun h =>
        hts (Setting.sameKey_key.1 h)
      have hmem : s ∈ settings := (List.mem_cons.1 hs).resolve_left (Ne.symm hts)
      rw [if_neg hne, if_neg hts, ih hnodup hmem]

/-- Given settings replace their values in a full document. -/
theorem overlay_map_setting (given : Setting → Option Value) (settings : List Setting)
    (f : Setting → Value) :
    overlay (settings.filterMap fun s => (given s).map fun v => (.text s.key, v))
        (Setting.all.map fun t => (.text t.key, f t)) =
      Setting.all.map fun t =>
        (.text t.key, if t ∈ settings then (given t).getD (f t) else f t) := by
  -- what a given setting replaces is seen by those after it, so the values vary in the induction
  induction settings generalizing f with
  | nil => simp
  | cons s settings ih =>
    cases hs : given s with
    | none =>
      rw [List.filterMap_cons_none (by rw [hs]; rfl), ih]
      refine List.map_congr_left fun t _ => ?_
      by_cases hts : t = s
      · subst hts
        simp [hs]
      · simp [hts]
    | some v =>
      rw [List.filterMap_cons_some (by rw [hs]; rfl), Mapping.overlay_cons,
        insert_map_setting Setting.nodup_all s.mem_all, ih]
      refine List.map_congr_left fun t _ => ?_
      by_cases hts : t = s
      · subst hts
        simp [hs]
      · simp [hts]

namespace PartialSettings

theorem entries_resolve (p : PartialSettings) (base : TotalSettings) :
    (p.resolve base).entries = overlay p.entries base.entries := by
  have hlaid := overlay_map_setting (fun s => (p s).map Value.written) Setting.all fun s =>
    (base s).written
  rw [entries_eq_filterMap]
  refine Eq.trans ?_ hlaid.symm
  refine List.map_congr_left fun s _ => ?_
  rw [if_pos s.mem_all, resolve]
  cases p s <;> rfl

/-! ## Documents with some settings -/

theorem textKeyed_entries (p : PartialSettings) : p.entries.TextKeyed where
  distinct := by
    rw [Mapping.KeysDistinct, entries, List.pairwise_filterMap]
    refine Setting.nodup_all.imp fun {s t} hst e he f hf => ?_
    obtain ⟨v, -, rfl⟩ := Option.map_eq_some_iff.1 he
    obtain ⟨w, -, rfl⟩ := Option.map_eq_some_iff.1 hf
    exact Bool.eq_false_iff.2 fun hsame => hst (Setting.sameKey_key.1 hsame)
  texts e he := by
    obtain ⟨s, v, -, rfl⟩ := mem_entries he
    exact ⟨s.key, rfl⟩

/-- The keys of a document are in the order of the settings. -/
theorem keys_entries (p : PartialSettings) :
    (p.entries.map Prod.fst).Sublist (Setting.all.map fun s => .text s.key) := by
  unfold entries
  induction Setting.all with
  | nil => exact List.Sublist.refl _
  | cons s settings ih =>
    cases hs : p s with
    | none =>
      rw [List.filterMap_cons_none (by rw [hs]; rfl)]
      exact ih.cons _
    | some v =>
      rw [List.filterMap_cons_some (by rw [hs]; rfl)]
      exact ih.cons_cons _

theorem get?_entries_combine (p q : PartialSettings) (key : String) :
    (p.combine q).entries.get? key = (p.entries.get? key).or (q.entries.get? key) := by
  by_cases hkey : ∃ s : Setting, s.key = key
  · obtain ⟨s, rfl⟩ := hkey
    rw [get?_entries, get?_entries, get?_entries, combine]
    cases p s <;> rfl
  · have hunknown : ∀ s : Setting, s.key ≠ key := fun s hs => hkey ⟨s, hs⟩
    rw [get?_entries_eq_none _ hunknown, get?_entries_eq_none _ hunknown,
      get?_entries_eq_none _ hunknown]
    rfl

theorem entries_combine (p q : PartialSettings) :
    (p.combine q).entries.Perm (overlay p.entries q.entries) := by
  refine (p.combine q).textKeyed_entries.perm_of_get?
    (.overlay p.textKeyed_entries.texts q.textKeyed_entries) fun key => ?_
  rw [get?_entries_combine, Mapping.get?_overlay p.textKeyed_entries.distinct]

end PartialSettings

/-! ## Documents read -/

namespace Mapping

theorem given?_overlay {high low : Mapping} (hdistinct : high.KeysDistinct) {key : String}
    (hnull : high.get? key ≠ some .null) :
    (overlay high low).given? key = (high.given? key).or (low.given? key) := by
  have hget := get?_overlay hdistinct low key
  cases hhigh : high.get? key with
  | none =>
    have hgiven : high.given? key = none := by
      rw [given?, hhigh]
    rw [hhigh, Option.none_or] at hget
    rw [hgiven, Option.none_or]
    exact given?_congr hget
  | some v =>
    have hv : v ≠ .null := fun h => hnull (h ▸ hhigh)
    rw [hhigh, Option.some_or] at hget
    rw [given?_eq_some.2 ⟨hhigh, hv⟩, Option.some_or]
    exact given?_eq_some.2 ⟨hget, hv⟩

end Mapping

namespace PartialSettings

variable {p q : PartialSettings} {high low : Mapping} {scope scope' scope'' : String}

/-- One document over another is read as the settings of the one over those of the other. -/
theorem ofDocument_overlay (hdistinct : high.KeysDistinct)
    (hnull : ∀ s : Setting, high.get? s.key ≠ some .null)
    (hp : (ofDocument high scope).outcome = .ok p)
    (hq : (ofDocument low scope').outcome = .ok q) :
    (ofDocument (overlay high low) scope'').outcome = .ok (p.combine q) := by
  have hread : ∀ table scope (r : PartialSettings), (ofDocument table scope).outcome = .ok r ↔
      (∀ (s : Setting) (v : Value), table.given? s.key = some v → s.kind.reading? v ≠ none) ∧
        r = fun s : Setting => (table.given? s.key).bind s.kind.reading? :=
    fun table scope r => ofDocument_eq_ok.trans
      (SettingSource.read_eq_ok_of_given fun s => rfl)
  obtain ⟨htaken, rfl⟩ := (hread high scope p).1 hp
  obtain ⟨htaken', rfl⟩ := (hread low scope' q).1 hq
  refine (hread _ scope'' _).2 ⟨fun s v hv => ?_, funext fun s => ?_⟩
  · rw [Mapping.given?_overlay hdistinct (hnull s), Option.or_eq_some_iff] at hv
    rcases hv with hv | ⟨-, hv⟩
    · exact htaken s v hv
    · exact htaken' s v hv
  · rw [Mapping.given?_overlay hdistinct (hnull s)]
    show ((high.given? s.key).bind s.kind.reading?).or _ = _
    cases hv : high.given? s.key with
    | none => rfl
    | some v =>
      obtain ⟨w, hw⟩ := Option.ne_none_iff_exists'.1 (htaken s v hv)
      rw [Option.bind_some, hw, Option.some_or, Option.some_or, Option.bind_some, hw]

end PartialSettings

/-- Layers of settings are layers of documents. Settings over a full set are written as the one
document over the other, in its order. Settings over settings are written as the same entries, under
distinct keys in the order of the settings. And of documents that are read, the one laid over the
other is read as the settings of the one over those of the other, if the upper one has no null. -/
theorem layers_commute_with_documents :
    (∀ (p : PartialSettings) (base : TotalSettings),
      (p.resolve base).entries = overlay p.entries base.entries) ∧
    (∀ p q : PartialSettings,
      (p.combine q).entries.Perm (overlay p.entries q.entries) ∧
      (p.combine q).entries.KeysDistinct ∧
      (∀ key, (p.combine q).entries.get? key = (overlay p.entries q.entries).get? key) ∧
      ((p.combine q).entries.map Prod.fst).Sublist (Setting.all.map fun s => .text s.key)) ∧
    ∀ (high low : Mapping) (scope scope' scope'' : String) (p q : PartialSettings),
      high.KeysDistinct → (∀ s : Setting, high.get? s.key ≠ some .null) →
      (PartialSettings.ofDocument high scope).outcome = .ok p →
      (PartialSettings.ofDocument low scope').outcome = .ok q →
      (PartialSettings.ofDocument (overlay high low) scope'').outcome = .ok (p.combine q) := by
  refine ⟨PartialSettings.entries_resolve, fun p q => ⟨p.entries_combine q,
    (p.combine q).textKeyed_entries.distinct, fun key => ?_, (p.combine q).keys_entries⟩,
    fun high low scope scope' scope'' p q => PartialSettings.ofDocument_overlay⟩
  rw [PartialSettings.get?_entries_combine, Mapping.get?_overlay p.textKeyed_entries.distinct]

/-- A truth value that is false and a zero are laid over others, and a null below gives nothing. -/
theorem layers_commute_with_documents_null :
    let high : Mapping := [(.text "respectful", .bool false), (.text "indentation", .int 0)]
    let low : Mapping := [(.text "indentation", .int 4), (.text "comma-style", .text "leading"),
      (.text "respectful", .null), (.text "other", .null)]
    ∃ p q : PartialSettings,
      (PartialSettings.ofDocument high "").outcome = .ok p ∧
      (PartialSettings.ofDocument low "").outcome = .ok q ∧
      overlay high low = [(.text "indentation", .int 0), (.text "comma-style", .text "leading"),
        (.text "respectful", .bool false), (.text "other", .null)] ∧
      (PartialSettings.ofDocument (overlay high low) "").outcome = .ok (p.combine q) := by
  intro high low
  have hdistinct : high.KeysDistinct := by
    rw [Mapping.KeysDistinct]
    decide
  have hnull : ∀ s : Setting, high.get? s.key ≠ some .null := by
    intro s hs
    obtain ⟨k, -, hmem⟩ := Mapping.mem_of_get? hs
    simp [high] at hmem
  have hhigh : (PartialSettings.ofDocument high "").outcome =
      .ok (SettingSource.ofDocument high "").accepted? := rfl
  have hlow : (PartialSettings.ofDocument low "").outcome =
      .ok (SettingSource.ofDocument low "").accepted? := rfl
  exact ⟨_, _, hhigh, hlow, rfl,
    layers_commute_with_documents.2.2 high low "" "" "" _ _ hdistinct hnull hhigh hlow⟩

end FormatterConfig
