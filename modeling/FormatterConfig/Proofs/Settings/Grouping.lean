import FormatterConfig.Proofs.Settings.Combination
import FormatterConfig.Proofs.Settings.Runs

set_option autoImplicit false

/-! # Layers in any grouping

The settings that sources give act on full settings by filling them in, and the action is faithful:
two sources that fill every base alike give the same settings, since for each setting that only one
of them gives there is a base that tells them apart. Since filling gaps is associative, layers can be
filled in any grouping: what counts is their order alone, and a setting has the value of the first
layer that gives it. -/

namespace FormatterConfig

/-! ## Bases that tell values apart -/

namespace SettingKind

variable {kind : SettingKind} {v w : Value}

/-- The values of a kind are scalars, and so equal to what has their form as a key. -/
theorem same_of_admits (hw : kind.admits w = true) :
    (v.same w = true ↔ v.keyForm? = w.keyForm?) ∧ (w.same v = true ↔ v.keyForm? = w.keyForm?) := by
  have hscalar : v.same w = v.sameKey w ∧ w.same v = w.sameKey v ∧ w.keyForm?.isSome = true := by
    unfold admits at hw
    split at hw
    · cases v <;> exact ⟨rfl, rfl, rfl⟩
    · cases v <;> exact ⟨rfl, rfl, rfl⟩
    · cases v <;> exact ⟨rfl, rfl, rfl⟩
    · exact absurd hw (by simp)
  obtain ⟨hvw, hwv, hform⟩ := hscalar
  obtain ⟨form, hform⟩ := Option.isSome_iff_exists.1 hform
  rw [hvw, hwv, Value.sameKey, Value.sameKey, hform]
  cases hv : v.keyForm? with
  | none => simp
  | some form' => simp [@eq_comm _ form]

/-- Every kind has two values that are not equal. -/
theorem exists_two_admits (kind : SettingKind) :
    ∃ a b, kind.admits a = true ∧ kind.admits b = true ∧ a.keyForm? ≠ b.keyForm? := by
  cases kind with
  | integer minimum =>
    cases minimum with
    | none => exact ⟨.int 0, .int 1, rfl, rfl, by decide⟩
    | some m =>
      refine ⟨.int m, .int (m + 1), ?_, ?_, ?_⟩
      · exact decide_eq_true (Int.le_refl m)
      · exact decide_eq_true (Int.le_add_one (Int.le_refl m))
      · have hne : m ≠ m + 1 := by omega
        simp [Value.keyForm?, hne]
  | truth => exact ⟨.bool false, .bool true, rfl, rfl, by decide⟩
  | choice kind =>
    cases kind with
    | comma => exact ⟨.choice (.comma .leading), .choice (.comma .trailing), rfl, rfl, by decide⟩
    | doc => exact ⟨.choice (.doc .singleLine), .choice (.doc .multiLine), rfl, rfl, by decide⟩
    | source => exact ⟨.choice (.source .module), .choice (.source .signature), rfl, rfl, by decide⟩
    | color => exact ⟨.choice (.color .never), .choice (.color .always), rfl, rfl, by decide⟩
    | direction =>
      exact ⟨.choice (.direction .left), .choice (.direction .right), rfl, rfl, by decide⟩

/-- Whatever a setting is given, some value of its kind is not equal to it. -/
theorem exists_admits_apart (kind : SettingKind) (v : Value) :
    ∃ w, kind.admits w = true ∧ v.keyForm? ≠ w.keyForm? := by
  obtain ⟨a, b, ha, hb, hab⟩ := kind.exists_two_admits
  by_cases hva : v.keyForm? = a.keyForm?
  · exact ⟨b, hb, fun hvb => hab (hva.symm.trans hvb)⟩
  · exact ⟨a, ha, hva⟩

end SettingKind

/-- The defaults, but for the value of one setting. -/
def TotalSettings.defaultsBut (s : Setting) (v : Value) : TotalSettings := fun t =>
  if t = s then v else defaults t

theorem TotalSettings.defaultsBut_self (s : Setting) (v : Value) : defaultsBut s v s = v := if_pos rfl

theorem TotalSettings.wellFormed_defaultsBut {s : Setting} {v : Value}
    (hv : s.kind.admits v = true) : (defaultsBut s v).wellFormed = true := by
  refine wellFormed_iff.2 fun t => ?_
  by_cases ht : t = s
  · subst ht
    rw [defaultsBut_self]
    exact hv
  · rw [defaultsBut, if_neg ht]
    exact wellFormed_iff.1 wellFormed_defaults t

theorem TotalSettings.same_iff {t u : TotalSettings} :
    t.same u = true ↔ ∀ s : Setting, (t s).same (u s) = true := by
  rw [same, List.all_eq_true]
  exact ⟨fun h s => h s s.mem_all, fun h s _ => h s⟩

/-! ## A faithful action -/

namespace PartialSettings

variable {p q : PartialSettings} {s : Setting} {v : Value}

theorem resolve_of_some {base : TotalSettings} (hv : p s = some v) : p.resolve base s = v := by
  rw [resolve, hv]
  rfl

theorem resolve_of_none {base : TotalSettings} (hp : p s = none) :
    p.resolve base s = base s := by
  rw [resolve, hp]
  rfl

theorem combine_combine_self (p q : PartialSettings) : (p.combine q).combine p = p.combine q := by
  funext s
  show ((p s).or (q s)).or (p s) = (p s).or (q s)
  cases p s with
  | none => exact Option.or_none
  | some v => rfl

/-- A source that gives a setting does not act as one that leaves it open. -/
theorem exists_base_apart (hp : p s = some v) (hq : q s = none) :
    ∃ base : TotalSettings, base.wellFormed = true ∧ s.kind.admits (q.resolve base s) = true ∧
      (p.resolve base s).keyForm? ≠ (q.resolve base s).keyForm? := by
  obtain ⟨w, hw, hne⟩ := s.kind.exists_admits_apart v
  refine ⟨.defaultsBut s w, TotalSettings.wellFormed_defaultsBut hw, ?_⟩
  rw [resolve_of_some hp, resolve_of_none hq, TotalSettings.defaultsBut_self]
  exact ⟨hw, hne⟩

theorem eq_of_resolve_eq
    (h : ∀ base : TotalSettings, base.wellFormed = true → p.resolve base = q.resolve base) :
    p = q := by
  funext s
  cases hp : p s with
  | none =>
    cases hq : q s with
    | none => rfl
    | some w =>
      obtain ⟨base, hbase, -, hapart⟩ := exists_base_apart hq hp
      exact absurd (by rw [h base hbase]) hapart
  | some v =>
    cases hq : q s with
    | none =>
      obtain ⟨base, hbase, -, hapart⟩ := exists_base_apart hp hq
      exact absurd (by rw [h base hbase]) hapart
    | some w =>
      have hs := congrFun (h .defaults TotalSettings.wellFormed_defaults) s
      rw [resolve_of_some hp, resolve_of_some hq] at hs
      rw [hs]

/-! Equality of values is coarser, as one and a true truth value are equal. The bases tell apart just
what it tells apart. -/

theorem same_iff :
    p.same q = true ↔ ∀ s : Setting, Option.Rel (fun v w => v.same w = true) (p s) (q s) := by
  rw [same, List.all_eq_true]
  constructor
  · intro h s
    have hs := h s s.mem_all
    generalize p s = v at hs
    generalize q s = w at hs
    cases v with
    | none =>
      cases w with
      | none => exact .none
      | some w => exact absurd hs Bool.false_ne_true
    | some v =>
      cases w with
      | none => exact absurd hs Bool.false_ne_true
      | some w => exact .some hs
  · intro h s _
    have hs := h s
    generalize p s = v at hs
    generalize q s = w at hs
    cases hs with
    | none => rfl
    | some hsame => exact hsame

theorem resolve_same_of_same {base : TotalSettings} (h : p.same q = true)
    (hbase : base.wellFormed = true) : (p.resolve base).same (q.resolve base) = true := by
  refine TotalSettings.same_iff.2 fun s => ?_
  have hs := same_iff.1 h s
  show ((p s).getD (base s)).same ((q s).getD (base s)) = true
  generalize p s = v at hs
  generalize q s = w at hs
  cases hs with
  | none => exact (SettingKind.same_of_admits (TotalSettings.wellFormed_iff.1 hbase s)).1.2 rfl
  | some hsame => exact hsame

theorem same_of_resolve_same
    (h : ∀ base : TotalSettings, base.wellFormed = true →
      (p.resolve base).same (q.resolve base) = true) : p.same q = true := by
  refine same_iff.2 fun s => ?_
  have hsame := fun base hbase => TotalSettings.same_iff.1 (h base hbase) s
  cases hp : p s with
  | none =>
    cases hq : q s with
    | none => exact .none
    | some w =>
      obtain ⟨base, hbase, hadmits, hapart⟩ := exists_base_apart hq hp
      exact absurd ((SettingKind.same_of_admits hadmits).2.1 (hsame base hbase)) hapart
  | some v =>
    cases hq : q s with
    | none =>
      obtain ⟨base, hbase, hadmits, hapart⟩ := exists_base_apart hp hq
      exact absurd ((SettingKind.same_of_admits hadmits).1.1 (hsame base hbase)) hapart
    | some w =>
      have hdefaults := hsame .defaults TotalSettings.wellFormed_defaults
      rw [resolve_of_some hp, resolve_of_some hq] at hdefaults
      exact .some hdefaults

theorem isEmpty_iff : p.isEmpty = true ↔ p = empty := by
  rw [isEmpty, List.all_eq_true]
  constructor
  · intro h
    funext s
    exact Option.isNone_iff_eq_none.1 (h s s.mem_all)
  · rintro rfl s -
    rfl

end PartialSettings

/-! ## Groupings -/

namespace SettingsView

/-- Whether a view gives every setting. -/
def isWhole : SettingsView → Bool
  | .part _ => false
  | .whole _ => true

/-- A setting of a filled view is that of the view, or else that of the one that it is filled
from. -/
theorem given_fill (high low : SettingsView) (s : Setting) :
    (high.fill low).given s = (high.given s).or (low.given s) := by
  cases low with
  | part p => rfl
  | whole t =>
    show some ((high.given s).getD (t s)) = (high.given s).or (some (t s))
    cases high.given s <;> rfl

/-- Layers that are filled from each other, strongest first, in some grouping. -/
inductive Grouping where
  | single (view : SettingsView)
  | fill (high low : Grouping)

namespace Grouping

/-- The view that filling in a grouping gives. -/
def view : Grouping → SettingsView
  | .single v => v
  | .fill high low => high.view.fill low.view

/-- The layers of a grouping, in order. -/
def layers : Grouping → List SettingsView
  | .single v => [v]
  | .fill high low => high.layers ++ low.layers

/-- Whatever the grouping, a setting has the value of the first layer that gives it. -/
theorem given_view (g : Grouping) (s : Setting) :
    g.view.given s = g.layers.findSome? fun v => v.given s := by
  induction g with
  | single v =>
    rw [view, layers, List.findSome?_singleton]
  | fill high low ihhigh ihlow =>
    rw [view, layers, given_fill, ihhigh, ihlow, List.findSome?_append]

/-- Filling gives a view of the kind of the last layer. -/
theorem isWhole_view (g : Grouping) :
    g.layers.getLast?.map isWhole = some g.view.isWhole := by
  induction g with
  | single v => rfl
  | fill high low _ ihlow =>
    have hkind : (high.view.fill low.view).isWhole = low.view.isWhole := by
      cases low.view <;> rfl
    obtain ⟨last, hlast, hlow⟩ := Option.map_eq_some_iff.1 ihlow
    rw [view, layers, hkind, List.getLast?_append, hlast, Option.some_or, Option.map_some, hlow]

/-- Layers of given settings over a base, in any grouping, give full settings: each is that of the
first layer that gives it, or else that of the base. -/
theorem view_of_layers {g : Grouping} {sources : List PartialSettings} {base : TotalSettings}
    (h : g.layers = sources.map SettingsView.part ++ [.whole base]) :
    g.view = .whole fun s => (sources.findSome? fun p => p s).getD (base s) := by
  have hkind := g.isWhole_view
  have hgiven := g.given_view
  rw [h] at hkind hgiven
  cases hview : g.view with
  | part p =>
    rw [hview] at hkind
    simp [isWhole] at hkind
  | whole t =>
    congr 1
    funext s
    have hs : some (t s) = (sources.findSome? fun p => p s).or (some (base s)) := by
      have hfirst := hgiven s
      rw [hview, List.findSome?_append, List.findSome?_map] at hfirst
      exact hfirst
    rw [Option.or_some] at hs
    exact Option.some.inj hs

end Grouping

end SettingsView

namespace PartialSettings

open SettingsView (Grouping)

/-- Given settings form an idempotent monoid under combination, in which what is repeated at the end
adds nothing, and act on full settings by filling them in. The action is faithful on well-formed bases,
and only the source that gives nothing changes none. So layers over a base resolve, in any grouping,
to the first value that a layer gives, or else to that of the base. -/
theorem combine_acts_faithfully (p q r : PartialSettings) :
    ((p.combine q).combine r = p.combine (q.combine r) ∧ p.combine empty = p ∧
        empty.combine p = p ∧ p.combine p = p ∧ (p.combine q).combine p = p.combine q) ∧
      (∀ base : TotalSettings, p.resolve (q.resolve base) = (p.combine q).resolve base ∧
        empty.resolve base = base) ∧
      ((∀ base : TotalSettings, base.wellFormed = true → p.resolve base = q.resolve base) →
        p = q) ∧
      ((∀ base : TotalSettings, base.wellFormed = true →
        (p.resolve base).same (q.resolve base) = true) ↔ p.same q = true) ∧
      (p.isEmpty = true → ∀ base : TotalSettings, p.resolve base = base) ∧
      ((∀ base : TotalSettings, base.wellFormed = true → p.resolve base = base) →
        p.isEmpty = true) ∧
      ∀ (g : Grouping) (sources : List PartialSettings) (base : TotalSettings),
        g.layers = sources.map SettingsView.part ++ [.whole base] →
        g.view = .whole fun s => (sources.findSome? fun p => p s).getD (base s) := by
  refine ⟨⟨combine_assoc p q r, combine_empty p, empty_combine p, combine_self p,
      combine_combine_self p q⟩, fun base => ⟨resolve_resolve p q base, empty_resolve base⟩,
    eq_of_resolve_eq,
    ⟨same_of_resolve_same, fun hsame base hbase => resolve_same_of_same hsame hbase⟩,
    fun hempty base => ?_, fun hunchanged => ?_, fun g sources base => Grouping.view_of_layers⟩
  · obtain rfl := isEmpty_iff.1 hempty
    exact empty_resolve base
  · exact isEmpty_iff.2 (eq_of_resolve_eq hunchanged)

/-- Zero and the false truth value are given, so they hide what a weaker layer and the base say. -/
theorem combine_acts_faithfully_zero :
    ∃ p q : PartialSettings,
      (p .indentation = some (.int 0) ∧ p .respectful = some (.bool false)) ∧
      (q .indentation = some (.int 8) ∧ q .commaStyle = some (.choice (.comma .trailing))) ∧
      (p.combine q).combine p = p.combine q ∧
      ((∀ base : TotalSettings, base.wellFormed = true →
        p.resolve base = (p.combine p).resolve base) ∧ p = p.combine p) ∧
      ((∀ base : TotalSettings, base.wellFormed = true → empty.resolve base = base) ∧
        empty.isEmpty = true) ∧
      ∃ t : TotalSettings,
        Grouping.view (.fill (.fill (.single (.part p)) (.single (.part q)))
          (.single (.whole .defaults))) = .whole t ∧
        Grouping.view (.fill (.single (.part p))
          (.fill (.single (.part q)) (.single (.whole .defaults)))) = .whole t ∧
        t .indentation = .int 0 ∧ t .respectful = .bool false ∧
        t .commaStyle = .choice (.comma .trailing) ∧ t .newlinesBetweenDecls = .int 1 := by
  obtain ⟨p, hp⟩ : ∃ p : PartialSettings, p = fun s => match s with
    | .indentation => some (.int 0)
    | .respectful => some (.bool false)
    | _ => none := ⟨_, rfl⟩
  obtain ⟨q, hq⟩ : ∃ q : PartialSettings, q = fun s => match s with
    | .indentation => some (.int 8)
    | .commaStyle => some (.choice (.comma .trailing))
    | _ => none := ⟨_, rfl⟩
  have hself : ∀ base : TotalSettings, base.wellFormed = true →
      p.resolve base = (p.combine p).resolve base := fun base _ => by rw [combine_self]
  have hempty : ∀ base : TotalSettings, base.wellFormed = true → empty.resolve base = base :=
    fun base _ => empty_resolve base
  obtain ⟨⟨-, -, -, -, hregular⟩, -, -, -, -, -, hgrouping⟩ := combine_acts_faithfully p q empty
  obtain ⟨-, -, hfaithful, -⟩ := combine_acts_faithfully p (p.combine p) empty
  obtain ⟨-, -, -, -, -, hisEmpty, -⟩ := combine_acts_faithfully empty p q
  refine ⟨p, q, ?_, ?_, hregular, ⟨hself, hfaithful hself⟩, ⟨hempty, hisEmpty hempty⟩, _,
    hgrouping _ [p, q] .defaults rfl, hgrouping _ [p, q] .defaults rfl, ?_⟩
  all_goals subst hp hq
  · exact ⟨rfl, rfl⟩
  · exact ⟨rfl, rfl⟩
  · exact ⟨rfl, rfl, rfl, rfl⟩

end PartialSettings

end FormatterConfig
