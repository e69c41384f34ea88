import FormatterConfig.Settings.Basic

set_option autoImplicit false

/-! # Combining settings

Combining fills the gaps of a source from a weaker one. It is associative, and a source that gives
nothing changes nothing on either side, so any number of sources is as good as one: a setting has the
value of the first source that gives it. Resolving against full settings is the action of this
combination: to resolve twice is to resolve once against the combined source. -/

namespace FormatterConfig.PartialSettings

theorem combine_assoc (p q r : PartialSettings) :
    (p.combine q).combine r = p.combine (q.combine r) := by
  funext s
  exact Option.or_assoc

@[simp] theorem combine_empty (p : PartialSettings) : p.combine empty = p := by
  funext s
  exact Option.or_none

@[simp] theorem empty_combine (p : PartialSettings) : empty.combine p = p := rfl

theorem combine_self (p : PartialSettings) : p.combine p = p := by
  funext s
  exact Option.or_self

@[simp] theorem empty_resolve (base : TotalSettings) : empty.resolve base = base := rfl

theorem resolve_resolve (p q : PartialSettings) (base : TotalSettings) :
    p.resolve (q.resolve base) = (p.combine q).resolve base := by
  funext s
  show (p s).getD ((q s).getD (base s)) = ((p s).or (q s)).getD (base s)
  cases p s <;> rfl

/-! ## Any number of sources -/

/-- Several sources combined, the strongest first. -/
def combineAll (sources : List PartialSettings) : PartialSettings := sources.foldr combine empty

theorem combineAll_nil : combineAll [] = empty := rfl

theorem combineAll_cons (p : PartialSettings) (sources : List PartialSettings) :
    combineAll (p :: sources) = p.combine (combineAll sources) := rfl

theorem combineAll_append (sources weaker : List PartialSettings) :
    combineAll (sources ++ weaker) = (combineAll sources).combine (combineAll weaker) := by
  induction sources with
  | nil => rfl
  | cons p sources ih => rw [List.cons_append, combineAll_cons, ih, combineAll_cons, combine_assoc]

/-- A setting has the value of the first source that gives it. -/
theorem combineAll_apply (sources : List PartialSettings) (s : Setting) :
    combineAll sources s = sources.findSome? fun p => p s := by
  induction sources with
  | nil => rfl
  | cons p sources ih =>
    show (p s).or (combineAll sources s) = _
    rw [ih, List.findSome?_cons]
    cases p s <;> rfl

end FormatterConfig.PartialSettings
