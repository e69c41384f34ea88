import FormatterConfig.Project.Versions
import FormatterConfig.Proofs.Decimal.Digits
import FormatterConfig.Proofs.Outcome
import FormatterConfig.Proofs.Text.Lines

set_option autoImplicit false

/-! # What a classifier names

A classifier spells a version by two runs of digits with a point between them, behind the common
beginning and with white space around them (`Spells`). It names the version if the digits are
decimal (`Names`). Reading a classifier breaks off exactly where it is no text, or where a run of
digits that it spells is not read (`Breaks`); any other one that spells no version is passed over. -/

namespace FormatterConfig.Text

/-! ## White space at the ends -/

theorem exists_trimBlanks (cs : List Char) :
    ∃ before after, cs = before ++ (trimBlanks cs ++ after) ∧ (∀ c ∈ before, isBlank c = true) ∧
      ∀ c ∈ after, isBlank c = true := by
  let inner := cs.dropWhile isBlank
  refine ⟨cs.takeWhile isBlank, (inner.reverse.takeWhile isBlank).reverse, ?_, ?_, ?_⟩
  · have hinner : trimBlanks cs ++ (inner.reverse.takeWhile isBlank).reverse = inner := by
      rw [trimBlanks, ← List.reverse_append, List.takeWhile_append_dropWhile, List.reverse_reverse]
    rw [hinner, List.takeWhile_append_dropWhile]
  · intro c hc
    exact List.mem_takeWhile_imp hc
  · intro c hc
    exact List.mem_takeWhile_imp (List.mem_reverse.1 hc)

/-- White space is taken off as far as something else stands at both ends. -/
theorem trimBlanks_append {before middle after : List Char} (hbefore : ∀ c ∈ before, isBlank c = true)
    (hafter : ∀ c ∈ after, isBlank c = true) (hne : middle ≠ []) (hfirst : Stops isBlank middle)
    (hlast : Stops isBlank middle.reverse) : trimBlanks (before ++ (middle ++ after)) = middle := by
  have hstop : Stops isBlank (middle ++ after) := by
    cases middle with
    | nil => exact absurd rfl hne
    | cons c rest => simpa using hfirst
  have hall : after.reverse.all isBlank = true :=
    List.all_eq_true.2 fun c hc => hafter c (List.mem_reverse.1 hc)
  rw [trimBlanks, dropWhile_append_of_stops (List.all_eq_true.2 hbefore) hstop, List.reverse_append,
    dropWhile_append_of_stops hall hlast, List.reverse_reverse]

end FormatterConfig.Text

namespace FormatterConfig.Project

open Decimal Text

variable {classifier major minor : List Char}

/-! ## Spelled versions -/

/-- A classifier spells a version: behind the common beginning stand two runs of digits with a point
between them, and white space around. -/
def Spells (classifier major minor : List Char) : Prop :=
  IsDigitRun major ∧ IsDigitRun minor ∧
    ∃ before after, classifier = versionClassifier ++ (before ++ (major ++ '.' :: minor ++ after)) ∧
      (∀ c ∈ before, isBlank c = true) ∧ ∀ c ∈ after, isBlank c = true

/-- A classifier names a version: the digits that it spells are decimal and denote the two numbers. -/
def Names (classifier : List Char) (v : Version) : Prop :=
  ∃ major minor, Spells classifier major minor ∧ (∀ c ∈ major, isDecimal c = true) ∧
    (∀ c ∈ minor, isDecimal c = true) ∧ v = ⟨placeValue major, placeValue minor⟩

theorem notMem_of_isDigitRun {cs : List Char} (h : IsDigitRun cs) : '.' ∉ cs := by
  intro hmem
  have hpoint : isDigit '.' = false := by decide
  rw [h.digits '.' hmem] at hpoint
  exact Bool.noConfusion hpoint

/-- A run of digits neither begins nor ends in white space. -/
theorem stops_of_isDigitRun {cs : List Char} (h : IsDigitRun cs) (rest : List Char) :
    Stops isBlank (cs ++ rest) ∧ Stops isBlank (cs.reverse ++ rest) := by
  have hstop : ∀ ds : List Char, ds ≠ [] → (∀ c ∈ ds, isDigit c = true) →
      Stops isBlank (ds ++ rest) := by
    intro ds hne hdigits
    cases ds with
    | nil => exact absurd rfl hne
    | cons c ds => simpa using isBlank_of_isDigit (hdigits c (by simp))
  refine ⟨hstop cs h.ne_nil h.digits, hstop cs.reverse ?_ ?_⟩
  · simpa using h.ne_nil
  · intro c hc
    exact h.digits c (List.mem_reverse.1 hc)

theorem isVersionPart_iff {cs : List Char} : isVersionPart cs = true ↔ IsDigitRun cs :=
  isDigitRun_iff.symm

theorem versionParts?_eq_some :
    versionParts? classifier = some (major, minor) ↔ Spells classifier major minor := by
  unfold versionParts?
  constructor
  · intro h
    split at h
    · next hbegin =>
      obtain ⟨rest, rfl⟩ := List.isPrefixOf_iff_prefix.1 hbegin
      rw [List.drop_left] at h
      split at h
      · next front back hcut =>
        obtain ⟨htrim, -, -⟩ := cutAt_eq_pair.1 hcut
        split at h
        · next hparts =>
          obtain ⟨rfl, rfl⟩ := Prod.mk.inj (Option.some.inj h)
          rw [Bool.and_eq_true, isVersionPart_iff, isVersionPart_iff] at hparts
          obtain ⟨before, after, hrest, hbefore, hafter⟩ := exists_trimBlanks rest
          refine ⟨hparts.1, hparts.2, before, after, ?_, hbefore, hafter⟩
          rw [← htrim, ← hrest]
        · exact nomatch h
      · exact nomatch h
    · exact nomatch h
  · rintro ⟨hmajor, hminor, before, after, rfl, hbefore, hafter⟩
    have hbegin : versionClassifier.isPrefixOf
        (versionClassifier ++ (before ++ (major ++ '.' :: minor ++ after))) = true :=
      List.isPrefixOf_iff_prefix.2 (List.prefix_append _ _)
    have htrim : trimBlanks (before ++ (major ++ '.' :: minor ++ after)) = major ++ '.' :: minor := by
      refine trimBlanks_append hbefore hafter (by simp) (stops_of_isDigitRun hmajor _).1 ?_
      rw [List.reverse_append, List.reverse_cons, List.append_assoc]
      exact (stops_of_isDigitRun hminor _).2
    have hcut : cutAt '.' (major ++ '.' :: minor) = [major, minor] :=
      cutAt_eq_pair.2 ⟨rfl, notMem_of_isDigitRun hmajor, notMem_of_isDigitRun hminor⟩
    rw [if_pos hbegin, List.drop_left, htrim, hcut]
    simp [isVersionPart_iff, hmajor, hminor]

/-- A classifier spells one version at most. -/
theorem Spells.unique {major' minor' : List Char} (h : Spells classifier major minor)
    (h' : Spells classifier major' minor') : major = major' ∧ minor = minor' := by
  rw [← versionParts?_eq_some] at h h'
  rw [h] at h'
  exact Prod.mk.inj (Option.some.inj h')

/-! ## Reading -/

/-- What the reading of a classifier breaks off at: no text at all, or a text that spells a version
with a run of digits that is not read, of which the first one counts. -/
inductive Breaks : Value → ClassifierFault → Prop where
  | notText {found : Value} (h : ∀ s, found ≠ .text s) : Breaks found (.notText found)
  | major {s : String} {major minor : List Char} {fault : ConversionFault}
      (hspells : Spells s.toList major minor) (hmajor : Unreadable major fault) :
      Breaks (.text s) (.conversion fault)
  | minor {s : String} {major minor : List Char} {fault : ConversionFault}
      (hspells : Spells s.toList major minor) (hmajor : IsNumeral major)
      (hminor : Unreadable minor fault) : Breaks (.text s) (.conversion fault)

theorem readVersionPart_eq_ok {cs : List Char} {n : Int} (h : IsDigitRun cs) :
    readVersionPart cs = .ok n ↔ IsNumeral cs ∧ n = placeValue cs := by
  rw [← readInteger_eq_ok h, readVersionPart]
  cases readInteger 10 cs <;> simp

theorem readVersionPart_eq_error {cs : List Char} {fault : ClassifierFault} (h : IsDigitRun cs) :
    readVersionPart cs = .error fault ↔
      ∃ cause, Unreadable cs cause ∧ fault = .conversion cause := by
  simp only [← readInteger_eq_error h, readVersionPart]
  cases readInteger 10 cs <;> simp [eq_comm]

/-- A text that spells no version is passed over. -/
theorem readClassifier_of_not_spells {s : String}
    (h : ∀ major minor, ¬ Spells s.toList major minor) : readClassifier (.text s) = .ok none := by
  have hparts : versionParts? s.toList = none := by
    rw [Option.eq_none_iff_forall_ne_some]
    rintro ⟨major, minor⟩ hsome
    exact h major minor (versionParts?_eq_some.1 hsome)
  rw [readClassifier, hparts]

/-- A text that spells a version is read number by number. -/
theorem readClassifier_of_spells {s : String} (h : Spells s.toList major minor) :
    readClassifier (.text s) = (do
      let x ← readVersionPart major
      let y ← readVersionPart minor
      return some ⟨x, y⟩) := by
  rw [readClassifier, versionParts?_eq_some.2 h]

theorem readClassifier_eq_error {found : Value} {fault : ClassifierFault} :
    readClassifier found = .error fault ↔ Breaks found fault := by
  constructor
  · intro h
    by_cases htext : ∃ s, found = .text s
    · obtain ⟨s, rfl⟩ := htext
      by_cases hspells : ∃ major minor, Spells s.toList major minor
      · obtain ⟨major, minor, hspells⟩ := hspells
        rw [readClassifier_of_spells hspells, bind_eq_error] at h
        rcases h with hmajor | ⟨x, hmajor, h⟩
        · obtain ⟨cause, hcause, rfl⟩ := (readVersionPart_eq_error hspells.1).1 hmajor
          exact .major hspells hcause
        · rcases bind_eq_error.1 h with hminor | ⟨y, -, hpure⟩
          · obtain ⟨cause, hcause, rfl⟩ := (readVersionPart_eq_error hspells.2.1).1 hminor
            exact .minor hspells ((readVersionPart_eq_ok hspells.1).1 hmajor).1 hcause
          · exact nomatch hpure
      · rw [readClassifier_of_not_spells fun major minor hs => hspells ⟨major, minor, hs⟩] at h
        exact nomatch h
    · have hne : ∀ s, found ≠ .text s := fun s hs => htext ⟨s, hs⟩
      rw [readClassifier] at h
      · obtain rfl := Except.error.inj h
        exact .notText hne
      · exact hne
  · intro h
    cases h with
    | notText hne => rw [readClassifier]; exact hne
    | major hspells hmajor =>
      have herror := (readVersionPart_eq_error hspells.1).2 ⟨_, hmajor, rfl⟩
      rw [readClassifier_of_spells hspells, herror, error_bind]
    | minor hspells hmajor hminor =>
      have hok := (readVersionPart_eq_ok hspells.1).2 ⟨hmajor, rfl⟩
      have herror := (readVersionPart_eq_error hspells.2.1).2 ⟨_, hminor, rfl⟩
      rw [readClassifier_of_spells hspells, hok, ok_bind, herror, error_bind]

/-- A classifier names exactly the version that it spells with numerals. -/
theorem Spells.names_iff {v : Version} (h : Spells classifier major minor) (hmajor : IsNumeral major)
    (hminor : IsNumeral minor) :
    Names classifier v ↔ v = ⟨placeValue major, placeValue minor⟩ := by
  constructor
  · rintro ⟨major', minor', h', -, -, rfl⟩
    obtain ⟨rfl, rfl⟩ := h.unique h'
    rfl
  · rintro rfl
    exact ⟨major, minor, h, hmajor.decimal, hminor.decimal, rfl⟩

/-- A classifier at which the reading does not break off counts as the version that it names. -/
theorem readClassifier_eq_some {found : Value} {v : Version}
    (hsound : ∀ fault, ¬ Breaks found fault) :
    readClassifier found = .ok (some v) ↔ ∃ s, found = .text s ∧ Names s.toList v := by
  by_cases htext : ∃ s, found = .text s
  · obtain ⟨s, rfl⟩ := htext
    have hnames : (∃ t, Value.text s = .text t ∧ Names t.toList v) ↔ Names s.toList v := by simp
    rw [hnames]
    by_cases hspells : ∃ major minor, Spells s.toList major minor
    · obtain ⟨major, minor, hspells⟩ := hspells
      have hmajor : IsNumeral major := by
        rcases hspells.1.isNumeral_or_unreadable with hmajor | ⟨fault, hmajor⟩
        · exact hmajor
        · exact absurd (.major hspells hmajor) (hsound _)
      have hminor : IsNumeral minor := by
        rcases hspells.2.1.isNumeral_or_unreadable with hminor | ⟨fault, hminor⟩
        · exact hminor
        · exact absurd (.minor hspells hmajor hminor) (hsound _)
      rw [hspells.names_iff hmajor hminor, readClassifier_of_spells hspells,
        (readVersionPart_eq_ok hspells.1).2 ⟨hmajor, rfl⟩, ok_bind,
        (readVersionPart_eq_ok hspells.2.1).2 ⟨hminor, rfl⟩, ok_bind]
      simp [pure, Except.pure, eq_comm]
    · have hnot : ¬ Names s.toList v := fun ⟨major, minor, h, _⟩ => hspells ⟨major, minor, h⟩
      rw [readClassifier_of_not_spells fun major minor h => hspells ⟨major, minor, h⟩]
      simp [hnot]
  · have hne : ∀ s, found ≠ .text s := fun s hs => htext ⟨s, hs⟩
    exact absurd (.notText hne) (hsound _)

end FormatterConfig.Project
