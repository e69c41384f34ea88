import FormatterConfig.Proofs.Outcome
import FormatterConfig.Proofs.Value.Lookup
import FormatterConfig.Settings.Read

set_option autoImplicit false

/-! # What is read of a setting

`SettingKind.reading?` says once which values a setting of a kind takes and what each of them stands
for; nothing is converted on the way but a tag into the choice that it names. Every check of a
setting is that function with a message for what it refuses, so a source is read setting by setting,
and refused for the first setting, in their order, that is given a value of another kind. -/

namespace FormatterConfig

/-! ## Values of a kind -/

/-- What a given value stands for, if a setting of a kind takes it: an integer from the minimum on, a
truth value, or a choice of the kind, by itself or by its tag. -/
def SettingKind.reading? : SettingKind → Value → Option Value
  | .integer minimum, .int n => if minimum.all (· ≤ n) then some (.int n) else none
  | .truth, .bool b => some (.bool b)
  | .choice kind, .choice c => if c.kind = kind then some (.choice c) else none
  | .choice kind, .text tag => (kind.ofTag? tag).map Value.choice
  | _, _ => none

/-- Why a setting of a kind refuses a value. -/
def SettingKind.fault (place : Place) : SettingKind → Value → CheckFault
  | .integer (some minimum), .int n => .belowMinimum minimum place n
  | .integer _, v => .wrongKind .integer place v
  | .truth, v => .wrongKind .truth place v
  | .choice kind, v =>
    if v.isText then .unknownTag kind place v else .wrongKind .choiceTag place v

theorem ChoiceKind.ofTag?_eq_some {kind : ChoiceKind} {tag : String} {c : Choice} :
    kind.ofTag? tag = some c ↔ c.kind = kind ∧ c.tag = tag := by
  constructor
  · intro h
    refine ⟨mem_members.1 (List.mem_of_find?_eq_some h), ?_⟩
    simpa using List.find?_some h
  · rintro ⟨rfl, rfl⟩
    exact ofTag?_tag c

/-- No two choices share a tag, whatever their kinds. -/
theorem Choice.tag_inj {c d : Choice} (h : c.tag = d.tag) : c = d := by
  cases c <;> rename_i x <;> cases x <;> cases d <;> rename_i y <;> cases y <;> simp_all [tag]

/-- A choice of another kind names none of a kind. -/
theorem ChoiceKind.ofTag?_tag_eq (kind : ChoiceKind) (c : Choice) :
    kind.ofTag? c.tag = if c.kind = kind then some c else none := by
  split
  · next h => exact ofTag?_eq_some.2 ⟨h, rfl⟩
  · next h =>
    rw [Option.eq_none_iff_forall_ne_some]
    intro d hd
    obtain ⟨hkind, htag⟩ := ofTag?_eq_some.1 hd
    exact h (Choice.tag_inj htag ▸ hkind)

namespace SettingKind

variable {kind : SettingKind} {v w : Value}

/-- What is read is of the kind, and read from what a document writes for it. -/
theorem reading?_eq_some (h : kind.reading? v = some w) :
    kind.admits w = true ∧ kind.reading? w.written = some w ∧ w ≠ .null := by
  unfold reading? at h
  split at h
  · next minimum n =>
    split at h
    · next hmin =>
      cases h
      exact ⟨hmin, by simp [reading?, Value.written, hmin], by simp⟩
    · exact absurd h (by simp)
  · cases h
    exact ⟨rfl, rfl, by simp⟩
  · next kind c =>
    split at h
    · next hkind =>
      cases h
      subst hkind
      exact ⟨by simp [admits], by simp [reading?, Value.written, ChoiceKind.ofTag?_tag], by simp⟩
    · exact absurd h (by simp)
  · next kind tag =>
    obtain ⟨c, htag, rfl⟩ := Option.map_eq_some_iff.1 h
    obtain ⟨rfl, rfl⟩ := ChoiceKind.ofTag?_eq_some.1 htag
    exact ⟨by simp [admits], by simp [reading?, Value.written, ChoiceKind.ofTag?_tag], by simp⟩
  · exact absurd h (by simp)

end SettingKind

/-- The minimum of a setting is short, so only a long value leaves a refusal without words. -/
theorem Setting.isUnwritable_fault {s : Setting} {place : Place} {v : Value}
    (h : v.hasLongInteger = false) : (s.kind.fault place v).isUnwritable = false := by
  have hzero : Decimal.exceedsDigitLimit 0 = false :=
    Decimal.exceedsDigitLimit_of_lt (Nat.zero_le _) (by decide)
  unfold SettingKind.fault
  split
  -- no setting has another minimum than zero
  · next minimum n hkind =>
    obtain rfl : minimum = 0 := by
      cases s <;> simp_all [Setting.kind]
    rw [Value.hasLongInteger] at h
    rw [CheckFault.isUnwritable, hzero, h]
    rfl
  · exact h
  · exact h
  · split
    · exact h
    · exact h

/-! ## Settings of a source -/

theorem Setting.nodup_all : all.Nodup := by decide

namespace SettingSource

variable {source : SettingSource} {s : Setting}

/-- Where messages find a setting. -/
def placeOf (source : SettingSource) (s : Setting) : Place := ⟨source.scope, source.keyOf s, none⟩

/-- Whatever its kind, a setting is read by the one rule for its kind. -/
theorem get_eq (source : SettingSource) (s : Setting) :
    source.get s =
      match source.table.given? (source.keyOf s) with
      | none => .ok none
      | some v =>
        match s.kind.reading? v with
        | some w => .ok (some w)
        | none => .error (s.kind.fault (source.placeOf s) v) := by
  unfold get
  cases hkind : s.kind with
  | integer minimum =>
    simp only [checkInteger]
    cases source.table.given? (source.keyOf s) with
    | none => rfl
    | some v =>
      cases v with
      | int n =>
        cases minimum with
        | none => rfl
        | some m =>
          by_cases hlt : n < m
          · simp [hlt, SettingKind.reading?, SettingKind.fault, Except.map, placeOf, Int.not_le.2 hlt]
          · simp [hlt, SettingKind.reading?, Except.map, Int.not_lt.1 hlt]
      | _ => cases minimum <;> rfl
  | truth =>
    simp only [checkTruth]
    cases source.table.given? (source.keyOf s) with
    | none => rfl
    | some v => cases v <;> rfl
  | choice kind =>
    simp only [checkChoice]
    cases source.table.given? (source.keyOf s) with
    | none => rfl
    | some v =>
      cases v with
      | choice c =>
        simp only [Value.text?, ChoiceKind.ofTag?_tag_eq, SettingKind.reading?]
        by_cases hc : c.kind = kind
        · simp [hc, Except.map]
        · simp [hc, Except.map, SettingKind.fault, Value.isText, Value.text?, placeOf]
      | text tag =>
        cases htag : kind.ofTag? tag with
        | none =>
          simp [Value.text?, htag, SettingKind.reading?, SettingKind.fault, Value.isText, Except.map,
            placeOf]
        | some c => simp [Value.text?, htag, SettingKind.reading?, Except.map]
      | _ => rfl

theorem refusal?_eq_some {fault : CheckFault} :
    source.refusal? s = some fault ↔
      ∃ v, source.table.given? (source.keyOf s) = some v ∧ s.kind.reading? v = none ∧
        s.kind.fault (source.placeOf s) v = fault := by
  rw [refusal?, get_eq]
  cases source.table.given? (source.keyOf s) with
  | none => simp
  | some v => cases hread : s.kind.reading? v <;> simp [hread]

theorem refusal?_eq_none :
    source.refusal? s = none ↔
      ∀ v, source.table.given? (source.keyOf s) = some v → s.kind.reading? v ≠ none := by
  rw [refusal?, get_eq]
  cases source.table.given? (source.keyOf s) with
  | none => simp
  | some v => cases hread : s.kind.reading? v <;> simp [hread]

theorem accepted?_eq (source : SettingSource) (s : Setting) :
    source.accepted? s = (source.table.given? (source.keyOf s)).bind s.kind.reading? := by
  rw [accepted?, get_eq]
  cases source.table.given? (source.keyOf s) with
  | none => rfl
  | some v => cases hread : s.kind.reading? v <;> simp [hread]

/-- What is read is determined by what is given and by where messages find it. -/
theorem read_congr {source' : SettingSource}
    (hgiven : ∀ s, source.table.given? (source.keyOf s) = source'.table.given? (source'.keyOf s))
    (hplace : ∀ s, source.placeOf s = source'.placeOf s) : source.read = source'.read := by
  have hget : source.get = source'.get := by
    funext s
    rw [get_eq, get_eq, hgiven, hplace]
  have hrefusal : source.refusal? = source'.refusal? := by
    funext s
    rw [refusal?, refusal?, hget]
  have haccepted : source.accepted? = source'.accepted? := by
    funext s
    rw [accepted?, accepted?, hget]
  rw [read, read, hrefusal, haccepted]

theorem read_eq_ok {settings : PartialSettings} :
    source.read = .ok settings ↔
      (∀ s, source.refusal? s = none) ∧ settings = source.accepted? := by
  have hnone : Setting.all.findSome? source.refusal? = none ↔ ∀ s, source.refusal? s = none := by
    rw [List.findSome?_eq_none_iff]
    exact ⟨fun h s => h s s.mem_all, fun h s _ => h s⟩
  rw [← hnone, read]
  cases Setting.all.findSome? source.refusal? with
  | none =>
    constructor
    · intro h
      cases h
      exact ⟨rfl, rfl⟩
    · rintro ⟨-, rfl⟩
      rfl
  | some fault => simp

/-- Of several refusals, the one of the first setting refuses the source. -/
theorem read_eq_error {fault : CheckFault} :
    source.read = .error fault ↔
      ∃ s, source.refusal? s = some fault ∧ ∀ t, t.index < s.index → source.refusal? t = none := by
  have hsome : source.read = .error fault ↔
      Setting.all.findSome? source.refusal? = some fault := by
    rw [read]
    cases Setting.all.findSome? source.refusal? <;> simp
  have hnodup := Setting.nodup_all
  rw [hsome, List.findSome?_eq_some_iff]
  constructor
  · rintro ⟨before, s, after, hall, hfault, hbefore⟩
    refine ⟨s, hfault, fun t ht => hbefore t ?_⟩
    -- a setting with a smaller index stands in the part before
    have hs : s ∉ before := by
      intro hmem
      rw [hbefore s hmem] at hfault
      exact absurd hfault (by simp)
    rw [Setting.index, Setting.index, hall, List.idxOf_append_of_notMem hs,
      List.idxOf_cons_self] at ht
    by_contra hmem
    rw [List.idxOf_append_of_notMem hmem] at ht
    omega
  · rintro ⟨s, hfault, hbefore⟩
    -- conversely, the part before a setting holds smaller indices alone
    obtain ⟨before, after, hall⟩ := List.append_of_mem s.mem_all
    refine ⟨before, s, after, hall, hfault, fun t ht => hbefore t ?_⟩
    rw [hall] at hnodup
    have hs : s ∉ before := fun hmem =>
      (List.nodup_append.1 hnodup).2.2 s hmem s List.mem_cons_self rfl
    rw [Setting.index, Setting.index, hall, List.idxOf_append_of_mem ht,
      List.idxOf_append_of_notMem hs]
    exact Nat.lt_of_lt_of_le (List.idxOf_lt_length_of_mem ht) (Nat.le_add_right _ _)

end SettingSource

/-! ## First refusals -/

/-- A setting that is given a value it does not take, while those before it in their order are not. -/
structure FirstRefused (given? : Setting → Option Value) (s : Setting) (v : Value) : Prop where
  given : given? s = some v
  refused : s.kind.reading? v = none
  before : ∀ t, t.index < s.index → ∀ w, given? t = some w → t.kind.reading? w ≠ none

namespace SettingSource

variable {source : SettingSource} {given? : Setting → Option Value}

/-- What is read is what stands for the values that are given, if each of them is taken. -/
theorem read_eq_ok_of_given (hgiven : ∀ s, source.table.given? (source.keyOf s) = given? s)
    {p : PartialSettings} :
    source.read = .ok p ↔
      (∀ s v, given? s = some v → s.kind.reading? v ≠ none) ∧
        p = fun s : Setting => (given? s).bind s.kind.reading? := by
  have haccepted : source.accepted? = fun s : Setting => (given? s).bind s.kind.reading? := by
    funext s
    rw [accepted?_eq, hgiven]
  simp only [read_eq_ok, refusal?_eq_none, hgiven, haccepted]

/-- Which setting is refused depends on the values alone, and only the message on the source. -/
theorem read_eq_error_of_given (hgiven : ∀ s, source.table.given? (source.keyOf s) = given? s)
    {fault : CheckFault} :
    source.read = .error fault ↔
      ∃ s v, FirstRefused given? s v ∧ s.kind.fault (source.placeOf s) v = fault := by
  simp only [read_eq_error, refusal?_eq_some, refusal?_eq_none, hgiven]
  constructor
  · rintro ⟨s, ⟨v, hv, hrefused, hfault⟩, hbefore⟩
    exact ⟨s, v, ⟨hv, hrefused, hbefore⟩, hfault⟩
  · rintro ⟨s, v, ⟨hv, hrefused, hbefore⟩, hfault⟩
    exact ⟨s, ⟨v, hv, hrefused, hfault⟩, hbefore⟩

end SettingSource

/-! ## Readers -/

theorem settle_eq_ok {α : Type} {check : Except CheckFault α} {a : α} :
    (settle check).outcome = .ok a ↔ check = .ok a := by
  cases check with
  | ok b =>
    show Except.ok b = .ok a ↔ _
    simp
  | error fault =>
    show fault.raise.outcome = .ok a ↔ _
    rw [CheckFault.raise]
    split <;> simp

/-- A refusal that can be worded is what the checks end in. -/
theorem outcome_settle_error {α : Type} {fault : CheckFault} (h : fault.isUnwritable = false) :
    (settle (.error fault : Except CheckFault α)).outcome =
      .error (.refused (.of (.check fault))) := by
  show fault.raise.outcome = _
  rw [CheckFault.raise, h]
  rfl

theorem PartialSettings.ofDocument_eq_ok {table : Mapping} {scope : String} {p : PartialSettings} :
    (ofDocument table scope).outcome = .ok p ↔
      (SettingSource.ofDocument table scope).read = .ok p :=
  settle_eq_ok

theorem PartialSettings.ofArguments_eq_ok {table : Mapping} {p : PartialSettings} :
    (ofArguments table).outcome = .ok p ↔ (SettingSource.ofArguments table).read = .ok p := by
  rw [ofArguments, Logged.outcome_bind, bind_eq_ok]
  simp only [settle_eq_ok, Logged.outcome_bind, PartialSettings.outcome_note, Logged.outcome_pure,
    ok_bind, Except.ok.injEq, exists_eq_right]

end FormatterConfig
