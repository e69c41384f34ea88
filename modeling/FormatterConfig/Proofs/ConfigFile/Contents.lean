import FormatterConfig.ConfigFile
import FormatterConfig.Proofs.First
import FormatterConfig.Proofs.Fixity.Reading
import FormatterConfig.Proofs.Settings.Reading

set_option autoImplicit false

/-! # What a document says

The contents of a document are its settings and then its declarations, and reading stops at the
first fault. `FirstFault` says which fault that is: a setting before a fixity, a setting before
those behind it in the order of the settings, an item that is no text before every declaration that
cannot be read, and among items the first. A document is read exactly if it has no first fault, and
fails with it otherwise. Notes never matter for that. -/

namespace FormatterConfig.ConfigFile

/-! ## Faults -/

/-- Why the contents of a document are not read: a value is refused, or a declaration is. -/
inductive ContentFault where
  | check (fault : CheckFault)
  | declaration (text : String) (fault : Declaration.Failure)

/-- What a fault ends in. Most faults refuse the document; a number of too many digits, in a
precedence or in a message, breaks the reading off. -/
def ContentFault.failure : ContentFault → Failure
  | .check fault =>
    if fault.isUnwritable then .broken (.conversion .longInteger) else .refused (.of (.check fault))
  | .declaration text (.malformed stop) => .refused (.of (.declaration (stop.report text)))
  | .declaration _ (.tooManyDigits count) => .broken (.conversion (.tooManyDigits count))

/-- The text of a declaration in a list of texts. -/
def declarationText (declaration : Value) : String := declaration.text?.getD ""

/-- Whether a setting is not given, or given a value that it takes. -/
def Settled (table : Mapping) (s : Setting) : Prop :=
  ∀ v, table.given? s.key = some v → s.kind.reading? v ≠ none

/-- The settings that a document gives, by the one rule for each kind. -/
def givenSettings (table : Mapping) : PartialSettings := fun s : Setting =>
  (table.given? s.key).bind s.kind.reading?

/-- Whether a declaration can be read. -/
def Readable (declaration : Value) : Prop :=
  ∃ pairs, Declaration.parse (declarationText declaration) = .ok pairs

/-- A fault of a document, with no other one before it. -/
inductive FirstFault (table : Mapping) : ContentFault → Prop
  /-- A setting whose value is refused. -/
  | setting {s : Setting} {v : Value} (given : table.given? s.key = some v)
      (refused : s.kind.reading? v = none) (before : ∀ t, t.index < s.index → Settled table t) :
      FirstFault table (.check (s.kind.fault ⟨"", s.key, none⟩ v))
  /-- Declarations that are no list. -/
  | notList {v : Value} (settings : ∀ s, Settled table s)
      (given : table.given? fixitiesKey = some v) (noList : v.list? = none) :
      FirstFault table (.check (.wrongKind .list ⟨"", fixitiesKey, none⟩ v))
  /-- An item that is no text, behind texts alone. -/
  | notText {v item : Value} {before after : List Value} (settings : ∀ s, Settled table s)
      (given : table.given? fixitiesKey = some v)
      (items : v.list? = some (before ++ item :: after))
      (texts : ∀ d ∈ before, d.isText = true) (noText : item.isText = false) :
      FirstFault table (.check (.wrongKind .text ⟨"", fixitiesKey, some before.length⟩ item))
  /-- A declaration among texts that cannot be read, behind declarations that can. -/
  | declaration {v declaration : Value} {before after : List Value} {fault : Declaration.Failure}
      (settings : ∀ s, Settled table s) (given : table.given? fixitiesKey = some v)
      (items : v.list? = some (before ++ declaration :: after))
      (texts : ∀ d ∈ before ++ declaration :: after, d.isText = true)
      (readable : ∀ d ∈ before, Readable d)
      (unreadable : Declaration.parse (declarationText declaration) = .error fault) :
      FirstFault table (.declaration (declarationText declaration) fault)

/-! ## Checks -/

theorem outcome_settle {α : Type} (check : Except CheckFault α) :
    (settle check).outcome = check.mapError fun fault => (ContentFault.check fault).failure := by
  cases check with
  | ok a => rfl
  | error fault =>
    show fault.raise.outcome = .error (if fault.isUnwritable then _ else _)
    rw [CheckFault.raise]
    split <;> rfl

theorem firstNonText?_eq_none {index : Nat} {items : List Value} :
    firstNonText? index items = none ↔ ∀ d ∈ items, d.isText = true := by
  induction items generalizing index with
  | nil => simp [firstNonText?]
  | cons d rest ih =>
    rw [firstNonText?]
    by_cases hd : d.isText = true
    · simp [hd, ih]
    · simp [hd]

/-- Texts are passed over. -/
theorem firstNonText?_append {before : List Value} (h : ∀ d ∈ before, d.isText = true)
    (index : Nat) (rest : List Value) :
    firstNonText? index (before ++ rest) = firstNonText? (index + before.length) rest := by
  induction before generalizing index with
  | nil => rfl
  | cons d before ih =>
    obtain ⟨hd, hbefore⟩ := List.forall_mem_cons.1 h
    rw [List.cons_append, firstNonText?, if_pos hd, ih hbefore, List.length_cons]
    congr 1
    omega

theorem firstNonText?_eq_some {index i : Nat} {items : List Value} {item : Value} :
    firstNonText? index items = some (i, item) ↔
      ∃ before after, items = before ++ item :: after ∧ i = index + before.length ∧
        (∀ d ∈ before, d.isText = true) ∧ item.isText = false := by
  constructor
  · intro h
    rcases exists_first (fun d : Value => d.isText = true) items with
      hall | ⟨before, d, after, rfl, hbefore, hd⟩
    · rw [firstNonText?_eq_none.2 hall] at h
      exact absurd h (by simp)
    · rw [firstNonText?_append hbefore, firstNonText?, if_neg hd] at h
      cases h
      exact ⟨before, after, rfl, rfl, hbefore, by simpa using hd⟩
  · rintro ⟨before, after, rfl, rfl, hbefore, hitem⟩
    rw [firstNonText?_append hbefore, firstNonText?, hitem]
    rfl

theorem checkTexts_eq_ok {table : Mapping} {place : Place} {texts : List Value} :
    checkTexts table place = .ok texts ↔
      (table.given? place.key = none ∧ texts = []) ∨
        ∃ v, table.given? place.key = some v ∧ v.list? = some texts ∧
          ∀ d ∈ texts, d.isText = true := by
  unfold checkTexts
  cases table.given? place.key with
  | none => simp [@eq_comm _ [] texts]
  | some v =>
    cases hlist : v.list? with
    | none => simp [hlist]
    | some items =>
      cases hfirst : firstNonText? 0 items with
      | none =>
        have htexts := firstNonText?_eq_none.1 hfirst
        simp only [hlist, hfirst, Except.ok.injEq, Option.some.injEq, reduceCtorEq, false_and,
          false_or, exists_eq_left']
        constructor
        · rintro rfl
          exact ⟨rfl, htexts⟩
        · exact fun h => h.1
      | some found =>
        obtain ⟨i, item⟩ := found
        obtain ⟨before, after, rfl, -, -, hitem⟩ := firstNonText?_eq_some.1 hfirst
        simp only [hlist, hfirst, reduceCtorEq, Option.some.injEq, false_and, false_or,
          exists_eq_left', false_iff]
        rintro ⟨rfl, htexts⟩
        rw [htexts item (by simp)] at hitem
        exact absurd hitem (by simp)

theorem checkTexts_eq_error {table : Mapping} {place : Place} {fault : CheckFault} :
    checkTexts table place = .error fault ↔
      ∃ v, table.given? place.key = some v ∧
        ((v.list? = none ∧ .wrongKind .list place v = fault) ∨
          ∃ before item after, v.list? = some (before ++ item :: after) ∧
            (∀ d ∈ before, d.isText = true) ∧ item.isText = false ∧
            .wrongKind .text { place with item := some before.length } item = fault) := by
  unfold checkTexts
  cases table.given? place.key with
  | none => simp
  | some v =>
    cases hlist : v.list? with
    | none => simp [hlist]
    | some items =>
      cases hfirst : firstNonText? 0 items with
      | none =>
        have htexts := firstNonText?_eq_none.1 hfirst
        simp only [hlist, hfirst, reduceCtorEq, Option.some.injEq, exists_eq_left', false_and,
          false_or, false_iff]
        rintro ⟨before, item, after, rfl, -, hitem, -⟩
        rw [htexts item (by simp)] at hitem
        exact absurd hitem (by simp)
      | some found =>
        obtain ⟨i, item⟩ := found
        simp only [hlist, hfirst, Except.error.injEq, Option.some.injEq, exists_eq_left',
          reduceCtorEq, false_and, false_or]
        constructor
        · rintro rfl
          obtain ⟨before, after, rfl, rfl, htexts, hitem⟩ := firstNonText?_eq_some.1 hfirst
          exact ⟨before, item, after, rfl, htexts, hitem, by simp⟩
        · rintro ⟨before, item', after, rfl, htexts, hitem, rfl⟩
          rw [firstNonText?_eq_some.2 ⟨before, after, rfl, rfl, htexts, hitem⟩] at hfirst
          cases hfirst
          simp

/-! ## Declarations -/

theorem outcome_declareAll_cons (table : FixityTable) (d : Value) (rest : List Value) :
    (declareAll table (d :: rest)).outcome =
      match Declaration.parse (declarationText d) with
      | .ok pairs => (declareAll (table.insertAll pairs) rest).outcome
      | .error fault => .error (ContentFault.declaration (declarationText d) fault).failure := by
  rw [declareAll, Logged.outcome_bind, Logged.outcome_orElse, Declaration.outcome_parseLogged]
  rw [← declarationText]
  cases Declaration.parse (declarationText d) with
  | ok pairs => rw [ok_bind, Logged.outcome_bind, outcome_declare, ok_bind]
  | error fault => cases fault <;> rfl

/-- Declarations that can all be read end up in the table one after the other. -/
theorem outcome_declareAll_eq_ok {table t : FixityTable} {declarations : List Value} :
    (declareAll table declarations).outcome = .ok t ↔
      ∃ entries : List (List (String × Fixity)),
        List.Forall₂ (fun d pairs => Declaration.parse (declarationText d) = .ok pairs)
            declarations entries ∧
          t = table.insertAll entries.flatten := by
  induction declarations generalizing table with
  | nil =>
    constructor
    · intro h
      cases h
      exact ⟨[], .nil, rfl⟩
    · rintro ⟨entries, hentries, rfl⟩
      cases hentries
      rfl
  | cons d rest ih =>
    rw [outcome_declareAll_cons]
    cases hparse : Declaration.parse (declarationText d) with
    | ok pairs =>
      dsimp only
      rw [ih]
      constructor
      · rintro ⟨entries, hentries, rfl⟩
        exact ⟨pairs :: entries, .cons hparse hentries,
          by simp [FixityTable.insertAll, List.foldl_append]⟩
      · rintro ⟨entries, hentries, rfl⟩
        cases hentries with
        | cons hhead htail =>
          rw [hparse] at hhead
          cases hhead
          exact ⟨_, htail, by simp [FixityTable.insertAll, List.foldl_append]⟩
    | error fault =>
      simp only [reduceCtorEq, false_iff]
      rintro ⟨entries, hentries, -⟩
      cases hentries with
      | cons hhead htail =>
        rw [hparse] at hhead
        exact absurd hhead (by simp)

/-- Declarations that can be read are passed over. -/
theorem outcome_declareAll_append {before : List Value} (h : ∀ d ∈ before, Readable d)
    (table : FixityTable) (rest : List Value) :
    ∃ table', (declareAll table (before ++ rest)).outcome = (declareAll table' rest).outcome := by
  induction before generalizing table with
  | nil => exact ⟨table, rfl⟩
  | cons d before ih =>
    obtain ⟨⟨pairs, hpairs⟩, hbefore⟩ := List.forall_mem_cons.1 h
    rw [List.cons_append, outcome_declareAll_cons, hpairs]
    exact ih hbefore _

/-- The first declaration that cannot be read decides what the reading ends in. -/
theorem outcome_declareAll_eq_error {table : FixityTable} {declarations : List Value}
    {failure : Failure} :
    (declareAll table declarations).outcome = .error failure ↔
      ∃ before d after fault, declarations = before ++ d :: after ∧ (∀ e ∈ before, Readable e) ∧
        Declaration.parse (declarationText d) = .error fault ∧
        (ContentFault.declaration (declarationText d) fault).failure = failure := by
  constructor
  · intro h
    rcases exists_first Readable declarations with hall | ⟨before, d, after, rfl, hbefore, hd⟩
    · obtain ⟨table', heq⟩ := outcome_declareAll_append hall table []
      rw [List.append_nil, h] at heq
      exact absurd heq (by simp [declareAll])
    · obtain ⟨table', heq⟩ := outcome_declareAll_append hbefore table (d :: after)
      rw [h, outcome_declareAll_cons] at heq
      cases hparse : Declaration.parse (declarationText d) with
      | ok pairs => exact absurd ⟨pairs, hparse⟩ hd
      | error fault =>
        rw [hparse] at heq
        exact ⟨before, d, after, fault, rfl, hbefore, hparse, (Except.error.inj heq).symm⟩
  · rintro ⟨before, d, after, fault, rfl, hbefore, hparse, rfl⟩
    obtain ⟨table', heq⟩ := outcome_declareAll_append hbefore table (d :: after)
    rw [heq, outcome_declareAll_cons, hparse]

/-! ## The whole document -/

/-- The texts that a document has for declarations: none, or the items of a list of texts. -/
def Declares (table : Mapping) (texts : List Value) : Prop :=
  (table.given? fixitiesKey = none ∧ texts = []) ∨
    ∃ v, table.given? fixitiesKey = some v ∧ v.list? = some texts ∧ ∀ d ∈ texts, d.isText = true

/-- Notes aside, settings are read first, then the texts of the declarations, then these. -/
theorem outcome_ofMapping (table : Mapping) :
    (ofMapping table).outcome =
      (settle (SettingSource.ofDocument table "").read).outcome >>= fun settings =>
        (settle (checkTexts table ⟨"", fixitiesKey, none⟩)).outcome >>= fun texts =>
          (declareAll [] texts).outcome >>= fun fixities => .ok ⟨settings, fixities⟩ := by
  rw [ofMapping, Logged.outcome_bind, outcome_noteUnknownKeys, ok_bind, Logged.outcome_bind]
  simp only [Logged.outcome_bind, Logged.outcome_pure, readFixities, PartialSettings.ofDocument]

theorem settle_eq_error {α : Type} {check : Except CheckFault α} {failure : Failure} :
    (settle check).outcome = .error failure ↔
      ∃ fault, check = .error fault ∧ (ContentFault.check fault).failure = failure := by
  rw [outcome_settle, mapError_eq_error]

theorem read_ofDocument_eq_ok {table : Mapping} {settings : PartialSettings} :
    (SettingSource.ofDocument table "").read = .ok settings ↔
      (∀ s, Settled table s) ∧ settings = givenSettings table :=
  SettingSource.read_eq_ok_of_given fun _ => rfl

theorem read_ofDocument_eq_error {table : Mapping} {fault : CheckFault} :
    (SettingSource.ofDocument table "").read = .error fault ↔
      ∃ (s : Setting) (v : Value), table.given? s.key = some v ∧ s.kind.reading? v = none ∧
        (∀ t, t.index < s.index → Settled table t) ∧
        s.kind.fault ⟨"", s.key, none⟩ v = fault := by
  rw [SettingSource.read_eq_error_of_given fun _ => rfl]
  constructor
  · rintro ⟨s, v, ⟨hgiven, hrefused, hbefore⟩, hfault⟩
    exact ⟨s, v, hgiven, hrefused, hbefore, hfault⟩
  · rintro ⟨s, v, hgiven, hrefused, hbefore, hfault⟩
    exact ⟨s, v, ⟨hgiven, hrefused, hbefore⟩, hfault⟩

/-- What is read of a document without faults. -/
theorem outcome_ofMapping_eq_ok {table : Mapping} {c : ConfigFile} :
    (ofMapping table).outcome = .ok c ↔
      (∀ s, Settled table s) ∧ c.settings = givenSettings table ∧
        ∃ texts entries, Declares table texts ∧
          List.Forall₂ (fun d pairs => Declaration.parse (declarationText d) = .ok pairs)
            texts entries ∧
          c.fixities = FixityTable.insertAll [] entries.flatten := by
  obtain ⟨settings, fixities⟩ := c
  rw [outcome_ofMapping, bind_eq_ok]
  simp only [bind_eq_ok, settle_eq_ok, read_ofDocument_eq_ok, checkTexts_eq_ok,
    outcome_declareAll_eq_ok]
  constructor
  · rintro ⟨settings', ⟨hsettled, rfl⟩, texts, htexts, fixities', ⟨entries, hentries, rfl⟩, hc⟩
    cases hc
    exact ⟨hsettled, rfl, texts, entries, htexts, hentries, rfl⟩
  · rintro ⟨hsettled, hsettings, texts, entries, htexts, hentries, hfixities⟩
    exact ⟨settings, ⟨hsettled, hsettings⟩, texts, htexts, fixities, ⟨entries, hentries, hfixities⟩,
      rfl⟩

/-- What the reading of a document with faults ends in: the first of them. -/
theorem outcome_ofMapping_eq_error {table : Mapping} {failure : Failure} :
    (ofMapping table).outcome = .error failure ↔
      ∃ fault, FirstFault table fault ∧ fault.failure = failure := by
  rw [outcome_ofMapping, bind_eq_error]
  constructor
  -- a part that fails comes behind parts that succeed, which is what makes its fault the first
  · rintro (h | ⟨settings, hsettings, h⟩)
    · obtain ⟨fault, hread, rfl⟩ := settle_eq_error.1 h
      obtain ⟨s, v, hgiven, hrefused, hbefore, rfl⟩ := read_ofDocument_eq_error.1 hread
      exact ⟨_, .setting hgiven hrefused hbefore, rfl⟩
    · obtain ⟨hsettled, -⟩ := read_ofDocument_eq_ok.1 (settle_eq_ok.1 hsettings)
      rcases bind_eq_error.1 h with h | ⟨texts, htexts, h⟩
      · obtain ⟨fault, hcheck, rfl⟩ := settle_eq_error.1 h
        obtain ⟨v, hgiven, ⟨hlist, rfl⟩ | ⟨before, item, after, hlist, hbefore, hitem, rfl⟩⟩ :=
          checkTexts_eq_error.1 hcheck
        · exact ⟨_, .notList hsettled hgiven hlist, rfl⟩
        · exact ⟨_, .notText hsettled hgiven hlist hbefore hitem, rfl⟩
      · rcases bind_eq_error.1 h with h | ⟨fixities, -, h⟩
        · obtain ⟨before, d, after, fault, rfl, hbefore, hparse, rfl⟩ :=
            outcome_declareAll_eq_error.1 h
          rcases checkTexts_eq_ok.1 (settle_eq_ok.1 htexts) with ⟨-, hnil⟩ | ⟨v, hgiven, hlist, hall⟩
          -- without a list there is no declaration to fail
          · exact absurd hnil (by simp)
          · exact ⟨_, .declaration hsettled hgiven hlist hall hbefore hparse, rfl⟩
        · exact absurd h (by simp)
  · rintro ⟨fault, hfirst, rfl⟩
    cases hfirst with
    | setting given refused before =>
      exact .inl (settle_eq_error.2
        ⟨_, read_ofDocument_eq_error.2 ⟨_, _, given, refused, before, rfl⟩, rfl⟩)
    | notList settings given noList =>
      refine .inr ⟨_, settle_eq_ok.2 (read_ofDocument_eq_ok.2 ⟨settings, rfl⟩), ?_⟩
      exact bind_eq_error.2 (.inl (settle_eq_error.2
        ⟨_, checkTexts_eq_error.2 ⟨_, given, .inl ⟨noList, rfl⟩⟩, rfl⟩))
    | notText settings given items texts noText =>
      refine .inr ⟨_, settle_eq_ok.2 (read_ofDocument_eq_ok.2 ⟨settings, rfl⟩), ?_⟩
      exact bind_eq_error.2 (.inl (settle_eq_error.2 ⟨_, checkTexts_eq_error.2
        ⟨_, given, .inr ⟨_, _, _, items, texts, noText, rfl⟩⟩, rfl⟩))
    | declaration settings given items texts readable unreadable =>
      refine .inr ⟨_, settle_eq_ok.2 (read_ofDocument_eq_ok.2 ⟨settings, rfl⟩), ?_⟩
      refine bind_eq_error.2 (.inr ⟨_, settle_eq_ok.2 (checkTexts_eq_ok.2
        (.inr ⟨_, given, items, texts⟩)), ?_⟩)
      exact bind_eq_error.2 (.inl (outcome_declareAll_eq_error.2
        ⟨_, _, _, _, rfl, readable, unreadable, rfl⟩))

end FormatterConfig.ConfigFile
