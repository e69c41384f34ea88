import FormatterConfig.Proofs.First
import FormatterConfig.Proofs.Project.Classifiers
import Mathlib.Data.List.Sort

set_option autoImplicit false

/-! # Which versions are supported

The versions that the classifiers name are listed in ascending order, each once, and the running
version alone where none is named. So the list depends on the named versions and on nothing else:
neither on the order of the classifiers nor on how often one stands there
(`supportedVersions_listed`). Whatever the metadata hold, there is such a list, unless the reading
breaks off at a classifier; exactly the first one at which it does decides
(`supportedVersions_breaks_iff`). -/

namespace FormatterConfig.Project

namespace Version

/-! ## Ascending versions -/

/-- Versions in ascending order: by the major number, and by the minor number where it is the same. -/
def Ascending (versions : List Version) : Prop :=
  versions.Pairwise fun v w => v.major < w.major ∨ v.major = w.major ∧ v.minor < w.minor

theorem before_iff {v w : Version} :
    v.before w = true ↔ v.major < w.major ∨ v.major = w.major ∧ v.minor < w.minor := by
  simp [before]

theorem ascending_iff {versions : List Version} :
    Ascending versions ↔ versions.Pairwise fun v w => v.before w = true := by
  simp only [Ascending, before_iff]

theorem not_before_self (v : Version) : ¬ v.before v = true := by
  rw [before_iff]
  omega

theorem before_asymm {v w : Version} (h : v.before w = true) : ¬ w.before v = true := by
  rw [before_iff] at h ⊢
  omega

theorem before_trans {u v w : Version} (huv : u.before v = true) (hvw : v.before w = true) :
    u.before w = true := by
  rw [before_iff] at huv hvw ⊢
  omega

theorem before_of_ne {v w : Version} (h : ¬ v.before w = true) (hne : v ≠ w) : w.before v = true := by
  rw [before_iff] at h ⊢
  by_contra hnot
  have hmajor : v.major = w.major := by omega
  have hminor : v.minor = w.minor := by omega
  obtain ⟨x, y⟩ := v
  obtain ⟨x', y'⟩ := w
  obtain rfl : x = x' := hmajor
  obtain rfl : y = y' := hminor
  exact hne rfl

theorem mem_insert {u v : Version} {versions : List Version} :
    u ∈ v.insert versions ↔ u = v ∨ u ∈ versions := by
  induction versions with
  | nil => simp [insert]
  | cons w rest ih =>
    rw [insert]
    by_cases hbefore : v.before w = true
    · simp [hbefore]
    · rw [if_neg hbefore]
      by_cases heq : v = w
      · simp [heq]
      · simp [heq, ih, or_left_comm]

/-- A version is put where those before it end. -/
theorem ascending_insert {v : Version} {versions : List Version} (h : Ascending versions) :
    Ascending (v.insert versions) := by
  rw [ascending_iff] at h ⊢
  induction versions with
  | nil => simp [insert]
  | cons w rest ih =>
    obtain ⟨hw, hrest⟩ := List.pairwise_cons.1 h
    rw [insert]
    by_cases hbefore : v.before w = true
    · rw [if_pos hbefore, List.pairwise_cons]
      refine ⟨?_, h⟩
      intro u hu
      rcases List.mem_cons.1 hu with rfl | hu
      · exact hbefore
      · exact before_trans hbefore (hw u hu)
    · rw [if_neg hbefore]
      by_cases heq : v = w
      · rw [if_pos heq]
        exact h
      · rw [if_neg heq, List.pairwise_cons]
        refine ⟨?_, ih hrest⟩
        intro u hu
        rcases mem_insert.1 hu with rfl | hu
        · exact before_of_ne hbefore heq
        · exact hw u hu

/-- Inserted one by one, versions are in ascending order, and none is lost. -/
theorem ascending_foldr_insert (versions : List Version) :
    Ascending (versions.foldr insert []) ∧ ∀ v, v ∈ versions.foldr insert [] ↔ v ∈ versions := by
  induction versions with
  | nil => exact ⟨List.Pairwise.nil, fun v => Iff.rfl⟩
  | cons w rest ih =>
    refine ⟨ascending_insert ih.1, ?_⟩
    intro v
    rw [List.foldr_cons, mem_insert, ih.2, List.mem_cons]

/-- Ascending lists of the same versions are equal. -/
theorem Ascending.eq_of_mem_iff {versions versions' : List Version} (h : Ascending versions)
    (h' : Ascending versions') (hmem : ∀ v, v ∈ versions ↔ v ∈ versions') : versions = versions' := by
  rw [ascending_iff] at h h'
  have : Std.Irrefl fun v w : Version => v.before w = true := ⟨not_before_self⟩
  have : Std.Antisymm fun v w : Version => v.before w = true :=
    ⟨fun v w hvw hwv => absurd hwv (before_asymm hvw)⟩
  exact List.Pairwise.eq_of_mem_iff h h' hmem

theorem Ascending.nodup {versions : List Version} (h : Ascending versions) : versions.Nodup := by
  rw [ascending_iff] at h
  refine List.Pairwise.imp ?_ h
  rintro v w hvw rfl
  exact not_before_self v hvw

theorem toString_nat_inj {m n : Nat} (h : toString m = toString n) : m = n := by
  rw [Nat.toString_eq_ofList_toDigits, Nat.toString_eq_ofList_toDigits] at h
  have hdigits : Nat.toDigits 10 m = Nat.toDigits 10 n := by
    simpa using congrArg String.toList h
  have hvalue := congrArg (Nat.ofDigitChars 10 · 0) hdigits
  simpa only [Nat.ofDigitChars_ten_toDigits] using hvalue

/-- Different versions have different texts. -/
theorem text_inj {x y x' y' : Nat} (h : (⟨x, y⟩ : Version).text = (⟨x', y'⟩ : Version).text) :
    x = x' ∧ y = y' := by
  have hcut : ∀ x y : Nat, Text.cutAt '.' (⟨x, y⟩ : Version).text.toList =
      [(toString x).toList, (toString y).toList] := by
    intro x y
    rw [Text.cutAt_eq_pair]
    refine ⟨?_, Text.notMem_toString_nat rfl x, Text.notMem_toString_nat rfl y⟩
    show (toString x ++ "." ++ toString y).toList = _
    simp
  have hparts := congrArg (fun s => Text.cutAt '.' s.toList) h
  simp only [hcut, List.cons.injEq, String.toList_inj, and_true] at hparts
  exact ⟨toString_nat_inj hparts.1, toString_nat_inj hparts.2⟩

end Version

open Version (Ascending)

/-! ## Reading the classifiers -/

/-- The reading of some classifiers breaks off at none of them. -/
def Sound (classifiers : List Value) : Prop := ∀ c ∈ classifiers, ∀ fault, ¬ Breaks c fault

/-- A version is named by one of some classifiers. -/
def Named (classifiers : List Value) (v : Version) : Prop :=
  ∃ s, .text s ∈ classifiers ∧ Names s.toList v

theorem readClassifiers_eq_error {classifiers : List Value} {fault : ClassifierFault} :
    readClassifiers classifiers = .error fault ↔
      ∃ before c after, classifiers = before ++ c :: after ∧ Sound before ∧ Breaks c fault := by
  have hread : readClassifiers classifiers = .error fault ↔
      classifiers.mapM readClassifier = .error fault := by
    rw [readClassifiers, bind_eq_error]
    simp [pure, Except.pure]
  have hok : ∀ c, (∃ r, readClassifier c = .ok r) ↔ ∀ fault, ¬ Breaks c fault := by
    intro c
    simp only [← readClassifier_eq_error]
    cases readClassifier c <;> simp
  simp only [hread, mapM_eq_error, hok, readClassifier_eq_error, Sound]

/-- Sound classifiers are read as the versions that they name, in ascending order. -/
theorem readClassifiers_of_sound {classifiers : List Value} (h : Sound classifiers) :
    ∃ versions, readClassifiers classifiers = .ok versions ∧ Ascending versions ∧
      ∀ v, v ∈ versions ↔ Named classifiers v := by
  cases hread : classifiers.mapM readClassifier with
  | error fault =>
    obtain ⟨before, c, after, rfl, -, hbreaks⟩ := mapM_eq_error.1 hread
    exact absurd (readClassifier_eq_error.1 hbreaks) (h c (by simp) fault)
  | ok found =>
    obtain ⟨hascending, hmem⟩ := Version.ascending_foldr_insert (found.filterMap id)
    refine ⟨(found.filterMap id).foldr Version.insert [], ?_, hascending, ?_⟩
    · rw [readClassifiers, hread]
      rfl
    · intro v
      calc v ∈ (found.filterMap id).foldr Version.insert []
          ↔ some v ∈ found := by rw [hmem]; simp
        _ ↔ ∃ c ∈ classifiers, readClassifier c = .ok (some v) := mem_of_mapM_eq_ok hread _
        _ ↔ ∃ c ∈ classifiers, ∃ s, c = .text s ∧ Names s.toList v := by
          constructor
          · rintro ⟨c, hc, hsome⟩
            exact ⟨c, hc, (readClassifier_eq_some (h c hc)).1 hsome⟩
          · rintro ⟨c, hc, hnames⟩
            exact ⟨c, hc, (readClassifier_eq_some (h c hc)).2 hnames⟩
        _ ↔ Named classifiers v := by
          constructor
          · rintro ⟨_, hc, s, rfl, hnames⟩
            exact ⟨s, hc, hnames⟩
          · rintro ⟨s, hc, hnames⟩
            exact ⟨_, hc, s, rfl, hnames⟩

/-! ## The supported versions -/

/-- The list for some named versions: their texts in ascending order, or the running version alone. -/
def IsListing (running : String) (classifiers : List Value) (listed : List String) : Prop :=
  ∃ versions, Ascending versions ∧ (∀ v, v ∈ versions ↔ Named classifiers v) ∧
    listed = if versions = [] then [running] else versions.map Version.text

theorem IsListing.ne_nil {running : String} {classifiers : List Value} {listed : List String}
    (h : IsListing running classifiers listed) : listed ≠ [] := by
  obtain ⟨versions, -, -, rfl⟩ := h
  by_cases hempty : versions = []
  · simp [hempty]
  · simp [hempty]

/-- The classifiers in some metadata, none if there is no list of them. -/
def classifiersOf (metadata : Mapping) : List Value := (classifiers? metadata).getD []

/-- Sound classifiers give a list, which is a guess if there are no classifiers. -/
theorem supportedVersions_of_sound (running : String) {metadata : Mapping}
    (hsound : Sound (classifiersOf metadata)) :
    ∃ listed, supportedVersions running metadata =
        .ok ⟨listed, (classifiers? metadata).isNone⟩ ∧
      IsListing running (classifiersOf metadata) listed := by
  obtain ⟨versions, hread, hascending, hmem⟩ := readClassifiers_of_sound hsound
  refine ⟨if versions = [] then [running] else versions.map Version.text, ?_,
    versions, hascending, hmem, rfl⟩
  unfold supportedVersions
  unfold classifiersOf at hread
  cases hclassifiers : classifiers? metadata with
  | none =>
    rw [hclassifiers] at hread
    obtain rfl : [] = versions := Except.ok.inj hread
    rfl
  | some classifiers =>
    rw [hclassifiers] at hread
    dsimp only
    rw [show readClassifiers classifiers = .ok versions from hread]
    cases versions <;> rfl

/-- There is no list exactly if the reading of the classifiers breaks off. -/
theorem supportedVersions_eq_error {running : String} {metadata : Mapping}
    {fault : ClassifierFault} :
    supportedVersions running metadata = .error fault ↔
      ∃ before c after, classifiersOf metadata = before ++ c :: after ∧ Sound before ∧
        Breaks c fault := by
  rw [← readClassifiers_eq_error]
  unfold supportedVersions classifiersOf
  cases classifiers? metadata with
  | none =>
    constructor
    · intro h
      exact nomatch h
    · intro h
      exact nomatch (h : (Except.ok [] : Except ClassifierFault (List Version)) = .error fault)
  | some classifiers =>
    dsimp only [Option.getD_some]
    cases readClassifiers classifiers with
    | error fault' => simp
    | ok versions => cases versions <;> simp

/-- Classifiers are sound, or the reading breaks off at a first one. -/
theorem sound_or_breaks (classifiers : List Value) :
    Sound classifiers ∨ ∃ before c after fault,
      classifiers = before ++ c :: after ∧ Sound before ∧ Breaks c fault := by
  rcases exists_first (fun c => ∀ fault, ¬ Breaks c fault) classifiers with
    hsound | ⟨before, c, after, hsplit, hbefore, hbreaks⟩
  · exact .inl hsound
  · push Not at hbreaks
    obtain ⟨fault, hfault⟩ := hbreaks
    exact .inr ⟨before, c, after, fault, hsplit, hbefore, hfault⟩

/-- The numbers of every version that some texts spell are read. -/
def NumbersRead (texts : List String) : Prop :=
  ∀ c ∈ texts, ∀ major minor, Spells c.toList major minor →
    (∃ x, Decimal.readInteger 10 major = .ok x) ∧ ∃ y, Decimal.readInteger 10 minor = .ok y

/-- Of each text the two numbers are read that it spells, if it spells any. -/
theorem numbersRead_iff {texts : List String} :
    NumbersRead texts ↔ ∀ c ∈ texts, ∀ parts ∈ versionParts? c.toList,
      (Decimal.readInteger 10 parts.1).isOk = true ∧
        (Decimal.readInteger 10 parts.2).isOk = true := by
  have hok : ∀ cs, (Decimal.readInteger 10 cs).isOk = true ↔
      ∃ x, Decimal.readInteger 10 cs = .ok x := by
    intro cs
    cases Decimal.readInteger 10 cs <;> simp [Except.isOk, Except.toBool]
  simp only [NumbersRead, ← versionParts?_eq_some, hok, Option.mem_def, Prod.forall]

instance (texts : List String) : Decidable (NumbersRead texts) :=
  decidable_of_iff _ numbersRead_iff.symm

theorem sound_of_numbersRead {texts : List String} (h : NumbersRead texts) :
    Sound (texts.map Value.text) := by
  intro c hc fault hbreaks
  obtain ⟨s, hs, rfl⟩ := List.mem_map.1 hc
  cases hbreaks with
  | notText hne => exact hne s rfl
  | major hspells hmajor =>
    obtain ⟨x, hx⟩ := (h s hs _ _ hspells).1
    exact hspells.1.not_unreadable hx hmajor
  | minor hspells _ hminor =>
    obtain ⟨y, hy⟩ := (h s hs _ _ hspells).2
    exact hspells.2.1.not_unreadable hy hminor

theorem named_map_text {texts : List String} {v : Version} :
    Named (texts.map Value.text) v ↔ ∃ c ∈ texts, Names c.toList v := by
  simp [Named]

/-- A named version has natural numbers, so that its text names it. -/
theorem text_mem_iff {texts : List String} {versions : List Version}
    (hmem : ∀ v, v ∈ versions ↔ Named (texts.map Value.text) v) (x y : Nat) :
    toString x ++ "." ++ toString y ∈ versions.map Version.text ↔
      ∃ c ∈ texts, Names c.toList ⟨x, y⟩ := by
  rw [← named_map_text, ← hmem, List.mem_map]
  constructor
  · rintro ⟨v, hv, htext⟩
    obtain ⟨s, hs, major, minor, hspells, hmajor, hminor, rfl⟩ := (hmem v).1 hv
    obtain ⟨rfl, rfl⟩ := Version.text_inj htext
    exact hv
  · intro hv
    exact ⟨_, hv, rfl⟩

theorem nodup_map_text {texts : List String} {versions : List Version} (h : Ascending versions)
    (hmem : ∀ v, v ∈ versions ↔ Named (texts.map Value.text) v) :
    (versions.map Version.text).Nodup := by
  refine List.Nodup.map_on ?_ h.nodup
  intro v hv w hw htext
  obtain ⟨s, hs, major, minor, -, -, -, rfl⟩ := (hmem v).1 hv
  obtain ⟨t, ht, major', minor', -, -, -, rfl⟩ := (hmem w).1 hw
  obtain ⟨hx, hy⟩ := Version.text_inj htext
  rw [hx, hy]

theorem classifiersOf_of_get? {metadata entries : Mapping} {texts : List String}
    (hproject : metadata.get? "project" = some (.map entries))
    (hclassifiers : Mapping.get? entries "classifiers" = some (.list (texts.map Value.text))) :
    classifiers? metadata = some (texts.map Value.text) ∧
      classifiersOf metadata = texts.map Value.text := by
  have hlist : classifiers? metadata = some (texts.map Value.text) := by
    simp [classifiers?, hproject, hclassifiers]
  exact ⟨hlist, by rw [classifiersOf, hlist, Option.getD_some]⟩

/-- The versions that texts name are listed in ascending order of their numbers, each once and in
its decimal form, and the running version alone where none is named. Other texts with the same
classifiers of versions give the same list, whatever their order and number, and whatever else they
hold. -/
theorem supportedVersions_listed (running : String) (metadata entries : Mapping)
    (texts : List String) (hproject : metadata.get? "project" = some (.map entries))
    (hclassifiers : Mapping.get? entries "classifiers" = some (.list (texts.map Value.text)))
    (hread : NumbersRead texts) :
    ∃ versions : List Version,
      supportedVersions running metadata =
          .ok ⟨if versions = [] then [running] else versions.map Version.text, false⟩ ∧
        Ascending versions ∧ (versions.map Version.text).Nodup ∧
        (∀ x y : Nat, toString x ++ "." ++ toString y ∈ versions.map Version.text ↔
          ∃ c ∈ texts, Names c.toList ⟨x, y⟩) ∧
        (versions = [] ↔ ∀ c ∈ texts, ∀ v, ¬ Names c.toList v) ∧
        ∀ (metadata' entries' : Mapping) (texts' : List String),
          metadata'.get? "project" = some (.map entries') →
          Mapping.get? entries' "classifiers" = some (.list (texts'.map Value.text)) →
          NumbersRead texts' →
          (∀ c, (∃ v, Names c.toList v) → (c ∈ texts' ↔ c ∈ texts)) →
          supportedVersions running metadata' = supportedVersions running metadata := by
  obtain ⟨hlist, hlistOf⟩ := classifiersOf_of_get? hproject hclassifiers
  obtain ⟨listed, hlisted, versions, hascending, hmem, rfl⟩ :=
    supportedVersions_of_sound running (hlistOf ▸ sound_of_numbersRead hread)
  rw [hlistOf] at hmem
  rw [hlist] at hlisted
  refine ⟨versions, hlisted, hascending, nodup_map_text hascending hmem, text_mem_iff hmem, ?_, ?_⟩
  · rw [List.eq_nil_iff_forall_not_mem]
    simp only [hmem, named_map_text, not_exists, not_and]
    exact ⟨fun h c hc v => h v c hc, fun h v c hc => h c hc v⟩
  · intro metadata' entries' texts' hproject' hclassifiers' hread' hsame
    obtain ⟨hlist', hlistOf'⟩ := classifiersOf_of_get? hproject' hclassifiers'
    obtain ⟨listed', hlisted', versions', hascending', hmem', rfl⟩ :=
      supportedVersions_of_sound running (hlistOf' ▸ sound_of_numbersRead hread')
    rw [hlistOf'] at hmem'
    rw [hlist'] at hlisted'
    have hversions : versions' = versions := by
      apply hascending'.eq_of_mem_iff hascending
      intro v
      rw [hmem, hmem', named_map_text, named_map_text]
      constructor
      · rintro ⟨c, hc, hnames⟩
        exact ⟨c, (hsame c ⟨v, hnames⟩).1 hc, hnames⟩
      · rintro ⟨c, hc, hnames⟩
        exact ⟨c, (hsame c ⟨v, hnames⟩).2 hc, hnames⟩
    rw [hlisted, hlisted', hversions]
    rfl

/-- A project's metadata with a list of classifiers. -/
def metadataOf (texts : List String) : Mapping :=
  [(.text "project", .map [(.text "classifiers", .list (texts.map Value.text))])]

/-- The numbers count and not their spelling: a leading zero, white space and other digits make no
second version, 3.9 stands before 3.10, and neither the order nor a further classifier matters. -/
theorem supportedVersions_listed_respelled :
    let texts := ["Programming Language :: Python :: 3.10", "Programming Language :: Python :: 3",
      "Programming Language :: Python ::  3.09 ", "Programming Language :: Python :: ٣.٩"]
    let texts' := texts.reverse ++ "Topic :: Text Processing" :: texts
    NumbersRead texts ∧ NumbersRead texts' ∧
      supportedVersions "3.8" (metadataOf texts) = .ok ⟨["3.9", "3.10"], false⟩ ∧
      supportedVersions "3.8" (metadataOf texts') = .ok ⟨["3.9", "3.10"], false⟩ := by
  intro texts texts'
  have hread : NumbersRead texts := by decide +kernel
  have hread' : NumbersRead texts' := by decide +kernel
  have hlisted : supportedVersions "3.8" (metadataOf texts) = .ok ⟨["3.9", "3.10"], false⟩ :=
    eq_ok_of_toOption (by decide +kernel)
  obtain ⟨-, -, -, -, -, -, hsame⟩ :=
    supportedVersions_listed "3.8" (metadataOf texts) _ texts rfl rfl hread
  refine ⟨hread, hread', hlisted, ?_⟩
  rw [hsame (metadataOf texts') _ texts' rfl rfl hread', hlisted]
  rintro c ⟨v, major, minor, hspells, -⟩
  have htopic : versionParts? "Topic :: Text Processing".toList = none := by decide +kernel
  have hne : c ≠ "Topic :: Text Processing" := by
    rintro rfl
    rw [← versionParts?_eq_some, htopic] at hspells
    exact nomatch hspells
  simp [texts', hne]

/-! ## Files of metadata -/

/-- A file that is missing, holds no text or is no document stands for no metadata. -/
theorem readMetadata_eq_nil {bytes : Option (List UInt8)}
    (h : ∀ held text, bytes = some held → ConfigFile.textOfBytes held = .ok text →
      Toml.decode text = none) : readMetadata bytes = [] := by
  unfold readMetadata
  cases bytes with
  | none => rfl
  | some held =>
    dsimp only
    cases htext : ConfigFile.textOfBytes held with
    | error fault => rfl
    | ok text =>
      dsimp only
      rw [h held text rfl htext]
      rfl

/-- Whatever a file of metadata holds, there is a list of versions unless the reading breaks off at
one of the classifiers: at an item that is no text, or at a version with a number that is not read.
The first such classifier decides how. Otherwise those that name a version are listed, and the rest
is passed over; a file without metadata gives the running version. -/
theorem supportedVersions_breaks_iff (running : String) (bytes : Option (List UInt8)) :
    (∀ fault, supportedVersions running (readMetadata bytes) = .error fault ↔
        ∃ before c after, classifiersOf (readMetadata bytes) = before ++ c :: after ∧
          Sound before ∧ Breaks c fault) ∧
      ((∃ listed, supportedVersions running (readMetadata bytes) =
            .ok ⟨listed, (classifiers? (readMetadata bytes)).isNone⟩ ∧ listed ≠ [] ∧
          IsListing running (classifiersOf (readMetadata bytes)) listed) ↔
        Sound (classifiersOf (readMetadata bytes))) ∧
      ((∀ held text, bytes = some held → ConfigFile.textOfBytes held = .ok text →
          Toml.decode text = none) →
        supportedVersions running (readMetadata bytes) = .ok ⟨[running], true⟩) := by
  refine ⟨fun fault => supportedVersions_eq_error, ?_, ?_⟩
  · constructor
    · rintro ⟨listed, hlisted, -, -⟩
      rcases sound_or_breaks (classifiersOf (readMetadata bytes)) with
        hsound | ⟨before, c, after, fault, hsplit, hbefore, hbreaks⟩
      · exact hsound
      · rw [supportedVersions_eq_error.2 ⟨before, c, after, hsplit, hbefore, hbreaks⟩] at hlisted
        exact nomatch hlisted
    · intro hsound
      obtain ⟨listed, hlisted, hlisting⟩ := supportedVersions_of_sound running hsound
      exact ⟨listed, hlisted, hlisting.ne_nil, hlisting⟩
  · intro hunread
    rw [readMetadata_eq_nil hunread]
    rfl

/-- A superscript is a digit, so that the classifier spells a version, but the number is not read:
there is no list of versions, and the running version does not take its place. -/
theorem supportedVersions_breaks_on_superscript :
    let file := "[project]\nclassifiers = [\"Programming Language :: Python :: 3.²\"]\n"
    ∃ fault, supportedVersions "3.11" (readMetadata (some file.toUTF8.data.toList)) = .error fault ∧
      fault.message = "invalid literal for int() with base 10: '²'" := by
  intro file
  have hmessage :
      (match supportedVersions "3.11" (readMetadata (some file.toUTF8.data.toList)) with
        | .error fault => fault.message
        | .ok _ => "") = "invalid literal for int() with base 10: '²'" := by decide +kernel
  cases hlist : supportedVersions "3.11" (readMetadata (some file.toUTF8.data.toList)) with
  | error fault =>
    rw [hlist] at hmessage
    exact ⟨fault, rfl, hmessage⟩
  | ok support =>
    rw [hlist] at hmessage
    simp at hmessage

end FormatterConfig.Project
