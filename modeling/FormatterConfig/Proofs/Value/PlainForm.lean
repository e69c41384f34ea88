import FormatterConfig.Proofs.Value.Overlay
import FormatterConfig.Proofs.Value.Sorting
import Mathlib.Data.List.Forall2

set_option autoImplicit false

/-! # Plain forms

In the plain form of a value only scalars, lists and mappings from texts are left. A value composed
of these, of choices, of tuples and of sets of texts has exactly one plain form, and that is what it
is turned into (`plainForm_iff`). A value that is plain already is its own plain form. -/

namespace FormatterConfig.Value

/-- Whether a value is neither a choice nor a collection. -/
def isScalar : Value → Bool
  | .null | .bool _ | .int _ | .real _ | .text _ | .bytes _ | .date _ | .time _ | .moment _ => true
  | _ => false

/-- A value composed of scalars and choices by lists, tuples, mappings from texts, and sets of
texts; a choice in a set counts as its tag. -/
inductive Composed : Value → Prop
  | scalar {v : Value} (h : v.isScalar = true) : Composed v
  | choice (c : Choice) : Composed (.choice c)
  | list {items : List Value} (h : ∀ v ∈ items, Composed v) : Composed (.list items)
  | tuple {items : List Value} (h : ∀ v ∈ items, Composed v) : Composed (.tuple items)
  | set {items : List Value} (h : ∀ v ∈ items, v.isText = true) : Composed (.set items)
  | map {entries : Mapping} (keys : entries.TextKeyed)
      (h : ∀ v ∈ entries.map Prod.snd, Composed v) : Composed (.map entries)

/-- A value with nothing but scalars, lists and mappings from texts in it. -/
inductive IsPlain : Value → Prop
  | scalar {v : Value} (h : v.isScalar = true) : IsPlain v
  | list {items : List Value} (h : ∀ v ∈ items, IsPlain v) : IsPlain (.list items)
  | map {entries : Mapping} (keys : entries.TextKeyed)
      (h : ∀ v ∈ entries.map Prod.snd, IsPlain v) : IsPlain (.map entries)

/-- The second value is a plain form of the first one: scalars stay and a choice gives its tag; the
items of a list or a tuple give their forms in their order, and so do the values of a mapping, whose
keys stay; a set gives the ascending list of its items' texts. -/
inductive PlainForm : Value → Value → Prop
  | scalar {v : Value} (h : v.isScalar = true) : PlainForm v v
  | choice (c : Choice) : PlainForm (.choice c) (.text c.tag)
  | list {items forms : List Value} (h : List.Forall₂ PlainForm items forms) :
      PlainForm (.list items) (.list forms)
  | tuple {items forms : List Value} (h : List.Forall₂ PlainForm items forms) :
      PlainForm (.tuple items) (.list forms)
  | set {items : List Value} {texts : List String} (ascending : texts.Pairwise (· ≤ ·))
      (same : (texts.map some).Perm (items.map text?)) :
      PlainForm (.set items) (.list (texts.map .text))
  | map {entries forms : Mapping} (keys : forms.map Prod.fst = entries.map Prod.fst)
      (h : List.Forall₂ PlainForm (entries.map Prod.snd) (forms.map Prod.snd)) :
      PlainForm (.map entries) (.map forms)

variable {v p : Value} {items : List Value} {entries : Mapping}

/-! ## One step of `plain` -/

theorem plain_of_isScalar (h : v.isScalar = true) : v.plain = v := by
  cases v with
  | choice | list | tuple | set | map | knot | again => exact nomatch h
  | _ => rfl

theorem plainItems_eq (items : List Value) : plainItems items = items.map plain := by
  induction items with
  | nil => rfl
  | cons v rest ih => rw [plainItems, ih, List.map_cons]

@[simp] theorem plain_list (items : List Value) :
    (Value.list items).plain = .list (items.map plain) := by
  rw [plain, plainItems_eq]

@[simp] theorem plain_tuple (items : List Value) :
    (Value.tuple items).plain = .list (items.map plain) := by
  rw [plain, plainItems_eq]

theorem plain_of_text? {s : String} (h : v.text? = some s) : v.plain = .text s := by
  cases v with
  | text t =>
    obtain rfl : t = s := Option.some.inj h
    rfl
  | choice c =>
    obtain rfl : c.tag = s := Option.some.inj h
    rfl
  | _ => exact nomatch h

/-- Texts and choices have their spellings for plain forms. -/
theorem exists_texts (h : ∀ v ∈ items, v.isText = true) :
    ∃ texts : List String,
      items.map text? = texts.map some ∧ items.map plain = texts.map .text := by
  induction items with
  | nil => exact ⟨[], rfl, rfl⟩
  | cons v rest ih =>
    obtain ⟨hfirst, hrest⟩ := List.forall_mem_cons.1 h
    obtain ⟨s, hs⟩ := Option.isSome_iff_exists.1 hfirst
    obtain ⟨texts, htexts, hplain⟩ := ih hrest
    exact ⟨s :: texts, by rw [List.map_cons, hs, htexts, List.map_cons],
      by rw [List.map_cons, plain_of_text? hs, hplain, List.map_cons]⟩

theorem plain_set {texts : List String} (h : items.map plain = texts.map .text) :
    (Value.set items).plain = .list ((texts.insertionSort (· ≤ ·)).map .text) := by
  rw [plain, plainItems_eq, h, sortItems_texts]

theorem plainEntries_eq (h : ∀ e ∈ entries, ∃ key, e.1 = .text key) :
    plainEntries entries = entries.map fun e => (e.1, e.2.plain) := by
  induction entries with
  | nil => rfl
  | cons e rest ih =>
    obtain ⟨⟨key, hkey⟩, hrest⟩ := List.forall_mem_cons.1 h
    rw [plainEntries, ih hrest, List.map_cons, hkey, keyText]

theorem eq_of_keys_of_values {entries entries' : Mapping}
    (keys : entries.map Prod.fst = entries'.map Prod.fst)
    (values : entries.map Prod.snd = entries'.map Prod.snd) : entries = entries' := by
  rw [List.zip_of_prod keys values]
  exact (List.zip_of_prod rfl rfl).symm

theorem map_fst_plain (entries : Mapping) :
    (entries.map fun e => (e.1, e.2.plain)).map Prod.fst = entries.map Prod.fst := by
  rw [List.map_map]
  rfl

theorem map_snd_plain (entries : Mapping) :
    (entries.map fun e => (e.1, e.2.plain)).map Prod.snd = (entries.map Prod.snd).map plain := by
  rw [List.map_map, List.map_map]
  rfl

/-- Distinct texts stay distinct keys, so no entry is lost. -/
theorem plain_map (h : entries.TextKeyed) :
    (Value.map entries).plain = .map (entries.map fun e => (e.1, e.2.plain)) := by
  have hkeyed := h.congr (map_fst_plain entries)
  rw [plain, plainEntries_eq h.texts, Mapping.ofList_of_distinct hkeyed.distinct]

/-! ## The plain form -/

theorem forall₂_plainForm_iff {forms : List Value}
    (h : ∀ v ∈ items, ∀ {p}, PlainForm v p ↔ p = v.plain) :
    List.Forall₂ PlainForm items forms ↔ forms = items.map plain := by
  induction items generalizing forms with
  | nil => exact List.forall₂_nil_left_iff
  | cons v rest ih =>
    obtain ⟨hfirst, hrest⟩ := List.forall_mem_cons.1 h
    simp only [List.forall₂_cons_left_iff, hfirst, ih hrest, List.map_cons]
    simp

theorem plainForm_set_iff {texts : List String} (h : items.map text? = texts.map some) :
    PlainForm (.set items) p ↔ p = .list ((texts.insertionSort (· ≤ ·)).map .text) := by
  have hsorted : ∀ ascending : List String,
      ascending = texts.insertionSort (· ≤ ·) ↔
        ascending.Pairwise (· ≤ ·) ∧ (ascending.map some).Perm (items.map text?) := by
    intro ascending
    rw [insertionSort_eq_iff, h, List.map_perm_map_iff (Option.some_injective _)]
  constructor
  · intro hform
    cases hform with
    | scalar hscalar => exact nomatch hscalar
    | @set _ ascending hascending hsame => rw [(hsorted ascending).2 ⟨hascending, hsame⟩]
  · rintro rfl
    obtain ⟨hascending, hsame⟩ := (hsorted _).1 rfl
    exact .set hascending hsame

theorem plainForm_map_iff (keys : entries.TextKeyed)
    (h : ∀ v ∈ entries.map Prod.snd, ∀ {p}, PlainForm v p ↔ p = v.plain) :
    PlainForm (.map entries) p ↔ p = (Value.map entries).plain := by
  rw [plain_map keys]
  constructor
  · intro hform
    cases hform with
    | scalar hscalar => exact nomatch hscalar
    | map hkeys hforms =>
      have hvalues := (forall₂_plainForm_iff h).1 hforms
      rw [← map_snd_plain] at hvalues
      rw [← map_fst_plain entries] at hkeys
      rw [eq_of_keys_of_values hkeys hvalues]
  · rintro rfl
    exact .map (map_fst_plain entries) ((forall₂_plainForm_iff h).2 (map_snd_plain entries))

/-- A composed value has its plain form and no other one. -/
theorem plainForm_iff (h : v.Composed) : PlainForm v p ↔ p = v.plain := by
  induction h generalizing p with
  | scalar h =>
    rw [plain_of_isScalar h]
    constructor
    · intro hform
      cases hform with
      | scalar => rfl
      | choice | list | tuple | set | map => exact nomatch h
    · rintro rfl
      exact .scalar h
  | choice c =>
    constructor
    · intro hform
      cases hform with
      | scalar hscalar => exact nomatch hscalar
      | choice => rfl
    · rintro rfl
      exact .choice c
  | list _ ih =>
    rw [plain_list]
    constructor
    · intro hform
      cases hform with
      | scalar hscalar => exact nomatch hscalar
      | list hforms => rw [(forall₂_plainForm_iff ih).1 hforms]
    · rintro rfl
      exact .list ((forall₂_plainForm_iff ih).2 rfl)
  | tuple _ ih =>
    rw [plain_tuple]
    constructor
    · intro hform
      cases hform with
      | scalar hscalar => exact nomatch hscalar
      | tuple hforms => rw [(forall₂_plainForm_iff ih).1 hforms]
    · rintro rfl
      exact .tuple ((forall₂_plainForm_iff ih).2 rfl)
  | set h =>
    obtain ⟨texts, htexts, hplain⟩ := exists_texts h
    rw [plainForm_set_iff htexts, plain_set hplain]
  | map keys _ ih => exact plainForm_map_iff keys ih

/-! ## Plain values -/

theorem isPlain_texts (texts : List String) : IsPlain (.list (texts.map .text)) := by
  refine .list fun v hv => ?_
  obtain ⟨s, -, rfl⟩ := List.mem_map.1 hv
  exact .scalar rfl

theorem forall_mem_map_plain (h : ∀ v ∈ items, v.plain.IsPlain) :
    ∀ p ∈ items.map plain, p.IsPlain := by
  intro p hp
  obtain ⟨v, hv, rfl⟩ := List.mem_map.1 hp
  exact h v hv

/-- Nothing else is left of a composed value. -/
theorem Composed.isPlain_plain (h : v.Composed) : v.plain.IsPlain := by
  induction h with
  | scalar h =>
    rw [plain_of_isScalar h]
    exact .scalar h
  | choice c => exact .scalar rfl
  | list _ ih =>
    rw [plain_list]
    exact .list (forall_mem_map_plain ih)
  | tuple _ ih =>
    rw [plain_tuple]
    exact .list (forall_mem_map_plain ih)
  | set h =>
    obtain ⟨texts, -, hplain⟩ := exists_texts h
    rw [plain_set hplain]
    exact isPlain_texts _
  | @map entries keys _ ih =>
    rw [plain_map keys]
    refine .map (keys.congr (map_fst_plain entries)) ?_
    rw [map_snd_plain]
    exact forall_mem_map_plain ih

theorem IsPlain.composed (h : v.IsPlain) : v.Composed := by
  induction h with
  | scalar h => exact .scalar h
  | list _ ih => exact .list ih
  | map keys _ ih => exact .map keys ih

/-- A plain value is its own plain form. -/
theorem IsPlain.plain_eq (h : v.IsPlain) : v.plain = v := by
  induction h with
  | scalar h => exact plain_of_isScalar h
  | list _ ih => rw [plain_list, List.map_congr_left ih, List.map_id']
  | @map entries keys _ ih =>
    have hentries : ∀ e ∈ entries, (e.1, e.2.plain) = e := by
      intro e he
      rw [ih e.2 (List.mem_map_of_mem he)]
    rw [plain_map keys, List.map_congr_left hentries, List.map_id']

end FormatterConfig.Value
