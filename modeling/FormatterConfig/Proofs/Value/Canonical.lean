import FormatterConfig.Proofs.Value.Equality
import FormatterConfig.Proofs.Value.LongInteger
import FormatterConfig.Proofs.Value.PlainForm
import FormatterConfig.Yaml.Writing.Encode

set_option autoImplicit false

/-! # Documents do not depend on the order of sets

A composed value is turned into its plain form without a fault, and what is written depends on that
form alone. The items of a set have no order of their own, and whichever order they are held in, the
plain form is the same. So values that differ in the order of their sets alone give the same
document (`plain_canonical`). -/

namespace FormatterConfig.Value

/-- Two values differ at most in the order in which the sets in them hold their items. -/
inductive Reordered : Value → Value → Prop
  | same (v : Value) : Reordered v v
  | list {items items' : List Value} (h : List.Forall₂ Reordered items items') :
      Reordered (.list items) (.list items')
  | tuple {items items' : List Value} (h : List.Forall₂ Reordered items items') :
      Reordered (.tuple items) (.tuple items')
  | set {items items' : List Value} (h : items.Perm items') : Reordered (.set items) (.set items')
  | map {entries entries' : Mapping} (keys : entries'.map Prod.fst = entries.map Prod.fst)
      (h : List.Forall₂ Reordered (entries.map Prod.snd) (entries'.map Prod.snd)) :
      Reordered (.map entries) (.map entries')

variable {v w : Value} {items : List Value} {entries : Mapping}

/-! ## Faults -/

theorem anyUnsortable?_eq_none (h : ∀ v ∈ items, v.unsortable? = none) :
    anyUnsortable? items = none := by
  induction items with
  | nil => rfl
  | cons v rest ih =>
    obtain ⟨hfirst, hrest⟩ := List.forall_mem_cons.1 h
    rw [anyUnsortable?, hfirst]
    exact ih hrest

theorem anyUnsortableEntry?_eq_none (keys : ∀ e ∈ entries, ∃ key, e.1 = .text key)
    (h : ∀ v ∈ entries.map Prod.snd, v.unsortable? = none) :
    anyUnsortableEntry? entries = none := by
  induction entries with
  | nil => rfl
  | cons e rest ih =>
    obtain ⟨⟨key, hkey⟩, hkeys⟩ := List.forall_mem_cons.1 keys
    obtain ⟨hfirst, hrest⟩ := List.forall_mem_cons.1 h
    rw [ anyUnsortableEntry?, hkey, hfirst]
    exact ih hkeys hrest

/-- In a text nothing is to be sorted, and no integer is too long. -/
theorem faultless_of_isText (h : v.isText = true) :
    v.unsortable? = none ∧ v.hasLongInteger = false := by
  cases v with
  | text | choice => exact ⟨rfl, rfl⟩
  | _ => exact nomatch h

/-- A composed value is turned into its plain form without a fault. -/
theorem Composed.unsortable?_eq_none (h : v.Composed) : v.unsortable? = none := by
  induction h with
  | @scalar v h =>
    cases v with
    | choice | list | tuple | set | map | knot | again => exact nomatch h
    | _ => rfl
  | choice c => rfl
  | list _ ih | tuple _ ih =>
    rw [unsortable?]
    exact anyUnsortable?_eq_none ih
  | set h =>
    obtain ⟨texts, -, hplain⟩ := exists_texts h
    obtain ⟨result, hresult⟩ := exists_sorted (comparable_texts texts)
    rw [unsortable?, anyUnsortable?_eq_none fun v hv => (faultless_of_isText (h v hv)).1,
      plainItems_eq, hplain, hresult]
  | map keys _ ih =>
    rw [unsortable?]
    exact anyUnsortableEntry?_eq_none keys.texts ih

/-! ## The written document -/

theorem anyLongInteger_map_plain (h : ∀ v ∈ items, v.plain.hasLongInteger = v.hasLongInteger) :
    anyLongInteger (items.map plain) = anyLongInteger items := by
  induction items with
  | nil => rfl
  | cons v rest ih =>
    obtain ⟨hfirst, hrest⟩ := List.forall_mem_cons.1 h
    rw [List.map_cons, anyLongInteger, anyLongInteger, hfirst, ih hrest]

theorem anyLongEntry_map_plain
    (h : ∀ v ∈ entries.map Prod.snd, v.plain.hasLongInteger = v.hasLongInteger) :
    anyLongEntry (entries.map fun e => (e.1, e.2.plain)) = anyLongEntry entries := by
  induction entries with
  | nil => rfl
  | cons e rest ih =>
    obtain ⟨hfirst, hrest⟩ := List.forall_mem_cons.1 h
    rw [List.map_cons, anyLongEntry, anyLongEntry, hfirst, ih hrest]

/-- The plain form holds an integer too long to be written out exactly if the value does. -/
theorem Composed.hasLongInteger_plain (h : v.Composed) :
    v.plain.hasLongInteger = v.hasLongInteger := by
  induction h with
  | scalar h => rw [plain_of_isScalar h]
  | choice c => rfl
  | list _ ih =>
    rw [plain_list, hasLongInteger, hasLongInteger, anyLongInteger_map_plain ih]
  | tuple _ ih =>
    rw [plain_tuple, hasLongInteger, hasLongInteger, anyLongInteger_map_plain ih]
  | @set items h =>
    obtain ⟨texts, -, hplain⟩ := exists_texts h
    have hitems : anyLongInteger items = false :=
      anyLongInteger_eq_false.2 fun v hv => (faultless_of_isText (h v hv)).2
    have htexts : ∀ ts : List String, anyLongInteger (ts.map .text) = false := by
      intro ts
      refine anyLongInteger_eq_false.2 fun v hv => ?_
      obtain ⟨s, -, rfl⟩ := List.mem_map.1 hv
      rfl
    rw [plain_set hplain, hasLongInteger, hasLongInteger, htexts, hitems]
  | map keys _ ih =>
    rw [plain_map keys, hasLongInteger, hasLongInteger, anyLongEntry_map_plain ih]

/-- What is written of a composed value is its plain form alone. -/
theorem Composed.yaml_eq (h : v.Composed) : v.yaml = Yaml.encode v.plain := by
  rw [yaml, h.unsortable?_eq_none]
  by_cases hlong : v.hasLongInteger = true
  · rw [if_pos hlong, Yaml.encode, h.hasLongInteger_plain, if_pos hlong]
  · rw [if_neg hlong]

/-! ## The order of sets -/

theorem forall₂_reordered {items' : List Value}
    (h : ∀ v ∈ items, ∀ {w}, Reordered v w → w.Composed ∧ w.plain = v.plain)
    (hitems : List.Forall₂ Reordered items items') :
    (∀ w ∈ items', w.Composed) ∧ items'.map plain = items.map plain := by
  induction hitems with
  | nil => exact ⟨by simp, rfl⟩
  | cons hfirst _ ih =>
    obtain ⟨hv, hrest⟩ := List.forall_mem_cons.1 h
    obtain ⟨hcomposed, hplain⟩ := hv hfirst
    obtain ⟨hcomposeds, hplains⟩ := ih hrest
    exact ⟨List.forall_mem_cons.2 ⟨hcomposed, hcomposeds⟩,
      by rw [List.map_cons, hplain, hplains, List.map_cons]⟩

/-- Held in another order, the items of a set have the same ascending list of texts. -/
theorem plain_set_of_perm {items' : List Value} (h : ∀ v ∈ items, v.isText = true)
    (hperm : items.Perm items') :
    (Value.set items').Composed ∧ (Value.set items').plain = (Value.set items).plain := by
  have hcomposed : (Value.set items').Composed := .set fun v hv => h v (hperm.mem_iff.2 hv)
  refine ⟨hcomposed, ?_⟩
  -- the ascending list of the texts is the same for any order of the items
  have hform := (plainForm_iff (Composed.set h)).2 rfl
  generalize (Value.set items).plain = p at hform ⊢
  cases hform with
  | scalar hscalar => exact nomatch hscalar
  | set hascending hsame =>
    exact ((plainForm_iff hcomposed).1 (.set hascending (hsame.trans (hperm.map _)))).symm

theorem Composed.plain_eq_of_reordered (h : v.Composed) (hw : Reordered v w) :
    w.Composed ∧ w.plain = v.plain := by
  induction h generalizing w with
  | scalar h =>
    cases hw with
    | same => exact ⟨.scalar h, rfl⟩
    | list | tuple | set | map => exact nomatch h
  | choice c =>
    cases hw with
    | same => exact ⟨.choice c, rfl⟩
  | list h ih =>
    cases hw with
    | same => exact ⟨.list h, rfl⟩
    | list hitems =>
      obtain ⟨hcomposed, hplain⟩ := forall₂_reordered ih hitems
      exact ⟨.list hcomposed, by rw [plain_list, plain_list, hplain]⟩
  | tuple h ih =>
    cases hw with
    | same => exact ⟨.tuple h, rfl⟩
    | tuple hitems =>
      obtain ⟨hcomposed, hplain⟩ := forall₂_reordered ih hitems
      exact ⟨.tuple hcomposed, by rw [plain_tuple, plain_tuple, hplain]⟩
  | set h =>
    cases hw with
    | same => exact ⟨.set h, rfl⟩
    | set hperm => exact plain_set_of_perm h hperm
  | @map entries keys h ih =>
    cases hw with
    | same => exact ⟨.map keys h, rfl⟩
    | @map _ entries' hkeys hvalues =>
      obtain ⟨hcomposed, hplain⟩ := forall₂_reordered ih hvalues
      have keys' := keys.congr hkeys
      refine ⟨.map keys' hcomposed, ?_⟩
      -- entries agree if their keys and their values do
      rw [← map_snd_plain, ← map_snd_plain] at hplain
      rw [← map_fst_plain, ← map_fst_plain entries] at hkeys
      rw [plain_map keys', plain_map keys, eq_of_keys_of_values hkeys hplain]

/-- A composed value is turned without a fault into a plain value, which is its one plain form and
stays as it is when it is turned into its own; only that is written. A value that differs from it in
the order of its sets alone has the same plain form and gives the same document. -/
theorem plain_canonical (hv : v.Composed) :
    v.unsortable? = none ∧ v.plain.IsPlain ∧ (∀ p, PlainForm v p ↔ p = v.plain) ∧
      v.plain.unsortable? = none ∧ v.plain.plain = v.plain ∧ v.yaml = Yaml.encode v.plain ∧
      ∀ w, Reordered v w → w.unsortable? = none ∧ w.plain = v.plain ∧ w.yaml = v.yaml := by
  have hplain := hv.isPlain_plain
  refine ⟨hv.unsortable?_eq_none, hplain, fun p => plainForm_iff hv,
    hplain.composed.unsortable?_eq_none, hplain.plain_eq, hv.yaml_eq, ?_⟩
  intro w hw
  obtain ⟨hcomposed, hsame⟩ := hv.plain_eq_of_reordered hw
  refine ⟨hcomposed.unsortable?_eq_none, hsame, ?_⟩
  rw [hcomposed.yaml_eq, hsame, hv.yaml_eq]

/-- Two sets at different depths, one of them with a choice in it, and both held the other way
round. -/
theorem plain_canonical_nested :
    let v : Value := .map [(.text "z", .choice (.comma .trailing)),
      (.text "a", .set [.text "b", .choice (.direction .left), .text "a"]),
      (.text "m", .list [.tuple [.int 1, .set [.text "y", .text "x"]], .null])]
    let w : Value := .map [(.text "z", .choice (.comma .trailing)),
      (.text "a", .set [.text "a", .choice (.direction .left), .text "b"]),
      (.text "m", .list [.tuple [.int 1, .set [.text "x", .text "y"]], .null])]
    v.Composed ∧ Reordered v w ∧ v ≠ w ∧ v.unsortable? = none ∧
      w.plain = .map [(.text "z", .text "trailing"),
        (.text "a", .list [.text "a", .text "b", .text "infixl"]),
        (.text "m", .list [.list [.int 1, .list [.text "x", .text "y"]], .null])] ∧
      w.yaml =
        .ok "z: trailing\na:\n- a\n- b\n- infixl\nm:\n- - 1\n  - - x\n    - y\n- null\n" := by
  intro v w
  have hkeys : ∀ x y z : Value,
      Mapping.TextKeyed [(.text "z", x), (.text "a", y), (.text "m", z)] :=
    fun x y z => ⟨by simp [Mapping.KeysDistinct, sameKey, keyForm?], by simp⟩
  have hv : v.Composed := by
    refine .map (hkeys _ _ _) ?_
    simp only [List.map_cons, List.map_nil, List.forall_mem_cons]
    refine ⟨.choice _, .set (by decide), .list ?_, by simp⟩
    simp only [List.forall_mem_cons]
    refine ⟨.tuple ?_, .scalar rfl, by simp⟩
    simp only [List.forall_mem_cons]
    exact ⟨.scalar rfl, .set (by decide), by simp⟩
  have hw : Reordered v w := by
    have hlast : Reordered (.tuple [.int 1, .set [.text "y", .text "x"]])
        (.tuple [.int 1, .set [.text "x", .text "y"]]) :=
      .tuple (.cons (.same _) (.cons (.set (.swap _ _ _)) .nil))
    exact .map rfl (.cons (.same _) (.cons (.set (List.reverse_perm _).symm)
      (.cons (.list (.cons hlast (.cons (.same _) .nil))) .nil)))
  obtain ⟨hfault, -, -, -, -, -, hsame⟩ := plain_canonical hv
  obtain ⟨-, hplain, hyaml⟩ := hsame w hw
  refine ⟨hv, hw, by decide, hfault, ?_, ?_⟩
  · rw [hplain]
    decide
  · rw [hyaml]
    decide +kernel

end FormatterConfig.Value
