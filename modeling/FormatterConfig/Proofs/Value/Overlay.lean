import FormatterConfig.Proofs.Value.Lookup

set_option autoImplicit false

/-! # Mappings laid over mappings

A mapping is laid over another entry by entry: a key that is there keeps its place and has its value
replaced, and a new key comes last. A lookup asks the upper mapping first. Keys stay distinct, and
mappings whose keys are distinct texts are determined by their lookups but for the order. -/

namespace FormatterConfig

/-- What has the spelling of a text has its form as a key. -/
theorem Value.keyForm?_eq_text {k : Value} {key : String} :
    k.keyForm? = some [.text key] ↔ k.text? = some key := by
  rw [← sameKey_text, sameKey]
  cases k.keyForm? with
  | none => simp
  | some form =>
    rw [beq_iff_eq, keyForm?]
    simp [eq_comm]

/-- Keys that are one have the same spelling. -/
theorem Value.text?_eq_of_sameKey {k l : Value} (h : k.sameKey l = true) (key : String) :
    k.text? = some key ↔ l.text? = some key := by
  rw [← keyForm?_eq_text, ← keyForm?_eq_text]
  unfold sameKey at h
  split at h
  · next form hk =>
    rw [beq_iff_eq] at h
    rw [hk, h]
  · exact absurd h (by simp)

namespace Mapping

variable {table table' high low : Mapping} {k v : Value}

/-- A mapping laid over another one. -/
def overlay (high low : Mapping) : Mapping := high.foldl (fun m e => m.insert e.1 e.2) low

@[simp] theorem overlay_nil (low : Mapping) : overlay [] low = low := rfl

@[simp] theorem overlay_cons (e : Value × Value) (high low : Mapping) :
    overlay (e :: high) low = overlay high (low.insert e.1 e.2) := rfl

/-! ## Lookups -/

theorem get?_insert (table : Mapping) (k v : Value) (key : String) :
    (table.insert k v).get? key = if k.text? = some key then some v else table.get? key := by
  induction table with
  | nil => rw [insert, get?_cons]
  | cons e rest ih =>
    obtain ⟨k', v'⟩ := e
    rw [insert]
    by_cases hsame : k'.sameKey k = true
    · have hspelled := Value.text?_eq_of_sameKey hsame key
      rw [if_pos hsame, get?_cons, get?_cons]
      by_cases hk : k.text? = some key
      · rw [if_pos (hspelled.2 hk), if_pos hk]
      · rw [if_neg (fun h => hk (hspelled.1 h)), if_neg hk, if_neg (fun h => hk (hspelled.1 h))]
    · rw [if_neg hsame, get?_cons, get?_cons, ih]
      by_cases hk' : k'.text? = some key
      · -- two keys of one spelling would be one key
        have hk : k.text? ≠ some key := by
          intro hk
          refine hsame ?_
          rw [Value.sameKey, Value.keyForm?_eq_text.2 hk', Value.keyForm?_eq_text.2 hk]
          exact beq_self_eq_true _
        rw [if_pos hk', if_pos hk', if_neg hk]
      · rw [if_neg hk', if_neg hk']

/-- Behind an entry whose key no other one has, the key is not found. -/
theorem KeysDistinct.get?_eq_none {e : Value × Value} (h : KeysDistinct (e :: table)) {key : String}
    (he : e.1.text? = some key) : table.get? key = none := by
  rw [Option.eq_none_iff_forall_ne_some]
  intro w hw
  obtain ⟨l, hl, hmem⟩ := mem_of_get? hw
  have hne : e.1.sameKey l = false := List.rel_of_pairwise_cons h hmem
  have hnot : isEntryOf key (l, w) = false :=
    not_isEntryOf_of_sameKey hne (beq_iff_eq.2 he)
  rw [isEntryOf, hl, beq_self_eq_true] at hnot
  exact absurd hnot (by simp)

theorem KeysDistinct.get?_of_mem (h : table.KeysDistinct) {key : String}
    (hk : k.text? = some key) (hmem : (k, v) ∈ table) : table.get? key = some v := by
  induction table with
  | nil => exact absurd hmem (by simp)
  | cons e rest ih =>
    rw [get?_cons]
    rcases List.mem_cons.1 hmem with rfl | hmem
    · exact if_pos hk
    · have hrest := ih (List.Pairwise.of_cons h) hmem
      have he : e.1.text? ≠ some key := by
        intro he
        rw [h.get?_eq_none he] at hrest
        exact absurd hrest (by simp)
      rw [if_neg he, hrest]

/-- A lookup asks the upper mapping first. -/
theorem get?_overlay (hdistinct : high.KeysDistinct) (low : Mapping) (key : String) :
    (overlay high low).get? key = (high.get? key).or (low.get? key) := by
  induction high generalizing low with
  | nil => rfl
  | cons e high ih =>
    rw [overlay_cons, ih (List.Pairwise.of_cons hdistinct), get?_insert, get?_cons]
    by_cases he : e.1.text? = some key
    · rw [if_pos he, if_pos he, hdistinct.get?_eq_none he]
      rfl
    · rw [if_neg he, if_neg he]

/-! ## Keys -/

theorem mem_insert {e : Value × Value} (h : e ∈ table.insert k v) :
    e.1 = k ∨ ∃ f ∈ table, f.1 = e.1 := by
  induction table with
  | nil =>
    obtain rfl := List.mem_singleton.1 h
    exact .inl rfl
  | cons f rest ih =>
    obtain ⟨k', v'⟩ := f
    rw [insert] at h
    split at h
    · rcases List.mem_cons.1 h with rfl | h
      · exact .inr ⟨(k', v'), List.mem_cons_self, rfl⟩
      · exact .inr ⟨e, List.mem_cons_of_mem _ h, rfl⟩
    · rcases List.mem_cons.1 h with rfl | h
      · exact .inr ⟨(k', v'), List.mem_cons_self, rfl⟩
      · rcases ih h with hk | ⟨f, hf, hk⟩
        · exact .inl hk
        · exact .inr ⟨f, List.mem_cons_of_mem _ hf, hk⟩

theorem KeysDistinct.insert (h : table.KeysDistinct) : (table.insert k v).KeysDistinct := by
  induction table with
  | nil => exact List.pairwise_singleton _ _
  | cons e rest ih =>
    obtain ⟨k', v'⟩ := e
    obtain ⟨hfirst, hrest⟩ := List.pairwise_cons.1 h
    rw [Mapping.insert]
    split
    · exact List.pairwise_cons.2 ⟨hfirst, hrest⟩
    · next hk =>
      refine List.pairwise_cons.2 ⟨fun f hf => ?_, ih hrest⟩
      show k'.sameKey f.1 = false
      rcases mem_insert hf with hf | ⟨g, hg, hf⟩
      · rw [hf]
        exact Bool.eq_false_iff.2 hk
      · rw [← hf]
        exact hfirst g hg

theorem keysDistinct_iff :
    table.KeysDistinct ↔ (table.map Prod.fst).Pairwise fun k l => k.sameKey l = false := by
  rw [List.pairwise_map]
  rfl

/-- A key that is new comes last. -/
theorem insert_of_new (h : ∀ e ∈ table, e.1.sameKey k = false) :
    table.insert k v = table ++ [(k, v)] := by
  induction table with
  | nil => rfl
  | cons e rest ih =>
    obtain ⟨hfirst, hrest⟩ := List.forall_mem_cons.1 h
    rw [Mapping.insert, if_neg (Bool.eq_false_iff.1 hfirst), ih hrest]
    rfl

theorem overlay_of_distinct (h : KeysDistinct (low ++ high)) : overlay high low = low ++ high := by
  induction high generalizing low with
  | nil => exact (List.append_nil low).symm
  | cons e high ih =>
    have hnew : ∀ f ∈ low, f.1.sameKey e.1 = false := fun f hf =>
      (List.pairwise_append.1 h).2.2 f hf e List.mem_cons_self
    rw [List.append_cons] at h
    rw [overlay_cons, insert_of_new hnew, ih h, ← List.append_cons]

/-- A list of pairs is a mapping already if no key occurs twice. -/
theorem ofList_of_distinct (h : table.KeysDistinct) : ofList table = table := by
  have hnone : KeysDistinct ([] ++ table) := h
  exact overlay_of_distinct hnone

/-! ## Mappings by their lookups -/

/-- The keys of a mapping are texts, and none occurs twice. -/
structure TextKeyed (table : Mapping) : Prop where
  distinct : table.KeysDistinct
  texts : ∀ e ∈ table, ∃ key, e.1 = .text key

namespace TextKeyed

/-- Only the keys count. -/
theorem congr (h : table.TextKeyed) (hkeys : table'.map Prod.fst = table.map Prod.fst) :
    table'.TextKeyed where
  distinct := by
    have hdistinct := h.distinct
    rw [keysDistinct_iff] at hdistinct ⊢
    rwa [hkeys]
  texts e he := by
    have hkey : e.1 ∈ table.map Prod.fst := by
      rw [← hkeys]
      exact List.mem_map_of_mem he
    obtain ⟨f, hf, hfe⟩ := List.mem_map.1 hkey
    rw [← hfe]
    exact h.texts f hf

theorem insert (h : table.TextKeyed) (key : String) (v : Value) :
    TextKeyed (table.insert (.text key) v) where
  distinct := h.distinct.insert
  texts e he := by
    rcases mem_insert he with he | ⟨f, hf, he⟩
    · exact ⟨key, he⟩
    · rw [← he]
      exact h.texts f hf

theorem overlay (hhigh : ∀ e ∈ high, ∃ key, e.1 = .text key) (hlow : low.TextKeyed) :
    TextKeyed (overlay high low) := by
  induction high generalizing low with
  | nil => exact hlow
  | cons e high ih =>
    obtain ⟨⟨key, hkey⟩, hhigh⟩ := List.forall_mem_cons.1 hhigh
    rw [overlay_cons, hkey]
    exact ih hhigh (hlow.insert key e.2)

theorem nodup (h : table.TextKeyed) : table.Nodup := by
  refine List.Pairwise.imp_of_mem (fun {e f} he hf hne => ?_) h.distinct
  rintro rfl
  obtain ⟨key, hkey⟩ := h.texts e he
  rw [hkey, Bool.eq_false_iff] at hne
  exact hne (Value.sameKey_text.2 rfl)

/-- The entries are what is looked up. -/
theorem mem_iff (h : table.TextKeyed) {k v : Value} :
    (k, v) ∈ table ↔ ∃ key, k = .text key ∧ table.get? key = some v := by
  constructor
  · intro hmem
    obtain ⟨key, hkey⟩ := h.texts _ hmem
    exact ⟨key, hkey, h.distinct.get?_of_mem (congrArg Value.text? hkey) hmem⟩
  · rintro ⟨key, rfl, hget⟩
    obtain ⟨k, hk, hmem⟩ := mem_of_get? hget
    obtain ⟨key', hkey⟩ := h.texts _ hmem
    rw [show k = .text key' from hkey] at hk hmem
    rwa [Option.some.inj hk] at hmem

/-- Mappings with the same lookups have the same entries. -/
theorem perm_of_get? (h : table.TextKeyed) (h' : table'.TextKeyed)
    (hget : ∀ key, table.get? key = table'.get? key) : table.Perm table' := by
  rw [List.perm_ext_iff_of_nodup h.nodup h'.nodup]
  rintro ⟨k, v⟩
  simp only [h.mem_iff, h'.mem_iff, hget]

end TextKeyed

end Mapping

end FormatterConfig
