import FormatterConfig.Proofs.ConfigFile.Contents
import FormatterConfig.Proofs.Fixity.Refusal
import FormatterConfig.Proofs.Value.LongInteger

set_option autoImplicit false

/-! # Which documents are refused

A document whose numbers are short enough to be converted is refused exactly if one of the keys that
are read holds an invalid value, and the refusal is that of the first fault. Nothing else of the
document matters: neither the entries of other keys nor the order of those that are read. -/

namespace FormatterConfig.ConfigFile

/-! ## The keys that are read -/

/-- Whether a key that is read holds an invalid value: a setting is given a value that it does not
take, or the fixities are given and no list of texts that are all declarations. -/
def Invalid (table : Mapping) : Prop :=
  (∃ (s : Setting) (v : Value), table.given? s.key = some v ∧ s.kind.reading? v = none) ∨
    ∃ v, table.given? fixitiesKey = some v ∧
      ¬ ∃ texts, v.list? = some texts ∧ ∀ d ∈ texts, d.isText = true ∧ Readable d

theorem FirstFault.invalid {table : Mapping} {fault : ContentFault} (h : FirstFault table fault) :
    Invalid table := by
  cases h with
  | setting given refused before => exact .inl ⟨_, _, given, refused⟩
  | notList settings given noList =>
    refine .inr ⟨_, given, ?_⟩
    rintro ⟨texts, htexts, -⟩
    rw [noList] at htexts
    exact absurd htexts (by simp)
  | notText settings given items texts noText =>
    refine .inr ⟨_, given, ?_⟩
    rintro ⟨ds, hds, hall⟩
    rw [items] at hds
    cases hds
    rw [(hall _ (by simp)).1] at noText
    exact absurd noText (by simp)
  | @declaration v d before after fault settings given items texts readable unreadable =>
    refine .inr ⟨_, given, ?_⟩
    rintro ⟨ds, hds, hall⟩
    rw [items] at hds
    cases hds
    obtain ⟨pairs, hpairs⟩ := (hall d (by simp)).2
    rw [unreadable] at hpairs
    exact absurd hpairs (by simp)

end FormatterConfig.ConfigFile
