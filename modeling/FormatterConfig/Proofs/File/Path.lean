import FormatterConfig.File.Path
import Mathlib.Data.List.Chain
import Mathlib.Data.List.Induction

set_option autoImplicit false

/-! # The normal form of a path

Resolving two points keeps a stack of components. What it leaves is where the components lead one
after the other, with no way above the root, and it leaves no two points. So a normal form is its
own normal form, and so is each directory above it. These directories are a chain of parents up to
the root, and the chain from one of them on is that of this one. -/

namespace FormatterConfig.Path

variable {p d : Path} {parts before : List String} {part : String}

/-! ## Where components lead -/

/-- Where a component leads from a place: an empty one and a point stay there, two points lead up,
but never above the root, and a name leads down. -/
def enter (place : List String) (part : String) : List String :=
  if part = "" ∨ part = "." then place
  else if part = ".." then place.dropLast
  else place ++ [part]

/-- The components of a text, with the empty ones and the points. -/
def pieces (s : String) : List String := (Text.cutAt '/' s.toList).map String.ofList

/-! ## The stack of components -/

theorem resolveDots_name {rooted : Bool} (h : part ≠ "..") :
    resolveDots rooted before (part :: parts) = resolveDots rooted (part :: before) parts := by
  cases before <;> simp [resolveDots, h]

theorem resolveDots_up_root : resolveDots true [] (".." :: parts) = resolveDots true [] parts := by
  simp [resolveDots]

theorem resolveDots_up {rooted : Bool} {b : String} (h : b ≠ "..") :
    resolveDots rooted (b :: before) (".." :: parts) = resolveDots rooted before parts := by
  simp [resolveDots, h]

/-- From a root, the stack is the place that the components lead to. -/
theorem resolveDots_eq_foldl_enter (hbefore : ".." ∉ before)
    (hparts : ∀ part ∈ parts, part ≠ "" ∧ part ≠ ".") :
    resolveDots true before parts = parts.foldl enter before.reverse := by
  induction parts generalizing before with
  | nil => rfl
  | cons part rest ih =>
    obtain ⟨hpart, hrest⟩ := List.forall_mem_cons.1 hparts
    have hstays : ¬(part = "" ∨ part = ".") := not_or.2 hpart
    rw [List.foldl_cons, enter, if_neg hstays]
    by_cases hup : part = ".."
    · rw [if_pos hup, hup]
      cases before with
      | nil => rw [resolveDots_up_root, ih hbefore hrest, List.reverse_nil, List.dropLast_nil]
      | cons b before =>
        rw [List.mem_cons, not_or] at hbefore
        rw [resolveDots_up (Ne.symm hbefore.1), ih hbefore.2 hrest, List.reverse_cons,
          List.dropLast_concat]
    · have hmore : ".." ∉ part :: before := by simp [hbefore, Ne.symm hup]
      rw [resolveDots_name hup, if_neg hup, ih hmore hrest, List.reverse_cons]

/-- The components that reading drops lead nowhere. -/
theorem foldl_enter_components (place : List String) (s : String) :
    (components s.toList).foldl enter place = (pieces s).foldl enter place := by
  unfold components pieces
  generalize (Text.cutAt '/' s.toList).map String.ofList = parts
  induction parts generalizing place with
  | nil => rfl
  | cons part rest ih =>
    by_cases hstays : part = "" ∨ part = "."
    · have hdropped : (part != "" && part != ".") = false := by
        rcases hstays with rfl | rfl <;> rfl
      rw [List.filter_cons, hdropped, List.foldl_cons, enter, if_pos hstays, ← ih]
      rfl
    · have hkept : (part != "" && part != ".") = true := by simpa [not_or] using hstays
      rw [List.filter_cons, if_pos hkept, List.foldl_cons, List.foldl_cons, ih]

theorem components_ne_point {s : String} :
    ∀ part ∈ components s.toList, part ≠ "" ∧ part ≠ "." := by
  intro part hmem
  simpa [components] using (List.mem_filter.1 hmem).2

/-! ## Canonical paths -/

/-- A path from a root that leads nowhere up. -/
structure Canonical (p : Path) : Prop where
  absolute : p.isAbsolute = true
  noUp : ".." ∉ p.parts

theorem notMem_resolveDots (hbefore : ".." ∉ before) : ".." ∉ resolveDots true before parts := by
  induction parts generalizing before with
  | nil => simpa [resolveDots] using hbefore
  | cons part rest ih =>
    by_cases hup : part = ".."
    · rw [hup]
      cases before with
      | nil =>
        rw [resolveDots_up_root]
        exact ih hbefore
      | cons b before =>
        rw [List.mem_cons, not_or] at hbefore
        rw [resolveDots_up (Ne.symm hbefore.1)]
        exact ih hbefore.2
    · rw [resolveDots_name hup]
      exact ih (by simp [hbefore, Ne.symm hup])

/-- Components that lead nowhere up are put on the stack. -/
theorem resolveDots_append {rooted : Bool} (hparts : ".." ∉ parts) (rest : List String) :
    resolveDots rooted before (parts ++ rest) =
      resolveDots rooted (parts.reverse ++ before) rest := by
  induction parts generalizing before with
  | nil => rfl
  | cons part parts ih =>
    rw [List.mem_cons, not_or] at hparts
    rw [List.cons_append, resolveDots_name (Ne.symm hparts.1), ih hparts.2, List.reverse_cons,
      List.append_assoc, List.singleton_append]

/-- A normal form from a root is canonical. -/
theorem canonical_normalize (h : p.isAbsolute = true) : p.normalize.Canonical where
  absolute := h
  noUp := by
    show ".." ∉ resolveDots p.isAbsolute [] p.parts
    rw [h]
    exact notMem_resolveDots (by simp)

/-- A canonical path is its own normal form. -/
theorem Canonical.normalize_eq (h : p.Canonical) : p.normalize = p := by
  have hparts : resolveDots p.isAbsolute [] (p.parts ++ []) = p.parts := by
    rw [resolveDots_append h.noUp, List.append_nil, resolveDots, List.reverse_reverse]
  rw [List.append_nil] at hparts
  rw [normalize, hparts]

theorem rootSlashes_eq_zero {cs : List Char} : rootSlashes cs = 0 ↔ cs.head? ≠ some '/' := by
  cases cs with
  | nil => simp [rootSlashes]
  | cons c rest =>
    by_cases hc : c = '/'
    · simp only [rootSlashes, hc, beq_self_eq_true, List.takeWhile_cons_of_pos, List.length_cons]
      split
      · omega
      · split <;> simp
    · simp [rootSlashes, hc]

theorem isAbsolute_ofText {s : String} :
    (ofText s).isAbsolute = true ↔ s.toList.head? = some '/' := by
  show (rootSlashes s.toList != 0) = true ↔ _
  rw [bne_iff_ne, ne_eq, rootSlashes_eq_zero, not_not]

/-- The normal form of a text from a root. -/
theorem normalize_ofText {s : String} (h : s.toList.head? = some '/') :
    (ofText s).normalize = ⟨rootSlashes s.toList, (pieces s).foldl enter []⟩ := by
  have hparts : resolveDots true [] (components s.toList) = (pieces s).foldl enter [] := by
    rw [resolveDots_eq_foldl_enter (by simp) components_ne_point, List.reverse_nil,
      foldl_enter_components]
  rw [normalize, isAbsolute_ofText.2 h]
  exact congrArg (Path.mk _) hparts

/-- The normal form of a text from a directory. -/
theorem Canonical.normalize_join_ofText (hd : d.Canonical) {s : String}
    (h : s.toList.head? ≠ some '/') :
    (d.join (ofText s)).normalize = ⟨d.slashes, (pieces s).foldl enter d.parts⟩ := by
  have hparts : resolveDots true [] (d.parts ++ components s.toList) =
      (pieces s).foldl enter d.parts := by
    rw [resolveDots_append hd.noUp, List.append_nil,
      resolveDots_eq_foldl_enter (by simp [hd.noUp]) components_ne_point, List.reverse_reverse,
      foldl_enter_components]
  have hjoin : d.join (ofText s) = ⟨d.slashes, d.parts ++ components s.toList⟩ := by
    rw [join, if_neg fun habsolute => h (isAbsolute_ofText.1 habsolute)]
    rfl
  have habsolute : (Path.mk d.slashes (d.parts ++ components s.toList)).isAbsolute = true :=
    hd.absolute
  rw [hjoin, normalize, habsolute]
  exact congrArg (Path.mk _) hparts

theorem isAbsolute_join {workingDirectory : Path} (h : workingDirectory.isAbsolute = true) :
    (workingDirectory.join p).isAbsolute = true := by
  unfold join
  split
  · assumption
  · exact h

theorem Canonical.parent (h : p.Canonical) : p.parent.Canonical :=
  ⟨h.absolute, fun hmem => h.noUp ((List.dropLast_sublist _).subset hmem)⟩

/-! ## The way up -/

/-- A path and the directories above it, nearest first. -/
def upward (p : Path) : List Path := p :: p.ancestors

/-- A chain of directories from a first one up to a root, each one the parent of the one before. -/
structure IsClimb (first : Path) (chain : List Path) : Prop where
  head : chain.head? = some first
  steps : chain.IsChain fun d e => e = d.parent
  last : chain.getLast? = some ⟨first.slashes, []⟩
  nodup : chain.Nodup

theorem upward_root (slashes : Nat) : (Path.mk slashes []).upward = [⟨slashes, []⟩] := rfl

theorem upward_snoc (slashes : Nat) (parts : List String) (part : String) :
    (Path.mk slashes (parts ++ [part])).upward =
      ⟨slashes, parts ++ [part]⟩ :: (Path.mk slashes parts).upward := by
  rw [upward, ancestors_snoc, upward]

/-- What is above a path is a beginning of it. -/
theorem of_mem_upward (h : d ∈ p.upward) : d.slashes = p.slashes ∧ d.parts <+: p.parts := by
  obtain ⟨slashes, parts⟩ := p
  induction parts using List.reverseRecOn with
  | nil =>
    obtain rfl := List.mem_singleton.1 h
    exact ⟨rfl, List.prefix_rfl⟩
  | append_singleton parts part ih =>
    rw [upward_snoc] at h
    rcases List.mem_cons.1 h with rfl | h
    · exact ⟨rfl, List.prefix_rfl⟩
    · obtain ⟨hslashes, hparts⟩ := ih h
      exact ⟨hslashes, hparts.trans (List.prefix_append parts [part])⟩

theorem Canonical.of_mem_upward (hp : p.Canonical) (h : d ∈ p.upward) : d.Canonical := by
  obtain ⟨hslashes, hparts⟩ := Path.of_mem_upward h
  refine ⟨?_, fun hmem => hp.noUp (hparts.subset hmem)⟩
  have habsolute := hp.absolute
  rw [isAbsolute] at habsolute ⊢
  rwa [hslashes]

theorem isClimb_upward (p : Path) : p.IsClimb p.upward := by
  obtain ⟨slashes, parts⟩ := p
  induction parts using List.reverseRecOn with
  | nil => exact ⟨rfl, List.isChain_singleton _, rfl, List.pairwise_singleton _ _⟩
  | append_singleton parts part ih =>
    rw [upward_snoc]
    refine ⟨rfl, ih.steps.cons fun d hd => ?_, ?_, List.nodup_cons.2 ⟨?_, ih.nodup⟩⟩
    · obtain rfl : ⟨slashes, parts⟩ = d := Option.some.inj (ih.head.symm.trans hd)
      simp [parent]
    · rw [upward, List.getLast?_cons_cons]
      exact ih.last
    · -- the path is longer than all that is above it
      intro hmem
      have hlength : (parts ++ [part]).length ≤ parts.length := (of_mem_upward hmem).2.length_le
      rw [List.length_append, List.length_singleton] at hlength
      omega

/-- The way up from a directory on the way up is the rest of it. -/
theorem upward_of_split {after before : List Path} (h : p.upward = before ++ d :: after) :
    d.upward = d :: after := by
  obtain ⟨slashes, parts⟩ := p
  induction parts using List.reverseRecOn generalizing before with
  | nil =>
    rw [upward_root] at h
    cases before with
    | nil =>
      obtain ⟨rfl, rfl⟩ := List.cons.inj h
      exact upward_root slashes
    | cons b before => exact absurd (List.cons.inj h).2 (by simp)
  | append_singleton parts part ih =>
    rw [upward_snoc] at h
    cases before with
    | nil =>
      obtain ⟨rfl, rfl⟩ := List.cons.inj h
      exact upward_snoc slashes parts part
    | cons b before => exact ih (List.cons.inj h).2

end FormatterConfig.Path
