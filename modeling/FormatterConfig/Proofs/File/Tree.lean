import FormatterConfig.File.Tree
import FormatterConfig.Proofs.Outcome

set_option autoImplicit false

/-! # Questions about a tree

A path leads straight to a place if each of its components stands in a directory, is short, names no
direction and is no link. What is asked about such a path is answered by what stands at the place of
that name. Nothing is a directory and a file. -/

namespace FormatterConfig.Tree

variable {t : Tree} {workingDirectory : Option Place} {links : Nat} {place : Place} {part : String}
  {parts rest : List String}

/-! ## Straight paths -/

/-- Whether a component is a name, and not a direction or too long. -/
def isName (part : String) : Bool :=
  !isLongName part && part != "" && part != "." && part != ".."

/-- Whether a name stands in a directory at a place and is no link. -/
def holds (t : Tree) (place : Place) (part : String) : Bool :=
  match t.at? place, t.at? (place ++ [part]) with
  | some .directory, some (.link _) => false
  | some .directory, some _ => true
  | _, _ => false

/-- Whether components lead straight on from a place. -/
def isStraight (t : Tree) : Place → List String → Bool
  | _, [] => true
  | place, part :: rest => isName part && t.holds place part && isStraight t (place ++ [part]) rest

theorem enter_of_isName (hplace : t.at? place = some .directory) (hpart : isName part = true) :
    t.enter place part = .ok (place ++ [part]) := by
  simp only [isName, Bool.and_eq_true, Bool.not_eq_true'] at hpart
  simp [enter, hplace, hpart.1.1.1]

theorem noDirection_of_isName (hpart : isName part = true) :
    (part == "" || part == ".") = false ∧ (part == "..") = false := by
  simp only [isName, Bool.and_eq_true, bne_iff_ne, ne_eq] at hpart
  obtain ⟨⟨⟨-, hempty⟩, hpoint⟩, hup⟩ := hpart
  simp [hempty, hpoint, hup]

/-- A name is followed to what it names. -/
theorem walk_cons_of_holds (hpart : isName part = true) (hheld : t.holds place part = true) :
    t.walk links place (part :: rest) = t.walk links (place ++ [part]) rest := by
  obtain ⟨hstays, hup⟩ := noDirection_of_isName hpart
  unfold holds at hheld
  split at hheld
  · cases hheld
  · next e hlink hplace hinner =>
    rw [walk, enter_of_isName hplace hpart]
    cases e with
    | link target => exact absurd rfl (hlink target)
    | directory => simp only [hstays, hup, hinner, Bool.false_eq_true, if_false]
    | file bytes => simp only [hstays, hup, hinner, Bool.false_eq_true, if_false]
  · cases hheld

/-- A link is replaced by its target. -/
theorem walk_cons_of_link {target : String} (hplace : t.at? place = some .directory)
    (hpart : isName part = true) (hlink : t.at? (place ++ [part]) = some (.link target)) :
    t.walk (links + 1) place (part :: rest) =
      t.walk links (linkStart place target) (linkParts target ++ rest) := by
  obtain ⟨hstays, hup⟩ := noDirection_of_isName hpart
  rw [walk, enter_of_isName hplace hpart]
  simp only [hstays, hup, hlink, Bool.false_eq_true, if_false]

/-- A target without slashes names something in the directory of the link. -/
theorem link_of_noSlash {target : String} (hempty : target ≠ "") (hslash : '/' ∉ target.toList)
    (directory : Place) :
    linkStart directory target = directory ∧ linkParts target = [target] := by
  have hcut : Text.cutAt '/' target.toList = [target.toList] := Text.cutAt_of_notMem hslash
  constructor
  · rw [linkStart, if_neg]
    exact fun hhead => hslash (List.mem_of_mem_head? hhead)
  · simp [linkParts, hcut, hempty]

/-- No directory holds a name that is too long. -/
theorem walk_cons_of_isLongName (hplace : t.at? place = some .directory)
    (hpart : isLongName part = true) :
    t.walk links place (part :: rest) = .error .nameTooLong := by
  have henter : t.enter place part = .error .nameTooLong := by simp [enter, hplace, hpart]
  rw [walk, henter]

/-- A link to such a name leads nowhere. -/
theorem walk_cons_of_longLink {target : String} (hplace : t.at? place = some .directory)
    (hpart : isName part = true) (hlink : t.at? (place ++ [part]) = some (.link target))
    (hslash : '/' ∉ target.toList) (hlong : isLongName target = true) :
    t.walk (links + 1) place (part :: rest) = .error .nameTooLong := by
  have hempty : target ≠ "" := by
    intro h
    rw [h] at hlong
    exact absurd hlong (by decide)
  obtain ⟨hdirectory, hparts⟩ := link_of_noSlash hempty hslash place
  rw [walk_cons_of_link hplace hpart hlink, hdirectory, hparts, List.singleton_append,
    walk_cons_of_isLongName hplace hlong]

/-- A straight way is taken as it is written. -/
theorem walk_append_of_isStraight (h : t.isStraight place parts = true) :
    t.walk links place (parts ++ rest) = t.walk links (place ++ parts) rest := by
  induction parts generalizing place with
  | nil => rw [List.nil_append, List.append_nil]
  | cons part parts ih =>
    simp only [isStraight, Bool.and_eq_true] at h
    obtain ⟨⟨hpart, hheld⟩, hparts⟩ := h
    rw [List.cons_append, walk_cons_of_holds hpart hheld, ih hparts, List.append_assoc,
      List.singleton_append]

/-! ## Answers -/

/-- Whether a path can be asked about: it starts at the root, is not too long and has no null. -/
def isAsked (p : Path) : Bool := p.isAbsolute && !isLongPath p.text && !p.holdsNull

theorem find_of_isStraight {p : Path} {e : Entry} (hp : isAsked p = true)
    (hstraight : t.isStraight [] p.parts = true) (he : t.at? p.parts = some e) :
    t.find workingDirectory p = .ok e := by
  simp only [isAsked, Bool.and_eq_true, Bool.not_eq_true'] at hp
  obtain ⟨⟨habsolute, hshort⟩, -⟩ := hp
  have hwalk : t.walk linkLimit [] p.parts = .ok p.parts := by
    have happend : t.walk linkLimit [] (p.parts ++ []) = t.walk linkLimit ([] ++ p.parts) [] :=
      walk_append_of_isStraight hstraight
    rwa [List.append_nil, List.nil_append, walk] at happend
  simp [find, resolve, start, habsolute, hshort, hwalk, he, pure, Except.pure]

theorem ask_of_find {sort : Entry → Bool} {p : Path} {e : Entry} (hp : isAsked p = true)
    (hfind : t.find workingDirectory p = .ok e) :
    t.ask workingDirectory sort p = .ok (sort e) := by
  simp only [isAsked, Bool.and_eq_true, Bool.not_eq_true'] at hp
  simp [ask, hp.2, hfind]

/-- A fault on the way that does not say that nothing is there leaves a question open. -/
theorem ask_of_walk_eq_error {sort : Entry → Bool} {p : Path} {fault : PathFault}
    (hp : isAsked p = true) (hwalk : t.walk linkLimit [] p.parts = .error fault)
    (hfault : fault.isAbsence = false) : t.ask workingDirectory sort p = .error fault := by
  simp only [isAsked, Bool.and_eq_true, Bool.not_eq_true'] at hp
  obtain ⟨⟨habsolute, hshort⟩, hnull⟩ := hp
  have hfind : t.find workingDirectory p = .error fault := by
    simp [find, resolve, start, habsolute, hshort, hwalk]
  simp [ask, hnull, hfind, hfault]

theorem isFile_of_walk_eq_error {p : Path} {fault : PathFault} (hp : isAsked p = true)
    (hwalk : t.walk linkLimit [] p.parts = .error fault) (hfault : fault.isAbsence = false) :
    t.isFile workingDirectory p = .error fault :=
  ask_of_walk_eq_error hp hwalk hfault

theorem isDirectory_of_walk_eq_error {p : Path} {fault : PathFault} (hp : isAsked p = true)
    (hwalk : t.walk linkLimit [] p.parts = .error fault) (hfault : fault.isAbsence = false) :
    t.isDirectory workingDirectory p = .error fault :=
  ask_of_walk_eq_error hp hwalk hfault

/-- What is answered about a path that leads straight to a directory. -/
theorem isDirectory_of_isStraight {p : Path} (hp : isAsked p = true)
    (hstraight : t.isStraight [] p.parts = true) (he : t.at? p.parts = some .directory) :
    t.isDirectory workingDirectory p = .ok true :=
  ask_of_find hp (find_of_isStraight hp hstraight he)

/-- What is answered about a path to a file. -/
structure IsFileAt (t : Tree) (workingDirectory : Option Place) (p : Path) (bytes : List UInt8) :
    Prop where
  isFile : t.isFile workingDirectory p = .ok true
  isDirectory : t.isDirectory workingDirectory p = .ok false
  read : t.read workingDirectory p = .ok bytes

theorem isFileAt_of_isStraight {p : Path} {bytes : List UInt8} (hp : isAsked p = true)
    (hstraight : t.isStraight [] p.parts = true) (he : t.at? p.parts = some (.file bytes)) :
    t.IsFileAt workingDirectory p bytes := by
  have hfind : t.find workingDirectory p = .ok (.file bytes) := find_of_isStraight hp hstraight he
  refine ⟨ask_of_find hp hfind, ask_of_find hp hfind, ?_⟩
  rw [read, hfind]

/-- Where there is a directory, there is no file. -/
theorem isFile_of_isDirectory {p : Path} (h : t.isDirectory workingDirectory p = .ok true) :
    t.isFile workingDirectory p = .ok false := by
  unfold isDirectory ask at h
  unfold isFile ask
  split
  · rfl
  · next hnull =>
    rw [if_neg hnull] at h
    cases hfind : t.find workingDirectory p with
    | error fault =>
      rw [hfind] at h
      cases hfault : fault.isAbsence <;> simp [hfault] at h
    | ok e =>
      rw [hfind] at h
      cases e with
      | directory => rfl
      | file bytes => simp at h
      | link target => simp at h

end FormatterConfig.Tree
