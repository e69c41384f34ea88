import FormatterConfig.Proofs.RunConfig.Stages
import FormatterConfig.Proofs.RunConfig.Writing
import Mathlib.Data.List.DropRight

set_option autoImplicit false

/-! # The lines of a region

A region that fits an input stands for the lines from its first to its last one, where a bound that
is left open is that of the input. Its margins are what lies before and after these lines: to take
the margins off an input leaves the lines of the region and no others. The check and the margins
know nothing of each other, so both are compared with the bounds that the region stands for.

A region that does not fit is refused for the first of its misfits, in words that show its bounds.
An integer of too many digits cannot be written out, so if the words would show one the check breaks
off instead, and whoever handles refusals alone does not see it. -/

namespace FormatterConfig

/-! ## Lines by their numbers -/

/-- The lines whose numbers, counted from one, lie between two bounds. -/
def linesBetween {α : Type} (lines : List α) (first last : Int) : List α :=
  ((lines.zipIdx 1).filter fun line => first ≤ line.2 ∧ line.2 ≤ last).map Prod.fst

/-- What margins leave of some lines. -/
def Margins.takeOff {α : Type} (m : Margins) (lines : List α) : List α :=
  (lines.drop m.before.toNat).rdrop m.after.toNat

theorem filter_zipIdx_eq_nil {α : Type} (lines : List α) {start : Nat} {keep : α × Nat → Bool}
    (h : ∀ line i, start ≤ i → i < start + lines.length → keep (line, i) = false) :
    (lines.zipIdx start).filter keep = [] := by
  rw [List.filter_eq_nil_iff]
  rintro ⟨line, i⟩ hmem
  obtain ⟨hstart, hend, -⟩ := List.mem_zipIdx hmem
  rw [h line i hstart hend]
  exact Bool.false_ne_true

theorem filter_zipIdx_eq_self {α : Type} (lines : List α) {start : Nat} {keep : α × Nat → Bool}
    (h : ∀ line i, start ≤ i → i < start + lines.length → keep (line, i) = true) :
    (lines.zipIdx start).filter keep = lines.zipIdx start := by
  rw [List.filter_eq_self]
  rintro ⟨line, i⟩ hmem
  obtain ⟨hstart, hend, -⟩ := List.mem_zipIdx hmem
  exact h line i hstart hend

/-- The lines between two others are the middle one of three parts. -/
theorem linesBetween_append {α : Type} (front middle back : List α) :
    linesBetween (front ++ middle ++ back) (front.length + 1) (front.length + middle.length) =
      middle := by
  unfold linesBetween
  rw [List.zipIdx_append, List.zipIdx_append, List.filter_append, List.filter_append,
    filter_zipIdx_eq_nil front (fun _ i _ hi => decide_eq_false (by omega)),
    filter_zipIdx_eq_self middle (fun _ i hi hi' => decide_eq_true (by omega)),
    filter_zipIdx_eq_nil back (fun _ i hi _ => decide_eq_false (by simp at hi; omega)),
    List.nil_append, List.append_nil, List.zipIdx_map_fst]

theorem rdrop_drop_append {α : Type} (front middle back : List α) :
    ((front ++ middle ++ back).drop front.length).rdrop back.length = middle := by
  rw [List.append_assoc, List.drop_left, List.rdrop, List.length_append, Nat.add_sub_cancel,
    List.take_left]

/-- To drop lines at both ends is to keep those with the numbers between. -/
theorem rdrop_drop_eq_linesBetween {α : Type} (lines : List α) {before after : Nat}
    (h : before + after ≤ lines.length) :
    (lines.drop before).rdrop after = linesBetween lines (before + 1) (lines.length - after) := by
  obtain ⟨front, middle, back, rfl, rfl, rfl⟩ : ∃ front middle back,
      lines = front ++ middle ++ back ∧ front.length = before ∧ back.length = after := by
    refine ⟨lines.take before, (lines.drop before).take (lines.length - before - after),
      (lines.drop before).drop (lines.length - before - after), ?_, ?_, ?_⟩
    · rw [List.append_assoc, List.take_append_drop, List.take_append_drop]
    · rw [List.length_take]
      omega
    · rw [List.length_drop, List.length_drop]
      omega
  have hlast : ((front ++ middle ++ back).length : Int) - back.length =
      front.length + middle.length := by
    rw [List.length_append, List.length_append]
    omega
  rw [hlast, linesBetween_append, rdrop_drop_append]

/-! ## Refusals in words -/

namespace RegionFault

theorem isUnwritable_iff {fault : RegionFault} :
    fault.isUnwritable = true ↔ ∃ n ∈ fault.shown, Nat.pow 10 Decimal.digitLimit ≤ n.natAbs := by
  simp only [isUnwritable, List.any_eq_true, Decimal.exceedsDigitLimit_iff]

theorem failure_eq_refused {fault fault' : RegionFault} :
    fault.failure = .refused fault' ↔
      fault = fault' ∧ ∀ n ∈ fault.shown, n.natAbs < Nat.pow 10 Decimal.digitLimit := by
  have hwritten : (∀ n ∈ fault.shown, n.natAbs < Nat.pow 10 Decimal.digitLimit) ↔
      ¬ fault.isUnwritable = true := by
    rw [isUnwritable_iff]
    push Not
    rfl
  rw [hwritten, failure]
  split <;> simp [*]

theorem failure_eq_broken {fault : RegionFault} {cause : ConversionFault} :
    fault.failure = .broken cause ↔
      cause = .longInteger ∧ ∃ n ∈ fault.shown, Nat.pow 10 Decimal.digitLimit ≤ n.natAbs := by
  rw [← isUnwritable_iff, failure]
  split <;> simp [*, eq_comm]

end RegionFault

namespace Region

/-! ## The bounds that a region stands for -/

/-- The first line of a region. -/
def first (r : Region) : Int := r.start.getD 1

/-- The last line of a region in an input of `total` lines. -/
def last (r : Region) (total : Int) : Int := r.stop.getD total

/-- A region fits an input of `total` lines if the bounds that are given are those of lines of the
input, the first one not behind the last one. -/
structure Fits (r : Region) (total : Int) : Prop where
  start : ∀ n ∈ r.start, 1 ≤ n ∧ n ≤ total
  stop : ∀ n ∈ r.stop, 1 ≤ n ∧ n ≤ total
  ordered : ∀ m ∈ r.start, ∀ n ∈ r.stop, m ≤ n

theorem margins_eq (r : Region) (total : Int) :
    r.margins total = ⟨r.first - 1, total - r.last total⟩ := by
  obtain ⟨start | start, stop | stop⟩ := r <;> simp [margins, first, last]

/-- Margins hide neither bound. -/
theorem margins_eq_margins {r r' : Region} {total : Int} :
    r.margins total = r'.margins total ↔ r.first = r'.first ∧ r.last total = r'.last total := by
  rw [margins_eq, margins_eq, Margins.mk.injEq]
  omega

theorem fits_iff {r : Region} {total : Int} :
    r.Fits total ↔
      (∀ n ∈ r.start, 1 ≤ n ∧ n ≤ total) ∧ (∀ n ∈ r.stop, 1 ≤ n ∧ n ≤ total) ∧
        ∀ m ∈ r.start, ∀ n ∈ r.stop, m ≤ n :=
  ⟨fun h => ⟨h.start, h.stop, h.ordered⟩, fun ⟨hstart, hstop, h⟩ => ⟨hstart, hstop, h⟩⟩

/-- The check accepts what fits. -/
theorem check_eq_ok {r : Region} {total : Int} : r.check total = .ok () ↔ r.Fits total := by
  rw [fits_iff]
  obtain ⟨start | start, stop | stop⟩ := r
  all_goals simp only [check, refuse_eq_ok, refuse_last_eq_ok, Option.mem_def, Option.some.injEq,
    forall_eq', reduceCtorEq, false_implies, forall_const, and_true, true_and, not_lt]
  · exact ⟨fun _ => trivial, fun _ => rfl⟩
  · exact ⟨fun ⟨hone, hend, _⟩ => ⟨hone, hend⟩, fun ⟨hone, hend⟩ => ⟨hone, hend, rfl⟩⟩
  · exact ⟨fun ⟨hone, hend, _⟩ => ⟨hone, hend⟩, fun ⟨hone, hend⟩ => ⟨hone, hend, rfl⟩⟩
  · exact and_assoc.symm.trans (and_congr_right fun _ => and_assoc.symm)

/-! ## Regions that do not fit -/

/-- What is wrong with a region first: its start is looked at before its end, each by itself before
both together, and whether a line is too low before whether it is too high. -/
inductive Misfit (r : Region) (total : Int) : RegionFault → Prop
  | startBelowOne {start : Int} (given : r.start = some start) (low : start < 1) :
      Misfit r total (.startBelowOne start)
  | startPastEnd {start : Int} (given : r.start = some start) (proper : 1 ≤ start)
      (high : total < start) : Misfit r total (.startPastEnd start total)
  | stopBelowOne {stop : Int} (startFits : ∀ n ∈ r.start, 1 ≤ n ∧ n ≤ total)
      (given : r.stop = some stop) (low : stop < 1) : Misfit r total (.stopBelowOne stop)
  | stopPastEnd {stop : Int} (startFits : ∀ n ∈ r.start, 1 ≤ n ∧ n ≤ total)
      (given : r.stop = some stop) (proper : 1 ≤ stop) (high : total < stop) :
      Misfit r total (.stopPastEnd stop total)
  | startAfterStop {start stop : Int} (givenStart : r.start = some start)
      (givenStop : r.stop = some stop) (startFits : 1 ≤ start ∧ start ≤ total)
      (stopFits : 1 ≤ stop ∧ stop ≤ total) (behind : stop < start) :
      Misfit r total (.startAfterStop start stop)

/-- A misfit is what the check fails with. -/
theorem Misfit.check_eq {r : Region} {total : Int} {fault : RegionFault}
    (h : r.Misfit total fault) : r.check total = .error fault.failure := by
  obtain ⟨start, stop⟩ := r
  cases h with
  | startBelowOne given low =>
    obtain rfl : start = some _ := given
    simp [check, throw_eq_error, low]
  | startPastEnd given proper high =>
    obtain rfl : start = some _ := given
    simp [check, throw_eq_error, high, Int.not_lt.2 proper]
  | stopBelowOne startFits given low =>
    obtain rfl : stop = some _ := given
    cases start with
    | none => simp [check, throw_eq_error, low]
    | some start =>
      obtain ⟨hone, hend⟩ := startFits start rfl
      simp [check, throw_eq_error, low, Int.not_lt.2 hone, Int.not_lt.2 hend]
  | stopPastEnd startFits given proper high =>
    obtain rfl : stop = some _ := given
    cases start with
    | none => simp [check, throw_eq_error, high, Int.not_lt.2 proper]
    | some start =>
      obtain ⟨hone, hend⟩ := startFits start rfl
      simp [check, throw_eq_error, high, Int.not_lt.2 proper, Int.not_lt.2 hone, Int.not_lt.2 hend]
  | startAfterStop givenStart givenStop startFits stopFits behind =>
    obtain rfl : start = some _ := givenStart
    obtain rfl : stop = some _ := givenStop
    simp [check, throw_eq_error, behind, Int.not_lt.2 startFits.1, Int.not_lt.2 startFits.2,
      Int.not_lt.2 stopFits.1, Int.not_lt.2 stopFits.2]

/-- A region fits or has a misfit. -/
theorem exists_misfit {r : Region} {total : Int} (h : ¬ r.Fits total) :
    ∃ fault, r.Misfit total fault := by
  by_cases hstart : ∀ n ∈ r.start, 1 ≤ n ∧ n ≤ total
  · by_cases hstop : ∀ n ∈ r.stop, 1 ≤ n ∧ n ≤ total
    · -- each bound is a line of the input, so it is their order that is wrong
      have hordered : ¬ ∀ m ∈ r.start, ∀ n ∈ r.stop, m ≤ n := fun hordered =>
        h ⟨hstart, hstop, hordered⟩
      push Not at hordered
      obtain ⟨m, hm, n, hn, hbehind⟩ := hordered
      exact ⟨_, .startAfterStop hm hn (hstart m hm) (hstop n hn) hbehind⟩
    · push Not at hstop
      obtain ⟨n, hn, hout⟩ := hstop
      rcases lt_or_ge n 1 with hlow | hone
      · exact ⟨_, .stopBelowOne hstart hn hlow⟩
      · exact ⟨_, .stopPastEnd hstart hn hone (hout hone)⟩
  · push Not at hstart
    obtain ⟨n, hn, hout⟩ := hstart
    rcases lt_or_ge n 1 with hlow | hone
    · exact ⟨_, .startBelowOne hn hlow⟩
    · exact ⟨_, .startPastEnd hn hone (hout hone)⟩

theorem Misfit.not_fits {r : Region} {total : Int} {fault : RegionFault}
    (h : r.Misfit total fault) : ¬ r.Fits total := by
  intro hfits
  exact absurd (h.check_eq.symm.trans (check_eq_ok.2 hfits)) (by simp)

/-- The check fails with what its first misfit ends in. -/
theorem check_eq_error {r : Region} {total : Int} {failure : RegionFailure} :
    r.check total = .error failure ↔ ∃ fault, r.Misfit total fault ∧ fault.failure = failure := by
  constructor
  · intro h
    have hmisfit : ∃ fault, r.Misfit total fault := exists_misfit fun hfits =>
      absurd (h.symm.trans (check_eq_ok.2 hfits)) (by simp)
    obtain ⟨fault, hfault⟩ := hmisfit
    exact ⟨fault, hfault, Except.error.inj (hfault.check_eq.symm.trans h)⟩
  · rintro ⟨fault, hfault, rfl⟩
    exact hfault.check_eq

/-- The lines of a region that fits are lines of the input, and there are some if the input has
any. -/
theorem Fits.bounds {r : Region} {total : Int} (h : r.Fits total) (htotal : 0 ≤ total) :
    1 ≤ r.first ∧ r.first ≤ r.last total + 1 ∧ r.last total ≤ total ∧
      (1 ≤ total → r.first ≤ r.last total) := by
  obtain ⟨start | start, stop | stop⟩ := r
  all_goals simp only [first, last, Option.getD_none, Option.getD_some]
  · omega
  · have hstop := h.stop stop rfl
    omega
  · have hstart := h.start start rfl
    omega
  · have hstart := h.start start rfl
    have hstop := h.stop stop rfl
    have hordered := h.ordered start rfl stop rfl
    omega

/-- Margins that are taken off an input leave the lines of the region. -/
theorem Fits.takeOff_margins {r : Region} {total : Int} (h : r.Fits total) (htotal : 0 ≤ total)
    {α : Type} {lines : List α} (hlines : (lines.length : Int) = total) :
    (r.margins total).takeOff lines = linesBetween lines r.first (r.last total) := by
  obtain ⟨hfirst, hordered, hlast, -⟩ := h.bounds htotal
  rw [margins_eq]
  show (lines.drop (r.first - 1).toNat).rdrop (total - r.last total).toNat = _
  rw [rdrop_drop_eq_linesBetween lines (by omega)]
  congr 1 <;> omega

/-- Lines are left if the input has any. -/
theorem Fits.takeOff_margins_ne_nil {r : Region} {total : Int} (h : r.Fits total)
    (htotal : 1 ≤ total) {α : Type} {lines : List α} (hlines : (lines.length : Int) = total) :
    (r.margins total).takeOff lines ≠ [] := by
  obtain ⟨hfirst, -, hlast, hordered⟩ := h.bounds (by omega)
  have hordered := hordered htotal
  have hlength : 0 < ((r.margins total).takeOff lines).length := by
    rw [margins_eq]
    show 0 < ((lines.drop (r.first - 1).toNat).rdrop (total - r.last total).toNat).length
    rw [List.rdrop, List.length_take, List.length_drop]
    omega
  exact List.ne_nil_of_length_pos hlength

end Region

theorem RunConfig.withMargins_eq_error {c : RunConfig Region} {total : Int}
    {failure : RegionFailure} :
    c.withMargins total = .error failure ↔ c.region.check total = .error failure := by
  unfold withMargins
  cases c.region.check total with
  | ok _ => exact ⟨fun h => (nomatch h), fun h => (nomatch h)⟩
  | error failure' => simp [Except.map]

/-- A region is accepted exactly if it fits. If not it has a misfit, and is refused for that one and
no other, except that the check breaks off if the words would show an integer of more digits than
are written out. The margins of a region that is accepted are within the input, leave the lines of
the region and no others, and tell apart what regions stand for. A configuration with a region takes
its margins in its place and keeps all else if the region is accepted, and fails as the check does
if not. -/
theorem Region.check_margins_exact (r : Region) {total : Int} (htotal : 0 ≤ total) :
    (r.check total = .ok () ↔ r.Fits total) ∧
    ((∃ fault, r.Misfit total fault) ↔ ¬ r.Fits total) ∧
    (∀ fault, r.check total = .error (.refused fault) ↔
      r.Misfit total fault ∧ ∀ n ∈ fault.shown, n.natAbs < Nat.pow 10 Decimal.digitLimit) ∧
    (∀ cause, r.check total = .error (.broken cause) ↔
      cause = .longInteger ∧ ∃ fault, r.Misfit total fault ∧
        ∃ n ∈ fault.shown, Nat.pow 10 Decimal.digitLimit ≤ n.natAbs) ∧
    (r.check total = .ok () →
      (r.marginsLogged total : Logged RegionFailure Margins).outcome = .ok (r.margins total) ∧
      0 ≤ (r.margins total).before ∧ 0 ≤ (r.margins total).after ∧
      (r.margins total).before + (r.margins total).after ≤ total ∧
      (∀ (α : Type) (lines : List α), (lines.length : Int) = total →
        (r.margins total).takeOff lines = linesBetween lines r.first (r.last total) ∧
        (1 ≤ total → (r.margins total).takeOff lines ≠ [])) ∧
      ∀ r' : Region, r'.check total = .ok () →
        (r.margins total = r'.margins total ↔
          r.first = r'.first ∧ r.last total = r'.last total)) ∧
    ∀ c : RunConfig Region, c.region = r →
      (∀ failure, (c.withMarginsLogged total).outcome = .error failure ↔
        r.check total = .error failure) ∧
      (r.check total = .ok () → ∃ d : RunConfig Margins,
        (c.withMarginsLogged total).outcome = .ok d ∧ d.region = r.margins total ∧
        d.mapRegion (fun _ => r) = c) := by
  refine ⟨check_eq_ok, ⟨?_, exists_misfit⟩, fun fault => ?_, fun cause => ?_, fun hcheck => ?_, ?_⟩
  · rintro ⟨fault, hfault⟩
    exact hfault.not_fits
  · simp only [check_eq_error, RegionFault.failure_eq_refused]
    constructor
    · rintro ⟨fault', hfault, rfl, hwritten⟩
      exact ⟨hfault, hwritten⟩
    · rintro ⟨hfault, hwritten⟩
      exact ⟨fault, hfault, rfl, hwritten⟩
  · simp only [check_eq_error, RegionFault.failure_eq_broken]
    constructor
    · rintro ⟨fault, hfault, hcause, hlong⟩
      exact ⟨hcause, fault, hfault, hlong⟩
    · rintro ⟨hcause, fault, hfault, hlong⟩
      exact ⟨fault, hfault, hcause, hlong⟩
  · have hfits := check_eq_ok.1 hcheck
    obtain ⟨hfirst, hordered, hlast, -⟩ := hfits.bounds htotal
    have hmargins := r.margins_eq total
    refine ⟨outcome_marginsLogged r total, ?_, ?_, ?_, fun α lines hlines => ?_,
      fun r' _ => margins_eq_margins⟩
    · rw [hmargins]
      show 0 ≤ r.first - 1
      omega
    · rw [hmargins]
      show 0 ≤ total - r.last total
      omega
    · rw [hmargins]
      show r.first - 1 + (total - r.last total) ≤ total
      omega
    · exact ⟨hfits.takeOff_margins htotal hlines, fun h => hfits.takeOff_margins_ne_nil h hlines⟩
  · rintro c rfl
    rw [RunConfig.outcome_withMarginsLogged]
    exact ⟨fun failure => RunConfig.withMargins_eq_error, fun hcheck =>
      ⟨c.convertRegion total, RunConfig.withMargins_eq_ok.2 ⟨hcheck, rfl⟩, rfl, rfl⟩⟩

/-- From the third line on, of five. -/
theorem Region.check_margins_exact_open : ∃ c : RunConfig Region,
    c.region = ⟨some 3, none⟩ ∧ (c.region.check 5 = .ok () ↔ c.region.Fits 5) ∧
    c.region.check 5 = .ok () ∧ c.region.margins 5 = ⟨2, 0⟩ ∧
    (c.region.margins 5).takeOff ["a", "b", "c", "d", "e"] = ["c", "d", "e"] ∧
    (c.region.margins 5 = Region.margins ⟨some 3, some 5⟩ 5 ↔
      (3 : Int) = 3 ∧ (5 : Int) = 5) ∧
    ∃ d : RunConfig Margins, (c.withMarginsLogged 5).outcome = .ok d ∧ d.region = ⟨2, 0⟩ := by
  obtain ⟨hcheck, -, -, -, hpasses, hconfig⟩ :=
    @Region.check_margins_exact ⟨some 3, none⟩ 5 (by decide)
  obtain ⟨-, -, -, -, hlines, hsame⟩ := hpasses rfl
  obtain ⟨-, hok⟩ := hconfig (RunConfig.default.mapRegion fun _ => ⟨some 3, none⟩) rfl
  obtain ⟨d, hd, hregion, -⟩ := hok rfl
  exact ⟨RunConfig.default.mapRegion fun _ => ⟨some 3, none⟩, rfl, hcheck, rfl, rfl,
    (hlines String ["a", "b", "c", "d", "e"] rfl).1.trans rfl, hsame ⟨some 3, some 5⟩ rfl,
    d, hd, hregion⟩

/-- A region that starts far before the first line does not fit, and is not refused for it: the
number of the line has one digit too many for the words. -/
theorem Region.check_breaks_of_overlong : ∃ c : RunConfig Region,
    c.region = ⟨some (-(Nat.pow 10 Decimal.digitLimit : Nat)), none⟩ ∧ ¬ c.region.Fits 3 ∧
    c.region.check 3 = .error (.broken .longInteger) ∧
    (c.withMarginsLogged 3).outcome = .error (.broken .longInteger) ∧
    ∀ fault, (c.withMarginsLogged 3).outcome ≠ .error (.refused fault) := by
  let c : RunConfig Region := RunConfig.default.mapRegion fun _ =>
    ⟨some (-(Nat.pow 10 Decimal.digitLimit : Nat)), none⟩
  have hmisfit : c.region.Misfit 3 (.startBelowOne (-(Nat.pow 10 Decimal.digitLimit : Nat))) :=
    .startBelowOne rfl (by omega)
  have hcheck : c.region.check 3 = .error (.broken .longInteger) := by
    refine check_eq_error.2 ⟨_, hmisfit, RegionFault.failure_eq_broken.2 ⟨rfl, _, .head _, ?_⟩⟩
    rw [Int.natAbs_neg, Int.natAbs_natCast]
  have hfails : (c.withMarginsLogged 3).outcome = .error (.broken .longInteger) := by
    rw [RunConfig.outcome_withMarginsLogged]
    exact RunConfig.withMargins_eq_error.2 hcheck
  refine ⟨c, rfl, hmisfit.not_fits, hcheck, hfails, fun fault h => ?_⟩
  exact absurd (hfails.symm.trans h) (by simp)

end FormatterConfig
