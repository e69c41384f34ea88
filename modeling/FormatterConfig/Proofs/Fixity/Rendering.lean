import FormatterConfig.Fixity.Report
import FormatterConfig.Proofs.Text.Lines

set_option autoImplicit false

/-! # How a report is shown

A report's line and column are counted in front of its place, and the line that it shows comes from
a cut of the whole text. Both are read off one form of the text: the lines in front of the place,
what is before the place in its line, and what follows. The caret is below the place, however long
the number of the line. -/

namespace FormatterConfig

open FormatterConfig.Text

/-! ## Rows below each other -/

/-- Rows one below the other, with a line end behind each. -/
theorem toList_rows {rows : List String} (h : rows ≠ []) :
    ("\n".intercalate rows ++ "\n").toList = terminated '\n' (rows.map String.toList) := by
  induction rows with
  | nil => exact absurd rfl h
  | cons row rows ih =>
    cases rows with
    | nil => simp
    | cons row' rows =>
      rw [String.intercalate_cons_cons, String.append_assoc, String.append_assoc,
        String.toList_append, String.toList_append, ih (by simp)]
      simp

namespace Report

/-! ## The place in the text -/

/-- A text falls apart at the place of a report: into lines that are ended before the place, what is
before the place in its line, and what follows. -/
structure Splits (r : Report) (earlier : List (List Char)) (left rest : List Char) : Prop where
  source : r.source.toList = terminated '\n' earlier ++ left ++ rest
  offset : r.offset = (terminated '\n' earlier ++ left).length
  earlier : ∀ line ∈ earlier, '\n' ∉ line
  left : '\n' ∉ left

variable {r : Report} {earlier : List (List Char)} {left rest : List Char}

theorem exists_splits (hstart : 0 ≤ r.offset) (hend : r.offset ≤ r.source.length) :
    ∃ earlier left rest, r.Splits earlier left rest := by
  obtain ⟨earlier, left, hearlier, hleft, hsplit⟩ :=
    exists_terminated '\n' (r.source.toList.take r.offset.toNat)
  refine ⟨earlier, left, r.source.toList.drop r.offset.toNat, ?_, ?_, hearlier, hleft⟩
  · rw [← hsplit, List.take_append_drop]
  · rw [← hsplit, List.length_take, String.length_toList]
    omega

theorem Splits.before_eq (h : r.Splits earlier left rest) :
    before r.source.toList r.offset = terminated '\n' earlier ++ left := by
  rw [before, h.offset, if_pos (Int.natCast_nonneg _), Int.toNat_natCast, h.source, List.take_left]

theorem Splits.line_eq (h : r.Splits earlier left rest) : r.line = earlier.length + 1 := by
  rw [line, h.before_eq, List.count_append, count_terminated h.earlier,
    List.count_eq_zero.2 h.left, Nat.add_zero]

theorem Splits.column_eq (h : r.Splits earlier left rest) : r.column = left.length + 1 := by
  have hstart : r.lineStart = (terminated '\n' earlier).length := by
    simp only [lineStart]
    rw [h.before_eq, takeWhile_reverse_terminated h.left, List.length_append, List.length_reverse,
      Nat.add_sub_cancel]
  rw [column, hstart, h.offset, List.length_append]
  omega

/-- The cut of the text, at the line of the place. -/
theorem Splits.cutAt_source (h : r.Splits earlier left rest) :
    ∃ later, cutAt '\n' r.source.toList =
      earlier ++ (left ++ rest.takeWhile (· != '\n')) :: later := by
  obtain ⟨later, hcut⟩ := cutAt_append_of_notMem h.left rest
  exact ⟨later, by rw [h.source, List.append_assoc, cutAt_terminated_append h.earlier, hcut]⟩

theorem Splits.drop_source (h : r.Splits earlier left rest) :
    r.source.toList.drop r.offset.toNat = rest := by
  rw [h.offset, Int.toNat_natCast, h.source, List.drop_left]

theorem Splits.getElem?_source (h : r.Splits earlier left rest) :
    r.source.toList[r.offset.toNat]? = rest.head? := by
  rw [← List.head?_drop, h.drop_source]

/-- Nothing of the line is left behind a place that is at its end. -/
theorem Splits.takeWhile_eq_nil (h : r.Splits earlier left rest)
    (hends : r.source.toList[r.offset.toNat]? = some '\n' ∨ r.offset = r.source.length) :
    rest.takeWhile (· != '\n') = [] := by
  rcases hends with hline | hlast
  · obtain ⟨tail, rfl⟩ := List.head?_eq_some_iff.1 (h.getElem?_source.symm.trans hline)
    rfl
  · rw [← h.drop_source, hlast, Int.toNat_natCast, ← String.length_toList, List.drop_length,
      List.takeWhile_nil]

/-- The lines before the place and what is before it in its line make up the offset. -/
theorem Splits.offset_eq (h : r.Splits earlier left rest) :
    r.offset = ((((cutAt '\n' r.source.toList).take (r.line - 1)).map
      fun line => line.length + 1).sum : Nat) + r.column - 1 := by
  obtain ⟨later, hcut⟩ := h.cutAt_source
  rw [h.line_eq, Nat.add_sub_cancel, hcut, List.take_left, ← @length_terminated '\n' earlier,
    h.column_eq, h.offset, List.length_append]
  omega

/-! ## The rows -/

/-- The line that is looked up is there, wherever the place is. -/
theorem getElem?_lines (r : Report) :
    (cutAt '\n' r.source.toList)[r.line - 1]? = some r.lineText := by
  have hpos : 1 ≤ r.line := Nat.le_add_left 1 _
  have hline := r.line_le
  rw [lineText, List.getElem?_eq_getElem (by omega)]
  rfl

theorem Splits.lineText_eq (h : r.Splits earlier left rest) :
    r.lineText = left ++ rest.takeWhile (· != '\n') := by
  obtain ⟨later, hcut⟩ := h.cutAt_source
  rw [lineText, h.line_eq, Nat.add_sub_cancel, hcut, List.getElem?_append_right (Nat.le_refl _),
    Nat.sub_self]
  rfl

/-- What the row with the line starts with. -/
def label (r : Report) : List Char := (toString r.line).toList ++ " | ".toList

/-- The row that shows the line. -/
def lineRow (r : Report) : List Char := r.label ++ r.lineText

/-- The row below it, with the caret. -/
def caretRow (r : Report) : List Char :=
  List.replicate (toString r.line).length ' ' ++ " | ".toList ++
    List.replicate (r.column - 1).toNat ' ' ++ ['^']

theorem length_label (r : Report) : r.label.length = (toString r.line).length + 3 := by
  rw [label, List.length_append, String.length_toList]
  rfl

theorem newline_notMem_lineRow (r : Report) : '\n' ∉ r.lineRow := by
  have htext : '\n' ∉ r.lineText := notMem_of_mem_cutAt (List.mem_of_getElem? r.getElem?_lines)
  simp only [lineRow, label, List.mem_append, not_or]
  exact ⟨⟨notMem_toString_nat rfl r.line, by decide⟩, htext⟩

theorem newline_notMem_caretRow (r : Report) : '\n' ∉ r.caretRow := by
  simp [caretRow]

/-- The third and the fourth row of a report. -/
theorem cutAt_pretty (r : Report) :
    ∃ head gutter more, cutAt '\n' r.pretty.toList =
      head :: gutter :: r.lineRow :: r.caretRow :: more := by
  let head := toString r.line ++ ":" ++ toString r.column ++ ":"
  let gutter := String.ofList (List.replicate (toString r.line).length ' ') ++ " |"
  have hhead : '\n' ∉ head.toList := by
    simp only [head, String.toList_append, List.mem_append, not_or]
    exact ⟨⟨⟨notMem_toString_nat rfl r.line, by decide⟩,
      notMem_toString_int rfl (by decide) r.column⟩, by decide⟩
  have hgutter : '\n' ∉ gutter.toList := by
    simp [gutter]
  obtain ⟨more, hpretty⟩ : ∃ more, r.pretty.toList =
      terminated '\n' [head.toList, gutter.toList, r.lineRow, r.caretRow] ++ more := by
    refine ⟨terminated '\n' (((r.unexpected.map fun what => "unexpected " ++ what).toList ++
      (if r.expecting.isEmpty then [] else ["expecting " ++ orList r.expecting]) ++
      r.reason.toList).map String.toList), ?_⟩
    rw [pretty, toList_rows (by simp), ← terminated_append]
    congr 1
    simp [head, gutter, lineRow, label, caretRow]
  refine ⟨head.toList, gutter.toList, cutAt '\n' more, ?_⟩
  rw [hpretty, cutAt_terminated_append]
  · rfl
  · simp [hhead, hgutter, r.newline_notMem_lineRow, r.newline_notMem_caretRow]

theorem idxOf_caret (r : Report) :
    '^' ∈ r.caretRow ∧ r.caretRow.idxOf '^' = r.label.length + (r.column - 1).toNat := by
  have hfront : '^' ∉ List.replicate (toString r.line).length ' ' ++ " | ".toList ++
      List.replicate (r.column - 1).toNat ' ' := by
    simp
  refine ⟨by simp [caretRow], ?_⟩
  rw [caretRow, List.idxOf_append, if_neg hfront, List.idxOf_cons_self, Nat.zero_add, length_label,
    List.length_append, List.length_append, List.length_replicate, List.length_replicate]
  rfl

/-- The row with the line, up to the caret and from there on. -/
theorem Splits.lineRow_eq (h : r.Splits earlier left rest) :
    r.lineRow = (r.label ++ left) ++ rest.takeWhile (· != '\n') ∧
      r.caretRow.idxOf '^' = (r.label ++ left).length := by
  refine ⟨by rw [lineRow, h.lineText_eq, List.append_assoc], ?_⟩
  rw [r.idxOf_caret.2, h.column_eq, List.length_append]
  omega

/-- Where a report points. The line that is shown is one of the text's lines for any offset. For one
inside the text, or at its end, line and column are those of the offset: the lines before, with
their line ends, and the columns before make up the offset. Then the caret stands below the
character at the offset, and right behind its line if that is a line end or there is none. -/
theorem caret_below_place (r : Report) :
    (∃ text, 1 ≤ r.line ∧ r.line ≤ (cutAt '\n' r.source.toList).length ∧
      (cutAt '\n' r.source.toList)[r.line - 1]? = some text ∧
      (cutAt '\n' r.pretty.toList)[2]? =
        some ((toString r.line).toList ++ " | ".toList ++ text)) ∧
    (0 ≤ r.offset → r.offset ≤ r.source.length →
      ∃ (text row caretRow : List Char) (place : Nat),
        (cutAt '\n' r.source.toList)[r.line - 1]? = some text ∧
        1 ≤ r.column ∧ r.column ≤ text.length + 1 ∧
        r.offset = ((((cutAt '\n' r.source.toList).take (r.line - 1)).map
          fun line => line.length + 1).sum : Nat) + r.column - 1 ∧
        (cutAt '\n' r.pretty.toList)[2]? = some row ∧
        row = (toString r.line).toList ++ " | ".toList ++ text ∧
        (cutAt '\n' r.pretty.toList)[3]? = some caretRow ∧
        '^' ∈ caretRow ∧ caretRow.idxOf '^' = place ∧
        place = ((toString r.line).toList ++ " | ".toList).length + (r.column - 1) ∧
        row.drop place = (r.source.toList.drop r.offset.toNat).takeWhile (· != '\n') ∧
        (∀ c, r.source.toList[r.offset.toNat]? = some c → c ≠ '\n' → row[place]? = some c) ∧
        (r.source.toList[r.offset.toNat]? = some '\n' ∨ r.offset = r.source.length →
          place = row.length)) := by
  obtain ⟨head, gutter, more, hpretty⟩ := r.cutAt_pretty
  have hrow : (cutAt '\n' r.pretty.toList)[2]? = some r.lineRow := by
    rw [hpretty]
    rfl
  refine ⟨⟨r.lineText, Nat.le_add_left 1 _, r.line_le, r.getElem?_lines, hrow⟩, ?_⟩
  intro hstart hend
  obtain ⟨earlier, left, rest, hsplits⟩ := exists_splits hstart hend
  obtain ⟨hlineRow, hplace⟩ := hsplits.lineRow_eq
  have hcolumn := hsplits.column_eq
  have hdrop : r.lineRow.drop (r.caretRow.idxOf '^') = rest.takeWhile (· != '\n') := by
    rw [hlineRow, hplace, List.drop_left]
  refine ⟨r.lineText, r.lineRow, r.caretRow, _, r.getElem?_lines, ?_, ?_, hsplits.offset_eq, hrow,
    rfl, ?_, r.idxOf_caret.1, rfl, ?_, ?_, ?_, ?_⟩
  · omega
  · rw [hsplits.lineText_eq, List.length_append]
    omega
  · rw [hpretty]
    rfl
  · show ((r.caretRow.idxOf '^' : Nat) : Int) = r.label.length + (r.column - 1)
    rw [hplace, List.length_append]
    omega
  · rw [hsplits.drop_source, hdrop]
  · intro c hc hline
    obtain ⟨tail, rfl⟩ := List.head?_eq_some_iff.1 (hsplits.getElem?_source.symm.trans hc)
    rw [← List.head?_drop, hdrop, List.takeWhile_cons_of_pos (by simp [hline]), List.head?_cons]
  · intro hends
    rw [hplace, hlineRow, hsplits.takeWhile_eq_nil hends, List.append_nil]

/-- In the tenth line, whose number has two digits. -/
theorem caret_below_place_tenth :
    let r : Report := ⟨"\n\n\n\n\n\n\n\n\nab", 10, none, [], none⟩
    0 ≤ r.offset ∧ r.offset ≤ r.source.length ∧ r.line = 10 ∧
      ∃ row caretRow, (cutAt '\n' r.pretty.toList)[2]? = some row ∧
        (cutAt '\n' r.pretty.toList)[3]? = some caretRow ∧ row = "10 | ab".toList ∧
        caretRow.idxOf '^' = 6 ∧ row[6]? = some 'b' := by
  intro r
  have hstart : 0 ≤ r.offset := by decide
  have hend : r.offset ≤ r.source.length := by decide
  have hline : r.line = 10 := by decide +kernel
  have hcolumn : r.column = 2 := by decide +kernel
  obtain ⟨text, row, caretRow, place, htext, -, -, -, hrow, hlabel, hcaretRow, -, hcaret, hplace, -,
    hbelow, -⟩ := r.caret_below_place.2 hstart hend
  have hab : (cutAt '\n' r.source.toList)[r.line - 1]? = some ['a', 'b'] := by decide +kernel
  obtain rfl : text = ['a', 'b'] := Option.some.inj (htext.symm.trans hab)
  rw [hline, hcolumn] at hplace
  obtain rfl : place = 6 := by
    have hlength : ((toString 10).toList ++ " | ".toList).length = 5 := by decide +kernel
    rw [hlength] at hplace
    omega
  refine ⟨hstart, hend, hline, row, caretRow, hrow, hcaretRow, ?_, hcaret,
    hbelow 'b' (by decide +kernel) (by decide)⟩
  rw [hlabel, hline]
  decide +kernel

end Report

end FormatterConfig
