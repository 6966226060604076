import Mathlib.Algebra.GroupWithZero.Nat
import FeatureRefs.Proofs.Todo.Page
import FeatureRefs.Proofs.Uri.Characters

/-!
# Which reports are tables in Markdown

A line of a Markdown table is split at its bars, and a backslash right before a bar takes it out. Of
the texts in a row, only the name of the feature is written with such backslashes. All others go into
the line as they are, so the table keeps its shape exactly where none of them has a line feed or a
bar without a backslash. In the URI of a file nothing but a bar can do harm, because line feeds and
backslashes are percent encoded there.
-/

namespace FeatureRefs

/-! ## Lines of a text that is made of lines -/

namespace Text

/-- A line ends at the first line feed; only a carriage return in front of it would be lost. -/
theorem lines_append_newline {line : List Char} (hnewline : '\n' ∉ line)
    (hreturn : line.getLast? ≠ some '\r') (rest : List Char) :
    lines (line ++ '\n' :: rest) = line :: lines rest := by
  induction line with
  | nil => exact lines_newline rest
  | cons c line ih =>
      obtain ⟨hc, hline⟩ := List.ne_and_not_mem_of_not_mem_cons hnewline
      have hlast : line.getLast? ≠ some '\r' := by
        intro hsome
        apply hreturn
        rw [List.getLast?_cons, hsome]
        rfl
      -- A line ending of two characters would begin in the line only if it ended in a return.
      have hfirst : c = '\r' → ∀ behind, line ++ '\n' :: rest ≠ '\n' :: behind := by
        rintro rfl behind hbehind
        cases line with
        | nil => exact hreturn rfl
        | cons d line =>
            obtain rfl := (List.cons.inj hbehind).1
            exact hline List.mem_cons_self
      rw [List.cons_append, lines, ih hline hlast]
      · rintro rfl
        exact hc rfl
      · intro behind hr hbehind
        exact hfirst hr behind hbehind

/-- The text of some lines, each with a line feed behind it. -/
def ofLines (textLines : List (List Char)) : List Char :=
  textLines.flatMap (· ++ ['\n'])

/-- Lines are read back where no line has a line feed or ends in a carriage return. -/
theorem lines_ofLines_append {textLines : List (List Char)}
    (h : ∀ line ∈ textLines, '\n' ∉ line ∧ line.getLast? ≠ some '\r') (rest : List Char) :
    lines (ofLines textLines ++ rest) = textLines ++ lines rest := by
  induction textLines with
  | nil => rfl
  | cons line textLines ih =>
      obtain ⟨⟨hnewline, hreturn⟩, hothers⟩ := List.forall_mem_cons.1 h
      have hrest := ih hothers
      rw [ofLines, List.flatMap_cons, List.append_assoc, List.append_assoc, List.singleton_append,
        lines_append_newline hnewline hreturn, ← ofLines, hrest, List.cons_append]

theorem lines_ofLines {textLines : List (List Char)}
    (h : ∀ line ∈ textLines, '\n' ∉ line ∧ line.getLast? ≠ some '\r') :
    lines (ofLines textLines) = textLines := by
  have hread := lines_ofLines_append h []
  rwa [List.append_nil, lines_nil, List.append_nil] at hread

theorem count_newline_le_length_lines (text : List Char) :
    text.count '\n' ≤ (lines text).length := by
  fun_induction lines text with
  | case1 => exact Nat.le_refl _
  | case2 rest ih => simpa using ih
  | case3 rest ih => simpa using ih
  | case4 c rest hc hreturn hnil ih =>
      obtain rfl := lines_eq_nil_iff.1 hnil
      have hne : c ≠ '\n' := fun heq => hc heq
      simp [hne]
  | case5 c rest hc hreturn first others hlines ih =>
      have hne : c ≠ '\n' := fun heq => hc heq
      rw [hlines] at ih
      simpa [hne] using ih

theorem count_newline_ofLines (textLines : List (List Char)) :
    (ofLines textLines).count '\n' = textLines.length + textLines.flatten.count '\n' := by
  induction textLines with
  | nil => rfl
  | cons line textLines ih =>
      have hcount := ih
      rw [ofLines] at hcount ⊢
      rw [List.flatMap_cons, List.count_append, hcount, List.flatten_cons, List.count_append,
        List.count_append, List.length_cons, List.count_singleton_self]
      omega

/-- A line feed in one of the lines makes more lines of them. -/
theorem newline_not_mem_of_length_lines_le {textLines : List (List Char)}
    (h : (lines (ofLines textLines)).length ≤ textLines.length) :
    ∀ line ∈ textLines, '\n' ∉ line := by
  have hcount := count_newline_le_length_lines (ofLines textLines)
  rw [count_newline_ofLines] at hcount
  have hnone : textLines.flatten.count '\n' = 0 := by omega
  intro line hline hmem
  exact List.count_eq_zero.1 hnone (List.mem_flatten.2 ⟨line, hline, hmem⟩)

end Text

namespace Markdown

/-! ## Bars of a line -/

/-- What stands between the bars of a line; a bar right behind a backslash does not count. `escaped`
says whether a backslash stands right before the line. -/
def splitBars (escaped : Bool) : List Char → List (List Char)
  | [] => [[]]
  | c :: rest =>
      if c = '|' ∧ escaped = false then [] :: splitBars false rest
      else (splitBars (c == '\\') rest).modifyHead (c :: ·)

/-- The number of bars that count. -/
def openBars (escaped : Bool) : List Char → Nat
  | [] => 0
  | c :: rest => (if c = '|' ∧ escaped = false then 1 else 0) + openBars (c == '\\') rest

theorem length_splitBars (escaped : Bool) (text : List Char) :
    (splitBars escaped text).length = openBars escaped text + 1 := by
  induction text generalizing escaped with
  | nil => rfl
  | cons c rest ih =>
      rw [splitBars, openBars]
      split
      case isTrue hbar =>
          obtain ⟨rfl, -⟩ := hbar
          have hstate : ('|' == '\\') = false := by decide
          rw [List.length_cons, ih, hstate]
          omega
      case isFalse => rw [List.length_modifyHead, ih, Nat.zero_add]

variable {escaped : Bool} {text : List Char} {c : Char}

theorem openBars_cons (hc : c ≠ '|') (rest : List Char) :
    openBars escaped (c :: rest) = openBars (c == '\\') rest := by
  have hnot : ¬ (c = '|' ∧ escaped = false) := fun h => hc h.1
  rw [openBars, if_neg hnot, Nat.zero_add]

/-- Bars are counted on both sides of another character. -/
theorem openBars_append_cons (hc : c ≠ '|') (rest : List Char) :
    openBars escaped (text ++ c :: rest) = openBars escaped text + openBars (c == '\\') rest := by
  induction text generalizing escaped with
  | nil => rw [List.nil_append, openBars_cons hc, openBars, Nat.zero_add]
  | cons d text ih => rw [List.cons_append, openBars, openBars, ih, Nat.add_assoc]

/-- A text without bars that count is one part. -/
theorem splitBars_append_bar (h : openBars escaped text = 0) (rest : List Char) :
    splitBars escaped (text ++ ' ' :: '|' :: rest) = (text ++ [' ']) :: splitBars false rest := by
  induction text generalizing escaped with
  | nil => simp [splitBars]
  | cons d text ih =>
      rw [openBars, Nat.add_eq_zero_iff] at h
      obtain ⟨hhere, hbehind⟩ := h
      split at hhere
      case isTrue => contradiction
      case isFalse hnot =>
          rw [List.cons_append, splitBars, if_neg hnot, ih hbehind, List.modifyHead_cons,
            List.cons_append]

/-- Without backslashes every bar counts. -/
theorem openBars_eq_zero_iff (h : '\\' ∉ text) : openBars false text = 0 ↔ '|' ∉ text := by
  induction text with
  | nil => simp [openBars]
  | cons c text ih =>
      obtain ⟨hc, htext⟩ := List.ne_and_not_mem_of_not_mem_cons h
      have hstate : (c == '\\') = false := beq_false_of_ne (Ne.symm hc)
      rw [openBars, Nat.add_eq_zero_iff, hstate, ih htext, List.mem_cons, not_or]
      simp [eq_comm]

/-! ## Lines with given cells -/

/-- A line with the given cells. -/
def tableLine (cells : List (List Char)) : List Char :=
  '|' :: cells.flatMap fun cell => ' ' :: (cell ++ [' ', '|'])

/-- A cell between blanks. -/
def padded (cell : List Char) : List Char :=
  ' ' :: (cell ++ [' '])

variable {cells : List (List Char)}

theorem openBars_tableLine (cells : List (List Char)) :
    openBars false (tableLine cells) = cells.length + 1 + (cells.map (openBars false)).sum := by
  have hcells : openBars false (cells.flatMap fun cell => ' ' :: (cell ++ [' ', '|'])) =
      cells.length + (cells.map (openBars false)).sum := by
    induction cells with
    | nil => rfl
    | cons cell cells ih =>
        have hblank : (' ' == '\\') = false := by decide
        have hbar : openBars false ('|' :: cells.flatMap fun cell => ' ' :: (cell ++ [' ', '|'])) =
            1 + (cells.length + (cells.map (openBars false)).sum) := by
          rw [← ih]
          rfl
        rw [List.flatMap_cons, List.cons_append, openBars_cons (by decide), hblank,
          List.append_assoc, List.cons_append, List.cons_append, List.nil_append,
          openBars_append_cons (by decide), hblank, hbar, List.map_cons, List.sum_cons,
          List.length_cons]
        omega
  have hfirst : openBars false (tableLine cells) =
      1 + openBars false (cells.flatMap fun cell => ' ' :: (cell ++ [' ', '|'])) := rfl
  rw [hfirst, hcells]
  omega

/-- A line is split into its cells exactly where none of them has a bar that counts. -/
theorem splitBars_tableLine_iff :
    splitBars false (tableLine cells) = [] :: (cells.map padded ++ [[]]) ↔
      ∀ cell ∈ cells, openBars false cell = 0 := by
  constructor
  · intro hsplit
    have hlength := length_splitBars false (tableLine cells)
    rw [hsplit, openBars_tableLine, List.length_cons, List.length_append, List.length_map,
      List.length_singleton] at hlength
    -- The bars between the cells are as many as the parts allow.
    have hsum : (cells.map (openBars false)).sum = 0 := by omega
    intro cell hcell
    exact List.sum_eq_zero_iff_forall_eq_nat.1 hsum _ (List.mem_map_of_mem hcell)
  · intro hcells
    have hbehind : splitBars false (cells.flatMap fun cell => ' ' :: (cell ++ [' ', '|'])) =
        cells.map padded ++ [[]] := by
      induction cells with
      | nil => rfl
      | cons cell cells ih =>
          obtain ⟨hcell, hothers⟩ := List.forall_mem_cons.1 hcells
          have hzero : openBars false (' ' :: cell) = 0 := by
            rw [openBars_cons (by decide)]
            exact hcell
          have hline := splitBars_append_bar hzero
            (cells.flatMap fun cell => ' ' :: (cell ++ [' ', '|']))
          rw [List.flatMap_cons, List.cons_append, List.append_assoc]
          rw [ih hothers] at hline
          exact hline
    have hfirst : splitBars false (tableLine cells) =
        [] :: splitBars false (cells.flatMap fun cell => ' ' :: (cell ++ [' ', '|'])) := rfl
    rw [hfirst, hbehind]

theorem newline_not_mem_tableLine_iff :
    '\n' ∉ tableLine cells ↔ ∀ cell ∈ cells, '\n' ∉ cell := by
  simp [tableLine]

/-- A line ends with a bar, so it does not end in a carriage return. -/
theorem getLast?_tableLine_ne (cells : List (List Char)) :
    (tableLine cells).getLast? ≠ some '\r' := by
  rcases List.eq_nil_or_concat cells with rfl | ⟨before, cell, rfl⟩
  · decide
  · have hends : ∃ start, tableLine (before.concat cell) = start ++ ['|'] := by
      refine ⟨'|' :: ((before.flatMap fun cell => ' ' :: (cell ++ [' ', '|'])) ++
        (' ' :: (cell ++ [' ']))), ?_⟩
      simp [tableLine]
    obtain ⟨start, hstart⟩ := hends
    rw [hstart, List.getLast?_concat]
    decide

/-! ## Texts that may stand in a cell -/

/-- Whether a text can stand in a cell as it is: no line feed, and no bar that counts. -/
def IsCellText (text : String) : Prop :=
  '\n' ∉ text.toList ∧ openBars false text.toList = 0

instance (text : String) : Decidable (IsCellText text) :=
  inferInstanceAs (Decidable ('\n' ∉ text.toList ∧ openBars false text.toList = 0))

/-- Whether a text separates what stands around it. -/
def IsGap (gap : List Char) : Prop :=
  gap ≠ [] ∧ '\n' ∉ gap ∧ '|' ∉ gap ∧ '\\' ∉ gap

instance (gap : List Char) : Decidable (IsGap gap) :=
  inferInstanceAs (Decidable (gap ≠ [] ∧ '\n' ∉ gap ∧ '|' ∉ gap ∧ '\\' ∉ gap))

theorem openBars_plain_append {plain : List Char} (hbar : '|' ∉ plain) (hback : '\\' ∉ plain)
    (rest : List Char) : openBars false (plain ++ rest) = openBars false rest := by
  induction plain with
  | nil => rfl
  | cons c plain ih =>
      obtain ⟨hc, hbars⟩ := List.ne_and_not_mem_of_not_mem_cons hbar
      obtain ⟨hd, hbacks⟩ := List.ne_and_not_mem_of_not_mem_cons hback
      have hstate : (c == '\\') = false := beq_false_of_ne (Ne.symm hd)
      rw [List.cons_append, openBars_cons (Ne.symm hc), hstate, ih hbars hbacks]

theorem openBars_append_gap {gap : List Char} (h : IsGap gap) (before behind : List Char) :
    openBars escaped (before ++ (gap ++ behind)) =
      openBars escaped before + openBars false behind := by
  obtain ⟨hne, -, hbar, hback⟩ := h
  obtain ⟨c, rest, rfl⟩ := List.exists_cons_of_ne_nil hne
  obtain ⟨hc, hbars⟩ := List.ne_and_not_mem_of_not_mem_cons hbar
  obtain ⟨hd, hbacks⟩ := List.ne_and_not_mem_of_not_mem_cons hback
  have hstate : (c == '\\') = false := beq_false_of_ne (Ne.symm hd)
  rw [List.cons_append, openBars_append_cons (Ne.symm hc), hstate,
    openBars_plain_append hbars hbacks]

section Gaps

variable {gap before behind : String}

theorem isCellText_append_gap_append (h : IsGap gap.toList) :
    IsCellText (before ++ gap ++ behind) ↔ IsCellText before ∧ IsCellText behind := by
  obtain ⟨-, hnewline, -⟩ := id h
  unfold IsCellText
  rw [String.toList_append, String.toList_append, List.append_assoc, openBars_append_gap h,
    List.mem_append, List.mem_append, Nat.add_eq_zero_iff, or_iff_right hnewline, not_or]
  exact and_and_and_comm

theorem isCellText_empty : IsCellText "" := by decide

theorem isCellText_gap_append (h : IsGap gap.toList) :
    IsCellText (gap ++ behind) ↔ IsCellText behind := by
  have hsplit := @isCellText_append_gap_append gap "" behind h
  rw [String.empty_append] at hsplit
  rw [hsplit, and_iff_right isCellText_empty]

theorem isCellText_append_gap (h : IsGap gap.toList) :
    IsCellText (before ++ gap) ↔ IsCellText before := by
  have hsplit := @isCellText_append_gap_append gap before "" h
  rw [String.append_empty] at hsplit
  rw [hsplit, and_iff_left isCellText_empty]

theorem isCellText_intercalate (h : IsGap gap.toList) {parts : List String} :
    IsCellText (gap.intercalate parts) ↔ ∀ part ∈ parts, IsCellText part := by
  induction parts with
  | nil => simp [isCellText_empty]
  | cons part parts ih =>
      cases parts with
      | nil => simp
      | cons next parts =>
          rw [String.intercalate_cons_cons, isCellText_append_gap_append h, ih]
          exact List.forall_mem_cons.symm

end Gaps

/-- A name with backslashes before its bars has no bar that counts. -/
theorem isCellText_escapeBars (name : String) :
    IsCellText (escapeBars name) ↔ '\n' ∉ name.toList := by
  have hbars (escaped : Bool) (chars : List Char) :
      openBars escaped (chars.flatMap fun c => if c = '|' then ['\\', '|'] else [c]) = 0 := by
    induction chars generalizing escaped with
    | nil => rfl
    | cons c chars ih =>
        rw [List.flatMap_cons]
        split
        · have hbehind := ih false
          rw [List.cons_append, openBars_cons (by decide), List.cons_append, List.nil_append]
          simpa [openBars] using hbehind
        · rename_i hc
          rw [List.singleton_append, openBars_cons hc, ih]
  have hnewline : '\n' ∈ (escapeBars name).toList ↔ '\n' ∈ name.toList := by
    rw [escapeBars, String.toList_ofList, List.mem_flatMap]
    constructor
    · rintro ⟨c, hc, hmem⟩
      split at hmem
      · simp at hmem
      · rwa [List.mem_singleton.1 hmem]
    · intro hmem
      exact ⟨'\n', hmem, by decide⟩
  have hzero : openBars false (escapeBars name).toList = 0 := by
    rw [escapeBars, String.toList_ofList]
    exact hbars false name.toList
  rw [IsCellText, hnewline, and_iff_left hzero]

theorem isCellText_toString (n : Nat) : IsCellText (toString n) := by
  have hnot (c : Char) (hc : c.isDigit = false) : c ∉ (toString n).toList := by
    intro hmem
    rw [Text.isDigit_of_mem_toString hmem] at hc
    contradiction
  refine ⟨hnot _ (by decide), ?_⟩
  have happend := openBars_plain_append (hnot '|' (by decide)) (hnot '\\' (by decide)) []
  rwa [List.append_nil] at happend

/-- In the URI of a file there can be nothing but the bars of names. -/
theorem isCellText_ofPath (directory path : Path) :
    IsCellText (Uri.ofPath directory path).text ↔
      ∀ name, .name name ∈ (directory.join path).components → '|' ∉ name.toList := by
  have hforeign {c : Char} (hmark : c ∉ Uri.fileMarks) (hdigit : c.isAlphanum = false)
      (hplain : Uri.isPlainInFileName c = false) : c ∉ (Uri.ofPath directory path).text.toList := by
    rw [Uri.mem_text_ofPath_iff hmark hdigit, hplain]
    rintro ⟨hplain, -⟩
    contradiction
  have hnewline : '\n' ∉ (Uri.ofPath directory path).text.toList :=
    hforeign (by decide) (by decide) (by decide)
  have hback : '\\' ∉ (Uri.ofPath directory path).text.toList :=
    hforeign (by decide) (by decide) (by decide)
  have hbar : '|' ∈ (Uri.ofPath directory path).text.toList ↔
      ∃ name, .name name ∈ (directory.join path).components ∧ '|' ∈ name.toList := by
    rw [Uri.mem_text_ofPath_iff (by decide) (by decide), and_iff_right (by decide)]
  rw [IsCellText, and_iff_right hnewline, openBars_eq_zero_iff hback, hbar]
  simp only [not_exists, not_and]

/-! ## Rows of the table -/

/-- The cells of a row: the id, the status, the location and the support. -/
def rowCells (row : TodoRow) : List String :=
  ["`" ++ row.entry.featureId ++ "`",
    match row.feature with
    | some f => f.status.label ++ " (" ++ escapeBars f.name ++ ")"
    | none => "Unknown feature",
    "[" ++ row.entry.fileName ++ ":" ++ toString row.entry.lineNumber ++ "](" ++ row.fileUri ++ ")",
    row.supportSummary]

/-- What the line of a row is split into: its cells, and nothing around them. -/
def rowParts (row : TodoRow) : List (List Char) :=
  [] :: (((rowCells row).map String.toList).map padded ++ [[]])

/-- The lines above the rows. -/
def headLines : List (List Char) :=
  ["# Baseline TODOs".toList, [], "| Feature | Status | Location | Support |".toList,
    "| --- | --- | --- | --- |".toList]

/-- Whether a text is a table of some rows: below its head, there is one line for each row, and bars
split it into the cells of the row. -/
def IsTableOf (rows : List TodoRow) (text : String) : Prop :=
  (Text.lines text.toList).take 4 = headLines ∧
    ((Text.lines text.toList).drop 4).map (splitBars false) = rows.map rowParts

instance (rows : List TodoRow) (text : String) : Decidable (IsTableOf rows text) :=
  inferInstanceAs (Decidable (_ ∧ _))

/-- The line of a row. -/
def lineOf (row : TodoRow) : List Char :=
  tableLine ((rowCells row).map String.toList)

theorem toList_rowLine (row : TodoRow) : (rowLine row).toList = lineOf row ++ ['\n'] := by
  have hcells : rowCells row =
      ["`" ++ row.entry.featureId ++ "`", statusCell row, locationCell row,
        row.supportSummary] := rfl
  have hopen : "| `".toList = '|' :: ' ' :: "`".toList := by decide
  have hbehind : "` | ".toList = "`".toList ++ [' ', '|', ' '] := by decide
  have hbetween : " | ".toList = [' ', '|', ' '] := by decide
  have hclose : " |\n".toList = [' ', '|', '\n'] := by decide
  unfold rowLine
  rw [lineOf, tableLine, hcells]
  simp only [String.toList_append, List.map_cons, List.map_nil, List.flatMap_cons,
    List.flatMap_nil, List.append_assoc, List.cons_append, List.nil_append, hopen, hbehind,
    hbetween, hclose]

theorem toList_toMarkdown {report : TodoReport} (h : report.rows ≠ []) :
    report.toMarkdown.toList = Text.ofLines (headLines ++ report.rows.map lineOf) := by
  have hhead : (title ++ tableHead).toList = Text.ofLines headLines := by
    unfold title tableHead headLines
    rw [String.toList_append]
    repeat rw [String.toList_ofList]
    decide
  unfold TodoReport.toMarkdown
  rw [TodoReport.isEmpty_eq_false h, if_neg Bool.false_ne_true, String.toList_append, hhead, String.toList_join,
    Text.ofLines, Text.ofLines, List.flatMap_append, List.flatMap_map, List.flatMap_map]
  simp only [toList_rowLine]

theorem newline_not_mem_headLines :
    ∀ line ∈ headLines, '\n' ∉ line ∧ line.getLast? ≠ some '\r' := by
  unfold headLines
  repeat rw [String.toList_ofList]
  decide

/-- The lines of a report are its head and the lines made of its rows. -/
theorem lines_toMarkdown {report : TodoReport} (h : report.rows ≠ []) :
    Text.lines report.toMarkdown.toList =
      headLines ++ Text.lines (Text.ofLines (report.rows.map lineOf)) := by
  rw [toList_toMarkdown h, Text.ofLines, List.flatMap_append, ← Text.ofLines, ← Text.ofLines,
    Text.lines_ofLines_append newline_not_mem_headLines]

/-- A report is a table exactly where the cells of its rows can stand as they are. -/
theorem isTableOf_toMarkdown_iff {report : TodoReport} (h : report.rows ≠ []) :
    IsTableOf report.rows report.toMarkdown ↔
      ∀ row ∈ report.rows, ∀ cell ∈ rowCells row, IsCellText cell := by
  have hsplit (row : TodoRow) : splitBars false (lineOf row) = rowParts row ↔
      ∀ cell ∈ rowCells row, openBars false cell.toList = 0 := by
    rw [lineOf, rowParts, splitBars_tableLine_iff, List.forall_mem_map]
  have hnewline (row : TodoRow) : '\n' ∉ lineOf row ↔ ∀ cell ∈ rowCells row, '\n' ∉ cell.toList := by
    rw [lineOf, newline_not_mem_tableLine_iff, List.forall_mem_map]
  have hhead : headLines.length = 4 := rfl
  rw [IsTableOf, lines_toMarkdown h, ← hhead, List.take_left, List.drop_left,
    and_iff_right rfl]
  -- Without line feeds in them, the lines of the rows are the lines of the report.
  have hread (hlines : ∀ row ∈ report.rows, '\n' ∉ lineOf row) :
      Text.lines (Text.ofLines (report.rows.map lineOf)) = report.rows.map lineOf := by
    apply Text.lines_ofLines
    intro line hline
    obtain ⟨row, hrow, rfl⟩ := List.mem_map.1 hline
    exact ⟨hlines row hrow, getLast?_tableLine_ne _⟩
  constructor
  · intro hparts
    -- There are only as many lines as rows, so no line of a row has a line feed.
    have hlength := congrArg List.length hparts
    rw [List.length_map, List.length_map, ← List.length_map lineOf] at hlength
    have hlines := Text.newline_not_mem_of_length_lines_le (Nat.le_of_eq hlength)
    rw [List.forall_mem_map] at hlines
    rw [hread hlines, List.map_map, List.map_inj_left] at hparts
    intro row hrow cell hcell
    exact ⟨(hnewline row).1 (hlines row hrow) cell hcell,
      (hsplit row).1 (hparts row hrow) cell hcell⟩
  · intro hcells
    have hlines (row : TodoRow) (hrow : row ∈ report.rows) : '\n' ∉ lineOf row :=
      (hnewline row).2 fun cell hcell => (hcells row hrow cell hcell).1
    rw [hread hlines, List.map_map, List.map_inj_left]
    intro row hrow
    exact (hsplit row).2 fun cell hcell => (hcells row hrow cell hcell).2

/-! ## Entries and the registry -/

end Markdown

/-- The day that the status of an availability names. -/
def Availability.statusDate? (availability : Availability) : Option String :=
  match availability.level with
  | .high => availability.highDate
  | .low => availability.lowDate
  | .limited => none

/-- What an entry and the registry must be like for the row of the entry to stand in a table. -/
structure TodoEntry.FitsTable (registry : Registry) (directory : Path) (entry : TodoEntry) :
    Prop where
  featureId : Markdown.IsCellText entry.featureId
  fileName : Markdown.IsCellText entry.fileName
  /-- A bar in the path is one in the URI. -/
  path : ∀ name, .name name ∈ (directory.join entry.path).components → '|' ∉ name.toList
  /-- The bars of the name are escaped, those of the other texts are not. -/
  feature : ∀ feature, registry.get? (Unicode.lowercase entry.featureId) = some feature →
    '\n' ∉ feature.name.toList ∧
      (∀ date, feature.availability.statusDate? = some date → Markdown.IsCellText date) ∧
      ∀ browser, Markdown.IsCellText (registry.browserName browser) ∧
        ∀ version, feature.supportFor browser = some version → Markdown.IsCellText version

namespace Markdown

/-- Which names and versions can stand in the support cell. -/
theorem isCellText_supportSummary {registry : Registry} {feature : Feature} :
    IsCellText (Text.commaList ((registry.supportCells feature).map SupportCell.summary)) ↔
      ∀ browser, IsCellText (registry.browserName browser) ∧
        ∀ version, feature.supportFor browser = some version → IsCellText version := by
  have hcell (browser : BrowserId) :
      IsCellText (registry.supportCell feature browser).summary ↔
        IsCellText (registry.browserName browser) ∧
          ∀ version, feature.supportFor browser = some version → IsCellText version := by
    have hsummary : (registry.supportCell feature browser).summary =
        registry.browserName browser ++ " " ++
          (feature.supportFor browser).getD unsupportedMark := rfl
    rw [hsummary, isCellText_append_gap_append (by decide)]
    cases feature.supportFor browser with
    | none =>
        have hmark : IsCellText unsupportedMark := by decide
        simp [hmark]
    | some version => simp
  have hall (browser : BrowserId) : browser ∈ BrowserId.all := by
    cases browser <;> decide
  rw [Text.commaList, isCellText_intercalate (by decide), List.forall_mem_map,
    Registry.supportCells, List.forall_mem_map]
  simp only [hcell, hall, true_implies]

/-- Which dates can stand in the status cell. -/
theorem isCellText_label {feature : Feature} :
    IsCellText feature.status.label ↔
      ∀ date, feature.availability.statusDate? = some date → IsCellText date := by
  have hdate (date : Option String) :
      IsCellText (date.getD unknownDate) ↔ ∀ day, date = some day → IsCellText day := by
    cases date with
    | none =>
        have hunknown : IsCellText unknownDate := by decide
        simp [hunknown]
    | some day => simp
  unfold Feature.status Availability.status Availability.statusDate?
  cases feature.availability.level with
  | high =>
      dsimp only
      rw [isCellText_gap_append (by decide), hdate]
  | low =>
      dsimp only
      rw [isCellText_gap_append (by decide), hdate]
  | limited =>
      have hlabel : IsCellText "Limited availability across major browsers" := by decide
      simp [hlabel]

/-- The texts of a row that its cells are made of. -/
theorem forall_mem_rowCells_iff {row : TodoRow} :
    (∀ cell ∈ rowCells row, IsCellText cell) ↔
      IsCellText row.entry.featureId ∧ IsCellText (statusCell row) ∧
        (IsCellText row.entry.fileName ∧ IsCellText row.fileUri) ∧
          IsCellText row.supportSummary := by
  have hcells : rowCells row =
      ["`" ++ row.entry.featureId ++ "`", statusCell row, locationCell row,
        row.supportSummary] := rfl
  have hid : IsCellText ("`" ++ row.entry.featureId ++ "`") ↔ IsCellText row.entry.featureId := by
    rw [isCellText_append_gap (by decide), isCellText_gap_append (by decide)]
  have hlocation : IsCellText (locationCell row) ↔
      IsCellText row.entry.fileName ∧ IsCellText row.fileUri := by
    rw [locationCell, isCellText_append_gap (by decide), isCellText_append_gap_append (by decide),
      isCellText_append_gap_append (by decide), isCellText_gap_append (by decide),
      and_iff_left (isCellText_toString _)]
  rw [hcells, List.forall_mem_cons, List.forall_mem_cons, List.forall_mem_cons,
    List.forall_mem_singleton, hid, hlocation]

/-- The cells of a row can stand as they are exactly where its entry fits. -/
theorem isCellText_rowCells_iff {registry : Registry} {directory : Path} {entry : TodoEntry} :
    (∀ cell ∈ rowCells (TodoRow.ofEntry registry directory entry), IsCellText cell) ↔
      entry.FitsTable registry directory := by
  rw [forall_mem_rowCells_iff]
  unfold TodoRow.ofEntry
  cases hget : registry.get? (Unicode.lowercase entry.featureId) with
  | none =>
      dsimp only [Option.map_none]
      have hunknown : IsCellText unknownFeature := by decide
      have hfeature (feature : Feature) :
          registry.get? (Unicode.lowercase entry.featureId) ≠ some feature := by
        simp [hget]
      rw [isCellText_ofPath]
      constructor
      · rintro ⟨hfeatureId, -, ⟨hfileName, hpath⟩, -⟩
        exact ⟨hfeatureId, hfileName, hpath, fun feature h => absurd h (hfeature feature)⟩
      · rintro ⟨hfeatureId, hfileName, hpath, -⟩
        exact ⟨hfeatureId, hunknown, ⟨hfileName, hpath⟩, isCellText_empty⟩
  | some feature =>
      dsimp only [Option.map_some]
      have hstatus : IsCellText (feature.status.label ++ " (" ++ escapeBars feature.name ++ ")") ↔
          (∀ date, feature.availability.statusDate? = some date → IsCellText date) ∧
            '\n' ∉ feature.name.toList := by
        rw [isCellText_append_gap (by decide), isCellText_append_gap_append (by decide),
          isCellText_escapeBars, isCellText_label]
      rw [isCellText_ofPath]
      constructor
      · rintro ⟨hfeatureId, hcell, ⟨hfileName, hpath⟩, hsupport⟩
        obtain ⟨hdate, hname⟩ := hstatus.1 hcell
        refine ⟨hfeatureId, hfileName, hpath, ?_⟩
        intro found hfound
        obtain rfl : feature = found := Option.some.inj (hget.symm.trans hfound)
        exact ⟨hname, hdate, isCellText_supportSummary.1 hsupport⟩
      · rintro ⟨hfeatureId, hfileName, hpath, hfeature⟩
        obtain ⟨hname, hdate, hsupport⟩ := hfeature feature hget
        exact ⟨hfeatureId, hstatus.2 ⟨hdate, hname⟩, ⟨hfileName, hpath⟩,
          isCellText_supportSummary.2 hsupport⟩

end Markdown

/-- The report on some entries is a table in Markdown exactly where all entries fit. -/
theorem isTableOf_render_iff {registry : Registry} {directory : Path} {entries : List TodoEntry}
    (h : entries ≠ []) :
    Markdown.IsTableOf (TodoReport.ofEntries registry directory entries).rows
        ((TodoReport.ofEntries registry directory entries).render .markdown) ↔
      ∀ entry ∈ entries, entry.FitsTable registry directory := by
  have hrows : (TodoReport.ofEntries registry directory entries).rows ≠ [] := by
    rw [TodoReport.ofEntries]
    simpa using h
  rw [TodoReport.render, Markdown.isTableOf_toMarkdown_iff hrows, TodoReport.ofEntries,
    List.forall_mem_map]
  simp only [Markdown.isCellText_rowCells_iff]

/-- The bar in the name of the feature is escaped, and a bar that has its backslash already stays as it
is. -/
theorem isTableOf_render_masonry :
    let registry : Registry :=
      { features := [⟨"masonry", "Masonry | grid lanes", "", "",
          ⟨.low, some "2025-01-01", none, [("chrome", "≤140")]⟩⟩] }
    let entries : List TodoEntry := [⟨"Masonry", "a\\|b.js", ⟨"a.js"⟩, 4⟩]
    let report := TodoReport.ofEntries registry ⟨"/w"⟩ entries
    entries ≠ [] ∧ Markdown.IsTableOf report.rows (report.render .markdown) := by
  intro registry entries report
  have hne : entries ≠ [] := List.cons_ne_nil _ _
  refine ⟨hne, (isTableOf_render_iff hne).2 ?_⟩
  intro entry hentry
  obtain rfl := List.mem_singleton.1 hentry
  rw [← Markdown.isCellText_rowCells_iff]
  decide +kernel

/-- A bar in the name of a file ends the cell. -/
theorem not_isTableOf_render_bar :
    let entries : List TodoEntry := [⟨"grid", "a|b.js", ⟨"/w/a|b.js"⟩, 1⟩]
    let report := TodoReport.ofEntries ∅ ⟨"/w"⟩ entries
    entries ≠ [] ∧ ¬ Markdown.IsTableOf report.rows (report.render .markdown) := by
  intro entries report
  refine ⟨List.cons_ne_nil _ _, ?_⟩
  intro htable
  have hrows : report.rows ≠ [] := List.cons_ne_nil _ _
  have hcells := (Markdown.isTableOf_toMarkdown_iff hrows).1 htable _ (List.mem_singleton_self _)
  have hfits := Markdown.isCellText_rowCells_iff.1 hcells
  exact absurd hfits.fileName (by decide)

end FeatureRefs
