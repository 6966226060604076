import Mathlib.Algebra.GroupWithZero.Nat
import Mathlib.Tactic.SplitIfs
import FeatureRefs.Todo.Report.Format

/-!
# What a report page says

The page of a report is cut at the fixed marks of its rows, and the entities in what stands between
them are replaced by their characters. Whatever the texts of a report are, this gives back every row
in order and whole, and the characters that make up the markup are there as often as the number of
rows says. So no text of a row reaches the markup, and none is lost.
-/

namespace FeatureRefs

/-! ## Cutting a text at marks -/

namespace Text

/-- A text cut at the first place of a mark, which belongs to neither side. -/
def cutAtMark? (mark : List Char) : List Char → Option (List Char × List Char)
  | [] => none
  | c :: rest =>
      if mark <+: c :: rest then some ([], (c :: rest).drop mark.length)
      else (cutAtMark? mark rest).map fun (before, after) => (c :: before, after)

/-- What stands before each of several marks that are looked for one behind the other, and what
follows the last one. -/
def cutAtMarks? : List (List Char) → List Char → Option (List (List Char) × List Char)
  | [], text => some ([], text)
  | mark :: marks, text =>
      (cutAtMark? mark text).bind fun (field, behind) =>
        (cutAtMarks? marks behind).map fun (fields, rest) => (field :: fields, rest)

variable {mark field before after text rest : List Char}

theorem eq_append_of_cutAtMark? (h : cutAtMark? mark text = some (before, after)) :
    text = before ++ (mark ++ after) := by
  fun_induction cutAtMark? mark text generalizing before with
  | case1 => contradiction
  | case2 c rest hmark =>
      obtain ⟨rfl, rfl⟩ := Prod.mk.inj (Option.some.inj h)
      exact (List.prefix_iff_eq_append.1 hmark).symm
  | case3 c rest hmark ih =>
      obtain ⟨⟨head, tail⟩, hcut, hpair⟩ := Option.map_eq_some_iff.1 h
      obtain ⟨rfl, rfl⟩ := Prod.mk.inj hpair
      rw [ih hcut, List.cons_append]

/-- What follows a text does not move the first mark in it. -/
theorem cutAtMark?_append_right (h : cutAtMark? mark text = some (before, after))
    (rest : List Char) : cutAtMark? mark (text ++ rest) = some (before, after ++ rest) := by
  fun_induction cutAtMark? mark text generalizing before with
  | case1 => contradiction
  | case2 c text hmark =>
      obtain ⟨rfl, rfl⟩ := Prod.mk.inj (Option.some.inj h)
      have hlonger : mark <+: c :: (text ++ rest) := hmark.trans (List.prefix_append _ rest)
      rw [List.cons_append, cutAtMark?, if_pos hlonger, ← List.cons_append,
        List.drop_append_of_le_length hmark.length_le]
  | case3 c text hmark ih =>
      obtain ⟨⟨head, tail⟩, hcut, hpair⟩ := Option.map_eq_some_iff.1 h
      obtain ⟨rfl, rfl⟩ := Prod.mk.inj hpair
      -- The mark comes later in the text, so there is room for it here as well.
      have hroom : mark.length ≤ (c :: text).length := by
        rw [eq_append_of_cutAtMark? hcut]
        simp only [List.length_cons, List.length_append]
        omega
      have hnot : ¬ mark <+: c :: (text ++ rest) := fun hlonger =>
        hmark (List.prefix_of_prefix_length_le hlonger (List.prefix_append (c :: text) rest) hroom)
      rw [List.cons_append, cutAtMark?, if_neg hnot, ih hcut]
      rfl

/-- A mark is found behind a text that does not have its first character. -/
theorem cutAtMark?_append_self {c : Char} (hmark : mark.head? = some c) (hc : c ∉ field) :
    cutAtMark? mark (field ++ mark) = some (field, []) := by
  obtain ⟨tail, rfl⟩ := List.head?_eq_some_iff.1 hmark
  induction field with
  | nil => simp [cutAtMark?]
  | cons d field ih =>
      have hne : c ≠ d := fun h => hc (h ▸ List.mem_cons_self)
      have hnot : ¬ c :: tail <+: d :: (field ++ c :: tail) := fun h =>
        hne (List.cons_prefix_cons.1 h).1
      rw [List.cons_append, cutAtMark?, if_neg hnot, ih fun h => hc (List.mem_cons_of_mem d h)]
      rfl

/-- Fields are read back from a text in which each of them is followed by its mark. -/
theorem cutAtMarks?_append {pieces : List (List Char × List Char)}
    (h : ∀ p ∈ pieces, cutAtMark? p.2 (p.1 ++ p.2) = some (p.1, [])) (rest : List Char) :
    cutAtMarks? (pieces.map Prod.snd) ((pieces.flatMap fun p => p.1 ++ p.2) ++ rest) =
      some (pieces.map Prod.fst, rest) := by
  induction pieces with
  | nil => rfl
  | cons p pieces ih =>
      obtain ⟨hfirst, hothers⟩ := List.forall_mem_cons.1 h
      rw [List.flatMap_cons, List.append_assoc, List.map_cons, cutAtMarks?,
        cutAtMark?_append_right hfirst, List.nil_append, Option.bind_some]
      dsimp only
      rw [ih hothers]
      rfl

theorem length_le_of_cutAtMarks? {marks fields : List (List Char)}
    (h : cutAtMarks? marks text = some (fields, rest)) : rest.length ≤ text.length := by
  induction marks generalizing text fields with
  | nil =>
      obtain ⟨rfl, rfl⟩ := Prod.mk.inj (Option.some.inj h)
      exact Nat.le_refl _
  | cons mark marks ih =>
      obtain ⟨⟨field, behind⟩, hcut, hmarks⟩ := Option.bind_eq_some_iff.1 h
      obtain ⟨⟨others, rest'⟩, hothers, hpair⟩ := Option.map_eq_some_iff.1 hmarks
      obtain ⟨rfl, rfl⟩ := Prod.mk.inj hpair
      have hle := ih hothers
      rw [eq_append_of_cutAtMark? hcut, List.length_append, List.length_append]
      omega

/-- Cutting at a mark and further ones leaves less of a text. -/
theorem length_lt_of_cutAtMarks? {marks fields : List (List Char)} (hne : mark ≠ [])
    (h : cutAtMarks? (mark :: marks) text = some (fields, rest)) : rest.length < text.length := by
  obtain ⟨⟨field, behind⟩, hcut, hmarks⟩ := Option.bind_eq_some_iff.1 h
  obtain ⟨⟨others, rest'⟩, hothers, hpair⟩ := Option.map_eq_some_iff.1 hmarks
  obtain ⟨rfl, rfl⟩ := Prod.mk.inj hpair
  have hle := length_le_of_cutAtMarks? hothers
  have hpos := List.length_pos_iff.2 hne
  rw [eq_append_of_cutAtMark? hcut, List.length_append, List.length_append]
  omega

theorem isDigit_of_mem_toString {n : Nat} {c : Char} (h : c ∈ (toString n).toList) :
    c.isDigit = true := by
  rw [Nat.toString_eq_repr, Nat.toList_repr] at h
  exact Nat.isDigit_of_mem_toDigits (by decide) (by decide) h

end Text

/-! ## Entities -/

namespace Html

/-- A text in which every entity is replaced by its character. -/
def unescape : List Char → List Char
  | '&' :: 'a' :: 'm' :: 'p' :: ';' :: rest => '&' :: unescape rest
  | '&' :: 'l' :: 't' :: ';' :: rest => '<' :: unescape rest
  | '&' :: 'g' :: 't' :: ';' :: rest => '>' :: unescape rest
  | '&' :: 'q' :: 'u' :: 'o' :: 't' :: ';' :: rest => '"' :: unescape rest
  | c :: rest => c :: unescape rest
  | [] => []

theorem unescape_nil : unescape [] = [] := rfl

theorem unescape_cons {c : Char} (h : c ≠ '&') (rest : List Char) :
    unescape (c :: rest) = c :: unescape rest := by
  rw [unescape]
  all_goals
    rintro _ rfl
    contradiction

theorem unescape_append {text : List Char} (h : '&' ∉ text) (rest : List Char) :
    unescape (text ++ rest) = text ++ unescape rest := by
  induction text with
  | nil => rfl
  | cons c text ih =>
      have hc : c ≠ '&' := fun heq => h (heq ▸ List.mem_cons_self)
      rw [List.cons_append, unescape_cons hc, ih fun hmem => h (List.mem_cons_of_mem c hmem),
        List.cons_append]

theorem unescape_eq_self {text : List Char} (h : '&' ∉ text) : unescape text = text := by
  have happend := unescape_append h []
  rwa [List.append_nil, unescape_nil, List.append_nil] at happend

theorem unescape_escapeChar (c : Char) (rest : List Char) :
    unescape (escapeChar c ++ rest) = c :: unescape rest := by
  unfold escapeChar
  split_ifs with hamp hlt hgt hquote
  · rw [hamp]
    rfl
  · rw [hlt]
    rfl
  · rw [hgt]
    rfl
  · rw [hquote]
    rfl
  · exact unescape_cons hamp rest

/-- An escaped text is read as the text itself, whatever follows it. -/
theorem unescape_escape_append (text : String) (rest : List Char) :
    unescape ((escape text).toList ++ rest) = text.toList ++ unescape rest := by
  rw [escape, String.toList_ofList]
  induction text.toList with
  | nil => rfl
  | cons c chars ih =>
      rw [List.flatMap_cons, List.append_assoc, unescape_escapeChar, ih, List.cons_append]

theorem unescape_escape (text : String) : unescape (escape text).toList = text.toList := by
  have happend := unescape_escape_append text []
  rwa [List.append_nil, unescape_nil, List.append_nil] at happend

/-! ## Texts without markup -/

/-- The characters that make up the markup. -/
def markup : List Char := ['<', '>', '"']

/-- A text without markup. -/
def IsInert (text : List Char) : Prop :=
  ∀ c ∈ markup, c ∉ text

instance (text : List Char) : Decidable (IsInert text) :=
  List.decidableBAll (fun c => c ∉ text) markup

theorem isInert_append_iff {s t : List Char} : IsInert (s ++ t) ↔ IsInert s ∧ IsInert t := by
  unfold IsInert
  simp only [List.mem_append, not_or, forall_and]

theorem isInert_escapeChar (c : Char) : IsInert (escapeChar c) := by
  unfold escapeChar
  split_ifs with hamp hlt hgt hquote
  · decide
  · decide
  · decide
  · decide
  · intro d hd hmem
    obtain rfl := List.mem_singleton.1 hmem
    simp only [markup, List.mem_cons, List.not_mem_nil, or_false] at hd
    rcases hd with rfl | rfl | rfl
    · contradiction
    · contradiction
    · contradiction

theorem isInert_escape (text : String) : IsInert (escape text).toList := by
  intro c hc hmem
  rw [escape, String.toList_ofList] at hmem
  obtain ⟨d, -, hd⟩ := List.mem_flatMap.1 hmem
  exact isInert_escapeChar d c hc hd

theorem isInert_toString (n : Nat) : IsInert (toString n).toList := by
  intro c hc hmem
  have hdigit := Text.isDigit_of_mem_toString hmem
  have hall : (markup.all fun c => !c.isDigit) = true := by decide
  have hnone : c.isDigit = false := by simpa using List.all_eq_true.1 hall c hc
  rw [hnone] at hdigit
  contradiction

theorem isInert_statusClass (row : TodoRow) : IsInert (statusClass row).toList := by
  unfold statusClass
  split
  · rename_i f _
    cases f.status.icon with
    | widely => decide
    | newly => decide
    | limited => decide
  · decide

theorem isInert_statusText (row : TodoRow) : IsInert (statusText row).toList := by
  unfold statusText
  split
  · rename_i f _
    simp only [String.toList_append, isInert_append_iff, isInert_escape, true_and, and_true]
    decide
  · decide

/-! ## Rows of the table -/

/-- The marks of a row, from its beginning to its end. -/
def rowMarks : List String :=
  ["<tr><td><code>", "</code></td><td class=\"", "\">", "</td><td><a href=\"", "\">",
    "</a></td><td>", "</td></tr>\n"]

/-- The rows of a page: what stands between the marks of each, with characters for entities. What
stands before a row does not count. -/
def readRows (page : List Char) : List (List String) :=
  match _h : Text.cutAtMarks? (rowMarks.map String.toList) page with
  | some (_ :: fields, rest) => fields.map (fun f => String.ofList (unescape f)) :: readRows rest
  | _ => []
termination_by page.length
decreasing_by exact Text.length_lt_of_cutAtMarks? (by decide) _h

end Html

theorem TodoReport.isEmpty_eq_false {report : TodoReport} (h : report.rows ≠ []) :
    report.isEmpty = false := by
  rw [isEmpty, List.isEmpty_eq_false_iff]
  exact h

/-- What a row says: the id, the class and the text of the status, the target and the text of the
link, and the support. -/
def TodoRow.told (row : TodoRow) : List String :=
  let line := toString row.entry.lineNumber
  [row.entry.featureId,
    match row.feature with
    | some f => f.status.icon.name
    | none => "unknown",
    match row.feature with
    | some f => f.status.label ++ " (" ++ f.name ++ ")"
    | none => "Unknown feature",
    row.fileUri ++ "#L" ++ line,
    row.entry.fileName ++ ":" ++ line,
    row.supportSummary]

namespace Html

/-- The fields of a row with the mark behind each. `lead` stands before the row. -/
def rowPieces (lead : List Char) (row : TodoRow) : List (List Char × List Char) :=
  let line := (toString row.entry.lineNumber).toList
  [(lead, "<tr><td><code>".toList),
    ((escape row.entry.featureId).toList, "</code></td><td class=\"".toList),
    ((statusClass row).toList, "\">".toList),
    ((statusText row).toList, "</td><td><a href=\"".toList),
    ((escape row.fileUri).toList ++ ("#L".toList ++ line), "\">".toList),
    ((escape row.entry.fileName).toList ++ (":".toList ++ line), "</a></td><td>".toList),
    ((escape row.supportSummary).toList, "</td></tr>\n".toList)]

theorem map_snd_rowPieces (lead : List Char) (row : TodoRow) :
    (rowPieces lead row).map Prod.snd = rowMarks.map String.toList := rfl

theorem flatMap_rowPieces (lead : List Char) (row : TodoRow) :
    ((rowPieces lead row).flatMap fun p => p.1 ++ p.2) = lead ++ (rowLine row).toList := by
  unfold rowLine
  simp only [rowPieces, List.flatMap_cons, List.flatMap_nil, String.toList_append,
    List.append_assoc, List.append_nil]

/-- The fields of a row have no markup. -/
theorem isInert_of_mem_rowPieces (lead : List Char) {row : TodoRow} {p : List Char × List Char}
    (h : p ∈ (rowPieces lead row).tail) : IsInert p.1 := by
  have hplace (mark : String) (hmark : IsInert mark.toList) (text : String) :
      IsInert ((escape text).toList ++ (mark.toList ++ (toString row.entry.lineNumber).toList)) :=
    isInert_append_iff.2
      ⟨isInert_escape text, isInert_append_iff.2 ⟨hmark, isInert_toString _⟩⟩
  simp only [rowPieces, List.tail_cons, List.mem_cons, List.not_mem_nil, or_false] at h
  rcases h with rfl | rfl | rfl | rfl | rfl | rfl
  all_goals dsimp only
  · exact isInert_escape _
  · exact isInert_statusClass row
  · exact isInert_statusText row
  · exact hplace "#L" (by decide) row.fileUri
  · exact hplace ":" (by decide) row.entry.fileName
  · exact isInert_escape _

/-- Every mark of a row begins with markup. -/
theorem exists_head?_of_mem_rowMarks {mark : String} (h : mark ∈ rowMarks) :
    ∃ c ∈ markup, mark.toList.head? = some c := by
  have hall : (rowMarks.all fun mark => markup.any fun c => mark.toList.head? == some c) = true := by
    decide
  obtain ⟨c, hc, hhead⟩ := List.any_eq_true.1 (List.all_eq_true.1 hall mark h)
  exact ⟨c, hc, eq_of_beq hhead⟩

/-- A row is cut at its marks wherever no row begins in what stands before it. -/
theorem cutAtMarks?_rowLine {lead : List Char}
    (hlead : Text.cutAtMark? "<tr><td><code>".toList (lead ++ "<tr><td><code>".toList) =
      some (lead, []))
    (row : TodoRow) (rest : List Char) :
    Text.cutAtMarks? (rowMarks.map String.toList) (lead ++ ((rowLine row).toList ++ rest)) =
      some ((rowPieces lead row).map Prod.fst, rest) := by
  rw [← map_snd_rowPieces lead row, ← List.append_assoc, ← flatMap_rowPieces]
  refine Text.cutAtMarks?_append ?_ rest
  intro p hp
  -- The fields of the row have no markup, and all marks begin with it; what stands before the row
  -- may have markup.
  rcases List.mem_cons.1 hp with rfl | hfield
  · exact hlead
  · have hmark : p.2 ∈ rowMarks.map String.toList := by
      rw [← map_snd_rowPieces lead row]
      exact List.mem_map_of_mem hp
    obtain ⟨mark, hmem, hsame⟩ := List.mem_map.1 hmark
    obtain ⟨c, hc, hhead⟩ := exists_head?_of_mem_rowMarks hmem
    rw [hsame] at hhead
    exact Text.cutAtMark?_append_self hhead (isInert_of_mem_rowPieces lead hfield c hc)

theorem unescape_statusClass (row : TodoRow) :
    unescape (statusClass row).toList = (statusClass row).toList := by
  apply unescape_eq_self
  unfold statusClass
  split
  · rename_i f _
    cases f.status.icon with
    | widely => decide
    | newly => decide
    | limited => decide
  · decide

theorem amp_not_mem_toString (n : Nat) : '&' ∉ (toString n).toList := by
  intro h
  exact absurd (Text.isDigit_of_mem_toString h) (by decide)

/-- What is read of the fields of a row is what the row says. -/
theorem map_unescape_rowPieces (lead : List Char) (row : TodoRow) :
    ((rowPieces lead row).map Prod.fst).tail.map (fun f => String.ofList (unescape f)) =
      row.told := by
  have hplace (mark : String) (hmark : '&' ∉ mark.toList) (text : String) :
      String.ofList (unescape ((escape text).toList ++
        (mark.toList ++ (toString row.entry.lineNumber).toList))) =
      text ++ mark ++ toString row.entry.lineNumber := by
    have hplain : '&' ∉ mark.toList ++ (toString row.entry.lineNumber).toList := by
      rw [List.mem_append, not_or]
      exact ⟨hmark, amp_not_mem_toString _⟩
    rw [unescape_escape_append, unescape_eq_self hplain, ← String.toList_inj, String.toList_ofList,
      String.toList_append, String.toList_append, List.append_assoc]
  have hstatus : String.ofList (unescape (statusText row).toList) =
      match row.feature with
      | some f => f.status.label ++ " (" ++ f.name ++ ")"
      | none => "Unknown feature" := by
    unfold statusText
    cases row.feature with
    | some f =>
        dsimp only
        rw [← String.toList_inj]
        simp only [String.toList_ofList, String.toList_append, List.append_assoc,
          unescape_escape_append]
        rw [unescape_append (by decide), unescape_escape_append, unescape_eq_self (by decide)]
    | none => rfl
  simp only [rowPieces, List.map_cons, List.map_nil, List.tail_cons, unescape_escape,
    unescape_statusClass, hstatus, String.ofList_toList, hplace "#L" (by decide),
    hplace ":" (by decide)]
  rfl

/-! ## The page -/

/-- The page before its first row. -/
def pageLead : List Char := pageHead.toList ++ tableHead.toList

/-- The page behind its last row. -/
def pageTail : List Char := "</table>\n".toList ++ pageEnd.toList

theorem toList_toHtml {report : TodoReport} (h : report.rows ≠ []) :
    report.toHtml.toList =
      pageLead ++ ((report.rows.flatMap fun row => (rowLine row).toList) ++ pageTail) := by
  unfold TodoReport.toHtml
  unfold pageLead pageTail
  rw [TodoReport.isEmpty_eq_false h, if_neg Bool.false_ne_true, String.toList_append, String.toList_append,
    String.toList_append, String.toList_append, String.toList_join, List.flatMap_map,
    List.append_assoc, List.append_assoc, List.append_assoc]

/-- No row begins before the first one. -/
theorem cutAtMark?_pageLead :
    Text.cutAtMark? "<tr><td><code>".toList (pageLead ++ "<tr><td><code>".toList) =
      some (pageLead, []) := by
  unfold pageLead pageHead styles tableHead
  simp only [String.toList_append]
  repeat rw [String.toList_ofList]
  decide +kernel

/-- A row is read, and reading goes on behind it. -/
theorem readRows_rowLine {lead : List Char}
    (hlead : Text.cutAtMark? "<tr><td><code>".toList (lead ++ "<tr><td><code>".toList) =
      some (lead, []))
    (row : TodoRow) (rest : List Char) :
    readRows (lead ++ ((rowLine row).toList ++ rest)) = row.told :: readRows rest := by
  have hcut := cutAtMarks?_rowLine hlead row rest
  have hfields : (rowPieces lead row).map Prod.fst =
      lead :: ((rowPieces lead row).map Prod.fst).tail := rfl
  rw [hfields] at hcut
  rw [readRows, hcut, ← map_unescape_rowPieces lead row]

theorem readRows_pageTail : readRows pageTail = [] := by
  have hnone : Text.cutAtMark? "<tr><td><code>".toList pageTail = none := by
    unfold pageTail pageEnd
    repeat rw [String.toList_ofList]
    decide
  have hcut : Text.cutAtMarks? (rowMarks.map String.toList) pageTail = none := by
    rw [rowMarks, List.map_cons, Text.cutAtMarks?, hnone, Option.bind_none]
  rw [readRows, hcut]

/-- All rows of a table are read. -/
theorem readRows_rows (rows : List TodoRow) :
    readRows ((rows.flatMap fun row => (rowLine row).toList) ++ pageTail) =
      rows.map TodoRow.told := by
  induction rows with
  | nil => exact readRows_pageTail
  | cons row rows ih =>
      -- The next row begins right behind the last mark of the one before.
      have hhere : Text.cutAtMark? "<tr><td><code>".toList ([] ++ "<tr><td><code>".toList) =
          some ([], []) :=
        Text.cutAtMark?_append_self (show _ = some '<' by decide) List.not_mem_nil
      have hread := readRows_rowLine hhere row
        ((rows.flatMap fun row => (rowLine row).toList) ++ pageTail)
      rw [List.nil_append] at hread
      rw [List.flatMap_cons, List.append_assoc, List.map_cons, ← ih, hread]

theorem readRows_page {row : TodoRow} (rows : List TodoRow) :
    readRows (pageLead ++ (((row :: rows).flatMap fun row => (rowLine row).toList) ++ pageTail)) =
      (row :: rows).map TodoRow.told := by
  rw [List.flatMap_cons, List.append_assoc, readRows_rowLine cutAtMark?_pageLead, readRows_rows,
    List.map_cons]

/-! ## How often the markup occurs -/

theorem count_eq_zero {text : List Char} (h : IsInert text) {c : Char} (hc : c ∈ markup) :
    text.count c = 0 :=
  List.count_eq_zero.2 (h c hc)

/-- The markup of a row is that of its marks. -/
theorem count_rowLine {c : Char} (hc : c ∈ markup) (row : TodoRow) :
    (rowLine row).toList.count c = ((rowMarks.map String.toList).map (List.count c)).sum := by
  have hpieces := flatMap_rowPieces [] row
  rw [List.nil_append] at hpieces
  have hfields : ∀ p ∈ rowPieces [] row, p.1.count c = 0 := by
    intro p hp
    rcases List.mem_cons.1 hp with rfl | hfield
    · rfl
    · exact count_eq_zero (isInert_of_mem_rowPieces [] hfield) hc
  have hcounts : (rowPieces [] row).map (List.count c ∘ fun p => p.1 ++ p.2) =
      (rowPieces [] row).map (List.count c ∘ Prod.snd) := by
    apply List.map_congr_left
    intro p hp
    simp only [Function.comp_apply, List.count_append, hfields p hp, Nat.zero_add]
  rw [← hpieces, List.count_flatMap, hcounts, ← List.map_map, map_snd_rowPieces]

theorem count_rows {c : Char} (hc : c ∈ markup) (rows : List TodoRow) :
    (rows.flatMap fun row => (rowLine row).toList).count c =
      rows.length * ((rowMarks.map String.toList).map (List.count c)).sum := by
  induction rows with
  | nil => rw [List.flatMap_nil, List.count_nil, List.length_nil, Nat.zero_mul]
  | cons row rows ih =>
      rw [List.flatMap_cons, List.count_append, count_rowLine hc, ih, List.length_cons,
        Nat.succ_mul, Nat.add_comm]

/-- The markup of a page is that around its rows and that of as many rows. -/
theorem count_toHtml {report : TodoReport} (h : report.rows ≠ []) {c : Char} (hc : c ∈ markup) :
    report.toHtml.toList.count c =
      (pageLead ++ pageTail).count c +
        report.size * ((rowMarks.map String.toList).map (List.count c)).sum := by
  rw [toList_toHtml h, List.count_append, List.count_append, List.count_append, count_rows hc,
    TodoReport.size]
  omega

theorem count_frame :
    (pageLead ++ pageTail).count '<' = 26 ∧ (pageLead ++ pageTail).count '>' = 26 ∧
      (pageLead ++ pageTail).count '"' = 2 := by
  unfold pageLead pageTail pageHead styles tableHead pageEnd
  simp only [String.toList_append]
  repeat rw [String.toList_ofList]
  decide +kernel

theorem sum_count_rowMarks :
    ((rowMarks.map String.toList).map (List.count '<')).sum = 14 ∧
      ((rowMarks.map String.toList).map (List.count '>')).sum = 14 ∧
      ((rowMarks.map String.toList).map (List.count '"')).sum = 4 := by
  simp only [rowMarks, List.map_cons, List.map_nil]
  repeat rw [String.toList_ofList]
  decide

end Html

/-- Reading the page of a report gives back what its rows say, and the characters of the markup occur
as often as the number of rows says. -/
theorem readRows_toHtml {report : TodoReport} (h : report.rows ≠ []) :
    Html.readRows (report.render .html).toList = report.rows.map TodoRow.told ∧
      (report.render .html).toList.count '<' = 26 + 14 * report.size ∧
      (report.render .html).toList.count '>' = 26 + 14 * report.size ∧
      (report.render .html).toList.count '"' = 2 + 4 * report.size := by
  have hrender : report.render .html = report.toHtml := rfl
  obtain ⟨hopen, hclose, hquote⟩ := Html.count_frame
  obtain ⟨hopens, hcloses, hquotes⟩ := Html.sum_count_rowMarks
  rw [hrender]
  refine ⟨?_, ?_, ?_, ?_⟩
  · obtain ⟨row, rows, hrows⟩ := List.exists_cons_of_ne_nil h
    rw [Html.toList_toHtml h, hrows]
    exact Html.readRows_page rows
  · rw [Html.count_toHtml h (by decide), hopen, hopens, Nat.mul_comm]
  · rw [Html.count_toHtml h (by decide), hclose, hcloses, Nat.mul_comm]
  · rw [Html.count_toHtml h (by decide), hquote, hquotes, Nat.mul_comm]

/-- Markup and entities in the texts of a row are read as they are. -/
theorem readRows_toHtml_dialog :
    let row : TodoRow :=
      { entry := ⟨"</code>", "a\">b.js", ⟨"/w/a\">b.js"⟩, 4⟩
        fileUri := "file:///w/a&quot;"
        feature := some ⟨"<dialog> &lt;", "since \"2022\"", .newly⟩
        support := [⟨.chrome, "Chrome & co", some "<37>", none⟩] }
    let report : TodoReport := ⟨[row]⟩
    report.rows ≠ [] ∧
      Html.readRows (report.render .html).toList =
        [["</code>", "newly", "since \"2022\" (<dialog> &lt;)", "file:///w/a&quot;#L4", "a\">b.js:4",
          "Chrome & co <37>"]] := by
  intro row report
  have hne : report.rows ≠ [] := List.cons_ne_nil row []
  refine ⟨hne, ?_⟩
  rw [(readRows_toHtml hne).1]
  decide +kernel

end FeatureRefs
