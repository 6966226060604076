/-!
# Lines

A line ends at a line feed, and a carriage return right before the line feed belongs to the line
ending. A carriage return anywhere else is text. Nothing follows the last line feed, so a text that
ends in one has no empty last line.
-/

namespace FeatureRefs.Text

/-- The lines of a text, without their endings. -/
def lines : List Char → List (List Char)
  | [] => []
  | '\n' :: rest => [] :: lines rest
  | '\r' :: '\n' :: rest => [] :: lines rest
  | c :: rest =>
      match lines rest with
      | [] => [[c]]
      | line :: others => (c :: line) :: others

@[simp] theorem lines_nil : lines [] = [] := by
  simp [lines]

@[simp] theorem lines_newline (rest : List Char) : lines ('\n' :: rest) = [] :: lines rest := by
  simp [lines]

@[simp] theorem lines_return_newline (rest : List Char) :
    lines ('\r' :: '\n' :: rest) = [] :: lines rest := by
  simp [lines]

/-- Only the empty text has no lines. -/
theorem lines_eq_nil_iff {text : List Char} : lines text = [] ↔ text = [] := by
  fun_cases lines text with
  | case1 => simp
  | case2 rest => simp
  | case3 rest => simp
  | case4 c rest => simp
  | case5 c rest => simp

/-- A text without line feeds is one line. -/
theorem lines_eq_singleton {line : List Char} (hne : line ≠ []) (h : '\n' ∉ line) :
    lines line = [line] := by
  fun_induction lines line with
  | case1 => contradiction
  | case2 rest ih => simp at h
  | case3 rest ih => simp at h
  | case4 c rest hc hreturn hnil ih =>
      obtain rfl : rest = [] := lines_eq_nil_iff.1 hnil
      rfl
  | case5 c rest hc hreturn first others hlines ih =>
      have hrest : rest ≠ [] := by
        rintro rfl
        simp at hlines
      have hsingle := ih hrest fun hmem => h (List.mem_cons_of_mem c hmem)
      rw [hlines, List.cons.injEq] at hsingle
      rw [hsingle.1, hsingle.2]

end FeatureRefs.Text
