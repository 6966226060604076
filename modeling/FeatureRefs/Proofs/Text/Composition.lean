import FeatureRefs.Text.Lines
import Mathlib.Data.List.Forall2

/-!
# What is found line by line

A reader that looks at each line by itself finds in a text what it finds in its parts, when the text is cut
at line feeds and the lines of the later part are counted on. Three things are asked of the reader: it
finds nothing on an empty line, a carriage return at the end of a line is nothing to it, and the number of
a line goes into its findings and into nothing else.

The lines themselves are NOT put together like this. The last line of the first part loses a carriage
return when a line feed follows it, and where the first part is empty or ends in a line feed there is an
empty line more.
-/

namespace FeatureRefs

namespace Text

/-! ## Lines and line feeds -/

theorem length_splitOn_newline (text : List Char) :
    (text.splitOn '\n').length = text.count '\n' + 1 := by
  induction text with
  | nil => rfl
  | cons c text ih =>
      rw [List.splitOn_cons_eq_if_modifyHead, List.count_cons]
      split
      · rw [List.length_cons, ih]
      · rw [List.length_modifyHead, ih]

/-- What stands between two line feeds is a line, up to a carriage return at its end. -/
def IsLineOf (part line : List Char) : Prop :=
  part = line ∨ part = line ++ ['\r']

theorem IsLineOf.cons {part line : List Char} (h : IsLineOf part line) (c : Char) :
    IsLineOf (c :: part) (c :: line) := by
  rcases h with rfl | rfl
  · exact .inl rfl
  · exact .inr rfl

/-- Between its line feeds a text has its lines, and nothing behind the last one of them or an empty
part. -/
theorem exists_splitOn_newline (text : List Char) : ∃ parts tail,
    text.splitOn '\n' = parts ++ tail ∧ List.Forall₂ IsLineOf parts (lines text) ∧
      (tail = [] ∨ tail = [[]]) := by
  fun_induction lines text with
  | case1 => exact ⟨[], [[]], rfl, .nil, .inr rfl⟩
  | case2 rest ih =>
      obtain ⟨parts, tail, hsplit, hparts, htail⟩ := ih
      refine ⟨[] :: parts, tail, ?_, .cons (.inl rfl) hparts, htail⟩
      rw [List.splitOn_cons_eq_if_modifyHead, hsplit]
      rfl
  | case3 rest ih =>
      obtain ⟨parts, tail, hsplit, hparts, htail⟩ := ih
      refine ⟨['\r'] :: parts, tail, ?_, .cons (.inr rfl) hparts, htail⟩
      rw [List.splitOn_cons_eq_if_modifyHead, List.splitOn_cons_eq_if_modifyHead, hsplit]
      rfl
  | case4 c rest hc hreturn hnil ih =>
      -- No line feed stands behind the last line, so there is no empty part either.
      obtain rfl := lines_eq_nil_iff.1 hnil
      have hne : '\n' ∉ [c] := fun hmem => hc (List.mem_singleton.1 hmem).symm
      exact ⟨[[c]], [], List.splitOn_eq_singleton hne, .cons (.inl rfl) .nil, .inl rfl⟩
  | case5 c rest hc hreturn line others hlines ih =>
      obtain ⟨parts, tail, hsplit, hparts, htail⟩ := ih
      rw [hlines] at hparts
      cases hparts with
      | @cons part line parts others hpart hparts =>
          refine ⟨(c :: part) :: parts, tail, ?_, .cons (hpart.cons c) hparts, htail⟩
          have hne : (c == '\n') = false := beq_eq_false_iff_ne.2 hc
          rw [List.splitOn_cons_eq_if_modifyHead, hsplit, hne]
          rfl

/-- From the lines of a text as much is gathered as from what stands between its line feeds, where an
empty line gives nothing and a carriage return at the end of a line makes no difference. -/
theorem flatMap_splitOn_newline {α : Type} {gather : List Char → List α} (hempty : gather [] = [])
    (hreturn : ∀ line, gather (line ++ ['\r']) = gather line) (text : List Char) :
    (text.splitOn '\n').flatMap gather = (lines text).flatMap gather := by
  obtain ⟨parts, tail, hsplit, hparts, htail⟩ := exists_splitOn_newline text
  have htailNil : tail.flatMap gather = [] := by
    rcases htail with rfl | rfl
    · rfl
    · rw [List.flatMap_singleton, hempty]
  rw [hsplit, List.flatMap_append, htailNil, List.append_nil]
  clear hsplit
  generalize lines text = these at hparts
  induction hparts with
  | nil => rfl
  | cons hline hothers ih =>
      rw [List.flatMap_cons, List.flatMap_cons, ih]
      rcases hline with rfl | rfl
      · rfl
      · rw [hreturn]

theorem toList_append_newline (a b : String) :
    (a ++ "\n" ++ b).toList = a.toList ++ '\n' :: b.toList := by
  rw [String.toList_append, String.toList_append, List.append_assoc]
  rfl

end Text

/-! ## Findings -/

/-- What is found on lines that are numbered from `first` on. -/
def found {α : Type} (find : List Char → Nat → Option α) (first : Nat) (lines : List (List Char)) :
    List α :=
  (lines.zipIdx first).filterMap fun (line, n) => find line n

/-- A reader of numbered lines that goes line by line. A finding is moved down with its line, and it tells
the number of its line. -/
structure IsLinewise {α : Type} (find : List Char → Nat → Option α) (down : Nat → α → α)
    (number : α → Nat) : Prop where
  empty : ∀ n, find [] n = none
  append_return : ∀ line n, find (line ++ ['\r']) n = find line n
  add : ∀ line n k, find line (n + k) = (find line n).map (down k)
  number_eq : ∀ line n x, find line n = some x → number x = n

section

variable {α : Type} {find : List Char → Nat → Option α}

theorem found_cons (first : Nat) (line : List Char) (others : List (List Char)) :
    found find first (line :: others) =
      (find line first).toList ++ found find (first + 1) others := by
  rw [found, List.zipIdx_cons, List.filterMap_cons]
  cases hline : find line first with
  | none => simp [hline, found]
  | some x => simp [hline, found]

theorem found_append (first : Nat) (these others : List (List Char)) :
    found find first (these ++ others) =
      found find first these ++ found find (first + these.length) others := by
  simp only [found, List.zipIdx_append, List.filterMap_append]

variable {down : Nat → α → α} {number : α → Nat}

namespace IsLinewise

theorem find_of_isLineOf (h : IsLinewise find down number) {part line : List Char}
    (hline : Text.IsLineOf part line) (n : Nat) : find part n = find line n := by
  rcases hline with rfl | rfl
  · rfl
  · exact h.append_return line n

/-- What is found on lines further down is moved down. -/
theorem found_add (h : IsLinewise find down number) (first k : Nat) (lines : List (List Char)) :
    found find (first + k) lines = (found find first lines).map (down k) := by
  induction lines generalizing first with
  | nil => rfl
  | cons line others ih =>
      have hmoved := ih (first + 1)
      rw [Nat.add_right_comm] at hmoved
      rw [found_cons, found_cons, hmoved, h.add, List.map_append, Option.toList_map]

theorem found_of_forall₂ (h : IsLinewise find down number) {parts lines : List (List Char)}
    (hparts : List.Forall₂ Text.IsLineOf parts lines) (first : Nat) :
    found find first parts = found find first lines := by
  induction hparts generalizing first with
  | nil => rfl
  | cons hpart hparts ih => rw [found_cons, found_cons, h.find_of_isLineOf hpart, ih]

/-- The same is found on lines and on what stands between the line feeds. -/
theorem found_splitOn (h : IsLinewise find down number) (first : Nat) (text : List Char) :
    found find first (text.splitOn '\n') = found find first (Text.lines text) := by
  obtain ⟨parts, tail, hsplit, hparts, htail⟩ := Text.exists_splitOn_newline text
  have htailNone (n : Nat) : found find n tail = [] := by
    rcases htail with rfl | rfl
    · rfl
    · rw [found_cons, h.empty]
      rfl
  rw [hsplit, found_append, htailNone, List.append_nil, h.found_of_forall₂ hparts]

/-- A text is read in two parts on both sides of a line feed. -/
theorem found_append_newline (h : IsLinewise find down number) (first : Nat) (a b : List Char) :
    found find first (Text.lines (a ++ '\n' :: b)) =
      found find first (Text.lines a) ++ found find (first + (a.count '\n' + 1)) (Text.lines b) := by
  rw [← h.found_splitOn, List.splitOn_append_cons_self, found_append, h.found_splitOn,
    h.found_splitOn, Text.length_splitOn_newline]

end IsLinewise

/-! ## Edits inside a line -/

/-- A place for a line in a text: what stands before it ends in a line feed and what stands behind it
begins with one, unless nothing stands there. -/
structure IsLinePlace (before after : List Char) : Prop where
  ends : ∀ c, before.getLast? = some c → c = '\n'
  begins : ∀ c, after.head? = some c → c = '\n'

namespace IsLinewise

theorem found_line (h : IsLinewise find down number) {line : List Char} (hline : '\n' ∉ line)
    (n : Nat) : found find n (Text.lines line) = (find line n).toList := by
  rw [← h.found_splitOn, List.splitOn_eq_singleton hline, found_cons]
  exact List.append_nil _

/-- On a line that stands in its place the same is found as on the line alone, and elsewhere what the line
has nothing to do with. -/
theorem found_place (h : IsLinewise find down number) {before line after : List Char}
    (hplace : IsLinePlace before after) (hline : '\n' ∉ line) (first : Nat) :
    found find first (Text.lines (before ++ (line ++ after))) =
      found find first (Text.lines before) ++
        ((find line (first + before.count '\n')).toList ++
          found find (first + before.count '\n' + 1) (Text.lines after.tail)) := by
  have hrest (n : Nat) : found find n (Text.lines (line ++ after)) =
      (find line n).toList ++ found find (n + 1) (Text.lines after.tail) := by
    cases after with
    | nil =>
        rw [List.append_nil, h.found_line hline, List.tail_nil, Text.lines_nil]
        exact (List.append_nil _).symm
    | cons c after =>
        obtain rfl := hplace.begins c rfl
        rw [h.found_append_newline, h.found_line hline, List.count_eq_zero.2 hline, Nat.zero_add,
          List.tail_cons]
  rw [← hrest]
  -- The line feed in front of the line is the place to read the text in two parts.
  rcases List.eq_nil_or_concat' before with rfl | ⟨before, c, rfl⟩
  · rfl
  · obtain rfl := hplace.ends c (List.getLast?_concat ..)
    rw [List.append_assoc, List.singleton_append, h.found_append_newline, h.found_append_newline,
      Text.lines_nil, List.count_append, List.count_singleton_self]
    exact congrArg (· ++ _) (List.append_nil _).symm

/-- What is found on other lines does not change with a line. -/
theorem filter_found_place (h : IsLinewise find down number) {before line line' after : List Char}
    (hplace : IsLinePlace before after) (hline : '\n' ∉ line) (hline' : '\n' ∉ line') (first : Nat) :
    (found find first (Text.lines (before ++ (line ++ after)))).filter
        (fun x => number x ≠ first + before.count '\n') =
      (found find first (Text.lines (before ++ (line' ++ after)))).filter
        (fun x => number x ≠ first + before.count '\n') := by
  -- The filter takes out what is found on the line itself, and nothing else depends on it.
  have hhere (text : List Char) : (find text (first + before.count '\n')).toList.filter
      (fun x => decide (number x ≠ first + before.count '\n')) = [] := by
    rw [List.filter_eq_nil_iff]
    intro x hx
    have hnumber := h.number_eq text _ x (Option.mem_toList.1 hx)
    simp [hnumber]
  rw [h.found_place hplace hline, h.found_place hplace hline']
  simp only [List.filter_append, hhere]

end IsLinewise

end

end FeatureRefs
