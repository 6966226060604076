import FeatureRefs.Diagnostic
import FeatureRefs.Todo.Entry
import FeatureRefs.Proofs.Validation
import FeatureRefs.Proofs.Text.Trailing
import FeatureRefs.Proofs.Text.Composition

/-!
# The findings of a text

Diagnostics and TODO entries are found line by line. So the findings of two texts with a line feed between
them are those of the first text and then those of the second, moved down by the lines of the first, and an
edit inside a line leaves the findings of all other lines as they are.
-/

namespace FeatureRefs

/-! ## Findings further down -/

/-- The stretch as many lines further down. -/
def Range.down (k : Nat) (range : Range) : Range where
  start := ⟨range.start.line + k, range.start.character⟩
  stop := ⟨range.stop.line + k, range.stop.character⟩

/-- The reference as many lines further down. -/
def Reference.down (k : Nat) (r : Reference) : Reference :=
  { r with line := r.line + k }

/-- The diagnostic as many lines further down. -/
def Diagnostic.down (k : Nat) (d : Diagnostic) : Diagnostic :=
  { d with range := d.range.down k }

/-- The entry as many lines further down. -/
def TodoEntry.down (k : Nat) (entry : TodoEntry) : TodoEntry :=
  { entry with lineNumber := entry.lineNumber + k }

/-- The number of a line does not matter to what is found on it. -/
theorem firstReference_add (line : List Char) (n k : Nat) :
    firstReference line (n + k) = (firstReference line n).map (Reference.down k) := by
  rw [firstReference, firstReference, Option.map_map]
  rfl

/-- What is registered does not depend on where it is referred to. -/
theorem Diagnostic.ofReference?_down (registry : Registry) (k : Nat) (r : Reference) :
    Diagnostic.ofReference? registry (r.down k) =
      (Diagnostic.ofReference? registry r).map (Diagnostic.down k) := by
  unfold Diagnostic.ofReference?
  change (if registry.contains r.featureId then none else _) = _
  split
  · rfl
  · rfl

/-! ## Diagnostics -/

/-- What is reported of a numbered line. -/
def diagnosticOf? (registry : Registry) (line : List Char) (n : Nat) : Option Diagnostic :=
  (firstReference line n).bind (Diagnostic.ofReference? registry)

theorem validate_eq_found {registry : Registry} (h : registry.isEmpty = false) (text : String) :
    validate text registry = found (diagnosticOf? registry) 0 (Text.lines text.toList) := by
  rw [validate, h, referencesFrom, List.filterMap_filterMap]
  rfl

theorem isLinewise_diagnosticOf? (registry : Registry) :
    IsLinewise (diagnosticOf? registry) Diagnostic.down fun d => d.range.start.line where
  empty _ := rfl
  append_return line n := by rw [diagnosticOf?, isIdle_return.firstReference_append, diagnosticOf?]
  add line n k := by
    rw [diagnosticOf?, diagnosticOf?, firstReference_add, Option.bind_map, Option.map_bind]
    exact congrArg _ (funext fun r => Diagnostic.ofReference?_down registry k r)
  number_eq line n d h := by
    obtain ⟨r, hr, hd⟩ := Option.bind_eq_some_iff.1 h
    obtain ⟨-, rfl⟩ := Diagnostic.ofReference?_eq_some_iff.1 hd
    exact line_eq_of_firstReference hr

/-! ## TODO entries -/

/-- The entry of a numbered line. -/
def todoEntryOf? (path : Path) (line : List Char) (n : Nat) : Option TodoEntry :=
  (todoMarker line).map fun id => ⟨id, path.fileName, path, n⟩

theorem extractTodos_eq_found (path : Path) (text : String) :
    extractTodos path text = found (todoEntryOf? path) 1 (Text.lines text.toList) :=
  rfl

theorem isLinewise_todoEntryOf? (path : Path) :
    IsLinewise (todoEntryOf? path) TodoEntry.down TodoEntry.lineNumber where
  empty _ := rfl
  append_return line n := by rw [todoEntryOf?, todoMarker_append (by decide), todoEntryOf?]
  add line n k := by
    rw [todoEntryOf?, todoEntryOf?, Option.map_map]
    rfl
  number_eq line n entry h := by
    obtain ⟨id, -, rfl⟩ := Option.map_eq_some_iff.1 h
    rfl

/-! ## Texts in parts -/

theorem validate_append_newline (a b : String) (registry : Registry) :
    validate (a ++ "\n" ++ b) registry =
      validate a registry ++
        (validate b registry).map (Diagnostic.down (1 + a.toList.count '\n')) := by
  cases hempty : registry.isEmpty with
  | true => simp only [validate_of_isEmpty hempty, List.map_nil, List.append_nil]
  | false =>
      have h := isLinewise_diagnosticOf? registry
      rw [validate_eq_found hempty, validate_eq_found hempty, validate_eq_found hempty,
        Text.toList_append_newline, h.found_append_newline, h.found_add, Nat.add_comm]

theorem extractTodos_append_newline (a b : String) (path : Path) :
    extractTodos path (a ++ "\n" ++ b) =
      extractTodos path a ++
        (extractTodos path b).map (TodoEntry.down (1 + a.toList.count '\n')) := by
  have h := isLinewise_todoEntryOf? path
  rw [extractTodos_eq_found, extractTodos_eq_found, extractTodos_eq_found,
    Text.toList_append_newline, h.found_append_newline, h.found_add, Nat.add_comm (a.toList.count '\n')]

/-! ## Edits -/

section

variable {before line line' after : List Char}

theorem filter_validate_edit (hplace : IsLinePlace before after) (hline : '\n' ∉ line)
    (hline' : '\n' ∉ line') (registry : Registry) :
    (validate (String.ofList (before ++ (line ++ after))) registry).filter
        (fun d => d.range.start.line ≠ before.count '\n') =
      (validate (String.ofList (before ++ (line' ++ after))) registry).filter
        (fun d => d.range.start.line ≠ before.count '\n') := by
  cases hempty : registry.isEmpty with
  | true => rw [validate_of_isEmpty hempty, validate_of_isEmpty hempty]
  | false =>
      have hsame := (isLinewise_diagnosticOf? registry).filter_found_place hplace hline hline' 0
      rw [Nat.zero_add] at hsame
      rw [validate_eq_found hempty, validate_eq_found hempty, String.toList_ofList,
        String.toList_ofList, hsame]

theorem filter_extractTodos_edit (hplace : IsLinePlace before after) (hline : '\n' ∉ line)
    (hline' : '\n' ∉ line') (path : Path) :
    (extractTodos path (String.ofList (before ++ (line ++ after)))).filter
        (fun entry => entry.lineNumber ≠ 1 + before.count '\n') =
      (extractTodos path (String.ofList (before ++ (line' ++ after)))).filter
        (fun entry => entry.lineNumber ≠ 1 + before.count '\n') := by
  have hsame := (isLinewise_todoEntryOf? path).filter_found_place hplace hline hline' 1
  rw [extractTodos_eq_found, extractTodos_eq_found, String.toList_ofList, String.toList_ofList,
    hsame]

end

/-- Diagnostics and TODO entries go line by line: a text is read in two parts on both sides of a line
feed, and an edit inside a line changes what is found on no other line. -/
theorem findings_lines :
    (∀ a b : String,
      (∀ registry, validate (a ++ "\n" ++ b) registry =
        validate a registry ++
          (validate b registry).map (Diagnostic.down (1 + a.toList.count '\n'))) ∧
      ∀ path, extractTodos path (a ++ "\n" ++ b) =
        extractTodos path a ++
          (extractTodos path b).map (TodoEntry.down (1 + a.toList.count '\n'))) ∧
    ∀ before line line' after : List Char, IsLinePlace before after → '\n' ∉ line → '\n' ∉ line' →
      (∀ registry,
        (validate (String.ofList (before ++ (line ++ after))) registry).filter
            (fun d => d.range.start.line ≠ before.count '\n') =
          (validate (String.ofList (before ++ (line' ++ after))) registry).filter
            (fun d => d.range.start.line ≠ before.count '\n')) ∧
      ∀ path,
        (extractTodos path (String.ofList (before ++ (line ++ after)))).filter
            (fun entry => entry.lineNumber ≠ 1 + before.count '\n') =
          (extractTodos path (String.ofList (before ++ (line' ++ after)))).filter
            (fun entry => entry.lineNumber ≠ 1 + before.count '\n') := by
  refine ⟨fun a b => ⟨validate_append_newline a b, extractTodos_append_newline a b⟩, ?_⟩
  intro before line line' after hplace hline hline'
  exact ⟨filter_validate_edit hplace hline hline', filter_extractTodos_edit hplace hline hline'⟩

/-- The first part ends in a carriage return, which is text of its last line until the line feed follows.
Then an id is written on the empty line in the middle. -/
theorem findings_lines_return :
    let registry := Registry.empty.put ⟨"grid", "Grid", "", "", {}⟩
    let a := "// TODO(baseline/gird)\r"
    let b := "\nBaseline/Gird"
    let before := "// TODO(baseline/gird)\r\n".toList
    let after := "\nBaseline/Gird".toList
    validate (a ++ "\n" ++ b) registry =
        [⟨⟨⟨0, 17⟩, ⟨0, 21⟩⟩, "gird"⟩, ⟨⟨⟨2, 9⟩, ⟨2, 13⟩⟩, "gird"⟩] ∧
      extractTodos ⟨"a.js"⟩ (a ++ "\n" ++ b) = [⟨"gird", "a.js", ⟨"a.js"⟩, 1⟩] ∧
      IsLinePlace before after ∧ '\n' ∉ [] ∧ '\n' ∉ "baseline/gird".toList ∧
      (validate (String.ofList (before ++ ("baseline/gird".toList ++ after))) registry).filter
          (fun d => d.range.start.line ≠ 1) =
        [⟨⟨⟨0, 17⟩, ⟨0, 21⟩⟩, "gird"⟩, ⟨⟨⟨2, 9⟩, ⟨2, 13⟩⟩, "gird"⟩] := by
  intro registry a b before after
  obtain ⟨hparts, hedit⟩ := findings_lines
  obtain ⟨hvalidate, hextract⟩ := hparts a b
  have hplace : IsLinePlace before after := by
    constructor
    · intro c hc
      exact (Option.some.inj hc).symm
    · intro c hc
      exact (Option.some.inj hc).symm
  have hid : '\n' ∉ "baseline/gird".toList := by
    decide
  obtain ⟨hsame, -⟩ := hedit before "baseline/gird".toList [] after hplace hid List.not_mem_nil
  have hbefore : before.count '\n' = 1 := by
    decide
  rw [hbefore] at hsame
  refine ⟨?_, ?_, hplace, List.not_mem_nil, hid, ?_⟩
  · have ha : validate a registry = [⟨⟨⟨0, 17⟩, ⟨0, 21⟩⟩, "gird"⟩] := by
      decide +kernel
    have hb : validate b registry = [⟨⟨⟨1, 9⟩, ⟨1, 13⟩⟩, "gird"⟩] := by
      decide +kernel
    have hnewlines : a.toList.count '\n' = 0 := by
      decide
    rw [hvalidate registry, ha, hb, hnewlines]
    rfl
  · have ha : extractTodos ⟨"a.js"⟩ a = [⟨"gird", "a.js", ⟨"a.js"⟩, 1⟩] := by
      decide +kernel
    have hb : extractTodos ⟨"a.js"⟩ b = [] := by
      decide +kernel
    rw [hextract ⟨"a.js"⟩, ha, hb]
    rfl
  · rw [hsame registry]
    decide +kernel

end FeatureRefs
