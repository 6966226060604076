import FeatureRefs.Terminal.Diagnostics
import FeatureRefs.Proofs.Reference.First
import FeatureRefs.Proofs.Text.Columns
import FeatureRefs.Proofs.Validation

/-!
# Places of diagnostics

Diagnostics come in the order of the lines, at most one for a line, and each stands for the stretch
of its line between its two columns: the id as it is written there, in lower case, is the id that is
reported. A terminal shows with each diagnostic the very line that it is on.
-/

namespace FeatureRefs

/-! ## The order of references and diagnostics -/

theorem pairwise_referencesFrom (first : Nat) (lines : List (List Char)) :
    (referencesFrom first lines).Pairwise fun r s => r.line < s.line := by
  have hnumbers : (lines.zipIdx first).Pairwise fun a b => a.2 < b.2 := by
    rw [← List.pairwise_map (f := Prod.snd), List.zipIdx_map_snd]
    exact List.pairwise_lt_range'
  refine hnumbers.filterMap _ ?_
  rintro ⟨line, n⟩ ⟨line', n'⟩ hlt r hr s hs
  rw [line_eq_of_firstReference hr, line_eq_of_firstReference hs]
  exact hlt

theorem pairwise_validate (text : String) (registry : Registry) :
    (validate text registry).Pairwise fun d e => d.range.start.line < e.range.start.line := by
  unfold validate
  split
  · exact List.Pairwise.nil
  · refine (pairwise_referencesFrom 0 _).filterMap _ ?_
    intro r s hlt d hd e he
    obtain ⟨-, rfl⟩ := Diagnostic.ofReference?_eq_some_iff.1 hd
    obtain ⟨-, rfl⟩ := Diagnostic.ofReference?_eq_some_iff.1 he
    exact hlt

/-! ## What a diagnostic points at -/

/-- A diagnostic stands for a stretch of a line, and its id is what is written there, in lower
case. -/
structure Diagnostic.PointsInto (d : Diagnostic) (line : List Char) : Prop where
  oneLine : d.range.stop.line = d.range.start.line
  isProper : d.range.start.character < d.range.stop.character
  isInside : d.range.stop.character ≤ Text.utf16Length line
  names : (Text.between? line d.range.start.character d.range.stop.character).map
    (fun written => Unicode.lowercase (String.ofList written)) = some d.featureId

/-- The columns of a reference delimit its id on its line. -/
theorem exists_split_of_firstReference {line : List Char} {n : Nat} {r : Reference}
    (h : firstReference line n = some r) :
    ∃ before id after, line = before ++ (id ++ after) ∧ id ≠ [] ∧
      r.startColumn = Text.utf16Length before ∧
      r.endColumn = Text.utf16Length before + Text.utf16Length id ∧
      r.featureId = Unicode.lowercase (String.ofList id) := by
  obtain ⟨form, lead, id, ⟨start, hreference, -⟩, rfl⟩ := firstReference_eq_some_iff.1 h
  obtain ⟨before, inner, after, hline, -, rfl, hid⟩ := hreference.exists_split
  exact ⟨before ++ inner, id, after, by rw [hline, List.append_assoc], hid, rfl, rfl, rfl⟩

theorem pointsInto_of_firstReference {line : List Char} {n : Nat} {r : Reference}
    (h : firstReference line n = some r) :
    Diagnostic.PointsInto ⟨r.range, r.featureId⟩ line := by
  obtain ⟨before, id, after, rfl, hid, hstart, hend, hfeature⟩ := exists_split_of_firstReference h
  have hpos : Text.utf16Length id ≠ 0 := mt Text.utf16Length_eq_zero_iff.1 hid
  have hbetween : Text.between? (before ++ (id ++ after)) r.startColumn r.endColumn = some id :=
    (Text.between?_eq_some_iff (by omega)).2 ⟨before, after, rfl, hstart.symm, hend.symm⟩
  refine ⟨rfl, ?_, ?_, ?_⟩
  · show r.startColumn < r.endColumn
    omega
  · show r.endColumn ≤ _
    rw [Text.utf16Length_append, Text.utf16Length_append]
    omega
  · show (Text.between? _ r.startColumn r.endColumn).map _ = some r.featureId
    rw [hbetween, hfeature]
    rfl

/-- Every diagnostic is on a line of the text and points at its id there. -/
theorem exists_line_of_mem_validate {text : String} {registry : Registry} {d : Diagnostic}
    (h : d ∈ validate text registry) :
    ∃ line, (Text.lines text.toList)[d.range.start.line]? = some line ∧ d.PointsInto line := by
  obtain ⟨-, n, line, r, hline, hr, -, rfl⟩ := mem_validate_iff.1 h
  obtain rfl : r.line = n := line_eq_of_firstReference hr
  exact ⟨line, hline, pointsInto_of_firstReference hr⟩

/-! ## What a terminal shows -/

namespace Terminal

/-- The place of a diagnostic, counted from one. -/
def placeOf (path : Path) (d : Diagnostic) : String :=
  path.text ++ ":" ++ toString (d.range.start.line + 1) ++ ":" ++
    toString (d.range.start.character + 1)

/-- A diagnostic as it is shown together with a source line. -/
def shownWith (path : Path) (d : Diagnostic) (line : List Char) : String :=
  strong .red "error" ++ "[" ++ Diagnostic.code ++ "]: " ++ bold d.headline ++ "\n  " ++
    coloured .blue "-->" ++ " " ++ placeOf path d ++ "\n" ++
    "   " ++ coloured .blue "|" ++ " " ++ String.ofList line ++ "\n"

theorem diagnosticHead_append_sourceLine {lines : List (List Char)} {line : List Char}
    {d : Diagnostic} (h : lines[d.range.start.line]? = some line) (path : Path) :
    diagnosticHead path d ++ sourceLine lines d = shownWith path d line := by
  rw [sourceLine, h]
  simp only [diagnosticHead, shownWith, placeOf, String.append_assoc]

/-- Diagnostics are shown one after the other, each with the line of the text that it is on. -/
theorem renderDiagnostics_eq_join {text : String} {diagnostics : List Diagnostic}
    {source : Diagnostic → List Char}
    (h : ∀ d ∈ diagnostics, (Text.lines text.toList)[d.range.start.line]? = some (source d))
    (path : Path) :
    renderDiagnostics path text diagnostics =
      String.join (List.zipWith (shownWith path) diagnostics (diagnostics.map source)) := by
  have hblocks : diagnostics.map (fun d =>
      diagnosticHead path d ++ sourceLine (Text.lines text.toList) d) =
      diagnostics.map fun d => shownWith path d (source d) :=
    List.map_congr_left fun d hd => diagnosticHead_append_sourceLine (h d hd) path
  rw [renderDiagnostics, hblocks, List.zipWith_map_right, List.zipWith_self]

end Terminal

/-- The lines that the diagnostics of a text are on, in their order. -/
theorem exists_sources_validate (text : String) (registry : Registry) (path : Path) :
    ∃ sources, List.Forall₂ (fun d line =>
        (Text.lines text.toList)[d.range.start.line]? = some line ∧ d.PointsInto line)
        (validate text registry) sources ∧
      Terminal.renderDiagnostics path text (validate text registry) =
        String.join (List.zipWith (Terminal.shownWith path) (validate text registry) sources) := by
  let source (d : Diagnostic) : List Char := (Text.lines text.toList)[d.range.start.line]?.getD []
  have hsource : ∀ d ∈ validate text registry,
      (Text.lines text.toList)[d.range.start.line]? = some (source d) ∧ d.PointsInto (source d) := by
    intro d hd
    obtain ⟨line, hline, hpoints⟩ := exists_line_of_mem_validate hd
    have hsame : source d = line := by
      show (Text.lines text.toList)[d.range.start.line]?.getD [] = line
      rw [hline, Option.getD_some]
    rw [hsame]
    exact ⟨hline, hpoints⟩
  refine ⟨(validate text registry).map source, ?_, ?_⟩
  · rw [List.forall₂_map_right_iff, List.forall₂_same]
    exact hsource
  · exact Terminal.renderDiagnostics_eq_join (fun d hd => (hsource d hd).1) path

/-- The numbers in a diagnostic are bounded by those of the lines of the text and of their
columns. -/
theorem numbers_lt_of_mem_validate {text : String} {registry : Registry} {limit : Nat}
    (hlines : (Text.lines text.toList).length < limit)
    (hcolumns : ∀ line ∈ Text.lines text.toList, Text.utf16Length line < limit) {d : Diagnostic}
    (h : d ∈ validate text registry) :
    d.range.start.line + 1 < limit ∧ d.range.start.character + 1 < limit ∧
      d.range.stop.character < limit := by
  obtain ⟨line, hline, hpoints⟩ := exists_line_of_mem_validate h
  have hindex := (List.getElem?_eq_some_iff.1 hline).1
  have hwidth := hcolumns line (List.mem_of_getElem? hline)
  have hproper := hpoints.isProper
  have hinside := hpoints.isInside
  omega

/-- The diagnostics of a text come in strict order of the lines, and a line has one exactly when its
first reference is not registered. Each of them is on a line of the text and points there at the id
that it reports, and what is shown of them is, one after the other, their places and these lines.
No number in them is too large where the lines and their columns are not. -/
theorem validate_points (text : String) {registry : Registry} (h : registry.isEmpty = false)
    (path : Path) :
    let lines := Text.lines text.toList
    let found := validate text registry
    found.Pairwise (fun d e => d.range.start.line < e.range.start.line) ∧
    (∀ n, (∃ d ∈ found, d.range.start.line = n) ↔
      ∃ line r, lines[n]? = some line ∧ firstReference line n = some r ∧
        registry.contains r.featureId = false) ∧
    (∃ sources, List.Forall₂ (fun d line =>
        lines[d.range.start.line]? = some line ∧ d.PointsInto line) found sources ∧
      Terminal.renderDiagnostics path text found =
        String.join (List.zipWith (Terminal.shownWith path) found sources)) ∧
    ∀ limit, lines.length < limit → (∀ line ∈ lines, Text.utf16Length line < limit) →
      ∀ d ∈ found, d.range.start.line + 1 < limit ∧ d.range.start.character + 1 < limit ∧
        d.range.stop.character < limit := by
  refine ⟨pairwise_validate text registry, ?_, exists_sources_validate text registry path, ?_⟩
  · intro n
    constructor
    · rintro ⟨d, hd, rfl⟩
      obtain ⟨-, n, line, r, hline, hr, hmissing, rfl⟩ := mem_validate_iff.1 hd
      obtain rfl : r.line = n := line_eq_of_firstReference hr
      exact ⟨line, r, hline, hr, hmissing⟩
    · rintro ⟨line, r, hline, hr, hmissing⟩
      exact (exists_validate_line_iff h hline hr).2 hmissing
  · intro limit hlines hcolumns d hd
    exact numbers_lt_of_mem_validate hlines hcolumns hd

/-- Behind a character of two units and a line ending of two characters, a misspelt id is pointed
at. -/
theorem validate_points_gird :
    let registry := Registry.empty.put ⟨"grid", "Grid", "", "", {}⟩
    let text := "baseline/grid\r\n// 😀 Baseline/Gird-"
    registry.isEmpty = false ∧
      (∃ d ∈ validate text registry, d.range.start.line = 1) ∧
      ∀ d ∈ validate text registry, d.range.start.line = 1 →
        d.PointsInto "// 😀 Baseline/Gird-".toList := by
  intro registry text
  have hempty : registry.isEmpty = false := rfl
  have hlines : Text.lines text.toList =
      ["baseline/grid".toList, "// 😀 Baseline/Gird-".toList] := by
    decide
  have hfirst : firstReference "// 😀 Baseline/Gird-".toList 1 =
      some ⟨1, 15, 19, "gird", .hotPhrase⟩ := by
    decide +kernel
  obtain ⟨-, hfound, ⟨sources, hsources, -⟩, -⟩ := validate_points text hempty ⟨"src/a.js"⟩
  refine ⟨hempty, (hfound 1).2 ⟨_, _, by rw [hlines]; rfl, hfirst, by decide⟩, ?_⟩
  intro d hd hline
  obtain ⟨i, hi, rfl⟩ := List.getElem_of_mem hd
  obtain ⟨hlength, hall⟩ := List.forall₂_iff_get.1 hsources
  obtain ⟨hsource, hpoints⟩ := hall i hi (hlength ▸ hi)
  rw [List.get_eq_getElem, hline, hlines] at hsource
  rw [Option.some.inj hsource]
  exact hpoints

end FeatureRefs
