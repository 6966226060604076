import FeatureRefs.Proofs.Reference.Cut
import FeatureRefs.Proofs.Reference.Id
import FeatureRefs.Proofs.Todo.Marker
import FeatureRefs.Proofs.Validation
import FeatureRefs.Todo.Report

/-!
# Markers and references

The id of a marker without digits is also the id of a hot phrase: the closing bracket ends both. So
where the first reference of the line begins with that id, the report on the marker and the
diagnostics of the line are about the same feature, and the report calls it unknown exactly when it is
reported as not registered.

With digits this does NOT hold, since a reference is read up to a digit only. And the first reference
of the line may be another one, to which the marker says nothing.
-/

namespace FeatureRefs

/-! ## The hot phrase of a marker -/

/-- Before a closing bracket the id of a marker is read as a whole. -/
theorem IsMarkerId.isPhraseId {id : List Char} (h : IsMarkerId id)
    (hdigits : ∀ c ∈ id, ¬ IsDigit c) (after : List Char) : IsPhraseId id (')' :: after) := by
  have hletters : ∀ c ∈ id, IsIdLetter c := by
    intro c hc
    rcases h.letters c hc with halphanum | rfl
    · exact isIdLetter_of_isAlphanum halphanum (hdigits c hc)
    · simp [IsIdLetter]
  obtain ⟨first, hfirst, -⟩ := h.first
  obtain ⟨last, hlast, halphanum⟩ := h.last
  have hword : EndsInWord id := ⟨last, hlast, Unicode.isWord_of_isAlphanum halphanum⟩
  refine ⟨⟨?_, hletters, ?_⟩, ?_⟩
  · rintro rfl
    simp at hfirst
  · rw [atWordEdge_iff_of_endsInWord hword]
    rintro ⟨c, hc, hbracket⟩
    obtain rfl : ')' = c := by simpa using hc
    exact absurd hbracket (by decide)
  · -- A longer run would have the bracket among its letters.
    intro more rest hmore hne hbounded
    cases more with
    | nil => contradiction
    | cons c more =>
        obtain ⟨rfl, -⟩ := List.cons.inj hmore
        have hbracket : IsIdLetter ')' := hbounded.letters ')' (by simp)
        exact absurd (isIdChar_iff.2 hbracket) (by decide)

/-- A marker whose id has no digits holds a hot phrase with this id. -/
theorem MarkerAt.referenceAt {line lead id : List Char} (h : MarkerAt line lead id)
    (hdigits : ∀ c ∈ id, ¬ IsDigit c) : ∃ start, ReferenceAt line start .hotPhrase lead id := by
  obtain ⟨before, after, rfl, rfl, -, hid⟩ := h
  have hkeyword : "TODO(baseline/".toList = "TODO(".toList ++ "baseline/".toList := rfl
  have houtside : ¬ EndsInWord (before ++ "TODO(".toList) := by
    rintro ⟨c, hc, hword⟩
    have hlast : (before ++ "TODO(".toList).getLast? = some '(' := by
      rw [List.getLast?_append]
      rfl
    rw [hlast, Option.some.injEq] at hc
    rw [← hc] at hword
    exact absurd hword (by decide)
  have hphrase : IsHotPhrase (before ++ "TODO(".toList) "baseline/".toList id (')' :: after) :=
    ⟨spells_iff.2 rfl, houtside, hid.isPhraseId hdigits after⟩
  refine ⟨(before ++ "TODO(".toList).length, ?_⟩
  rw [hkeyword, ← List.append_assoc before, List.append_assoc]
  exact .ofHotPhrase rfl hphrase

/-- A line with a marker without digits has a first reference. If that begins where the id of the
marker does, it is the hot phrase of the marker. -/
theorem MarkerAt.firstReference {line lead id : List Char} (h : MarkerAt line lead id)
    (hdigits : ∀ c ∈ id, ¬ IsDigit c) (n : Nat) :
    ∃ r, firstReference line n = some r ∧
      (r.startColumn = Text.utf16Length lead →
        r.featureId = Unicode.lowercase (String.ofList id)) := by
  obtain ⟨start, hphrase⟩ := h.referenceAt hdigits
  cases hfirst : FeatureRefs.firstReference line n with
  | none => exact absurd hphrase ((firstReference_exact line n).1.1 hfirst _ _ _ _)
  | some r =>
      refine ⟨r, rfl, ?_⟩
      obtain ⟨form, lead', id', hisFirst, rfl⟩ := firstReference_eq_some_iff.1 hfirst
      intro hcolumn
      obtain ⟨after, hsplit⟩ := hisFirst.exists_split
      obtain ⟨before, inner, after', hsplit', -, rfl, -⟩ := hphrase.exists_split
      rw [← List.append_assoc] at hsplit'
      obtain rfl : lead' = before ++ inner :=
        Text.eq_of_utf16Length_eq (hsplit.symm.trans hsplit') hcolumn
      obtain ⟨start', hreference, -⟩ := hisFirst
      obtain rfl := hreference.form_unique hphrase
      show Unicode.lowercase (String.ofList id') = _
      rw [hreference.id_unique hphrase]

/-! ## Rows and diagnostics -/

theorem mem_extractTodos_iff {path : Path} {text : String} {entry : TodoEntry} :
    entry ∈ extractTodos path text ↔ ∃ n line m, (Text.lines text.toList)[n]? = some line ∧
      todoMarker line = some m ∧ entry = ⟨m, path.fileName, path, n + 1⟩ := by
  rw [extractTodos, todoEntriesFrom, List.mem_filterMap]
  constructor
  · rintro ⟨⟨line, k⟩, hline, hentry⟩
    obtain ⟨m, hm, rfl⟩ := Option.map_eq_some_iff.1 hentry
    obtain ⟨hk, hline⟩ := List.mk_mem_zipIdx_iff_le_and_getElem?_sub.1 hline
    refine ⟨k - 1, line, m, hline, hm, ?_⟩
    rw [Nat.sub_add_cancel hk]
  · rintro ⟨n, line, m, hline, hm, rfl⟩
    refine ⟨(line, n + 1), List.mk_mem_zipIdx_iff_le_and_getElem?_sub.2 ⟨by omega, hline⟩, ?_⟩
    show (todoMarker line).map _ = _
    rw [hm]
    rfl

theorem TodoRow.feature_ofEntry_eq_none_iff {registry : Registry} {directory : Path}
    {entry : TodoEntry} :
    (TodoRow.ofEntry registry directory entry).feature = none ↔
      registry.contains (Unicode.lowercase entry.featureId) = false := by
  show (registry.get? (Unicode.lowercase entry.featureId)).map Feature.todoSummary = none ↔ _
  rw [Option.map_eq_none_iff, Registry.contains_eq_isSome, Option.isSome_eq_false_iff,
    Option.isNone_iff_eq_none]

/-- A row without a feature has no support either. -/
theorem TodoRow.support_ofEntry_eq_nil {registry : Registry} {directory : Path} {entry : TodoEntry}
    (h : (TodoRow.ofEntry registry directory entry).feature = none) :
    (TodoRow.ofEntry registry directory entry).support = [] := by
  have hnone : registry.get? (Unicode.lowercase entry.featureId) = none :=
    Option.map_eq_none_iff.1 h
  simp [TodoRow.ofEntry, hnone]

/-- A line with a marker whose id has no digits has a first reference. If that begins where the id of
the marker does, it is a reference to the same id in lower case; and of any text with this line, the
one row for the line has no feature and no support exactly when something is reported of the line. -/
theorem todoMarker_agrees {line : List Char} {m : String} (h : todoMarker line = some m)
    (hdigits : ∀ c ∈ m.toList, ¬ IsDigit c) (n : Nat) :
    ∃ lead, IsFirstMarker line lead m.toList ∧ ∃ r, firstReference line n = some r ∧
      (r.startColumn = Text.utf16Length lead →
        r.featureId = Unicode.lowercase m ∧
        ∀ (text : String) (path directory : Path) (registry : Registry),
          registry.isEmpty = false → (Text.lines text.toList)[n]? = some line →
          ∃ row ∈ (TodoReport.ofEntries registry directory (extractTodos path text)).rows,
            row.entry = ⟨m, path.fileName, path, n + 1⟩ ∧
            (∀ other ∈ (TodoReport.ofEntries registry directory (extractTodos path text)).rows,
              other.entry.lineNumber = n + 1 → other = row) ∧
            ((∃ d ∈ validate text registry, d.range.start.line = n) ↔ row.feature = none) ∧
            (row.feature = none → row.support = [])) := by
  obtain ⟨lead, id, hfirst, rfl⟩ := todoMarker_eq_some_iff.1 h
  rw [String.toList_ofList] at hdigits ⊢
  obtain ⟨r, hr, hid⟩ := hfirst.1.firstReference hdigits n
  refine ⟨lead, hfirst, r, hr, fun hcolumn => ⟨hid hcolumn, ?_⟩⟩
  intro text path directory registry hempty hline
  let entry : TodoEntry := ⟨String.ofList id, path.fileName, path, n + 1⟩
  have hentry : entry ∈ extractTodos path text :=
    mem_extractTodos_iff.2 ⟨n, line, String.ofList id, hline, h, rfl⟩
  refine ⟨TodoRow.ofEntry registry directory entry, List.mem_map_of_mem hentry, rfl, ?_, ?_,
    TodoRow.support_ofEntry_eq_nil⟩
  · intro other hother hnumber
    obtain ⟨entry', hentry', rfl⟩ := List.mem_map.1 hother
    obtain ⟨n', line', m', hline', hm', rfl⟩ := mem_extractTodos_iff.1 hentry'
    obtain rfl : n' = n := Nat.succ.inj hnumber
    obtain rfl : line = line' := Option.some.inj (hline.symm.trans hline')
    obtain rfl : String.ofList id = m' := Option.some.inj (h.symm.trans hm')
    rfl
  · rw [exists_validate_line_iff hempty hline hr, TodoRow.feature_ofEntry_eq_none_iff, hid hcolumn]

/-- A marker behind other text, in the report and in the diagnostics of one file. -/
theorem todoMarker_agrees_grids :
    let line := "é // TODO(baseline/Sub-Grids)".toList
    let text := "\né // TODO(baseline/Sub-Grids)"
    let registry := Registry.empty.put ⟨"grid", "Grid", "", "", {}⟩
    todoMarker line = some "Sub-Grids" ∧ (∀ c ∈ "Sub-Grids".toList, ¬ IsDigit c) ∧
      registry.isEmpty = false ∧ (Text.lines text.toList)[1]? = some line ∧
      ∃ lead, IsFirstMarker line lead "Sub-Grids".toList ∧
        ∃ r, firstReference line 1 = some r ∧ r.startColumn = Text.utf16Length lead ∧
          r.featureId = Unicode.lowercase "Sub-Grids" ∧
          ∃ row ∈ (TodoReport.ofEntries registry ⟨"/"⟩ (extractTodos ⟨"a.js"⟩ text)).rows,
            row.entry = ⟨"Sub-Grids", "a.js", ⟨"a.js"⟩, 2⟩ ∧
            (∃ d ∈ validate text registry, d.range.start.line = 1) ∧
            row.feature = none ∧ row.support = [] := by
  intro line text registry
  have hmarker : todoMarker line = some "Sub-Grids" := by
    decide +kernel +revert
  have hdigits : ∀ c ∈ "Sub-Grids".toList, ¬ IsDigit c := by
    have hcodes : ("Sub-Grids".toList.all fun c => !decide (IsDigit c)) = true := by
      decide +kernel
    intro c hc
    simpa using List.all_eq_true.1 hcodes c hc
  have hempty : registry.isEmpty = false := rfl
  have hline : (Text.lines text.toList)[1]? = some line := by
    decide +kernel +revert
  have hreference : firstReference line 1 = some ⟨1, 19, 28, "sub-grids", .hotPhrase⟩ := by
    decide +kernel +revert
  -- The id stands at one place of the line only.
  have hplace : ∀ k < line.length, (line.drop k).take 10 = "Sub-Grids)".toList → k = 19 := by
    decide +kernel +revert
  have hunits : Text.utf16Length (line.take 19) = 19 := by
    decide +kernel +revert
  obtain ⟨lead, hfirst, r, hr, hagrees⟩ := todoMarker_agrees hmarker hdigits 1
  obtain rfl := Option.some.inj (hreference.symm.trans hr)
  have hlead : lead = line.take 19 := by
    obtain ⟨before, after, -, hsplit, -⟩ := hfirst.1
    have hlength : lead.length = 19 := by
      refine hplace lead.length ?_ ?_
      · rw [hsplit]
        simp
      · rw [hsplit, List.drop_left]
        rfl
    rw [hsplit, List.take_left' hlength]
  have hcolumn : 19 = Text.utf16Length lead := by
    rw [hlead, hunits]
  obtain ⟨hid, hrows⟩ := hagrees hcolumn
  have hreported : ∃ d ∈ validate text registry, d.range.start.line = 1 :=
    (exists_validate_line_iff hempty hline hr).2 (by decide +kernel +revert)
  obtain ⟨row, hrow, hentry, -, hiff, hsupport⟩ := hrows text ⟨"a.js"⟩ ⟨"/"⟩ registry hempty hline
  have hfileName : (Path.mk "a.js").fileName = "a.js" := by
    decide +kernel
  rw [hfileName] at hentry
  exact ⟨hmarker, hdigits, hempty, hline, lead, hfirst, _, hr, hcolumn, hid, row, hrow, hentry,
    hreported, hiff.1 hreported, hsupport (hiff.1 hreported)⟩

end FeatureRefs
