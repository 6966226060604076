import FeatureRefs.Diagnostic

/-!
# What is validated

The diagnostics of a text are the first references of its lines that are not registered.
-/

namespace FeatureRefs

theorem mem_referencesFrom_iff {lines : List (List Char)} {r : Reference} :
    r ∈ referencesFrom 0 lines ↔ ∃ n line, lines[n]? = some line ∧
      firstReference line n = some r := by
  rw [referencesFrom, List.mem_filterMap]
  constructor
  · rintro ⟨⟨line, n⟩, hline, hr⟩
    exact ⟨n, line, List.mk_mem_zipIdx_iff_getElem?.1 hline, hr⟩
  · rintro ⟨n, line, hline, hr⟩
    exact ⟨(line, n), List.mk_mem_zipIdx_iff_getElem?.2 hline, hr⟩

theorem Diagnostic.ofReference?_eq_some_iff {registry : Registry} {r : Reference} {d : Diagnostic} :
    Diagnostic.ofReference? registry r = some d ↔
      registry.contains r.featureId = false ∧ d = ⟨r.range, r.featureId⟩ := by
  unfold Diagnostic.ofReference?
  cases hcontains : registry.contains r.featureId with
  | true => simp
  | false => simp [eq_comm]

/-- A diagnostic is the first reference of some line, and its id is not registered. -/
theorem mem_validate_iff {text : String} {registry : Registry} {d : Diagnostic} :
    d ∈ validate text registry ↔ registry.isEmpty = false ∧
      ∃ n line r, (Text.lines text.toList)[n]? = some line ∧ firstReference line n = some r ∧
        registry.contains r.featureId = false ∧ d = ⟨r.range, r.featureId⟩ := by
  cases hempty : registry.isEmpty with
  | true => simp [validate, hempty]
  | false =>
      simp only [validate, hempty, Bool.false_eq_true, if_false, List.mem_filterMap, true_and,
        Diagnostic.ofReference?_eq_some_iff]
      constructor
      · rintro ⟨r, hr, hd⟩
        obtain ⟨n, line, hline, hfirst⟩ := mem_referencesFrom_iff.1 hr
        exact ⟨n, line, r, hline, hfirst, hd⟩
      · rintro ⟨n, line, r, hline, hfirst, hd⟩
        exact ⟨r, mem_referencesFrom_iff.2 ⟨n, line, hline, hfirst⟩, hd⟩

/-- A reference lies on the line that it was looked for on. -/
theorem line_eq_of_firstReference {text : List Char} {n : Nat} {r : Reference}
    (h : firstReference text n = some r) : r.line = n := by
  obtain ⟨found, -, rfl⟩ := Option.map_eq_some_iff.1 h
  rfl

/-- On a line whose first reference is registered nothing is reported. -/
theorem forall_validate_line_ne {text : String} {registry : Registry} {n : Nat} {line : List Char}
    {r : Reference} (hline : (Text.lines text.toList)[n]? = some line)
    (hr : firstReference line n = some r)
    (hcontains : registry.contains r.featureId = true) :
    ∀ d ∈ validate text registry, d.range.start.line ≠ n := by
  intro d hd hn
  obtain ⟨-, n', line', r', hline', hr', hmissing, rfl⟩ := mem_validate_iff.1 hd
  obtain rfl : n' = n := (line_eq_of_firstReference hr').symm.trans hn
  rw [hline, Option.some.injEq] at hline'
  subst hline'
  rw [hr, Option.some.injEq] at hr'
  subst hr'
  simp [hcontains] at hmissing

/-- Of a line whose first reference is known something is reported exactly when that is not
registered. -/
theorem exists_validate_line_iff {text : String} {registry : Registry} {n : Nat} {line : List Char}
    {r : Reference} (hempty : registry.isEmpty = false)
    (hline : (Text.lines text.toList)[n]? = some line) (hr : firstReference line n = some r) :
    (∃ d ∈ validate text registry, d.range.start.line = n) ↔
      registry.contains r.featureId = false := by
  constructor
  · rintro ⟨d, hd, hn⟩
    cases hcontains : registry.contains r.featureId with
    | false => rfl
    | true => exact absurd hn (forall_validate_line_ne hline hr hcontains d hd)
  · intro hmissing
    exact ⟨⟨r.range, r.featureId⟩,
      mem_validate_iff.2 ⟨hempty, n, line, r, hline, hr, hmissing, rfl⟩, line_eq_of_firstReference hr⟩

/-- Nothing is reported of a text of one line exactly when its first reference is registered, if it
has one. -/
theorem validate_line_eq_nil_iff {line : List Char} {registry : Registry}
    (hempty : registry.isEmpty = false) (hne : line ≠ []) (hline : '\n' ∉ line) :
    validate (String.ofList line) registry = [] ↔
      ∀ r, firstReference line 0 = some r → registry.contains r.featureId = true := by
  have hlines : Text.lines (String.ofList line).toList = [line] := by
    rw [String.toList_ofList, Text.lines_eq_singleton hne hline]
  rw [List.eq_nil_iff_forall_not_mem]
  constructor
  · intro h r hr
    cases hcontains : registry.contains r.featureId with
    | true => rfl
    | false =>
        have hhere : (Text.lines (String.ofList line).toList)[0]? = some line := by
          rw [hlines]
          rfl
        exact absurd (mem_validate_iff.2 ⟨hempty, 0, line, r, hhere, hr, hcontains, rfl⟩) (h _)
  · intro h d hd
    obtain ⟨-, n, line', r, hline', hr, hmissing, -⟩ := mem_validate_iff.1 hd
    rw [hlines, List.getElem?_singleton] at hline'
    obtain ⟨rfl, hsame⟩ := Option.ite_none_right_eq_some.1 hline'
    obtain rfl := Option.some.inj hsame
    rw [h r hr] at hmissing
    contradiction

end FeatureRefs
