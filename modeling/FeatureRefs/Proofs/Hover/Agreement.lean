import FeatureRefs.Hover
import FeatureRefs.Proofs.Reference.Cut
import FeatureRefs.Proofs.Validation

/-!
# Hovers and diagnostics

A hover looks at the beginning of a line, and validation at the whole of it. They speak of the same
reference exactly when what the beginning hides does not matter to it. When it does not, nothing is
reported on the line of a hover. When it does, a hover may be shown for an id that the line does not
have, beside a diagnostic for the one that it has.
-/

namespace FeatureRefs

theorem referenceUnder_eq_some_iff {text : String} {position : Position} {r : Reference} :
    referenceUnder text position = some r ↔
      ∃ line, (Text.lines text.toList)[position.line]? = some line ∧
        firstReference (line.take hoverScanLength) position.line = some r ∧
        r.containsColumn position.character = true := by
  simp only [referenceUnder, Option.bind_eq_bind, Option.bind_eq_some_iff]
  constructor
  · rintro ⟨line, hline, r', hr', hcolumn⟩
    obtain ⟨hcontains, hr⟩ := Option.ite_none_right_eq_some.1 hcolumn
    obtain rfl := Option.some.inj hr
    exact ⟨line, hline, hr', hcontains⟩
  · rintro ⟨line, hline, hr, hcontains⟩
    exact ⟨line, hline, r, hr, by rw [if_pos hcontains]⟩

/-- A hover shows what is registered for the reference at its position. -/
theorem hover_eq_some_iff {text : String} {position : Position} {registry : Registry}
    {style : HoverStyle}
    {h : Hover} :
    hover text position registry style = some h ↔
      ∃ r feature, referenceUnder text position = some r ∧
        registry.get? r.featureId = some feature ∧
        h = { markdown := Hover.markdownOf registry style feature
              range := r.range
              featureId := r.featureId
              status := feature.status } := by
  simp only [hover, Option.bind_eq_bind, Option.bind_eq_some_iff, Option.pure_def,
    Option.some.injEq]
  constructor
  · rintro ⟨r, hr, feature, hfeature, rfl⟩
    exact ⟨r, feature, hr, hfeature, rfl⟩
  · rintro ⟨r, feature, hr, hfeature, rfl⟩
    exact ⟨r, hr, feature, hfeature, rfl⟩

/-- There is a hover wherever the reference at a position is registered. -/
theorem exists_hover {text : String} {position : Position} {registry : Registry} {r : Reference}
    (hr : referenceUnder text position = some r) (hcontains : registry.contains r.featureId = true)
    (style : HoverStyle) :
    ∃ h, hover text position registry style = some h ∧ h.range = r.range ∧
      h.featureId = r.featureId := by
  rw [Registry.contains_eq_isSome] at hcontains
  obtain ⟨feature, hfeature⟩ := Option.isSome_iff_exists.1 hcontains
  exact ⟨_, hover_eq_some_iff.2 ⟨r, feature, hr, hfeature, rfl⟩, rfl, rfl⟩

/-- A hover and the validation of its line agree on the reference exactly when the cut does not
matter, and then nothing is reported on the line. -/
theorem hover_agrees_iff {text : String} {position : Position} {registry : Registry}
    {style : HoverStyle}
    {h : Hover} (hh : hover text position registry style = some h) :
    ∃ line, (Text.lines text.toList)[position.line]? = some line ∧
      ((∃ r, firstReference line position.line = some r ∧ r.range = h.range ∧
        r.featureId = h.featureId) ↔
        ¬ CutMatters line hoverScanLength) ∧
      (¬ CutMatters line hoverScanLength →
        ∀ d ∈ validate text registry, d.range.start.line ≠ position.line) := by
  obtain ⟨r, feature, hunder, hfeature, rfl⟩ := hover_eq_some_iff.1 hh
  obtain ⟨line, hline, hr, -⟩ := referenceUnder_eq_some_iff.1 hunder
  have hagrees := firstReference_take_iff hr
  refine ⟨line, hline, hagrees, ?_⟩
  intro hcut
  obtain ⟨r', hr', -, hid⟩ := hagrees.2 hcut
  have hcontains : registry.contains r'.featureId = true := by
    rw [Registry.contains_eq_isSome, hid, hfeature, Option.isSome_some]
  exact forall_validate_line_ne hline hr' hcontains

/-- On a short line a hover agrees with validation. -/
theorem hover_agrees_grid :
    let registry := Registry.empty.put ⟨"grid", "Grid", "", "", {}⟩
    ∃ h, hover "baseline/grid" ⟨0, 9⟩ registry {} = some h ∧
      (∃ r, firstReference "baseline/grid".toList 0 = some r ∧ r.range = h.range ∧
        r.featureId = h.featureId) ∧
      ∀ d ∈ validate "baseline/grid" registry, d.range.start.line ≠ 0 := by
  intro registry
  have hunder : referenceUnder "baseline/grid" ⟨0, 9⟩ = some ⟨0, 9, 13, "grid", .hotPhrase⟩ := by
    decide
  obtain ⟨h, hh, -, -⟩ := @exists_hover _ _ registry _ hunder (by decide) {}
  obtain ⟨line, hline, hagrees, hsilent⟩ := hover_agrees_iff hh
  obtain rfl : "baseline/grid".toList = line := by
    have hlines : (Text.lines "baseline/grid".toList)[0]? = some "baseline/grid".toList := by decide
    exact Option.some.inj (hlines.symm.trans hline)
  have hcut : ¬ CutMatters "baseline/grid".toList hoverScanLength :=
    not_cutMatters_of_length_le (by decide)
  exact ⟨h, hh, hagrees.2 hcut, hsilent hcut⟩

/-- A hover shows the feature `grid` where the line says `grid-lanes` across the cut, which is not
registered and reported. -/
theorem hover_not_agrees :
    ¬ ∀ (text : String) (position : Position) (registry : Registry) (style : HoverStyle)
      (h : Hover),
      registry.isEmpty = false → hover text position registry style = some h →
        (∃ line r, (Text.lines text.toList)[position.line]? = some line ∧
          firstReference line position.line = some r ∧ r.range = h.range ∧
            r.featureId = h.featureId) ∧
        ∀ d ∈ validate text registry, d.range.start.line ≠ position.line := by
  intro hclaim
  let text := String.ofList (List.replicate 87 ' ') ++ "baseline/grid-lanes"
  let registry := Registry.empty.put ⟨"grid", "Grid", "", "", {}⟩
  have hunder : referenceUnder text ⟨0, 97⟩ = some ⟨0, 96, 100, "grid", .hotPhrase⟩ := by
    decide +kernel
  have hlines : (Text.lines text.toList)[0]? = some text.toList := by
    decide +kernel
  have hfirst : firstReference text.toList 0 = some ⟨0, 96, 106, "grid-lanes", .hotPhrase⟩ := by
    decide +kernel
  obtain ⟨h, hh, hrange, -⟩ := @exists_hover _ _ registry _ hunder (by decide) {}
  obtain ⟨⟨line, r, hline, hr, hsame, -⟩, -⟩ := hclaim text ⟨0, 97⟩ registry {} h (by decide) hh
  obtain rfl : text.toList = line := Option.some.inj (hlines.symm.trans hline)
  obtain rfl := Option.some.inj (hfirst.symm.trans hr)
  rw [hrange] at hsame
  exact absurd hsame (by decide)

end FeatureRefs
