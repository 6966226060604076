import FeatureRefs.Proofs.Todo.Marker

/-!
# Markers on both sides of a closing bracket

A marker has one closing bracket, and that is its last character. So a line may be cut behind any
closing bracket: its markers are those of the two parts, and its first marker is that of the first
part or, where that has none, of the second. In particular a candidate that fails uses nothing up
behind its bracket.

At an opening bracket a line may NOT be cut so, for a marker goes on behind its own.
-/

namespace FeatureRefs

/-! ## Closing brackets -/

theorem IsMarkerId.bracket_not_mem {id : List Char} (h : IsMarkerId id) : ')' ∉ id := by
  intro hmem
  rcases h.letters ')' hmem with hletter | hhyphen
  · exact absurd hletter (by decide)
  · exact absurd hhyphen (by decide)

theorem bracket_not_mem_keyword_append {id : List Char} (h : ')' ∉ id) :
    ')' ∉ "TODO(baseline/".toList ++ id := by
  have hkeyword : ')' ∉ "TODO(baseline/".toList := by
    decide
  rw [List.mem_append, not_or]
  exact ⟨hkeyword, h⟩

/-- Behind a closing bracket it does not matter what stands before it. -/
theorem endsInWord_bracket_append {head text : List Char} :
    EndsInWord (head ++ ')' :: text) ↔ EndsInWord text := by
  cases text with
  | nil =>
      have hbracket : Unicode.isWord ')' = false := by
        decide
      simp [EndsInWord, hbracket]
  | cons c text => simp [EndsInWord, List.getLast?_append, List.getLast?_cons_cons]

/-- A text goes up to its first bracket at most as far as up to any other. -/
theorem exists_of_append_bracket_eq {text other after rest : List Char} (h : ')' ∉ text)
    (heq : text ++ ')' :: after = other ++ ')' :: rest) :
    ∃ more, other ++ [')'] = text ++ ')' :: more := by
  rcases List.append_eq_append_iff.1 heq with ⟨more, rfl, hrest⟩ | ⟨more, rfl, hrest⟩
  · cases more with
    | nil => exact ⟨[], by rw [List.append_nil]⟩
    | cons c more =>
        obtain ⟨rfl, -⟩ := List.cons.inj hrest
        exact ⟨more ++ [')'], by simp⟩
  · cases more with
    | nil => exact ⟨[], by rw [List.append_nil]⟩
    | cons c more =>
        obtain ⟨rfl, -⟩ := List.cons.inj hrest
        exact absurd (by simp) h

/-- Two texts without a bracket that go up to the same bracket are the same. -/
theorem eq_of_append_bracket_eq {text text' rest rest' : List Char} (h : ')' ∉ text)
    (h' : ')' ∉ text') (heq : text ++ ')' :: rest = text' ++ ')' :: rest') : text = text' := by
  obtain ⟨more, hmore⟩ := exists_of_append_bracket_eq h heq
  obtain ⟨more', hmore'⟩ := exists_of_append_bracket_eq h' heq.symm
  have hlength := congrArg List.length hmore
  have hlength' := congrArg List.length hmore'
  simp only [List.length_append, List.length_cons, List.length_nil] at hlength hlength'
  exact (List.append_inj heq (by omega)).1

/-! ## Markers of a line that is cut -/

/-- The markers of a line are those up to a bracket and those behind it. -/
theorem markerAt_append_bracket_iff {head rest lead id : List Char} :
    MarkerAt (head ++ ')' :: rest) lead id ↔
      MarkerAt (head ++ [')']) lead id ∨
        ∃ lead', lead = head ++ ')' :: lead' ∧ MarkerAt rest lead' id := by
  constructor
  · rintro ⟨before, after, rfl, hline, houtside, hid⟩
    rw [List.append_assoc] at hline
    rcases List.append_eq_append_iff.1 hline with ⟨more, rfl, hrest⟩ | ⟨more, rfl, hrest⟩
    · -- The marker begins at the bracket or behind it.
      cases more with
      | nil => exact absurd (List.cons.inj hrest).1 (by decide)
      | cons c more =>
          obtain ⟨rfl, rfl⟩ := List.cons.inj hrest
          rw [endsInWord_bracket_append] at houtside
          exact .inr ⟨more ++ "TODO(baseline/".toList, by simp,
            more, after, rfl, by simp, houtside, hid⟩
    · -- It begins before the bracket, so its own bracket comes no later.
      rw [← List.append_assoc] at hrest
      obtain ⟨after', hafter'⟩ := exists_of_append_bracket_eq
        (bracket_not_mem_keyword_append hid.bracket_not_mem) hrest
      refine .inl ⟨before, after', rfl, ?_, houtside, hid⟩
      rw [List.append_assoc, hafter', List.append_assoc, List.append_assoc]
  · rintro (⟨before, after, rfl, hline, houtside, hid⟩ |
      ⟨lead', rfl, before, after, rfl, rfl, houtside, hid⟩)
    · refine ⟨before, after ++ rest, rfl, ?_, houtside, hid⟩
      have hsplit : head ++ ')' :: rest = (head ++ [')']) ++ rest := by simp
      rw [hsplit, hline]
      simp
    · refine ⟨head ++ ')' :: before, after, by simp, by simp, ?_, hid⟩
      rw [endsInWord_bracket_append]
      exact houtside

/-- The id of a marker is determined by the place of the marker. -/
theorem MarkerAt.id_unique {line lead id id' : List Char} (h : MarkerAt line lead id)
    (h' : MarkerAt line lead id') : id = id' := by
  obtain ⟨before, after, -, rfl, -, hid⟩ := h
  obtain ⟨before', after', -, hline, -, hid'⟩ := h'
  exact eq_of_append_bracket_eq hid.bracket_not_mem hid'.bracket_not_mem
    (List.append_cancel_left hline)

theorem MarkerAt.length_lead_lt {line lead id : List Char} (h : MarkerAt line lead id) :
    lead.length < line.length := by
  obtain ⟨before, after, -, rfl, -, -⟩ := h
  simp only [List.length_append, List.length_cons]
  omega

/-- The first marker of a line is the first one up to a bracket, or the first one behind it where
there is none before. -/
theorem isFirstMarker_append_bracket_iff {head rest lead id : List Char} :
    IsFirstMarker (head ++ ')' :: rest) lead id ↔
      IsFirstMarker (head ++ [')']) lead id ∨
        (∀ lead' id', ¬ MarkerAt (head ++ [')']) lead' id') ∧
          ∃ lead', lead = head ++ ')' :: lead' ∧ IsFirstMarker rest lead' id := by
  constructor
  · rintro ⟨hmarker, hfirst⟩
    rcases markerAt_append_bracket_iff.1 hmarker with hleft | ⟨lead', rfl, hright⟩
    · refine .inl ⟨hleft, fun lead' id' h' => ?_⟩
      exact hfirst lead' id' (markerAt_append_bracket_iff.2 (.inl h'))
    · refine .inr ⟨fun earlier id' h' => ?_, lead', rfl, hright, fun lead'' id' h' => ?_⟩
      · have hle := hfirst earlier id' (markerAt_append_bracket_iff.2 (.inl h'))
        have hlt := h'.length_lead_lt
        simp only [List.length_append, List.length_cons, List.length_nil] at hle hlt
        omega
      · have hle := hfirst _ id' (markerAt_append_bracket_iff.2 (.inr ⟨lead'', rfl, h'⟩))
        simp only [List.length_append, List.length_cons] at hle
        omega
  · rintro (⟨hleft, hfirst⟩ | ⟨hnone, lead', rfl, hright, hfirst⟩)
    · refine ⟨markerAt_append_bracket_iff.2 (.inl hleft), fun lead' id' h' => ?_⟩
      rcases markerAt_append_bracket_iff.1 h' with h' | ⟨lead'', rfl, -⟩
      · exact hfirst lead' id' h'
      · have hlt := hleft.length_lead_lt
        simp only [List.length_append, List.length_cons, List.length_nil] at hlt ⊢
        omega
    · refine ⟨markerAt_append_bracket_iff.2 (.inr ⟨lead', rfl, hright⟩), fun lead'' id' h' => ?_⟩
      rcases markerAt_append_bracket_iff.1 h' with hearlier | ⟨later, rfl, hlater⟩
      · exact absurd hearlier (hnone _ _)
      · have hle := hfirst later id' hlater
        simp only [List.length_append, List.length_cons]
        omega

/-- Nothing is found exactly where there is no marker. -/
theorem todoMarker_eq_none_iff {line : List Char} :
    todoMarker line = none ↔ ∀ lead id, ¬ MarkerAt line lead id := by
  rw [todoMarker, Option.map_eq_none_iff, leftmost_eq_none_iff]
  simp only [List.append_nil]
  constructor
  · rintro h lead id ⟨before, after, rfl, hline, hmarker⟩
    have hnone := h before (markerKeyword ++ (id ++ ')' :: after))
      (List.append_ne_nil_of_left_ne_nil (by decide) _) (by rw [hline, List.append_assoc]; rfl)
    have hthere : markerAt? before.reverse (markerKeyword ++ (id ++ ')' :: after)) = some id :=
      markerAt?_eq_some_iff.2 ⟨before, after, rfl, by rw [List.append_assoc], hmarker⟩
    rw [hnone] at hthere
    contradiction
  · rintro h before text - rfl
    cases hfound : markerAt? before.reverse text with
    | none => rfl
    | some id => exact absurd (markerAt?_eq_some_iff.1 hfound) (h _ id)

/-- The search for a marker may be cut at every closing bracket. -/
theorem todoMarker_append_bracket (head rest : List Char) :
    todoMarker (head ++ ')' :: rest) =
      (todoMarker (head ++ [')'])).or (todoMarker rest) := by
  apply Option.ext
  intro m
  rw [Option.or_eq_some_iff, todoMarker_eq_none_iff, todoMarker_eq_some_iff, todoMarker_eq_some_iff,
    todoMarker_eq_some_iff]
  constructor
  · rintro ⟨lead, id, hfirst, rfl⟩
    rcases isFirstMarker_append_bracket_iff.1 hfirst with hleft | ⟨hnone, lead', rfl, hright⟩
    · exact .inl ⟨lead, id, hleft, rfl⟩
    · exact .inr ⟨hnone, lead', id, hright, rfl⟩
  · rintro (⟨lead, id, hleft, rfl⟩ | ⟨hnone, lead', id, hright, rfl⟩)
    · exact ⟨lead, id, isFirstMarker_append_bracket_iff.2 (.inl hleft), rfl⟩
    · exact ⟨_, id, isFirstMarker_append_bracket_iff.2 (.inr ⟨hnone, lead', rfl, hright⟩), rfl⟩

/-! ## The search -/

/-- The grammar of markers is exact: nothing is found exactly when there is no marker on the line, and
what is found is the id of the first marker as it is written, of which there is one at each place.
Where another text stands before the bracket there is no marker, and the search gives what it gives up
to this bracket or else what it gives behind it. -/
theorem todoMarker_exact (line : List Char) :
    (todoMarker line = none ↔ ∀ lead id, ¬ MarkerAt line lead id) ∧
    (∀ m, todoMarker line = some m ↔
      ∃ lead id, IsFirstMarker line lead id ∧ m = String.ofList id) ∧
    (∀ lead id id', MarkerAt line lead id → MarkerAt line lead id' → id = id') ∧
    ∀ before text rest, line = before ++ "TODO(baseline/".toList ++ (text ++ ')' :: rest) →
      ')' ∉ text → ¬ IsMarkerId text →
        (∀ id, ¬ MarkerAt line (before ++ "TODO(baseline/".toList) id) ∧
          todoMarker line =
            (todoMarker (before ++ "TODO(baseline/".toList ++ (text ++ [')']))).or
              (todoMarker rest) := by
  refine ⟨todoMarker_eq_none_iff, fun m => todoMarker_eq_some_iff, ?_, ?_⟩
  · intro lead id id' h h'
    exact h.id_unique h'
  · rintro before text rest rfl htext hid
    constructor
    · rintro id ⟨before', after, -, hline, -, hmarker⟩
      have hsame : text = id := eq_of_append_bracket_eq htext hmarker.bracket_not_mem
        (List.append_cancel_left hline)
      rw [hsame] at hid
      exact hid hmarker
    · rw [← List.append_assoc, todoMarker_append_bracket, List.append_assoc]

/-- A candidate that ends in a hyphen does not hide the marker behind it. -/
theorem todoMarker_exact_hyphen :
    let candidate := "// TODO(baseline/".toList ++ "grid-".toList
    let rest := " TODO(baseline/CSS-Nesting2)".toList
    ')' ∉ "grid-".toList ∧ ¬ IsMarkerId "grid-".toList ∧
      todoMarker (candidate ++ ')' :: rest) = some "CSS-Nesting2" := by
  intro candidate rest
  have hid : ¬ IsMarkerId "grid-".toList := by
    rintro ⟨-, -, c, hlast, halphanum⟩
    obtain rfl : '-' = c := Option.some.inj hlast
    contradiction
  have hbracket : ')' ∉ "grid-".toList := by
    decide
  have hcandidate : todoMarker (candidate ++ [')']) = none := by
    decide +kernel
  have hrest : todoMarker rest = some "CSS-Nesting2" := by
    decide +kernel
  obtain ⟨-, -, -, hcut⟩ := todoMarker_exact (candidate ++ ')' :: rest)
  obtain ⟨-, hfound⟩ := hcut "// ".toList "grid-".toList rest rfl hbracket hid
  refine ⟨hbracket, hid, ?_⟩
  rw [hfound]
  show (todoMarker (candidate ++ [')'])).or (todoMarker rest) = _
  rw [hcandidate, hrest, Option.none_or]

end FeatureRefs
