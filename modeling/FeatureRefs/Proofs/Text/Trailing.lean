import FeatureRefs.Proofs.Reference.Cut
import FeatureRefs.Proofs.Todo.Marker

/-!
# Text at the end of a line

What stands at the end of a line and has no word characters and no hyphens is nothing to a reference: no
id goes on there, and the end of the line is as good an edge of a word. What has no closing bracket is
nothing to a TODO marker. So blanks and carriage returns at the end of a line change nothing that is found.

At the beginning of a line this does NOT hold, for it moves the columns.
-/

namespace FeatureRefs

/-- A text that ends with a character of its own does not reach into what follows. -/
theorem exists_of_append_eq_append {line tail text after : List Char}
    (h : line ++ tail = text ++ after) (hlast : ∀ c, text.getLast? = some c → c ∉ tail) :
    ∃ after', line = text ++ after' ∧ after = after' ++ tail := by
  rcases List.append_eq_append_iff.1 h with ⟨more, rfl, htail⟩ | ⟨more, rfl, hafter⟩
  · -- The text would end inside of what follows the line, but its last character does not occur there.
    cases hmore : more.getLast? with
    | none =>
        obtain rfl := List.getLast?_eq_none_iff.1 hmore
        exact ⟨[], by simp, by simpa using htail.symm⟩
    | some c =>
        have hmem : c ∈ tail := by
          rw [htail]
          exact List.mem_append_left _ (List.mem_of_getLast? hmore)
        exact absurd hmem (hlast c (by rw [List.getLast?_append, hmore, Option.some_or]))
  · exact ⟨more, rfl, hafter⟩

/-! ## References -/

/-- A text in which no id can go on: no word characters and no hyphens. -/
def IsIdle (text : List Char) : Prop :=
  ∀ c ∈ text, Unicode.isWord c = false ∧ c ≠ '-'

namespace IsIdle

variable {tail line lead id after : List Char} {start : Nat} {form : ReferenceForm}

theorem not_isIdLetter (h : IsIdle tail) {c : Char} (hc : c ∈ tail) : ¬ IsIdLetter c := by
  intro hletter
  obtain ⟨hword, hhyphen⟩ := h c hc
  rw [hletter.isWord_iff.2 hhyphen] at hword
  contradiction

theorem not_beginsWithWord (h : IsIdle tail) : ¬ BeginsWithWord tail := by
  rintro ⟨c, hc, hword⟩
  rw [(h c (List.mem_of_head? hc)).1] at hword
  contradiction

theorem not_beginsWithIdLetter (h : IsIdle tail) : ¬ BeginsWithIdLetter tail := by
  rintro ⟨c, hc, hletter⟩
  exact h.not_isIdLetter (List.mem_of_head? hc) hletter

/-- An edge of a word stays one when idle text is put at the end. -/
theorem atWordEdge_append_iff (h : IsIdle tail) :
    AtWordEdge id (after ++ tail) ↔ AtWordEdge id after := by
  have hsame : BeginsWithWord (after ++ tail) ↔ BeginsWithWord after := by
    cases after with
    | nil => exact iff_of_false h.not_beginsWithWord (by simp [BeginsWithWord])
    | cons c after => rfl
  rw [AtWordEdge, AtWordEdge, hsame]

theorem isPhraseId_of_append (h : IsIdle tail) (hid : IsPhraseId id (after ++ tail)) :
    IsPhraseId id after := by
  obtain ⟨hne, hletters, hedge⟩ := hid.bounded
  refine ⟨⟨hne, hletters, h.atWordEdge_append_iff.1 hedge⟩, ?_⟩
  -- A longer id in front of the idle text is a longer one with it, too.
  rintro more rest rfl hmore ⟨hne', hletters', hedge'⟩
  exact hid.longest more (rest ++ tail) (List.append_assoc ..) hmore
    ⟨hne', hletters', h.atWordEdge_append_iff.2 hedge'⟩

theorem isIdRun_of_append (h : IsIdRun id (after ++ tail)) : IsIdRun id after := by
  refine ⟨h.ne_nil, h.letters, ?_⟩
  rintro ⟨c, hc, hletter⟩
  exact h.ends ⟨c, by rw [List.head?_append, hc, Option.some_or], hletter⟩

theorem isAttribute_of_append {tag gap : List Char} (h : IsAttribute tag gap lead id (after ++ tail)) :
    IsAttribute tag gap lead id after := by
  refine ⟨h.spelled, h.isOpen, h.leads, isIdRun_of_append h.run, ?_⟩
  rintro gap' lead' value ⟨hsplit, hopen, hleads, c, hc, hletter⟩
  refine h.last gap' lead' (value ++ tail) ⟨?_, hopen, hleads, c, ?_, hletter⟩
  · rw [← List.append_assoc id, ← List.append_assoc, hsplit, List.append_assoc]
  · rw [List.head?_append, hc, Option.some_or]

/-- The id of a reference does not reach into idle text. -/
theorem exists_after {inner : List Char} (h : IsIdle tail) (hid : id ≠ [])
    (hletters : ∀ c ∈ id, IsIdLetter c) (hsplit : line ++ tail = inner ++ (id ++ after)) :
    ∃ after', line = inner ++ (id ++ after') ∧ after = after' ++ tail := by
  rw [← List.append_assoc] at hsplit
  obtain ⟨after', hline, hafter⟩ := exists_of_append_eq_append hsplit (by
    intro c hc hmem
    rw [List.getLast?_append_of_ne_nil _ hid] at hc
    exact h.not_isIdLetter hmem (hletters c (List.mem_of_getLast? hc)))
  exact ⟨after', by rw [hline, List.append_assoc], hafter⟩

theorem referenceAt_of_append (h : IsIdle tail)
    (hreference : ReferenceAt (line ++ tail) start form lead id) :
    ReferenceAt line start form lead id := by
  cases hreference with
  | @ofHotPhrase before keyword id after split isHotPhrase =>
      obtain ⟨hne, hletters, -⟩ := isHotPhrase.isPhraseId.bounded
      rw [← List.append_assoc] at split
      obtain ⟨after', hline, rfl⟩ := h.exists_after hne hletters split
      rw [List.append_assoc] at hline
      exact .ofHotPhrase hline
        ⟨isHotPhrase.spelled, isHotPhrase.outside, h.isPhraseId_of_append isHotPhrase.isPhraseId⟩
  | @ofAttribute before tag gap lead id after split isAttribute =>
      rw [← List.append_assoc tag, ← List.append_assoc] at split
      obtain ⟨after', hline, rfl⟩ :=
        h.exists_after isAttribute.run.ne_nil isAttribute.run.letters split
      rw [List.append_assoc, List.append_assoc] at hline
      exact .ofAttribute hline (isAttribute_of_append isAttribute)

/-- The references of a line are the same with idle text at its end. -/
theorem referenceAt_append_iff (h : IsIdle tail) :
    ReferenceAt (line ++ tail) start form lead id ↔ ReferenceAt line start form lead id := by
  refine ⟨h.referenceAt_of_append, fun hreference => ?_⟩
  obtain ⟨before, inner, after, hsplit, -, hlead, -⟩ := hreference.exists_split
  rw [← List.append_assoc, ← hlead] at hsplit
  refine hreference.append hsplit ?_ ?_
  · cases form with
    | hotPhrase =>
        rintro ⟨-, c, hc, hword⟩
        have hmem : c ∈ tail := (List.dropWhile_suffix _).subset (List.mem_of_head? hc)
        rw [(h c hmem).1] at hword
        contradiction
    | «attribute» =>
        rintro ⟨-, hbegins⟩
        exact h.not_beginsWithIdLetter hbegins
  · -- An id in the idle text would be one of the line itself.
    rintro ⟨start', lead', id', hhidden, -, hle⟩
    obtain ⟨before', inner', after', hline, -, rfl, hid⟩ :=
      (h.referenceAt_of_append hhidden).exists_split
    have hpos := List.length_pos_iff.2 hid
    have hlength := congrArg List.length hline
    simp only [List.length_append] at hlength hle
    omega

/-- The first reference of a line is the same with idle text at its end. -/
theorem firstReference_append (h : IsIdle tail) (line : List Char) (n : Nat) :
    firstReference (line ++ tail) n = firstReference line n := by
  apply Option.ext
  intro r
  simp only [firstReference_eq_some_iff, IsFirstReference, h.referenceAt_append_iff]

end IsIdle

/-! ## Markers -/

/-- A marker ends in a bracket, so it does not reach into text without brackets. -/
theorem markerAt_append_iff {line tail lead id : List Char} (h : ')' ∉ tail) :
    MarkerAt (line ++ tail) lead id ↔ MarkerAt line lead id := by
  constructor
  · rintro ⟨before, after, rfl, hline, houtside, hid⟩
    have hsplit : line ++ tail = before ++ "TODO(baseline/".toList ++ (id ++ [')']) ++ after := by
      rw [hline]
      simp only [List.append_assoc, List.singleton_append]
    obtain ⟨after', hline', -⟩ := exists_of_append_eq_append hsplit (by
      intro c hc
      rw [← List.append_assoc, List.getLast?_concat, Option.some.injEq] at hc
      rwa [← hc])
    refine ⟨before, after', rfl, ?_, houtside, hid⟩
    rw [hline']
    simp only [List.append_assoc, List.singleton_append]
  · rintro ⟨before, after, rfl, rfl, houtside, hid⟩
    exact ⟨before, after ++ tail, rfl, by simp only [List.append_assoc, List.cons_append], houtside,
      hid⟩

/-- The marker of a line is the same with text without brackets at its end. -/
theorem todoMarker_append {tail : List Char} (h : ')' ∉ tail) (line : List Char) :
    todoMarker (line ++ tail) = todoMarker line := by
  apply Option.ext
  intro m
  simp only [todoMarker_eq_some_iff, IsFirstMarker, markerAt_append_iff h]

/-! ## Carriage returns -/

theorem isIdle_return : IsIdle ['\r'] := by
  intro c hc
  obtain rfl := List.mem_singleton.1 hc
  exact ⟨by decide +kernel, by decide⟩

end FeatureRefs
