import FeatureRefs.Diagnostic
import FeatureRefs.Hover
import FeatureRefs.Reference.Trigger
import FeatureRefs.Server.Completion
import FeatureRefs.Proofs.Reference.Search
import FeatureRefs.Proofs.Text.LetterCase

/-!
# References in either case

No recogniser looks at the case of ASCII letters: with the text in lower case it finds the same place, and the id
in lower case. What is made of an id, the feature it refers to and the features that are offered for it, is made
of its lower-case form. So texts with the same letters have the same references, diagnostics and hovers, and
the same is offered at every column.

What is typed at a trigger is NOT put in lower case: the trigger has it as it stands on the line, and only the
search looks past its case.
-/

namespace FeatureRefs

/-! ## Recognisers -/

theorem dropKeyword?_map_toLower (keyword text : List Char) :
    dropKeyword? keyword (text.map Char.toLower) =
      (dropKeyword? keyword text).map (List.map Char.toLower) := by
  fun_induction dropKeyword? keyword text with
  | case1 text => rfl
  | case2 k keyword => rfl
  | case3 k keyword c text heq ih =>
      rw [List.map_cons, dropKeyword?, foldCase_toLower, if_pos heq, ih]
  | case4 k keyword c text hne =>
      rw [List.map_cons, dropKeyword?, foldCase_toLower, if_neg hne]
      rfl

theorem splitQuote_map_toLower (text : List Char) :
    splitQuote (text.map Char.toLower) =
      ((splitQuote text).1.map Char.toLower, (splitQuote text).2.map Char.toLower) := by
  cases text with
  | nil => rfl
  | cons c rest =>
      rw [List.map_cons, splitQuote, splitQuote, isQuote_toLower]
      split
      · rfl
      · rfl

theorem boundedId?_map_toLower (text : List Char) :
    boundedId? (text.map Char.toLower) = (boundedId? text).map (List.map Char.toLower) := by
  induction text with
  | nil => rfl
  | cons c rest ih =>
      have hboundary := Unicode.isBoundary_map_toLower [c] rest
      rw [List.map_cons, boundedId?, boundedId?, isIdChar_toLower, ih]
      split
      · cases boundedId? rest with
        | some id => rfl
        | none =>
            rw [List.map_singleton] at hboundary
            simp only [Option.map_none, hboundary]
            split
            · rfl
            · rfl
      · rfl

/-- The occurrence with its letters in lower case. -/
def Occurrence.inLower (o : Occurrence) : Occurrence where
  before := o.before.map Char.toLower
  id := o.id.map Char.toLower

/-- A recogniser that finds the same in a text in lower case, with the letters in lower case. -/
def IsCaseBlind (recognise : List Char → Option Occurrence) : Prop :=
  ∀ text, recognise (text.map Char.toLower) = (recognise text).map Occurrence.inLower

theorem Occurrence.inLower_after (before : List Char) (o : Occurrence) :
    o.inLower.after (before.map Char.toLower) = (o.after before).inLower := by
  simp [Occurrence.after, Occurrence.inLower]

theorem IsCaseBlind.lastInTag {recognise : List Char → Option Occurrence}
    (h : IsCaseBlind recognise) : IsCaseBlind (lastInTag recognise) := by
  intro text
  induction text with
  | nil => exact h []
  | cons c rest ih =>
      have hlater : (if c.toLower = '>' then none
            else FeatureRefs.lastInTag recognise (rest.map Char.toLower)) =
          (if c = '>' then none else FeatureRefs.lastInTag recognise rest).map
            Occurrence.inLower := by
        simp only [toLower_eq_iff (d := '>') (by decide), ih]
        split
        · rfl
        · rfl
      rw [List.map_cons, FeatureRefs.lastInTag, FeatureRefs.lastInTag, hlater]
      cases (if c = '>' then none else FeatureRefs.lastInTag recognise rest) with
      | some o => rfl
      | none => exact h (c :: rest)

theorem IsCaseBlind.statusTagAt? {recognise : List Char → Option Occurrence}
    (h : IsCaseBlind recognise) : IsCaseBlind (statusTagAt? recognise) := by
  intro text
  rw [FeatureRefs.statusTagAt?, FeatureRefs.statusTagAt?, dropKeyword?_map_toLower]
  cases dropKeyword? statusTagKeyword text with
  | none => rfl
  | some rest =>
      simp only [Option.map_some, h.lastInTag rest, Option.map_map]
      congr 1
      funext o
      simp [Occurrence.inLower, List.map_take]

theorem isCaseBlind_attributeAt? : IsCaseBlind attributeAt? := by
  refine IsCaseBlind.statusTagAt? fun text => ?_
  rw [attributeValueAt?, attributeValueAt?, dropKeyword?_map_toLower]
  cases dropKeyword? featureIdKeyword text with
  | none => rfl
  | some rest =>
      have hletters : isIdChar ∘ Char.toLower = isIdChar := funext isIdChar_toLower
      simp only [Option.map_some, splitQuote_map_toLower, List.takeWhile_map, hletters]
      cases (splitQuote rest).2.takeWhile isIdChar with
      | nil => rfl
      | cons c id => simp [Occurrence.inLower, List.map_take]

/-- Whether a text is made of id letters does not depend on their case. -/
theorem all_isIdChar_map_toLower (text : List Char) :
    (text.map Char.toLower).all isIdChar = text.all isIdChar := by
  have hletters : isIdChar ∘ Char.toLower = isIdChar := funext isIdChar_toLower
  rw [List.all_map, hletters]

theorem isCaseBlind_attributeTriggerAt? : IsCaseBlind attributeTriggerAt? := by
  refine IsCaseBlind.statusTagAt? fun text => ?_
  rw [attributeValueTriggerAt?, attributeValueTriggerAt?, dropKeyword?_map_toLower]
  cases dropKeyword? featureIdKeyword text with
  | none => rfl
  | some rest =>
      simp only [Option.map_some, splitQuote_map_toLower, all_isIdChar_map_toLower]
      split
      · simp [Occurrence.inLower, List.map_take]
      · rfl

theorem hotPhraseAt?_map_toLower (before text : List Char) :
    hotPhraseAt? (before.map Char.toLower) (text.map Char.toLower) =
      (hotPhraseAt? before text).map Occurrence.inLower := by
  rw [hotPhraseAt?, hotPhraseAt?, Unicode.isBoundary_map_toLower, dropKeyword?_map_toLower]
  split
  · cases dropKeyword? hotPhraseKeyword text with
    | none => rfl
    | some rest =>
        simp only [Option.map_some, boundedId?_map_toLower, Option.map_map]
        congr 1
        funext id
        simp [Occurrence.inLower, List.map_take]
  · rfl

theorem hotPhraseTriggerAt?_map_toLower (before text : List Char) :
    hotPhraseTriggerAt? (before.map Char.toLower) (text.map Char.toLower) =
      (hotPhraseTriggerAt? before text).map Occurrence.inLower := by
  rw [hotPhraseTriggerAt?, hotPhraseTriggerAt?, Unicode.isBoundary_map_toLower,
    dropKeyword?_map_toLower]
  split
  · cases dropKeyword? hotPhraseKeyword text with
    | none => rfl
    | some rest =>
        simp only [Option.map_some, all_isIdChar_map_toLower]
        split
        · simp [Occurrence.inLower, List.map_take]
        · rfl
  · rfl

/-- Where each place of a text answers the same in either case, so does the first place that answers. -/
theorem leftmost_map_toLower {α : Type} {recognise : List Char → List Char → Option α}
    {inLower : α → α}
    (h : ∀ before text, recognise (before.map Char.toLower) (text.map Char.toLower) =
      (recognise before text).map inLower) (before text : List Char) :
    leftmost recognise (before.map Char.toLower) (text.map Char.toLower) =
      (leftmost recognise before text).map inLower := by
  induction text generalizing before with
  | nil => rfl
  | cons c rest ih =>
      have hhere := h before (c :: rest)
      have hlater := ih (c :: before)
      rw [List.map_cons] at hhere hlater
      rw [List.map_cons, leftmost, leftmost, hhere, hlater]
      cases recognise before (c :: rest) with
      | some found => rfl
      | none => rfl

/-! ## References -/

theorem Occurrence.toReference_inLower (o : Occurrence) (form : ReferenceForm) (line : Nat) :
    o.inLower.toReference form line = o.toReference form line := by
  simp only [Occurrence.toReference, Occurrence.startColumn, Occurrence.endColumn,
    Occurrence.inLower, Text.utf16Length_map_toLower, Unicode.lowercase_map_toLower]

theorem referenceAt?_map_toLower (before text : List Char) :
    referenceAt? (before.map Char.toLower) (text.map Char.toLower) =
      (referenceAt? before text).map (Prod.map Occurrence.inLower id) := by
  rw [referenceAt?, referenceAt?, hotPhraseAt?_map_toLower, isCaseBlind_attributeAt?]
  cases hotPhraseAt? before text with
  | some o => simp [Occurrence.inLower_after]
  | none =>
      simp only [Option.map_none, Option.map_map]
      congr 1
      funext o
      simp [Occurrence.inLower_after]

/-- The first reference of a line in lower case is that of the line. -/
theorem firstReference_map_toLower (line : List Char) (n : Nat) :
    firstReference (line.map Char.toLower) n = firstReference line n := by
  have hfirst := leftmost_map_toLower referenceAt?_map_toLower [] line
  rw [List.map_nil] at hfirst
  rw [firstReference_eq_leftmost, firstReference_eq_leftmost, hfirst, Option.map_map]
  congr 1
  funext o
  exact Occurrence.toReference_inLower o.1 o.2 n

/-! ## Triggers -/

/-- The trigger with what is typed in lower case. -/
def Trigger.inLower (t : Trigger) : Trigger :=
  { t with typed := String.ofList (t.typed.toList.map Char.toLower) }

theorem hotPhraseTrigger?_map_toLower (text : List Char) :
    hotPhraseTrigger? (text.map Char.toLower) =
      (hotPhraseTrigger? text).map Occurrence.inLower := by
  refine leftmost_map_toLower (fun before text => ?_) [] text
  rw [hotPhraseTriggerAt?_map_toLower, Option.map_map, Option.map_map]
  congr 1
  funext o
  exact Occurrence.inLower_after before o

theorem attributeTrigger?_map_toLower (text : List Char) :
    attributeTrigger? (text.map Char.toLower) =
      (attributeTrigger? text).map Occurrence.inLower := by
  refine leftmost_map_toLower (fun before text => ?_) [] text
  rw [isCaseBlind_attributeTriggerAt?, Option.map_map, Option.map_map]
  congr 1
  funext o
  exact Occurrence.inLower_after before o

theorem triggerOccurrence?_map_toLower (text : List Char) :
    triggerOccurrence? (text.map Char.toLower) =
      (triggerOccurrence? text).map (Prod.map Occurrence.inLower id) := by
  rw [triggerOccurrence?, triggerOccurrence?, hotPhraseTrigger?_map_toLower,
    attributeTrigger?_map_toLower]
  cases hotPhraseTrigger? text with
  | some o => rfl
  | none =>
      simp only [Option.map_none, Option.map_map]
      rfl

/-- A column of a line in lower case has the trigger of the line, with what is typed in lower case. -/
theorem completionTrigger_map_toLower (line : List Char) (n column : Nat) :
    completionTrigger (line.map Char.toLower) n column =
      (completionTrigger line n column).map Trigger.inLower := by
  simp only [completionTrigger, Text.byteOffset_map_toLower, Text.takeBytes_map_toLower,
    triggerOccurrence?_map_toLower, Option.map_map]
  congr 1
  funext o
  simp [Trigger.inLower, Occurrence.inLower, Occurrence.startColumn, Text.utf16Column,
    Text.takeBytes_map_toLower, Text.utf16Length_map_toLower]

theorem completionItems_inLower (t : Trigger) (registry : Registry) :
    completionItems t.inLower registry = completionItems t registry := by
  have hsearch := registry.search_map_toLower t.typed.toList
  rw [String.ofList_toList] at hsearch
  rw [completionItems, completionItems, Trigger.inLower, hsearch]
  rfl

/-! ## Texts with the same letters -/

/-- Two triggers at the same place, of the same form, at which the same is offered in the same order. -/
structure Trigger.OffersSame (t t' : Trigger) : Prop where
  line_eq : t.line = t'.line
  column_eq : t.column = t'.column
  cursor_eq : t.cursor = t'.cursor
  form_eq : t.form = t'.form
  items_eq : ∀ registry, completionItems t registry = completionItems t' registry

theorem Trigger.offersSame_of_inLower_eq {t t' : Trigger} (h : t.inLower = t'.inLower) :
    t.OffersSame t' where
  line_eq := (congrArg Trigger.line h : t.inLower.line = t'.inLower.line)
  column_eq := (congrArg Trigger.column h : t.inLower.column = t'.inLower.column)
  cursor_eq := (congrArg Trigger.cursor h : t.inLower.cursor = t'.inLower.cursor)
  form_eq := (congrArg Trigger.form h : t.inLower.form = t'.inLower.form)
  items_eq registry := by
    rw [← completionItems_inLower t, h, completionItems_inLower]

theorem Text.SameLetters.map_lines {text text' : List Char} (h : SameLetters text text') :
    (lines text).map (List.map Char.toLower) = (lines text').map (List.map Char.toLower) := by
  rw [← lines_map_toLower, h, lines_map_toLower]

theorem referencesFrom_map_toLower (first : Nat) (lines : List (List Char)) :
    referencesFrom first (lines.map (List.map Char.toLower)) = referencesFrom first lines := by
  simp only [referencesFrom, List.zipIdx_map, List.filterMap_map]
  congr 1
  funext line
  exact firstReference_map_toLower line.1 line.2

/-- The reference at a position can be read off the line in lower case. -/
theorem referenceUnder_eq (text : String) (position : Position) :
    referenceUnder text position =
      ((Text.lines text.toList).map (List.map Char.toLower))[position.line]?.bind fun line =>
        (firstReference (line.take hoverScanLength) position.line).bind fun reference =>
          if reference.containsColumn position.character then some reference else none := by
  rw [List.getElem?_map, Option.bind_map]
  refine congrArg _ (funext fun line => ?_)
  rw [Function.comp_apply, ← List.map_take, firstReference_map_toLower]
  rfl

/-- Texts that differ in the case of ASCII letters at most have the same first reference when they are
read as one line, the same diagnostics and the same hovers. At every column both have a trigger or none,
at the same place, and the same is offered there. -/
theorem recognition_of_sameLetters {text text' : String}
    (h : Text.SameLetters text.toList text'.toList) :
    (∀ n, firstReference text.toList n = firstReference text'.toList n) ∧
    (∀ registry, validate text registry = validate text' registry) ∧
    (∀ position registry style,
      hover text position registry style = hover text' position registry style) ∧
    ∀ n column, Option.Rel Trigger.OffersSame (completionTrigger text.toList n column)
      (completionTrigger text'.toList n column) := by
  refine ⟨?_, ?_, ?_, ?_⟩
  · intro n
    rw [← firstReference_map_toLower, h, firstReference_map_toLower]
  · intro registry
    have hreferences : referencesFrom 0 (Text.lines text.toList) =
        referencesFrom 0 (Text.lines text'.toList) := by
      rw [← referencesFrom_map_toLower, h.map_lines, referencesFrom_map_toLower]
    rw [validate, validate, hreferences]
  · intro position registry style
    rw [hover, hover, referenceUnder_eq, referenceUnder_eq, h.map_lines]
  · intro n column
    have htriggers : (completionTrigger text.toList n column).map Trigger.inLower =
        (completionTrigger text'.toList n column).map Trigger.inLower := by
      rw [← completionTrigger_map_toLower, h, completionTrigger_map_toLower]
    cases ht : completionTrigger text.toList n column with
    | none =>
        rw [ht, Option.map_none, eq_comm, Option.map_eq_none_iff] at htriggers
        rw [htriggers]
        exact .none
    | some t =>
        rw [ht, Option.map_some, eq_comm, Option.map_eq_some_iff] at htriggers
        obtain ⟨t', ht', hlower⟩ := htriggers
        rw [ht']
        exact .some (Trigger.offersSame_of_inLower_eq hlower.symm)

/-- Two lines with a hot phrase, a tag and cases of their own. -/
theorem recognition_of_sameLetters_grid :
    let text := "BaseLine/GRID <baseline-STATUS featureId='Sub"
    let text' := "bASELINE/grid <BASELINE-status FEATUREid='sUB"
    firstReference text'.toList 0 = some ⟨0, 9, 13, "grid", .hotPhrase⟩ ∧
      completionTrigger text.toList 0 45 = some ⟨0, 42, 45, "Sub", .attribute⟩ ∧
      ∃ t', completionTrigger text'.toList 0 45 = some t' ∧ t'.typed = "sUB" ∧
        Trigger.OffersSame ⟨0, 42, 45, "Sub", .attribute⟩ t' := by
  intro text text'
  obtain ⟨hfirst, -, -, hoffers⟩ := recognition_of_sameLetters
    (show Text.SameLetters text.toList text'.toList by decide +kernel)
  have htrigger : completionTrigger text.toList 0 45 = some ⟨0, 42, 45, "Sub", .attribute⟩ := by
    decide +kernel
  have htrigger' : completionTrigger text'.toList 0 45 = some ⟨0, 42, 45, "sUB", .attribute⟩ := by
    decide +kernel
  have hsame := hoffers 0 45
  rw [htrigger, htrigger', Option.rel_some_some] at hsame
  refine ⟨?_, htrigger, _, htrigger', rfl, hsame⟩
  rw [← hfirst 0]
  decide +kernel

end FeatureRefs
