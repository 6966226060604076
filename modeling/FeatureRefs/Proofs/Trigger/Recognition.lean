import FeatureRefs.Reference.Trigger
import FeatureRefs.Proofs.Reference.Cut

/-!
# The grammar of triggers

What a trigger is, said without a search. The text up to the cursor ends in one of two ways:

* `baseline/` up to case, not in the middle of a word, and then nothing but id letters;
* `<baseline-status` up to case, then text without a closing bracket, then `featureId=` up to case
  and at most one quote, and then nothing but id letters.

Unlike an id, what is typed may be empty, and a word may go on right behind it. The recognisers look
for the first place of a hot phrase, then for the first tag and its last `featureId=`. None of these
choices shows: the text before the typed letters ends with a character that is no id letter, so it
is the same for every way to read the line, and that character tells the form.
-/

namespace FeatureRefs

/-- A text that ends in a trigger: its form, the text up to the id, and what is typed of the id. -/
inductive EndsInTrigger (text : List Char) : ReferenceForm → List Char → List Char → Prop where
  | ofHotPhrase {before keyword typed : List Char}
      (split : text = before ++ (keyword ++ typed))
      (spelled : Spells "baseline/" keyword) (outside : ¬ EndsInWord before)
      (letters : ∀ c ∈ typed, IsIdLetter c) :
      EndsInTrigger text .hotPhrase (before ++ keyword) typed
  | ofAttribute {before tag gap lead typed : List Char}
      (split : text = before ++ (tag ++ (gap ++ (lead ++ typed))))
      (spelled : Spells "<baseline-status" tag) (isOpen : '>' ∉ gap) (leads : LeadsToId lead)
      (letters : ∀ c ∈ typed, IsIdLetter c) :
      EndsInTrigger text .attribute (before ++ (tag ++ (gap ++ lead))) typed

namespace EndsInTrigger

variable {text lead lead' typed typed' : List Char} {form form' : ReferenceForm}

theorem letters (h : EndsInTrigger text form lead typed) : ∀ c ∈ typed, IsIdLetter c := by
  cases h with
  | ofHotPhrase split spelled outside letters => exact letters
  | ofAttribute split spelled isOpen leads letters => exact letters

theorem split (h : EndsInTrigger text form lead typed) : text = lead ++ typed := by
  cases h with
  | ofHotPhrase split spelled outside letters => rw [split, List.append_assoc]
  | ofAttribute split spelled isOpen leads letters =>
      rw [split]
      simp only [List.append_assoc]

/-- The text up to an id ends with a character that is no id letter and that tells the form. -/
theorem exists_last (h : EndsInTrigger text form lead typed) :
    ∃ init c, lead = init ++ [c] ∧ foldCase c ∈ ['/', '=', '\'', '"'] ∧
      (form = .hotPhrase ↔ foldCase c = '/') := by
  cases h with
  | @ofHotPhrase before keyword typed split spelled outside letters =>
      have hkeyword : "baseline/".toList = "baseline".toList ++ ['/'] := rfl
      obtain ⟨init, c, rfl, hc⟩ := spelled.exists_last hkeyword
      have hslash : foldCase c = '/' := hc.trans (by decide)
      exact ⟨before ++ init, c, by simp, by simp [hslash], iff_of_true rfl hslash⟩
  | @ofAttribute before tag gap lead typed split spelled isOpen leads letters =>
      obtain ⟨init, c, rfl, hc⟩ := leads.exists_last
      refine ⟨before ++ (tag ++ (gap ++ init)), c, by simp, List.mem_cons_of_mem _ hc,
        iff_of_false (by simp) ?_⟩
      intro hslash
      rw [hslash] at hc
      exact absurd hc (by decide)

/-- What leads to an id is a trigger by itself, with nothing typed. -/
theorem untyped (h : EndsInTrigger text form lead typed) : EndsInTrigger lead form lead [] := by
  cases h with
  | ofHotPhrase split spelled outside letters =>
      exact .ofHotPhrase (by simp) spelled outside (by simp)
  | ofAttribute split spelled isOpen leads letters =>
      exact .ofAttribute (by simp) spelled isOpen leads (by simp)

/-- What is typed is all the id letters at the end of the text. -/
theorem length_le (h : EndsInTrigger text form lead typed)
    (h' : EndsInTrigger text form' lead' typed') : lead.length ≤ lead'.length := by
  by_contra hlt
  obtain ⟨init, c, hlead, hmark, -⟩ := h.exists_last
  have hsplit : lead' ++ typed' = lead ++ typed := h'.split.symm.trans h.split
  obtain ⟨more, hmore, htyped⟩ := eq_append_of_length_le hsplit (by omega)
  -- Otherwise the last character before the shorter run stands in the longer one.
  have hne : more ≠ [] := by
    rintro rfl
    rw [hmore, List.append_nil] at hlt
    exact hlt le_rfl
  have hlast : more.getLast? = some c := by
    rw [← List.getLast?_append_of_ne_nil lead' hne, ← hmore, hlead, List.getLast?_concat]
  have hletter : IsIdLetter c := by
    apply h'.letters
    rw [htyped]
    exact List.mem_append_left _ (List.mem_of_getLast? hlast)
  exact not_isIdLetter_of_foldCase_mem hmark hletter

/-- A text ends in at most one trigger. -/
theorem unique (h : EndsInTrigger text form lead typed)
    (h' : EndsInTrigger text form' lead' typed') :
    form = form' ∧ lead = lead' ∧ typed = typed' := by
  have hlength : lead.length = lead'.length := Nat.le_antisymm (h.length_le h') (h'.length_le h)
  obtain ⟨rfl, rfl⟩ := List.append_inj (h.split.symm.trans h'.split) hlength
  obtain ⟨init, c, hlead, -, hform⟩ := h.exists_last
  obtain ⟨init', c', hlead', -, hform'⟩ := h'.exists_last
  obtain ⟨rfl, rfl⟩ := List.append_singleton_inj.1 (hlead.symm.trans hlead')
  exact ⟨ReferenceForm.eq_of_hotPhrase_iff (hform.trans hform'.symm), rfl, rfl⟩

end EndsInTrigger

/-! ## The recognisers meet the grammar -/

theorem all_isIdChar_iff {text : List Char} :
    text.all isIdChar = true ↔ ∀ c ∈ text, IsIdLetter c := by
  simp only [List.all_eq_true, isIdChar_iff]

theorem hotPhraseTriggerAt?_eq_some_iff {before text : List Char} {o : Occurrence} :
    hotPhraseTriggerAt? before.reverse text = some o ↔
      text = o.before ++ o.id ∧ Spells "baseline/" o.before ∧ ¬ EndsInWord before ∧
        ∀ c ∈ o.id, IsIdLetter c := by
  constructor
  · intro h
    unfold hotPhraseTriggerAt? at h
    split at h
    · rename_i hboundary
      split at h
      · rename_i rest hrest
        obtain ⟨keyword, rfl, hspells⟩ := dropKeyword?_eq_some_iff_spells.1 hrest
        obtain ⟨hletters, ho⟩ := Option.ite_none_right_eq_some.1 h
        obtain rfl := Option.some.inj ho
        have htake : (keyword ++ rest).take hotPhraseKeyword.length = keyword :=
          List.take_left' hspells.length_eq
        rw [htake]
        exact ⟨rfl, hspells, (isBoundary_of_spells hspells).1 hboundary,
          all_isIdChar_iff.1 hletters⟩
      · simp at h
    · simp at h
  · rintro ⟨rfl, hspells, houtside, hletters⟩
    have hboundary : Unicode.isBoundary before.reverse (o.before ++ o.id) = true :=
      (isBoundary_of_spells hspells).2 houtside
    have hdrop : dropKeyword? hotPhraseKeyword (o.before ++ o.id) = some o.id :=
      dropKeyword?_eq_some_iff_spells.2 ⟨o.before, rfl, hspells⟩
    have htake : (o.before ++ o.id).take hotPhraseKeyword.length = o.before :=
      List.take_left' hspells.length_eq
    simp only [hotPhraseTriggerAt?, hboundary, hdrop, all_isIdChar_iff.2 hletters, htake, if_true]

/-- No id letter is a quote, so in front of id letters at most the quote is split off. -/
theorem splitQuote_append_of_letters {quote value : List Char}
    (hquote : quote ∈ [[], ['\''], ['"']]) (hvalue : ∀ c ∈ value, IsIdLetter c) :
    splitQuote (quote ++ value) = (quote, value) := by
  cases value with
  | nil =>
      simp only [List.mem_cons, List.not_mem_nil, or_false] at hquote
      rcases hquote with rfl | rfl | rfl
      · rfl
      · rfl
      · rfl
  | cons c value => exact splitQuote_append_of_begins hquote ⟨c, rfl, hvalue c (by simp)⟩

theorem attributeValueTriggerAt?_eq_some_iff {text : List Char} {o : Occurrence} :
    attributeValueTriggerAt? text = some o ↔
      text = o.before ++ o.id ∧ LeadsToId o.before ∧ ∀ c ∈ o.id, IsIdLetter c := by
  constructor
  · intro h
    cases hrest : dropKeyword? featureIdKeyword text with
    | none => simp [attributeValueTriggerAt?, hrest] at h
    | some rest =>
        simp only [attributeValueTriggerAt?, hrest] at h
        obtain ⟨hletters, ho⟩ := Option.ite_none_right_eq_some.1 h
        rw [Option.some.injEq] at ho
        subst ho
        obtain ⟨keyword, rfl, hspells⟩ := dropKeyword?_eq_some_iff_spells.1 hrest
        have htake : (keyword ++ rest).take featureIdKeyword.length = keyword :=
          List.take_left' hspells.length_eq
        simp only [htake]
        refine ⟨?_, ⟨keyword, _, rfl, hspells, splitQuote_fst_mem rest⟩,
          all_isIdChar_iff.1 hletters⟩
        rw [List.append_assoc, splitQuote_append]
  · rintro ⟨rfl, ⟨keyword, quote, hlead, hspells, hquote⟩, hletters⟩
    have hdrop : dropKeyword? featureIdKeyword (keyword ++ (quote ++ o.id)) =
        some (quote ++ o.id) :=
      dropKeyword?_eq_some_iff_spells.2 ⟨keyword, rfl, hspells⟩
    have htake : (keyword ++ (quote ++ o.id)).take featureIdKeyword.length = keyword :=
      List.take_left' hspells.length_eq
    have hsplit := splitQuote_append_of_letters hquote hletters
    rw [hlead, List.append_assoc]
    simp only [attributeValueTriggerAt?, hdrop, htake, hsplit, all_isIdChar_iff.2 hletters, if_true,
      ← hlead]

/-- What is found in a tag is typed behind some `featureId=` of the open tag. -/
theorem exists_of_attributeTriggerAt? {text : List Char} {o : Occurrence}
    (h : attributeTriggerAt? text = some o) :
    ∃ tag gap lead, text = tag ++ (gap ++ (lead ++ o.id)) ∧ o.before = tag ++ (gap ++ lead) ∧
      Spells "<baseline-status" tag ∧ '>' ∉ gap ∧ LeadsToId lead ∧ ∀ c ∈ o.id, IsIdLetter c := by
  unfold attributeTriggerAt? statusTagAt? at h
  split at h
  · rename_i rest hrest
    obtain ⟨tag, rfl, hspells⟩ := dropKeyword?_eq_some_iff_spells.1 hrest
    obtain ⟨found, hfound, rfl⟩ := Option.map_eq_some_iff.1 h
    obtain ⟨gap, value, inner, rfl, hopen, hinner, rfl, -⟩ := exists_of_lastInTag hfound
    obtain ⟨rfl, hleads, hletters⟩ := attributeValueTriggerAt?_eq_some_iff.1 hinner
    have htake : (tag ++ (gap ++ (inner.before ++ inner.id))).take statusTagKeyword.length = tag :=
      List.take_left' hspells.length_eq
    simp only [htake]
    exact ⟨tag, gap, inner.before, rfl, rfl, hspells, hopen, hleads, hletters⟩
  · simp at h

/-- Whatever is typed behind some `featureId=` of an open tag, something is found in the tag. -/
theorem attributeTriggerAt?_ne_none {tag gap lead typed : List Char}
    (hspells : Spells "<baseline-status" tag) (hopen : '>' ∉ gap) (hleads : LeadsToId lead)
    (hletters : ∀ c ∈ typed, IsIdLetter c) :
    attributeTriggerAt? (tag ++ (gap ++ (lead ++ typed))) ≠ none := by
  intro hnone
  have hdrop : dropKeyword? statusTagKeyword (tag ++ (gap ++ (lead ++ typed))) =
      some (gap ++ (lead ++ typed)) :=
    dropKeyword?_eq_some_iff_spells.2 ⟨tag, rfl, hspells⟩
  have hvalue : attributeValueTriggerAt? (lead ++ typed) = some ⟨lead, typed⟩ :=
    attributeValueTriggerAt?_eq_some_iff.2 ⟨rfl, hleads, hletters⟩
  rw [attributeTriggerAt?, statusTagAt?, hdrop] at hnone
  have hlast := lastInTag_eq_none_iff.1 (Option.map_eq_none_iff.1 hnone) gap (lead ++ typed) rfl
    hopen
  rw [hvalue] at hlast
  contradiction

theorem endsInTrigger_of_hotPhraseTrigger? {text : List Char} {o : Occurrence}
    (h : hotPhraseTrigger? text = some o) : EndsInTrigger text .hotPhrase o.before o.id := by
  obtain ⟨before, rest, -, rfl, hhere, -⟩ := leftmost_eq_some_iff.1 h
  obtain ⟨inner, hinner, rfl⟩ := Option.map_eq_some_iff.1 hhere
  rw [List.append_nil] at hinner ⊢
  obtain ⟨rfl, hspells, houtside, hletters⟩ := hotPhraseTriggerAt?_eq_some_iff.1 hinner
  rw [Occurrence.after, List.reverse_reverse]
  exact .ofHotPhrase rfl hspells houtside hletters

theorem endsInTrigger_of_attributeTrigger? {text : List Char} {o : Occurrence}
    (h : attributeTrigger? text = some o) : EndsInTrigger text .attribute o.before o.id := by
  obtain ⟨before, rest, -, rfl, hhere, -⟩ := leftmost_eq_some_iff.1 h
  obtain ⟨inner, hinner, rfl⟩ := Option.map_eq_some_iff.1 hhere
  obtain ⟨tag, gap, lead, rfl, hbefore, hspells, hopen, hleads, hletters⟩ :=
    exists_of_attributeTriggerAt? hinner
  rw [Occurrence.after, List.append_nil, List.reverse_reverse, hbefore]
  exact .ofAttribute rfl hspells hopen hleads hletters

/-- A text ends in the trigger that is found. -/
theorem endsInTrigger_of_triggerOccurrence? {text : List Char} {o : Occurrence}
    {form : ReferenceForm} (h : triggerOccurrence? text = some (o, form)) :
    EndsInTrigger text form o.before o.id := by
  unfold triggerOccurrence? at h
  split at h
  · rename_i found hfound
    obtain ⟨rfl, rfl⟩ := Prod.mk.inj (Option.some.inj h)
    exact endsInTrigger_of_hotPhraseTrigger? hfound
  · obtain ⟨found, hfound, hpair⟩ := Option.map_eq_some_iff.1 h
    obtain ⟨rfl, rfl⟩ := Prod.mk.inj hpair
    exact endsInTrigger_of_attributeTrigger? hfound

/-- In a text that ends in a trigger some trigger is found. -/
theorem EndsInTrigger.triggerOccurrence?_ne_none {text lead typed : List Char}
    {form : ReferenceForm} (h : EndsInTrigger text form lead typed) :
    triggerOccurrence? text ≠ none := by
  intro hnone
  unfold triggerOccurrence? at hnone
  split at hnone
  · simp at hnone
  · rename_i hphrase
    have htag := Option.map_eq_none_iff.1 hnone
    cases h with
    | @ofHotPhrase before keyword typed split spelled outside letters =>
        have hrest : keyword ++ typed ≠ [] := by
          have hlength : keyword.length = 9 := spelled.length_eq
          intro hnil
          rw [(List.append_eq_nil_iff.1 hnil).1] at hlength
          simp at hlength
        have hfound : hotPhraseTriggerAt? before.reverse (keyword ++ typed) =
            some ⟨keyword, typed⟩ :=
          hotPhraseTriggerAt?_eq_some_iff.2 ⟨rfl, spelled, outside, letters⟩
        have hplace := leftmost_eq_none_iff.1 hphrase before (keyword ++ typed) hrest split
        rw [List.append_nil, hfound] at hplace
        simp at hplace
    | @ofAttribute before tag gap lead typed split spelled isOpen leads letters =>
        have hrest : tag ++ (gap ++ (lead ++ typed)) ≠ [] := by
          have hlength : tag.length = 16 := spelled.length_eq
          intro hnil
          rw [(List.append_eq_nil_iff.1 hnil).1] at hlength
          simp at hlength
        have hplace := leftmost_eq_none_iff.1 htag before (tag ++ (gap ++ (lead ++ typed))) hrest
          split
        exact attributeTriggerAt?_ne_none spelled isOpen leads letters
          (Option.map_eq_none_iff.1 hplace)

/-- The search finds the trigger that a text ends in. -/
theorem triggerOccurrence?_eq_some_iff {text : List Char} {o : Occurrence} {form : ReferenceForm} :
    triggerOccurrence? text = some (o, form) ↔ EndsInTrigger text form o.before o.id := by
  refine ⟨endsInTrigger_of_triggerOccurrence?, fun h => ?_⟩
  obtain ⟨⟨found, form'⟩, hfound⟩ := Option.ne_none_iff_exists'.1 h.triggerOccurrence?_ne_none
  obtain ⟨rfl, hbefore, hid⟩ := (endsInTrigger_of_triggerOccurrence? hfound).unique h
  rw [hfound]
  have hsame : found = o := by
    cases found
    cases o
    simp_all
  rw [hsame]

/-- The trigger at a cursor is the one that the text before the cursor ends in. -/
theorem completionTrigger_append_eq_some_iff {seen rest : List Char} {n : Nat} {t : Trigger} :
    completionTrigger (seen ++ rest) n (Text.utf16Length seen) = some t ↔
      ∃ form lead typed, EndsInTrigger seen form lead typed ∧
        t = { line := n
              column := Text.utf16Length lead
              cursor := Text.utf16Length seen
              typed := String.ofList typed
              form := form } := by
  simp only [completionTrigger, Text.byteOffset_utf16Length, Text.takeBytes_utf8Length,
    Text.utf16Column_utf8Length, Option.map_eq_some_iff]
  constructor
  · rintro ⟨⟨o, form⟩, hfound, rfl⟩
    exact ⟨form, o.before, o.id, triggerOccurrence?_eq_some_iff.1 hfound, rfl⟩
  · rintro ⟨form, lead, typed, hends, rfl⟩
    exact ⟨(⟨lead, typed⟩, form), triggerOccurrence?_eq_some_iff.2 hends, rfl⟩

end FeatureRefs
