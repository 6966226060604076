import Mathlib.Data.List.Induction
import FeatureRefs.Proofs.Reference.Recognition

/-!
# The pieces of references

What the grammar says of ids and of tags one by one: which letters the id of a hot phrase leaves
behind it, what does not matter behind it, and where the ids of a tag begin.
-/

namespace FeatureRefs

/-! ## Ids of hot phrases -/

/-- Of the letters of ids all but the hyphen are word characters. -/
theorem IsIdLetter.isWord_iff {c : Char} (h : IsIdLetter c) :
    Unicode.isWord c = true ↔ c ≠ '-' := by
  constructor
  · rintro hword rfl
    exact absurd hword (by decide)
  · intro hne
    rcases h with ⟨hfirst, hlast⟩ | ⟨hfirst, hlast⟩ | rfl | rfl | rfl
    · have hlower : c.isLower = true := by
        show (decide ('a' ≤ c) && decide (c ≤ 'z')) = true
        simp [hfirst, hlast]
      have halphanum : c.isAlphanum = true := by
        show (c.isUpper || c.isLower || c.isDigit) = true
        simp [hlower]
      exact Unicode.isWord_of_isAlphanum halphanum
    · have hupper : c.isUpper = true := by
        show decide ('A' ≤ c ∧ c ≤ 'Z') = true
        simp [hfirst, hlast]
      have halphanum : c.isAlphanum = true := by
        show (c.isUpper || c.isLower || c.isDigit) = true
        simp [hupper]
      exact Unicode.isWord_of_isAlphanum halphanum
    · exact absurd rfl hne
    · decide +kernel
    · decide +kernel

theorem isIdLetter_hyphen : IsIdLetter '-' := by
  simp [IsIdLetter]

theorem endsInWord_append {text more : List Char}
    (h : EndsInWord more) : EndsInWord (text ++ more) := by
  obtain ⟨c, hc, hword⟩ := h
  exact ⟨c, by simp [List.getLast?_append, hc], hword⟩

theorem not_endsInWord_append_hyphens {text hyphens : List Char} (hne : hyphens ≠ [])
    (h : ∀ c ∈ hyphens, c = '-') : ¬ EndsInWord (text ++ hyphens) := by
  rintro ⟨c, hc, hword⟩
  rw [List.getLast?_append_of_ne_nil _ hne] at hc
  obtain rfl := h c (List.mem_of_getLast? hc)
  exact absurd hword (by decide)

theorem beginsWithWord_append {word rest : List Char} (hword : ∀ c ∈ word, Unicode.isWord c = true)
    (hrest : BeginsWithWord rest) : BeginsWithWord (word ++ rest) := by
  cases word with
  | nil => exact hrest
  | cons c word => exact ⟨c, rfl, hword c List.mem_cons_self⟩

theorem not_beginsWithWord_hyphens_append {hyphens rest : List Char} (h : ∀ c ∈ hyphens, c = '-')
    (hrest : ¬ BeginsWithWord rest) : ¬ BeginsWithWord (hyphens ++ rest) := by
  cases hyphens with
  | nil => exact hrest
  | cons c hyphens =>
      rintro ⟨d, hd, hword⟩
      obtain rfl : c = d := by simpa using hd
      obtain rfl := h c (by simp)
      exact absurd hword (by decide)

/-- Id letters that are not all hyphens go up to the last one that is none. -/
theorem exists_word_append_hyphens {text : List Char} (hletters : ∀ c ∈ text, IsIdLetter c)
    (h : ¬ ∀ c ∈ text, c = '-') :
    ∃ word hyphens, text = word ++ hyphens ∧ EndsInWord word ∧ ∀ c ∈ hyphens, c = '-' := by
  -- The last letter decides: either it is the end of the word, or it joins the hyphens behind it.
  induction text using List.reverseRecOn with
  | nil => simp at h
  | append_singleton text c ih =>
      by_cases hc : c = '-'
      · subst hc
        have htext : ¬ ∀ d ∈ text, d = '-' := by
          intro hall
          refine h fun d hd => ?_
          rcases List.mem_append.1 hd with hd | hd
          · exact hall d hd
          · simpa using hd
        obtain ⟨word, hyphens, rfl, hword, hhyphens⟩ :=
          ih (fun d hd => hletters d (List.mem_append_left _ hd)) htext
        refine ⟨word, hyphens ++ ['-'], by simp, hword, ?_⟩
        intro d hd
        rcases List.mem_append.1 hd with hd | hd
        · exact hhyphens d hd
        · simpa using hd
      · have hletter : IsIdLetter c := hletters c (by simp)
        exact ⟨text ++ [c], [], by simp, ⟨c, by simp, hletter.isWord_iff.2 hc⟩, by simp⟩

/-- Where no word goes on behind the id letters that follow the id of a hot phrase, these are hyphens,
and the id ends in a word character. -/
theorem IsPhraseId.hyphens_of_letters {id tail rest : List Char} (h : IsPhraseId id (tail ++ rest))
    (hletters : ∀ c ∈ tail, IsIdLetter c) (hrest : ¬ BeginsWithWord rest) :
    EndsInWord id ∧ ∀ c ∈ tail, c = '-' := by
  have hhyphens : ∀ c ∈ tail, c = '-' := by
    by_contra hnot
    -- Up to the last letter that is no hyphen there would be a longer run at the edge of a word.
    obtain ⟨word, hyphens, rfl, hword, hhyphens⟩ := exists_word_append_hyphens hletters hnot
    have hne : word ≠ [] := by
      rintro rfl
      simp [EndsInWord] at hword
    have hlonger : IsBounded (id ++ word) (hyphens ++ rest) := by
      refine ⟨by simp [hne], List.forall_mem_append.2 ⟨h.bounded.letters, ?_⟩, ?_⟩
      · intro c hc
        exact hletters c (List.mem_append_left _ hc)
      · rw [atWordEdge_iff_of_endsInWord (endsInWord_append hword)]
        exact not_beginsWithWord_hyphens_append hhyphens hrest
    exact h.longest word (hyphens ++ rest) (List.append_assoc _ _ _) hne hlonger
  have hedge := h.bounded.edge
  rw [atWordEdge_iff_of_not_beginsWithWord (not_beginsWithWord_hyphens_append hhyphens hrest)]
    at hedge
  exact ⟨hedge, hhyphens⟩

/-- Where a word goes on behind the id letters that follow the id of a hot phrase, the id does not end
in a word character: it would go on up to the last hyphen among them, or else it would end in the
middle of a word. -/
theorem IsPhraseId.not_endsInWord {id tail rest : List Char} (h : IsPhraseId id (tail ++ rest))
    (hletters : ∀ c ∈ tail, IsIdLetter c) (hrest : BeginsWithWord rest) : ¬ EndsInWord id := by
  intro hends
  by_cases hhyphen : '-' ∈ tail.reverse
  · obtain ⟨word, head, htail, hword⟩ := List.eq_append_cons_of_mem hhyphen
    obtain rfl : tail = head.reverse ++ ['-'] ++ word.reverse := by
      rw [← List.reverse_inj, htail]
      simp
    have hlonger : IsBounded (id ++ (head.reverse ++ ['-'])) (word.reverse ++ rest) := by
      refine ⟨by simp, List.forall_mem_append.2 ⟨h.bounded.letters, ?_⟩, ?_⟩
      · intro c hc
        exact hletters c (List.mem_append_left _ hc)
      · rw [← List.append_assoc, atWordEdge_iff_of_not_endsInWord
          (not_endsInWord_append_hyphens (by simp) (by simp))]
        refine beginsWithWord_append (fun c hc => ?_) hrest
        refine (hletters c (List.mem_append_right _ hc)).isWord_iff.2 ?_
        rintro rfl
        exact hword (List.mem_reverse.1 hc)
    exact h.longest _ (word.reverse ++ rest) (List.append_assoc _ _ _) (by simp) hlonger
  · have hbegins : BeginsWithWord (tail ++ rest) := by
      refine beginsWithWord_append (fun c hc => ?_) hrest
      refine (hletters c hc).isWord_iff.2 ?_
      rintro rfl
      exact hhyphen (List.mem_reverse.2 hc)
    exact (atWordEdge_iff_of_endsInWord hends).1 h.bounded.edge hbegins

/-- Hyphens behind an id belong to it exactly when a word goes on behind them. -/
theorem isPhraseId_hyphens_append_iff {id hyphens rest : List Char}
    (hletters : ∀ c ∈ id, IsIdLetter c)
    (hword : EndsInWord id) (hhyphens : ∀ c ∈ hyphens, c = '-') (hrest : rest.head? ≠ some '-') :
    IsPhraseId id (hyphens ++ rest) ↔ ¬ BeginsWithWord rest := by
  constructor
  · intro h hbegins
    by_cases hne : hyphens = []
    · subst hne
      have hedge : AtWordEdge id rest := h.bounded.edge
      exact (atWordEdge_iff_of_beginsWithWord hbegins).1 hedge hword
    · -- A hyphen before a word is at the edge of that word.
      refine h.longest hyphens rest rfl hne ⟨by simp [hne], List.forall_mem_append.2 ⟨hletters, ?_⟩,
        ?_⟩
      · intro c hc
        rw [hhyphens c hc]
        exact isIdLetter_hyphen
      · rw [atWordEdge_iff_of_beginsWithWord hbegins]
        exact not_endsInWord_append_hyphens hne hhyphens
  · intro hbegins
    have hne : id ≠ [] := by
      rintro rfl
      simp [EndsInWord] at hword
    refine ⟨⟨hne, hletters, ?_⟩, ?_⟩
    · rw [atWordEdge_iff_of_endsInWord hword]
      exact not_beginsWithWord_hyphens_append hhyphens hbegins
    · intro more rest' hsplit hmore hlonger
      rcases List.append_eq_append_iff.1 hsplit with ⟨head, rfl, rfl⟩ | ⟨left, rfl, rfl⟩
      · cases head with
        | nil =>
            rw [List.append_nil] at hlonger hmore
            have hends : ¬ EndsInWord (id ++ hyphens) :=
              not_endsInWord_append_hyphens hmore hhyphens
            exact hbegins ((atWordEdge_iff_of_not_endsInWord hends).1 hlonger.edge)
        | cons c head =>
            -- Behind the hyphens stands no id letter, so no run goes on there.
            have hletter : IsIdLetter c := hlonger.letters c (by simp)
            have hc : c ≠ '-' := by simpa using hrest
            exact hbegins ⟨c, rfl, hletter.isWord_iff.2 hc⟩
      · have hends : ¬ EndsInWord (id ++ more) :=
          not_endsInWord_append_hyphens hmore fun c hc => hhyphens c (List.mem_append_left _ hc)
        have hleft : ∀ c ∈ left, c = '-' := fun c hc => hhyphens c (List.mem_append_right _ hc)
        exact not_beginsWithWord_hyphens_append hleft hbegins
          ((atWordEdge_iff_of_not_endsInWord hends).1 hlonger.edge)

/-- A character that is no id letter ends every run, so what stands behind it does not matter. -/
theorem boundedId?_append {text : List Char} (h : ∃ c ∈ text, ¬ IsIdLetter c) (hidden : List Char) :
    boundedId? (text ++ hidden) = boundedId? text := by
  induction text with
  | nil => simp at h
  | cons c text ih =>
      by_cases hc : isIdChar c = true
      · have hrest : ∃ d ∈ text, ¬ IsIdLetter d := by
          obtain ⟨d, hd, hnot⟩ := h
          rcases List.mem_cons.1 hd with rfl | hd
          · exact absurd (isIdChar_iff.1 hc) hnot
          · exact ⟨d, hd, hnot⟩
        have hboundary : Unicode.isBoundary [c] (text ++ hidden) = Unicode.isBoundary [c] text := by
          cases text with
          | nil => simp at hrest
          | cons d text => rfl
        rw [List.cons_append, boundedId?, boundedId?, ih hrest, hboundary]
      · rw [List.cons_append, boundedId?, boundedId?, if_neg hc, if_neg hc]

/-! ## Tags -/

theorem LeadsToId.length_eq {lead : List Char} (h : LeadsToId lead) :
    lead.length = 10 ∨ lead.length = 11 := by
  obtain ⟨keyword, quote, rfl, hspells, hquote⟩ := h
  have hkeyword : keyword.length = 10 := hspells.length_eq
  simp only [List.mem_cons, List.not_mem_nil, or_false] at hquote
  rcases hquote with rfl | rfl | rfl
  · left
    simp [hkeyword]
  · right
    simp [hkeyword]
  · right
    simp [hkeyword]

/-- A quote is no id letter, so it belongs to what leads to an id wherever there is one. -/
theorem LeadsToId.eq_of_append_eq {lead lead' value value' : List Char} (h : LeadsToId lead)
    (h' : LeadsToId lead') (hvalue : BeginsWithIdLetter value) (hvalue' : BeginsWithIdLetter value')
    (heq : lead ++ value = lead' ++ value') : lead = lead' := by
  obtain ⟨keyword, quote, rfl, hspells, hquote⟩ := h
  obtain ⟨keyword', quote', rfl, hspells', hquote'⟩ := h'
  rw [List.append_assoc, List.append_assoc] at heq
  obtain ⟨rfl, hrest⟩ := List.append_inj heq (hspells.length_eq.trans hspells'.length_eq.symm)
  have hsplit : (quote, value) = (quote', value') := by
    rw [← splitQuote_append_of_begins hquote hvalue, ← splitQuote_append_of_begins hquote' hvalue',
      hrest]
  rw [(Prod.mk.inj hsplit).1]

/-- A character that a keyword does not have in either case is in no spelling of it. -/
theorem Spells.not_mem {keyword : String} {text : List Char} {c : Char} (h : Spells keyword text)
    (hc : foldCase c ∉ keyword.toList.map foldCase) : c ∉ text := by
  intro hmem
  rw [← spells_iff.1 h] at hc
  exact hc (List.mem_map_of_mem hmem)

theorem LeadsToId.isOpen {lead : List Char} (h : LeadsToId lead) : '>' ∉ lead := by
  obtain ⟨keyword, quote, rfl, hspells, hquote⟩ := h
  have hkeyword : '>' ∉ keyword := hspells.not_mem (by decide)
  simp only [List.mem_cons, List.not_mem_nil, or_false] at hquote
  rcases hquote with rfl | rfl | rfl
  · simpa using hkeyword
  · simpa using hkeyword
  · simpa using hkeyword

/-- An id that comes later in a tag begins later. -/
theorem IsOpenValue.length_le {text gap gap' lead lead' value value' : List Char}
    (h : IsOpenValue text gap lead value) (h' : IsOpenValue text gap' lead' value')
    (hle : gap.length ≤ gap'.length) : (gap ++ lead).length ≤ (gap' ++ lead').length := by
  have hlength := h.leads.length_eq
  have hlength' := h'.leads.length_eq
  rw [List.length_append, List.length_append]
  by_cases heq : gap.length = gap'.length
  · -- At the same place what leads to the id is the same.
    have hsplit := h.split.symm.trans h'.split
    rw [List.append_assoc, List.append_assoc] at hsplit
    obtain ⟨-, hrest⟩ := List.append_inj hsplit heq
    obtain rfl := h.leads.eq_of_append_eq h'.leads h.begins h'.begins hrest
    omega
  · -- One place further on is enough, for a quote makes no more than one place of difference.
    omega

theorem IsAttribute.isOpenValue {tag gap lead id after : List Char}
    (h : IsAttribute tag gap lead id after) :
    IsOpenValue (gap ++ lead ++ (id ++ after)) gap lead (id ++ after) :=
  ⟨rfl, h.isOpen, h.leads, h.run.begins⟩

/-- The tag of an attribute is open up to its id. -/
theorem IsAttribute.isOpen_lead {tag gap lead id after : List Char}
    (h : IsAttribute tag gap lead id after) : '>' ∉ tag ++ (gap ++ lead) := by
  have htag : '>' ∉ tag := h.spelled.not_mem (by decide)
  simp only [List.mem_append, htag, h.isOpen, h.leads.isOpen, or_self, not_false_eq_true]

/-- No id of a tag begins behind that of its attribute. -/
theorem IsAttribute.length_le {tag gap gap' lead lead' id after value : List Char}
    (h : IsAttribute tag gap lead id after)
    (h' : IsOpenValue (gap ++ lead ++ (id ++ after)) gap' lead' value) :
    (gap' ++ lead').length ≤ (gap ++ lead).length :=
  h'.length_le h.isOpenValue (h.last gap' lead' value h')

/-- A tag with an id in it has an attribute, whose id does not begin before that one. -/
theorem exists_referenceAt_of_isOpenValue {before tag text gap lead value : List Char}
    (htag : Spells "<baseline-status" tag) (h : IsOpenValue text gap lead value) :
    ∃ lead' id, ReferenceAt (before ++ (tag ++ text)) before.length .attribute lead' id ∧
      (before ++ (tag ++ (gap ++ lead))).length ≤ lead'.length := by
  have hvalue : attributeValueAt? (lead ++ value) ≠ none :=
    attributeValueAt?_ne_none_iff.2 ⟨lead, value, rfl, h.leads, h.begins⟩
  have hfound : attributeAt? (tag ++ text) ≠ none := by
    have hdrop : dropKeyword? statusTagKeyword (tag ++ text) = some text :=
      dropKeyword?_eq_some_iff_spells.2 ⟨tag, rfl, htag⟩
    rw [attributeAt?, statusTagAt?, hdrop]
    simp only [ne_eq, Option.map_eq_none_iff]
    intro hnone
    exact hvalue (lastInTag_eq_none_iff.1 hnone gap (lead ++ value)
      (by rw [h.split, List.append_assoc])
      h.isOpen)
  obtain ⟨o, ho⟩ := Option.ne_none_iff_exists'.1 hfound
  obtain ⟨tag', gap', lead', after, htext, hbefore, hattribute⟩ := attributeAt?_eq_some_iff.1 ho
  obtain ⟨rfl, rfl⟩ :=
    List.append_inj htext (htag.length_eq.trans hattribute.spelled.length_eq.symm)
  have hle := hattribute.length_le h
  refine ⟨before ++ (tag ++ (gap' ++ lead')), o.id, .ofAttribute rfl hattribute, ?_⟩
  simp only [List.length_append] at hle ⊢
  omega

/-- An id that begins before the cut is there before the cut. -/
theorem IsOpenValue.of_append {text hidden gap lead value : List Char}
    (h : IsOpenValue (text ++ hidden) gap lead value) (hlt : (gap ++ lead).length < text.length) :
    ∃ seen, IsOpenValue text gap lead seen := by
  obtain ⟨seen, rfl, hvalue⟩ := eq_append_of_length_le h.split.symm hlt.le
  have hbegins : BeginsWithIdLetter seen := by
    obtain ⟨c, hc, hletter⟩ := h.begins
    cases seen with
    | nil => simp at hlt
    | cons d seen => exact ⟨c, by simpa [hvalue] using hc, hletter⟩
  exact ⟨seen, rfl, h.isOpen, h.leads, hbegins⟩

end FeatureRefs
