import Mathlib.Data.List.TakeWhile
import FeatureRefs.Proofs.Reference.Grammar

/-!
# The recognisers meet the grammar

Each recogniser finds exactly what the grammar says. For one that looks for the longest run, or for
the last place of a tag, two lemmas come first: what it finds is a candidate, and no candidate is
longer or later than what it finds.
-/

namespace FeatureRefs

/-! ## Runs of id letters -/

theorem endsInWord_cons {c : Char} {text : List Char} (h : text ≠ []) :
    EndsInWord (c :: text) ↔ EndsInWord text := by
  cases text with
  | nil => exact absurd rfl h
  | cons d text => simp [EndsInWord, List.getLast?_cons_cons]

/-- A longer run may be cut off its first letter. -/
theorem isBounded_cons_iff {c : Char} {id after : List Char} (h : id ≠ []) :
    IsBounded (c :: id) after ↔ IsIdLetter c ∧ IsBounded id after := by
  constructor
  · intro hbounded
    have hedge : AtWordEdge id after := by
      simpa [AtWordEdge, endsInWord_cons h] using hbounded.edge
    exact ⟨hbounded.letters c (by simp),
      ⟨h, fun d hd => hbounded.letters d (List.mem_cons_of_mem c hd), hedge⟩⟩
  · rintro ⟨hc, hbounded⟩
    have hedge : AtWordEdge (c :: id) after := by
      simpa [AtWordEdge, endsInWord_cons h] using hbounded.edge
    refine ⟨by simp, ?_, hedge⟩
    intro d hd
    rcases List.mem_cons.1 hd with rfl | hd
    · exact hc
    · exact hbounded.letters d hd

theorem isBounded_singleton_iff {c : Char} {after : List Char} :
    IsBounded [c] after ↔ IsIdLetter c ∧ Unicode.isBoundary [c] after = true := by
  have hedge : Unicode.isBoundary [c] after = true ↔ AtWordEdge [c] after :=
    @isBoundary_iff [c] after
  rw [hedge]
  constructor
  · intro h
    exact ⟨h.letters c (by simp), h.edge⟩
  · rintro ⟨hc, h⟩
    exact ⟨by simp, by simpa using hc, h⟩

/-- What is found is a run that ends at the edge of a word. -/
theorem isBounded_of_boundedId? {text id : List Char} (h : boundedId? text = some id) :
    ∃ after, text = id ++ after ∧ IsBounded id after := by
  fun_induction boundedId? text generalizing id with
  | case1 => simp at h
  | case2 c rest hc found hfound ih =>
      obtain rfl : c :: found = id := by simpa using h
      obtain ⟨after, rfl, hbounded⟩ := ih hfound
      exact ⟨after, rfl, (isBounded_cons_iff hbounded.ne_nil).2 ⟨isIdChar_iff.1 hc, hbounded⟩⟩
  | case3 c rest hc hnone hboundary ih =>
      obtain rfl : [c] = id := by simpa using h
      exact ⟨rest, rfl, isBounded_singleton_iff.2 ⟨isIdChar_iff.1 hc, hboundary⟩⟩
  | case4 c rest hc hnone hboundary ih => simp at h
  | case5 c rest hc => simp at h

/-- A run that ends at the edge of a word is found, or else a longer one. -/
theorem exists_boundedId?_of_isBounded {id after : List Char} (h : IsBounded id after) :
    ∃ found, boundedId? (id ++ after) = some found ∧ id.length ≤ found.length := by
  induction id with
  | nil => exact absurd rfl h.ne_nil
  | cons c id ih =>
      have hc : isIdChar c = true := isIdChar_iff.2 (h.letters c (by simp))
      cases id with
      | nil =>
          have hboundary := (isBounded_singleton_iff.1 h).2
          cases hrest : boundedId? after with
          | none => exact ⟨[c], by simp [boundedId?, hc, hrest, hboundary], by simp⟩
          | some found => exact ⟨c :: found, by simp [boundedId?, hc, hrest], by simp⟩
      | cons d id =>
          have hrest : IsBounded (d :: id) after := ((isBounded_cons_iff (by simp)).1 h).2
          obtain ⟨found, hfound, hle⟩ := ih hrest
          refine ⟨c :: found, ?_, by simpa using hle⟩
          rw [List.cons_append, boundedId?, if_pos hc, hfound]

/-- Of two beginnings of a text the longer one goes on where the shorter one ends. -/
theorem eq_append_of_length_le {a b rest rest' : List Char} (h : a ++ rest = b ++ rest')
    (hle : a.length ≤ b.length) : ∃ more, b = a ++ more ∧ rest = more ++ rest' := by
  obtain ⟨more, rfl, hrest⟩ | ⟨more, rfl, rfl⟩ := List.append_eq_append_iff.1 h
  · exact ⟨more, rfl, hrest⟩
  · have hmore : more = [] := by
      rw [List.length_append] at hle
      exact List.length_eq_zero_iff.1 (by omega)
    subst hmore
    exact ⟨[], by simp, by simp⟩

theorem boundedId?_eq_some_iff {text id : List Char} :
    boundedId? text = some id ↔ ∃ after, text = id ++ after ∧ IsPhraseId id after := by
  constructor
  · intro h
    obtain ⟨after, rfl, hbounded⟩ := isBounded_of_boundedId? h
    refine ⟨after, rfl, ⟨hbounded, ?_⟩⟩
    rintro more rest rfl hne hlonger
    obtain ⟨found, hfound, hle⟩ := exists_boundedId?_of_isBounded hlonger
    rw [List.append_assoc, h, Option.some.injEq] at hfound
    subst hfound
    have hpos := List.length_pos_iff.2 hne
    rw [List.length_append] at hle
    omega
  · rintro ⟨after, rfl, ⟨hbounded, hlongest⟩⟩
    obtain ⟨found, hfound, hle⟩ := exists_boundedId?_of_isBounded hbounded
    obtain ⟨rest, hsplit, hfoundBounded⟩ := isBounded_of_boundedId? hfound
    obtain ⟨more, rfl, hafter⟩ := eq_append_of_length_le hsplit hle
    cases more with
    | nil => simpa using hfound
    | cons c more => exact absurd hfoundBounded (hlongest (c :: more) rest hafter (by simp))

/-! ## Hot phrases -/

theorem isWord_of_sameUpToCase_b {c : Char} (h : SameUpToCase 'b' c) : Unicode.isWord c = true := by
  have hb : c = 'b' ∨ c = 'B' := by
    have hfold : (foldCase c).toNat = 0x62 := by
      rw [← foldCase_eq_iff.2 h]
      rfl
    rw [toNat_foldCase, toNat_toLower] at hfold
    simp only [← Char.toNat_inj, Char.reduceToNat]
    split_ifs at hfold <;> omega
  rcases hb with rfl | rfl
  · decide
  · decide

/-- A hot phrase begins with a letter, so it begins at the edge of a word where no word goes on. -/
theorem isBoundary_of_spells {before keyword rest : List Char} (h : Spells "baseline/" keyword) :
    Unicode.isBoundary before.reverse (keyword ++ rest) = true ↔ ¬ EndsInWord before := by
  have hword : BeginsWithWord (keyword ++ rest) := by
    obtain ⟨c, tail, hc, -, rfl⟩ := List.forall₂_cons_left_iff.1 h
    exact ⟨c, rfl, isWord_of_sameUpToCase_b hc⟩
  rw [isBoundary_iff, atWordEdge_iff_of_beginsWithWord hword]

theorem hotPhraseAt?_eq_some_iff {before text : List Char} {o : Occurrence} :
    hotPhraseAt? before.reverse text = some o ↔
      ∃ after, text = o.before ++ (o.id ++ after) ∧ IsHotPhrase before o.before o.id after := by
  constructor
  · intro h
    unfold hotPhraseAt? at h
    split at h
    · rename_i hboundary
      split at h
      · rename_i rest hrest
        obtain ⟨keyword, rfl, hspells⟩ := dropKeyword?_eq_some_iff_spells.1 hrest
        obtain ⟨id, hid, rfl⟩ := Option.map_eq_some_iff.1 h
        obtain ⟨after, rfl, hisPhraseId⟩ := boundedId?_eq_some_iff.1 hid
        have htake : (keyword ++ (id ++ after)).take hotPhraseKeyword.length = keyword :=
          List.take_left' hspells.length_eq
        rw [htake]
        exact ⟨after, rfl, hspells, (isBoundary_of_spells hspells).1 hboundary, hisPhraseId⟩
      · simp at h
    · simp at h
  · rintro ⟨after, rfl, hphrase⟩
    have hboundary : Unicode.isBoundary before.reverse (o.before ++ (o.id ++ after)) = true :=
      (isBoundary_of_spells hphrase.spelled).2 hphrase.outside
    have hdrop : dropKeyword? hotPhraseKeyword (o.before ++ (o.id ++ after)) =
        some (o.id ++ after) :=
      dropKeyword?_eq_some_iff_spells.2 ⟨o.before, rfl, hphrase.spelled⟩
    have hid : boundedId? (o.id ++ after) = some o.id :=
      boundedId?_eq_some_iff.2 ⟨after, rfl, hphrase.isPhraseId⟩
    have htake : (o.before ++ (o.id ++ after)).take hotPhraseKeyword.length = o.before :=
      List.take_left' hphrase.spelled.length_eq
    simp only [hotPhraseAt?, hboundary, hdrop, hid, htake, if_true, Option.map_some]

/-! ## Attributes -/

theorem IsIdLetter.isQuote_eq_false {c : Char} (h : IsIdLetter c) : isQuote c = false := by
  cases hquote : isQuote c with
  | false => rfl
  | true =>
      have hc : c = '\'' ∨ c = '"' := by simpa [isQuote] using hquote
      rcases hc with rfl | rfl
      · exact absurd (isIdChar_iff.2 h) (by decide)
      · exact absurd (isIdChar_iff.2 h) (by decide)

/-- The quote is split off, and nothing else. -/
theorem splitQuote_append_of_begins {quote value : List Char} (hquote : quote ∈ [[], ['\''], ['"']])
    (hvalue : BeginsWithIdLetter value) : splitQuote (quote ++ value) = (quote, value) := by
  obtain ⟨c, hc, hletter⟩ := hvalue
  obtain ⟨tail, rfl⟩ := List.head?_eq_some_iff.1 hc
  simp only [List.mem_cons, List.not_mem_nil, or_false] at hquote
  rcases hquote with rfl | rfl | rfl
  · simp [splitQuote, hletter.isQuote_eq_false]
  · rfl
  · rfl

theorem splitQuote_fst_mem (text : List Char) : (splitQuote text).1 ∈ [[], ['\''], ['"']] := by
  cases text with
  | nil => simp [splitQuote]
  | cons c text =>
      by_cases hc : isQuote c = true
      · have hquote : c = '\'' ∨ c = '"' := by simpa [isQuote] using hc
        rcases hquote with rfl | rfl
        · simp [splitQuote, hc]
        · simp [splitQuote, hc]
      · simp [splitQuote, hc]

/-- Every text begins with its whole run of id letters. -/
theorem isIdRun_takeWhile {text : List Char} (h : text.takeWhile isIdChar ≠ []) :
    IsIdRun (text.takeWhile isIdChar) (text.dropWhile isIdChar) := by
  refine ⟨h, fun c hc => isIdChar_iff.1 (List.mem_takeWhile_imp hc), ?_⟩
  rintro ⟨c, hc, hletter⟩
  have hnot := List.head?_dropWhile_not isIdChar text
  rw [hc] at hnot
  simp [isIdChar_iff.2 hletter] at hnot

theorem IsIdRun.takeWhile_eq {id after : List Char} (h : IsIdRun id after) :
    (id ++ after).takeWhile isIdChar = id := by
  rw [List.takeWhile_append_of_pos fun c hc => isIdChar_iff.2 (h.letters c hc)]
  have hafter : after.takeWhile isIdChar = [] := by
    cases after with
    | nil => rfl
    | cons c after =>
        have hc : ¬ isIdChar c = true := fun hc => h.ends ⟨c, rfl, isIdChar_iff.1 hc⟩
        simp [hc]
  rw [hafter, List.append_nil]

theorem IsIdRun.begins {id after : List Char} (h : IsIdRun id after) :
    BeginsWithIdLetter (id ++ after) := by
  cases id with
  | nil => exact absurd rfl h.ne_nil
  | cons c id => exact ⟨c, rfl, h.letters c (by simp)⟩

theorem attributeValueAt?_eq_some_iff {text : List Char} {o : Occurrence} :
    attributeValueAt? text = some o ↔
      ∃ after, text = o.before ++ (o.id ++ after) ∧ LeadsToId o.before ∧ IsIdRun o.id after := by
  constructor
  · intro h
    cases hrest : dropKeyword? featureIdKeyword text with
    | none => simp [attributeValueAt?, hrest] at h
    | some rest =>
        cases hrun : (splitQuote rest).2.takeWhile isIdChar with
        | nil => simp [attributeValueAt?, hrest, hrun] at h
        | cons c id =>
            simp only [attributeValueAt?, hrest, hrun, Option.some.injEq] at h
            subst h
            obtain ⟨keyword, rfl, hspells⟩ := dropKeyword?_eq_some_iff_spells.1 hrest
            have htake : (keyword ++ rest).take featureIdKeyword.length = keyword :=
              List.take_left' hspells.length_eq
            have hvalue : c :: id ++ (splitQuote rest).2.dropWhile isIdChar =
                (splitQuote rest).2 := by
              rw [← hrun, List.takeWhile_append_dropWhile]
            refine ⟨(splitQuote rest).2.dropWhile isIdChar, ?_, ?_, ?_⟩
            · simp only [htake, hvalue, List.append_assoc, splitQuote_append]
            · exact ⟨keyword, _, by simp only [htake], hspells, splitQuote_fst_mem rest⟩
            · rw [← hrun]
              exact isIdRun_takeWhile (by simp [hrun])
  · rintro ⟨after, rfl, ⟨keyword, quote, hlead, hspells, hquote⟩, hrun⟩
    have hdrop : dropKeyword? featureIdKeyword (keyword ++ (quote ++ (o.id ++ after))) =
        some (quote ++ (o.id ++ after)) :=
      dropKeyword?_eq_some_iff_spells.2 ⟨keyword, rfl, hspells⟩
    have htake : (keyword ++ (quote ++ (o.id ++ after))).take featureIdKeyword.length = keyword :=
      List.take_left' hspells.length_eq
    have hsplit := splitQuote_append_of_begins hquote hrun.begins
    rw [hlead, List.append_assoc]
    simp only [attributeValueAt?, hdrop, htake, hsplit, hrun.takeWhile_eq]
    cases hid : o.id with
    | nil => exact absurd hid hrun.ne_nil
    | cons c id => simp [← hlead, ← hid]

/-- There is a value wherever an id letter stands behind `featureId=` and its quote. -/
theorem attributeValueAt?_ne_none_iff {text : List Char} :
    attributeValueAt? text ≠ none ↔
      ∃ lead value, text = lead ++ value ∧ LeadsToId lead ∧ BeginsWithIdLetter value := by
  constructor
  · intro h
    obtain ⟨o, ho⟩ := Option.ne_none_iff_exists'.1 h
    obtain ⟨after, htext, hlead, hrun⟩ := attributeValueAt?_eq_some_iff.1 ho
    exact ⟨o.before, o.id ++ after, htext, hlead, hrun.begins⟩
  · rintro ⟨lead, value, rfl, hlead, c, hc, hletter⟩
    have hne : value.takeWhile isIdChar ≠ [] := by
      obtain ⟨tail, rfl⟩ := List.head?_eq_some_iff.1 hc
      simp [isIdChar_iff.2 hletter]
    have hsome : attributeValueAt? (lead ++ value) = some ⟨lead, value.takeWhile isIdChar⟩ := by
      refine attributeValueAt?_eq_some_iff.2 ⟨value.dropWhile isIdChar, ?_, hlead,
        isIdRun_takeWhile hne⟩
      rw [List.takeWhile_append_dropWhile]
    simp [hsome]

/-- There is no answer when there is none at any place of the open tag. -/
theorem lastInTag_eq_none_iff {recognise : List Char → Option Occurrence} {text : List Char} :
    lastInTag recognise text = none ↔
      ∀ gap rest, text = gap ++ rest → '>' ∉ gap → recognise rest = none := by
  induction text with
  | nil =>
      constructor
      · intro h gap rest hsplit _
        obtain ⟨rfl, rfl⟩ := List.append_eq_nil_iff.1 hsplit.symm
        exact h
      · intro h
        exact h [] [] rfl (by simp)
  | cons c text ih =>
      constructor
      · intro h gap rest hsplit hopen
        cases gap with
        | nil =>
            obtain rfl : c :: text = rest := hsplit
            unfold lastInTag at h
            split at h
            · simp at h
            · exact h
        | cons d gap =>
            obtain ⟨rfl, htext⟩ := List.cons.inj hsplit
            have hc : c ≠ '>' := fun hc => hopen (by simp [hc])
            have hlater : lastInTag recognise text = none := by
              cases hlater : lastInTag recognise text with
              | none => rfl
              | some o => simp [lastInTag, hc, hlater] at h
            exact ih.1 hlater gap rest htext fun hmem => hopen (List.mem_cons_of_mem c hmem)
      · intro h
        have hhere : recognise (c :: text) = none := h [] (c :: text) rfl (by simp)
        by_cases hc : c = '>'
        · subst hc
          simp [lastInTag, hhere]
        · have hlater : lastInTag recognise text = none := by
            refine ih.2 fun gap rest hsplit hopen => h (c :: gap) rest (by rw [hsplit]; rfl) ?_
            simpa [eq_comm, hc] using hopen
          simp [lastInTag, hc, hlater, hhere]

/-- An answer is one at some place of the open tag, and there is none at a later place. -/
theorem exists_of_lastInTag {recognise : List Char → Option Occurrence} {text : List Char}
    {o : Occurrence} (h : lastInTag recognise text = some o) :
    ∃ gap rest found, text = gap ++ rest ∧ '>' ∉ gap ∧ recognise rest = some found ∧
      o = { found with before := gap ++ found.before } ∧
      ∀ gap' rest', text = gap' ++ rest' → '>' ∉ gap' → gap.length < gap'.length →
        recognise rest' = none := by
  induction text generalizing o with
  | nil => exact ⟨[], [], o, rfl, by simp, h, rfl, by simp⟩
  | cons c text ih =>
      cases hlater : (if c = '>' then none else lastInTag recognise text) with
      | some later =>
          -- There is an answer at a later place, which is the last one by induction.
          have hc : c ≠ '>' := by
            rintro rfl
            simp at hlater
          rw [if_neg hc] at hlater
          obtain ⟨gap, rest, found, rfl, hopen, hfound, rfl, hlast⟩ := ih hlater
          simp only [lastInTag, if_neg hc, hlater, Option.some.injEq] at h
          refine ⟨c :: gap, rest, found, rfl, by simpa [eq_comm, hc] using hopen, hfound, h.symm,
            ?_⟩
          intro gap' rest' hsplit hopen' hlt
          cases gap' with
          | nil => simp at hlt
          | cons d gap' =>
              obtain ⟨rfl, htext⟩ := List.cons.inj hsplit
              exact hlast gap' rest' htext (fun hmem => hopen' (List.mem_cons_of_mem c hmem))
                (by simpa using hlt)
      | none =>
          -- No later place of the open tag has an answer, so it is the one here.
          simp only [lastInTag, hlater] at h
          refine ⟨[], c :: text, o, rfl, by simp, h, rfl, ?_⟩
          intro gap' rest' hsplit hopen' hlt
          cases gap' with
          | nil => simp at hlt
          | cons d gap' =>
              obtain ⟨rfl, htext⟩ := List.cons.inj hsplit
              have hc : c ≠ '>' := fun hc => hopen' (by simp [hc])
              rw [if_neg hc] at hlater
              exact lastInTag_eq_none_iff.1 hlater gap' rest' htext
                fun hmem => hopen' (List.mem_cons_of_mem c hmem)

theorem lastInTag_eq_some_iff {recognise : List Char → Option Occurrence} {text : List Char}
    {o : Occurrence} :
    lastInTag recognise text = some o ↔
      ∃ gap rest found, text = gap ++ rest ∧ '>' ∉ gap ∧ recognise rest = some found ∧
        o = { found with before := gap ++ found.before } ∧
        ∀ gap' rest', text = gap' ++ rest' → '>' ∉ gap' → gap.length < gap'.length →
          recognise rest' = none := by
  refine ⟨exists_of_lastInTag, ?_⟩
  rintro ⟨gap, rest, found, htext, hopen, hfound, rfl, hlast⟩
  cases hanswer : lastInTag recognise text with
  | none => simp [lastInTag_eq_none_iff.1 hanswer gap rest htext hopen] at hfound
  | some o =>
      obtain ⟨gap', rest', found', htext', hopen', hfound', rfl, hlast'⟩ :=
        exists_of_lastInTag hanswer
      have hlength : gap.length = gap'.length := by
        rcases Nat.lt_trichotomy gap.length gap'.length with hlt | heq | hlt
        · simp [hlast gap' rest' htext' hopen' hlt] at hfound'
        · exact heq
        · simp [hlast' gap rest htext hopen hlt] at hfound
      obtain ⟨rfl, rfl⟩ := List.append_inj (htext.symm.trans htext') hlength
      rw [hfound, Option.some.injEq] at hfound'
      rw [hfound']

/-- Behind a value there is no later one exactly when the search finds none. -/
theorem forall_isOpenValue_iff {text gap : List Char} :
    (∀ gap' lead' value, IsOpenValue text gap' lead' value → gap'.length ≤ gap.length) ↔
      ∀ gap' rest, text = gap' ++ rest → '>' ∉ gap' → gap.length < gap'.length →
        attributeValueAt? rest = none := by
  constructor
  · intro h gap' rest htext hopen hlt
    by_contra hsome
    obtain ⟨lead', value, rfl, hlead, hbegins⟩ := attributeValueAt?_ne_none_iff.1 hsome
    have hle := h gap' lead' value ⟨by rw [htext, List.append_assoc], hopen, hlead, hbegins⟩
    omega
  · intro h gap' lead' value hvalue
    by_contra hle
    have hnone := h gap' (lead' ++ value) (by rw [hvalue.split, List.append_assoc]) hvalue.isOpen
      (by omega)
    exact attributeValueAt?_ne_none_iff.2 ⟨lead', value, rfl, hvalue.leads, hvalue.begins⟩ hnone

theorem attributeAt?_eq_some_iff {text : List Char} {o : Occurrence} :
    attributeAt? text = some o ↔
      ∃ tag gap lead after, text = tag ++ (gap ++ lead ++ (o.id ++ after)) ∧
        o.before = tag ++ (gap ++ lead) ∧ IsAttribute tag gap lead o.id after := by
  constructor
  · intro h
    unfold attributeAt? statusTagAt? at h
    split at h
    · rename_i rest hrest
      obtain ⟨tag, rfl, hspells⟩ := dropKeyword?_eq_some_iff_spells.1 hrest
      obtain ⟨found, hfound, rfl⟩ := Option.map_eq_some_iff.1 h
      obtain ⟨gap, value, inner, rfl, hopen, hinner, rfl, hlast⟩ := lastInTag_eq_some_iff.1 hfound
      obtain ⟨after, rfl, hlead, hrun⟩ := attributeValueAt?_eq_some_iff.1 hinner
      have htake : (tag ++ (gap ++ (inner.before ++ (inner.id ++ after)))).take
          statusTagKeyword.length = tag :=
        List.take_left' hspells.length_eq
      simp only [htake]
      rw [← List.append_assoc] at hlast
      exact ⟨tag, gap, inner.before, after, by simp, rfl,
        ⟨hspells, hopen, hlead, hrun, forall_isOpenValue_iff.2 hlast⟩⟩
    · simp at h
  · rintro ⟨tag, gap, lead, after, rfl, hbefore, hattribute⟩
    have hdrop : dropKeyword? statusTagKeyword (tag ++ (gap ++ lead ++ (o.id ++ after))) =
        some (gap ++ lead ++ (o.id ++ after)) :=
      dropKeyword?_eq_some_iff_spells.2 ⟨tag, rfl, hattribute.spelled⟩
    have hvalue : attributeValueAt? (lead ++ (o.id ++ after)) = some ⟨lead, o.id⟩ :=
      attributeValueAt?_eq_some_iff.2 ⟨after, rfl, hattribute.leads, hattribute.run⟩
    have hfound : lastInTag attributeValueAt? (gap ++ lead ++ (o.id ++ after)) =
        some ⟨gap ++ lead, o.id⟩ :=
      lastInTag_eq_some_iff.2 ⟨gap, lead ++ (o.id ++ after), ⟨lead, o.id⟩, List.append_assoc ..,
        hattribute.isOpen, hvalue, rfl, forall_isOpenValue_iff.1 hattribute.last⟩
    have htake : (tag ++ (gap ++ lead ++ (o.id ++ after))).take statusTagKeyword.length = tag :=
      List.take_left' hattribute.spelled.length_eq
    simp only [attributeAt?, statusTagAt?, hdrop, hfound, htake, Option.map_some, ← hbefore]

/-! ## References -/

theorem referenceAt_hotPhrase_iff {before rest : List Char} {o : Occurrence} :
    ReferenceAt (before ++ rest) before.length .hotPhrase (before ++ o.before) o.id ↔
      hotPhraseAt? before.reverse rest = some o := by
  rw [hotPhraseAt?_eq_some_iff]
  constructor
  · intro h
    generalize hlength : before.length = start at h
    generalize hlead : before ++ o.before = lead at h
    cases h with
    | ofHotPhrase split isHotPhrase =>
        obtain ⟨rfl, hrest⟩ := List.append_inj split hlength
        obtain rfl := List.append_cancel_left hlead
        exact ⟨_, hrest, isHotPhrase⟩
  · rintro ⟨after, rfl, hphrase⟩
    exact .ofHotPhrase rfl hphrase

theorem referenceAt_attribute_iff {before rest : List Char} {o : Occurrence} :
    ReferenceAt (before ++ rest) before.length .attribute (before ++ o.before) o.id ↔
      attributeAt? rest = some o := by
  rw [attributeAt?_eq_some_iff]
  constructor
  · intro h
    generalize hlength : before.length = start at h
    generalize hlead : before ++ o.before = lead at h
    cases h with
    | ofAttribute split isAttribute =>
        obtain ⟨rfl, hrest⟩ := List.append_inj split hlength
        exact ⟨_, _, _, _, hrest, List.append_cancel_left hlead, isAttribute⟩
  · rintro ⟨tag, gap, lead, after, rfl, hbefore, hattribute⟩
    rw [hbefore]
    exact .ofAttribute rfl hattribute

end FeatureRefs
