import FeatureRefs.Proofs.Reference.First
import FeatureRefs.Proofs.Reference.Pieces

/-!
# Lines that are cut

Of a long line only a beginning may be seen. What is seen as the first reference is the first
reference of the whole line as well, unless what is hidden changes its id or holds the id of an
attribute that begins before it. Both can happen: an id may go on behind the cut, and a tag that is
open at the cut may have its last `featureId=` there.
-/

namespace FeatureRefs

/-! ## Ids at the cut -/

/-- What is hidden changes the id before the cut. Behind the id of a hot phrase only hyphens stand
between it and a word character. Behind the id of an attribute stands another id letter. -/
def ChangesId : ReferenceForm → List Char → List Char → Prop
  | .hotPhrase, after, hidden =>
      (∀ c ∈ after, c = '-') ∧ BeginsWithWord (hidden.dropWhile (· == '-'))
  | .attribute, after, hidden => after = [] ∧ BeginsWithIdLetter hidden

theorem IsPhraseId.append_iff {id after hidden : List Char} (h : IsPhraseId id after) :
    IsPhraseId id (after ++ hidden) ↔ ¬ ChangesId .hotPhrase after hidden := by
  by_cases hletters : ∀ c ∈ after, IsIdLetter c
  · -- Behind the id stand hyphens, those that are hidden included.
    have hend : IsPhraseId id (after ++ []) := by
      rwa [List.append_nil]
    obtain ⟨hword, hafter⟩ := hend.hyphens_of_letters hletters (by simp [BeginsWithWord])
    have hhyphens : ∀ c ∈ after ++ hidden.takeWhile (· == '-'), c = '-' := by
      intro c hc
      rcases List.mem_append.1 hc with hc | hc
      · exact hafter c hc
      · simpa using List.mem_takeWhile_imp hc
    have hrest : (hidden.dropWhile (· == '-')).head? ≠ some '-' := by
      intro hhead
      have hnot := List.head?_dropWhile_not (· == '-') hidden
      rw [hhead] at hnot
      simp at hnot
    have hsplit :
        after ++ hidden = after ++ hidden.takeWhile (· == '-') ++ hidden.dropWhile (· == '-') := by
      rw [List.append_assoc, List.takeWhile_append_dropWhile]
    rw [hsplit, isPhraseId_hyphens_append_iff h.bounded.letters hword hhyphens hrest, ChangesId,
      not_and]
    constructor
    · intro hnot _
      exact hnot
    · intro hnot
      exact hnot hafter
  · -- Another character is seen behind the id, and no run goes beyond it.
    have hnot : ∃ c ∈ after, ¬ IsIdLetter c := by simpa using hletters
    have hsame : IsPhraseId id (after ++ hidden) := by
      have hfound : boundedId? (id ++ after) = some id := boundedId?_eq_some_iff.2 ⟨after, rfl, h⟩
      have hmore : boundedId? (id ++ after ++ hidden) = some id := by
        obtain ⟨c, hc, hletter⟩ := hnot
        rw [boundedId?_append ⟨c, List.mem_append_right _ hc, hletter⟩, hfound]
      obtain ⟨after', hafter', hid⟩ := boundedId?_eq_some_iff.1 hmore
      rw [List.append_assoc] at hafter'
      rwa [List.append_cancel_left hafter']
    constructor
    · rintro - ⟨hhyphens, -⟩
      obtain ⟨c, hc, hletter⟩ := hnot
      rw [hhyphens c hc] at hletter
      exact hletter isIdLetter_hyphen
    · intro _
      exact hsame

theorem IsIdRun.append_iff {id after hidden : List Char} (h : IsIdRun id after) :
    IsIdRun id (after ++ hidden) ↔ ¬ ChangesId .attribute after hidden := by
  have hends : BeginsWithIdLetter (after ++ hidden) ↔ ChangesId .attribute after hidden := by
    cases after with
    | nil => simp [ChangesId]
    | cons c after =>
        have hnot : ¬ BeginsWithIdLetter (c :: after ++ hidden) := h.ends
        simp only [ChangesId, hnot, List.cons_ne_nil, false_and]
  rw [← hends]
  constructor
  · intro hrun
    exact hrun.ends
  · intro hnot
    exact ⟨h.ne_nil, h.letters, hnot⟩

/-! ## The text up to an id -/

/-- The last character of a spelling is that of the keyword up to case. -/
theorem Spells.exists_last {keyword : String} {text init : List Char} {k : Char}
    (h : Spells keyword text)
    (hkeyword : keyword.toList = init ++ [k]) :
    ∃ init' c, text = init' ++ [c] ∧ foldCase c = foldCase k := by
  have hfold := spells_iff.1 h
  rw [hkeyword, List.map_append] at hfold
  obtain ⟨init', tail, rfl, -, htail⟩ := List.map_eq_append_iff.1 hfold
  obtain ⟨c, rfl, hc⟩ := List.map_eq_singleton_iff.1 htail
  exact ⟨init', c, rfl, hc⟩

theorem LeadsToId.exists_last {lead : List Char} (h : LeadsToId lead) :
    ∃ init c, lead = init ++ [c] ∧ foldCase c ∈ ['=', '\'', '"'] := by
  obtain ⟨keyword, quote, rfl, hspells, hquote⟩ := h
  simp only [List.mem_cons, List.not_mem_nil, or_false] at hquote
  rcases hquote with rfl | rfl | rfl
  · have hkeyword : "featureId=".toList = "featureId".toList ++ ['='] := rfl
    obtain ⟨init, c, rfl, hc⟩ := hspells.exists_last hkeyword
    refine ⟨init, c, List.append_nil _, ?_⟩
    rw [hc]
    decide
  · exact ⟨keyword, '\'', rfl, by decide⟩
  · exact ⟨keyword, '"', rfl, by decide⟩

theorem not_isIdLetter_of_foldCase_mem {c : Char} (h : foldCase c ∈ ['/', '=', '\'', '"']) :
    ¬ IsIdLetter c := by
  intro hletter
  have hfold := isIdChar_iff.2 hletter
  unfold isIdChar at hfold
  simp only [List.mem_cons, List.not_mem_nil, or_false] at h
  rcases h with h | h | h | h <;> rw [h] at hfold <;> exact absurd hfold (by decide)

/-- The text up to an id ends with a character that is no id letter and that tells the form of the
reference. -/
theorem ReferenceAt.exists_last {line lead id : List Char} {start : Nat} {form : ReferenceForm}
    (h : ReferenceAt line start form lead id) :
    ∃ init c, lead = init ++ [c] ∧ start + 8 ≤ init.length ∧ ¬ IsIdLetter c ∧
      (form = .hotPhrase ↔ foldCase c = '/') := by
  cases h with
  | @ofHotPhrase before keyword id after split isHotPhrase =>
      have hkeyword : "baseline/".toList = "baseline".toList ++ ['/'] := rfl
      have hlength : keyword.length = 9 := isHotPhrase.spelled.length_eq
      obtain ⟨init, c, rfl, hc⟩ := isHotPhrase.spelled.exists_last hkeyword
      have hslash : foldCase c = '/' := hc.trans (by decide)
      refine ⟨before ++ init, c, by simp, ?_, ?_, iff_of_true rfl hslash⟩
      · simp only [List.length_append, List.length_singleton] at hlength ⊢
        omega
      · exact not_isIdLetter_of_foldCase_mem (by simp [hslash])
  | @ofAttribute before tag gap lead id after split isAttribute =>
      have hlength : tag.length = 16 := isAttribute.spelled.length_eq
      obtain ⟨init, c, rfl, hc⟩ := isAttribute.leads.exists_last
      refine ⟨before ++ (tag ++ (gap ++ init)), c, by simp, ?_, ?_, iff_of_false (by simp) ?_⟩
      · simp only [List.length_append]
        omega
      · exact not_isIdLetter_of_foldCase_mem (List.mem_cons_of_mem _ hc)
      · intro hslash
        rw [hslash] at hc
        exact absurd hc (by decide)

/-- There are two forms, so it is enough to tell one of them. -/
theorem ReferenceForm.eq_of_hotPhrase_iff {form form' : ReferenceForm}
    (h : form = .hotPhrase ↔ form' = .hotPhrase) : form = form' := by
  cases form with
  | hotPhrase => exact (h.1 rfl).symm
  | «attribute» =>
      cases form' with
      | hotPhrase => exact h.2 rfl
      | «attribute» => rfl

/-- References that lead to their ids through the same text have the same form. -/
theorem ReferenceAt.form_unique {line line' lead id id' : List Char} {start start' : Nat}
    {form form' : ReferenceForm} (h : ReferenceAt line start form lead id)
    (h' : ReferenceAt line' start' form' lead id') : form = form' := by
  obtain ⟨init, c, rfl, -, -, hform⟩ := h.exists_last
  obtain ⟨init', c', hlead, -, -, hform'⟩ := h'.exists_last
  obtain ⟨rfl, rfl⟩ := List.append_singleton_inj.1 hlead
  exact ReferenceForm.eq_of_hotPhrase_iff (hform.trans hform'.symm)

/-! ## References at the cut -/

theorem ReferenceAt.isPhraseId {line lead id after : List Char} {start : Nat}
    (h : ReferenceAt line start .hotPhrase lead id) (hsplit : line = lead ++ (id ++ after)) :
    IsPhraseId id after := by
  cases h with
  | @ofHotPhrase before keyword id after' split isHotPhrase =>
      rw [List.append_assoc] at hsplit
      obtain rfl : after = after' := by simpa using hsplit.symm.trans split
      exact isHotPhrase.isPhraseId

theorem ReferenceAt.isIdRun {line lead id after : List Char} {start : Nat}
    (h : ReferenceAt line start .attribute lead id) (hsplit : line = lead ++ (id ++ after)) :
    IsIdRun id after := by
  cases h with
  | @ofAttribute before tag gap lead id after' split isAttribute =>
      obtain rfl : after = after' := by simpa using hsplit.symm.trans split
      exact isAttribute.run

/-- References that are reached through the same text of a line are the same. -/
theorem ReferenceAt.id_unique {line lead id id' : List Char} {start start' : Nat}
    (h : ReferenceAt line start .hotPhrase lead id)
    (h' : ReferenceAt line start' .hotPhrase lead id') : id = id' := by
  obtain ⟨before, inner, after, hline, -, rfl, -⟩ := h.exists_split
  obtain ⟨before', inner', after', hline', -, hlead, -⟩ := h'.exists_split
  rw [← List.append_assoc] at hline hline'
  rw [← hlead] at hline'
  have hafter : id ++ after = id' ++ after' := List.append_cancel_left (hline.symm.trans hline')
  have hfound : boundedId? (id ++ after) = some id :=
    boundedId?_eq_some_iff.2 ⟨after, rfl, h.isPhraseId hline⟩
  have hfound' : boundedId? (id ++ after) = some id' :=
    boundedId?_eq_some_iff.2 ⟨after', hafter, h'.isPhraseId hline'⟩
  exact Option.some.inj (hfound.symm.trans hfound')

/-- An attribute that begins before the id of a reference has its own id behind the cut. -/
def HidesId (lead seen hidden : List Char) : Prop :=
  ∃ start lead' id, ReferenceAt (seen ++ hidden) start .attribute lead' id ∧ start < lead.length ∧
    seen.length ≤ lead'.length

/-- A reference before the cut is one of the whole line when nothing that is hidden changes it. -/
theorem ReferenceAt.append {seen hidden lead id after : List Char} {start : Nat}
    {form : ReferenceForm}
    (h : ReferenceAt seen start form lead id) (hsplit : seen = lead ++ (id ++ after))
    (hchanges : ¬ ChangesId form after hidden) (hhides : ¬ HidesId lead seen hidden) :
    ReferenceAt (seen ++ hidden) start form lead id := by
  cases h with
  | @ofHotPhrase before keyword id after' split isHotPhrase =>
      rw [List.append_assoc] at hsplit
      obtain rfl : after = after' := by simpa using hsplit.symm.trans split
      have hline : seen ++ hidden = before ++ (keyword ++ (id ++ (after ++ hidden))) := by
        rw [split]
        simp only [List.append_assoc]
      exact .ofHotPhrase hline ⟨isHotPhrase.spelled, isHotPhrase.outside,
        isHotPhrase.isPhraseId.append_iff.2 hchanges⟩
  | @ofAttribute before tag gap lead id after' split isAttribute =>
      obtain rfl : after = after' := by simpa using hsplit.symm.trans split
      have hline :
          seen ++ hidden = before ++ (tag ++ (gap ++ lead ++ (id ++ (after ++ hidden)))) := by
        rw [split]
        simp only [List.append_assoc]
      refine .ofAttribute hline ⟨isAttribute.spelled, isAttribute.isOpen, isAttribute.leads,
        isAttribute.run.append_iff.2 hchanges, ?_⟩
      intro gap' lead' value hvalue
      rw [← List.append_assoc id, ← List.append_assoc _ _ hidden] at hvalue
      by_cases hlt : (gap' ++ lead').length < (gap ++ lead ++ (id ++ after)).length
      · obtain ⟨value', hvalue'⟩ := hvalue.of_append hlt
        exact isAttribute.last gap' lead' value' hvalue'
      · -- A later id of the tag is behind the cut, and so is the one that counts.
        obtain ⟨lead'', id', hreference, hle⟩ :=
          @exists_referenceAt_of_isOpenValue before _ _ _ _ _ isAttribute.spelled hvalue
        have htag : tag.length = 16 := isAttribute.spelled.length_eq
        refine absurd ⟨before.length, lead'', id', ?_, ?_, ?_⟩ hhides
        · simpa [split] using hreference
        · simp only [List.length_append]
          omega
        · rw [split]
          simp only [List.length_append] at hle hlt ⊢
          omega

/-- Behind every place before the id of a reference stands a character that is no id letter. -/
theorem ReferenceAt.exists_not_isIdLetter {line lead id : List Char} {start place : Nat}
    {form : ReferenceForm} (h : ReferenceAt line start form lead id) (hlt : place < lead.length) :
    ∃ c ∈ line.drop place, ¬ IsIdLetter c := by
  obtain ⟨before, inner, after, hline, -, hlead, -⟩ := h.exists_split
  obtain ⟨init, c, hlast, -, hletter, -⟩ := h.exists_last
  have hle : place ≤ init.length := by
    rw [hlast, List.length_append, List.length_singleton] at hlt
    omega
  refine ⟨c, ?_, hletter⟩
  rw [hline, ← List.append_assoc, ← hlead, hlast, List.append_assoc, List.drop_append_of_le_length hle]
  simp

theorem ReferenceAt.length_lead {line lead id : List Char} {start : Nat}
    (h : ReferenceAt line start .hotPhrase lead id) : lead.length = start + 9 := by
  cases h with
  | ofHotPhrase split isHotPhrase =>
      rw [List.length_append, isHotPhrase.spelled.length_eq]
      rfl

/-- A reference of the whole line whose id begins before the cut is seen in some form as well. For a
hot phrase something that is seen has to stop its id. -/
theorem ReferenceAt.exists_of_append {seen hidden lead id : List Char} {start : Nat}
    {form : ReferenceForm} (h : ReferenceAt (seen ++ hidden) start form lead id)
    (hlt : lead.length < seen.length)
    (hletter : form = .hotPhrase → ∃ c ∈ seen.drop lead.length, ¬ IsIdLetter c) :
    ∃ lead' id', ReferenceAt seen start form lead' id' := by
  cases h with
  | @ofHotPhrase before keyword id after split isHotPhrase =>
      rw [← List.append_assoc] at split
      obtain ⟨text, rfl, htext⟩ := eq_append_of_length_le split.symm hlt.le
      have hstop : ∃ c ∈ text, ¬ IsIdLetter c := by
        obtain ⟨c, hc, hnot⟩ := hletter rfl
        rw [List.drop_left] at hc
        exact ⟨c, hc, hnot⟩
      have hfound : boundedId? text = some id := by
        rw [← boundedId?_append hstop hidden, ← htext]
        exact boundedId?_eq_some_iff.2 ⟨after, rfl, isHotPhrase.isPhraseId⟩
      obtain ⟨after', rfl, hid⟩ := boundedId?_eq_some_iff.1 hfound
      exact ⟨before ++ keyword, id, .ofHotPhrase (List.append_assoc ..)
        ⟨isHotPhrase.spelled, isHotPhrase.outside, hid⟩⟩
  | @ofAttribute before tag gap lead id after split isAttribute =>
      have hle : (before ++ tag).length ≤ seen.length := by
        simp only [List.length_append] at hlt ⊢
        omega
      rw [← List.append_assoc before] at split
      obtain ⟨text, rfl, htext⟩ := eq_append_of_length_le split.symm hle
      have hvalue : IsOpenValue (text ++ hidden) gap lead (id ++ after) := by
        rw [← htext]
        exact isAttribute.isOpenValue
      have hvaluelt : (gap ++ lead).length < text.length := by
        simp only [List.length_append] at hlt ⊢
        omega
      obtain ⟨value, hseenvalue⟩ := hvalue.of_append hvaluelt
      obtain ⟨lead', id', hreference, -⟩ :=
        @exists_referenceAt_of_isOpenValue before _ _ _ _ _ isAttribute.spelled hseenvalue
      exact ⟨lead', id', by simpa using hreference⟩

/-- A reference of the whole line that begins before one that is seen is seen in some form as well,
unless it has its id behind the cut. -/
theorem exists_referenceAt_of_append {seen hidden lead id after lead' id' : List Char}
    {start start' : Nat}
    {form form' : ReferenceForm} (h : ReferenceAt seen start form lead id)
    (hsplit : seen = lead ++ (id ++ after)) (hhides : ¬ HidesId lead seen hidden)
    (h' : ReferenceAt (seen ++ hidden) start' form' lead' id') (hlt : start' < start) :
    ∃ lead'' id'', ReferenceAt seen start' form' lead'' id'' := by
  have hlead : start + 9 ≤ lead.length := by
    obtain ⟨init, c, rfl, hle, -, -⟩ := h.exists_last
    rw [List.length_append, List.length_singleton]
    omega
  have hseen : lead.length ≤ seen.length := by
    rw [hsplit, List.length_append]
    omega
  cases form' with
  | hotPhrase =>
      -- The later reference stops every run behind the keyword before the cut.
      have hlead' : lead'.length = start' + 9 := h'.length_lead
      exact h'.exists_of_append (by omega) fun _ => h.exists_not_isIdLetter (by omega)
  | «attribute» =>
      have hlead' : lead'.length < seen.length := by
        by_contra hle
        exact hhides ⟨start', lead', id', h', by omega, by omega⟩
      exact h'.exists_of_append hlead' (by simp)

/-- No tag begins within the keyword of a hot phrase. -/
theorem not_spells_tag_of_keyword {keyword m tag rest rest' : List Char}
    (hkeyword : Spells "baseline/" keyword)
    (htag : Spells "<baseline-status" tag) (hlt : m.length < keyword.length) :
    keyword ++ rest ≠ m ++ (tag ++ rest') := by
  intro h
  obtain ⟨tail, rfl, htail⟩ := eq_append_of_length_le h.symm hlt.le
  obtain ⟨c, tag', hc, -, rfl⟩ := List.forall₂_cons_left_iff.1 htag
  cases tail with
  | nil => simp at hlt
  | cons d tail =>
      obtain ⟨rfl, -⟩ := List.cons.inj htail
      refine hkeyword.not_mem ?_ (List.mem_append_right m List.mem_cons_self)
      rw [← foldCase_eq_iff.2 hc]
      decide

/-- An id of a tag that begins inside an open tag is an id of the outer tag too. -/
theorem exists_isOpenValue_of_nested {tag text m tag' gap' lead' value : List Char}
    (htag : Spells "<baseline-status" tag) (htag' : Spells "<baseline-status" tag')
    (hopen : '>' ∉ m) (hopen' : '>' ∉ gap') (hleads : LeadsToId lead')
    (hbegins : BeginsWithIdLetter value)
    (hsplit : tag ++ text = m ++ (tag' ++ (gap' ++ lead' ++ value))) :
    ∃ gap, m ++ (tag' ++ gap') = tag ++ gap ∧ IsOpenValue text gap lead' value := by
  have hlength : tag.length = tag'.length := htag.length_eq.trans htag'.length_eq.symm
  have hline : tag ++ text = m ++ (tag' ++ gap') ++ (lead' ++ value) := by
    rw [hsplit]
    simp only [List.append_assoc]
  obtain ⟨gap, hgap, htext⟩ := eq_append_of_length_le hline (by
    simp only [List.length_append]
    omega)
  have hgapOpen : '>' ∉ gap := by
    intro hmem
    have hinner : '>' ∈ m ++ (tag' ++ gap') := by
      rw [hgap]
      exact List.mem_append_right tag hmem
    have htagOpen : '>' ∉ tag' := htag'.not_mem (by decide)
    rcases List.mem_append.1 hinner with h | h
    · exact hopen h
    · rcases List.mem_append.1 h with h | h
      · exact htagOpen h
      · exact hopen' h
  exact ⟨gap, hgap, by rw [htext, List.append_assoc], hgapOpen, hleads, hbegins⟩

/-- The id of an attribute that begins within the text up to another id, and not before that
reference, is not behind that id. -/
theorem ReferenceAt.length_le_of_attribute {line lead id lead' id' : List Char} {start start' : Nat}
    {form : ReferenceForm} (h : ReferenceAt line start form lead id)
    (h' : ReferenceAt line start' .attribute lead' id') (hle : start ≤ start')
    (hlt : start' < lead.length) : lead'.length ≤ lead.length := by
  cases h' with
  | @ofAttribute before' tag' gap' lead' id' after' split' isAttribute' =>
      cases h with
      | @ofHotPhrase before keyword id after split isHotPhrase =>
          obtain ⟨m, rfl, hrest⟩ := eq_append_of_length_le (split.symm.trans split') hle
          have hm : m.length < keyword.length := by
            simp only [List.length_append] at hlt
            omega
          exact absurd hrest
            (not_spells_tag_of_keyword isHotPhrase.spelled isAttribute'.spelled hm)
      | @ofAttribute before tag gap lead id after split isAttribute =>
          obtain ⟨m, rfl, hrest⟩ := eq_append_of_length_le (split.symm.trans split') hle
          -- Up to the later tag the earlier one is open, so it has the later id as well.
          have hopen : '>' ∉ m := by
            have hm : m.length ≤ (tag ++ (gap ++ lead)).length := by
              simp only [List.length_append] at hlt ⊢
              omega
            have hinner : m ++ (tag' ++ (gap' ++ lead' ++ (id' ++ after'))) =
                tag ++ (gap ++ lead) ++ (id ++ after) := by
              rw [← hrest, List.append_assoc tag]
            obtain ⟨tail, htail, -⟩ := eq_append_of_length_le hinner hm
            intro hmem
            apply isAttribute.isOpen_lead
            rw [htail]
            exact List.mem_append_left tail hmem
          obtain ⟨gap'', hgap, hvalue⟩ := exists_isOpenValue_of_nested isAttribute.spelled
            isAttribute'.spelled hopen isAttribute'.isOpen isAttribute'.leads
            isAttribute'.run.begins hrest
          have hlast := isAttribute.length_le hvalue
          have hlength := congrArg List.length hgap
          simp only [List.length_append] at hlast hlength ⊢
          omega

/-- What is seen as the first reference is the first reference of the whole line exactly when
nothing that is hidden changes its id, and no attribute that begins before it has its id behind the
cut. -/
theorem IsFirstReference.append_iff {seen hidden lead id after : List Char} {form : ReferenceForm}
    (h : IsFirstReference seen form lead id) (hsplit : seen = lead ++ (id ++ after)) :
    (∃ form', IsFirstReference (seen ++ hidden) form' lead id) ↔
      ¬ ChangesId form after hidden ∧ ¬ HidesId lead seen hidden := by
  obtain ⟨start, hreference, hfirst⟩ := h
  constructor
  · rintro ⟨form', start', hreference', hfirst'⟩
    obtain rfl := hreference.form_unique hreference'
    constructor
    · have hline : seen ++ hidden = lead ++ (id ++ (after ++ hidden)) := by
        rw [hsplit]
        simp only [List.append_assoc]
      cases form with
      | hotPhrase =>
          exact (hreference.isPhraseId hsplit).append_iff.1 (hreference'.isPhraseId hline)
      | «attribute» =>
          exact (hreference.isIdRun hsplit).append_iff.1 (hreference'.isIdRun hline)
    · rintro ⟨place, lead', id', hattribute, hlt, hle⟩
      have hback := hreference'.length_le_of_attribute hattribute (hfirst' _ _ _ _ hattribute) hlt
      obtain ⟨-, -, -, -, -, -, hid⟩ := hreference.exists_split
      have hpos := List.length_pos_iff.2 hid
      rw [hsplit] at hle
      simp only [List.length_append] at hle
      omega
  · rintro ⟨hchanges, hhides⟩
    refine ⟨form, start, hreference.append hsplit hchanges hhides, ?_⟩
    intro start' form' lead' id' hreference'
    by_contra hlt
    obtain ⟨lead'', id'', hseen⟩ :=
      exists_referenceAt_of_append hreference hsplit hhides hreference' (by omega)
    have hle := hfirst _ _ _ _ hseen
    omega

/-- What a cut hides matters to the first reference that is seen. -/
def CutMatters (line : List Char) (cut : Nat) : Prop :=
  ∃ form lead id after, IsFirstReference (line.take cut) form lead id ∧
    line.take cut = lead ++ (id ++ after) ∧
    (ChangesId form after (line.drop cut) ∨ HidesId lead (line.take cut) (line.drop cut))

/-- A cut behind a line hides nothing. -/
theorem not_cutMatters_of_length_le {line : List Char} {cut : Nat} (h : line.length ≤ cut) :
    ¬ CutMatters line cut := by
  rintro ⟨form, lead, id, after, hfirst, hsplit, hcut⟩
  rw [List.drop_of_length_le h, List.take_of_length_le h] at hcut
  rcases hcut with hchanges | ⟨start, lead', id', hreference, -, hle⟩
  · cases form with
    | hotPhrase => simp [ChangesId, BeginsWithWord] at hchanges
    | «attribute» => simp [ChangesId, BeginsWithIdLetter] at hchanges
  · obtain ⟨before, inner, after', hline, -, rfl, hid⟩ := hreference.exists_split
    have hpos := List.length_pos_iff.2 hid
    have hlength := congrArg List.length hline
    simp only [List.length_append, List.length_nil] at hlength hle
    omega

theorem IsFirstReference.exists_split {line lead id : List Char} {form : ReferenceForm}
    (h : IsFirstReference line form lead id) : ∃ after, line = lead ++ (id ++ after) := by
  obtain ⟨start, hreference, -⟩ := h
  obtain ⟨before, inner, after, hline, -, hlead, -⟩ := hreference.exists_split
  exact ⟨after, by rw [hline, hlead, List.append_assoc]⟩

/-- The columns of an occurrence on a line tell where it is. -/
theorem Occurrence.eq_of_range_eq {line lead lead' id id' rest rest' : List Char} {n : Nat}
    {form form' : ReferenceForm} (h : line = lead ++ (id ++ rest))
    (h' : line = lead' ++ (id' ++ rest'))
    (hrange : (Occurrence.toReference ⟨lead, id⟩ form n).range =
      (Occurrence.toReference ⟨lead', id'⟩ form' n).range) : lead = lead' ∧ id = id' := by
  simp only [Reference.range, Occurrence.toReference, Occurrence.startColumn, Occurrence.endColumn,
    Range.mk.injEq, Position.mk.injEq, true_and] at hrange
  obtain ⟨hstart, hstop⟩ := hrange
  have hsplit := h.symm.trans h'
  obtain rfl := Text.eq_of_utf16Length_eq hsplit hstart
  exact ⟨rfl, Text.eq_of_utf16Length_eq (List.append_cancel_left hsplit) (by omega)⟩

/-- A reference that is seen is reported for the whole line, or another one at its place, exactly
when the cut does not matter. -/
theorem firstReference_take_iff {line : List Char} {cut n : Nat} {r : Reference}
    (h : firstReference (line.take cut) n = some r) :
    (∃ r', firstReference line n = some r' ∧ r'.range = r.range ∧ r'.featureId = r.featureId) ↔
      ¬ CutMatters line cut := by
  obtain ⟨form, lead, id, hfirst, rfl⟩ := firstReference_eq_some_iff.1 h
  obtain ⟨after, hsplit⟩ := hfirst.exists_split
  have hline : line = lead ++ (id ++ (after ++ line.drop cut)) := by
    rw [← List.append_assoc id, ← List.append_assoc, ← hsplit, List.take_append_drop]
  have hmatters : CutMatters line cut ↔
      ChangesId form after (line.drop cut) ∨ HidesId lead (line.take cut) (line.drop cut) := by
    constructor
    · rintro ⟨form', lead', id', after', hfirst', hsplit', hcut⟩
      obtain ⟨rfl, rfl, rfl⟩ := hfirst.unique hfirst'
      obtain rfl : after = after' := by simpa using hsplit.symm.trans hsplit'
      exact hcut
    · intro hcut
      exact ⟨form, lead, id, after, hfirst, hsplit, hcut⟩
  rw [hmatters, not_or, ← hfirst.append_iff hsplit, List.take_append_drop]
  constructor
  · rintro ⟨r', hr', hrange, -⟩
    obtain ⟨form', lead', id', hfirst', rfl⟩ := firstReference_eq_some_iff.1 hr'
    obtain ⟨after', hsplit'⟩ := hfirst'.exists_split
    obtain ⟨rfl, rfl⟩ := Occurrence.eq_of_range_eq hsplit' hline hrange
    exact ⟨form', hfirst'⟩
  · rintro ⟨form', hfirst'⟩
    exact ⟨Occurrence.toReference ⟨lead, id⟩ form' n,
      firstReference_eq_some_iff.2 ⟨form', lead, id, hfirst', rfl⟩, rfl, rfl⟩

end FeatureRefs
