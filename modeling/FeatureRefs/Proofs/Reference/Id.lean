import FeatureRefs.Proofs.Reference.Pieces

/-!
# The id in front of a text

What is recognised as an id depends on the text behind the place where it begins and on the form of
the reference: a hot phrase takes the longest run of id letters that ends at the edge of a word, and
an attribute the whole run. Both read an id of letters and hyphens with a letter at the end as it is.
-/

namespace FeatureRefs

/-- The id of a reference of a form that leads to it right before a text. -/
def idAt? : ReferenceForm → List Char → Option (List Char)
  | .hotPhrase, text => boundedId? text
  | .attribute, text =>
      match text.takeWhile isIdChar with
      | [] => none
      | c :: id => some (c :: id)

theorem idAt?_attribute_eq_some_iff {text id : List Char} :
    idAt? .attribute text = some id ↔ id ≠ [] ∧ text.takeWhile isIdChar = id := by
  cases hrun : text.takeWhile isIdChar with
  | nil =>
      simp only [idAt?, hrun]
      constructor
      · intro h
        contradiction
      · rintro ⟨hne, rfl⟩
        contradiction
  | cons c run =>
      simp only [idAt?, hrun, Option.some.injEq]
      constructor
      · rintro rfl
        exact ⟨by simp, rfl⟩
      · rintro ⟨-, h⟩
        exact h

/-- In front of id letters that end in a word character the whole text is the id. -/
theorem idAt?_of_letters {id : List Char} (hletters : ∀ c ∈ id, IsIdLetter c)
    (hword : EndsInWord id) (form : ReferenceForm) : idAt? form id = some id := by
  have hne : id ≠ [] := by
    rintro rfl
    simp [EndsInWord] at hword
  cases form with
  | hotPhrase =>
      have hedge : AtWordEdge id [] := by
        rw [atWordEdge_iff_of_endsInWord hword]
        simp [BeginsWithWord]
      refine boundedId?_eq_some_iff.2 ⟨[], (List.append_nil id).symm, ⟨hne, hletters, hedge⟩, ?_⟩
      intro more rest hsplit hmore
      exact absurd (List.append_eq_nil_iff.1 hsplit.symm).1 hmore
  | «attribute» =>
      have hrun : id.takeWhile isIdChar = id :=
        List.takeWhile_eq_self_iff.2 fun c hc => isIdChar_iff.2 (hletters c hc)
      exact idAt?_attribute_eq_some_iff.2 ⟨hne, hrun⟩

/-! ## Lowercase ids -/

/-- An ASCII letter in lower case. -/
def IsLowercaseLetter (c : Char) : Prop :=
  'a' ≤ c ∧ c ≤ 'z'

instance (c : Char) : Decidable (IsLowercaseLetter c) :=
  inferInstanceAs (Decidable ('a' ≤ c ∧ c ≤ 'z'))

/-- Lowercase letters and hyphens with a letter at the end. -/
structure IsPlainId (id : List Char) : Prop where
  letters : ∀ c ∈ id, IsLowercaseLetter c ∨ c = '-'
  last : ∃ c, id.getLast? = some c ∧ IsLowercaseLetter c

theorem IsLowercaseLetter.toNat_bounds {c : Char} (h : IsLowercaseLetter c) :
    97 ≤ c.toNat ∧ c.toNat ≤ 122 :=
  ⟨le_iff_toNat_le.1 h.1, le_iff_toNat_le.1 h.2⟩

theorem IsPlainId.isIdLetter {id : List Char} (h : IsPlainId id) : ∀ c ∈ id, IsIdLetter c := by
  intro c hc
  rcases h.letters c hc with hlower | rfl
  · exact .inl hlower
  · exact isIdLetter_hyphen

theorem IsPlainId.endsInWord {id : List Char} (h : IsPlainId id) : EndsInWord id := by
  obtain ⟨c, hc, hlower⟩ := h.last
  have hletter : IsIdLetter c := .inl hlower
  refine ⟨c, hc, hletter.isWord_iff.2 ?_⟩
  rintro rfl
  exact absurd hlower (by decide)

theorem lowercase_of_forall {id : String}
    (h : ∀ c ∈ id.toList, IsLowercaseLetter c ∨ c = '-') : Unicode.lowercase id = id := by
  apply Unicode.lowercase_eq_self
  intro c hc
  rcases h c hc with hlower | rfl
  · obtain ⟨hfirst, hlast⟩ := hlower.toNat_bounds
    refine ⟨by omega, ?_⟩
    rw [← Char.toNat_inj, toNat_toLower]
    split_ifs <;> omega
  · decide

/-! ## Ids with digits -/

/-- A digit of ASCII. -/
def IsDigit (c : Char) : Prop :=
  '0' ≤ c ∧ c ≤ '9'

instance (c : Char) : Decidable (IsDigit c) :=
  inferInstanceAs (Decidable ('0' ≤ c ∧ c ≤ '9'))

theorem IsDigit.toNat_bounds {c : Char} (h : IsDigit c) : 48 ≤ c.toNat ∧ c.toNat ≤ 57 :=
  ⟨le_iff_toNat_le.1 h.1, le_iff_toNat_le.1 h.2⟩

theorem IsDigit.isWord {c : Char} (h : IsDigit c) : Unicode.isWord c = true := by
  have hdigit : c.isDigit = true := by
    show (decide ('0' ≤ c) && decide (c ≤ '9')) = true
    simp [h.1, h.2]
  have halphanum : c.isAlphanum = true := by
    show (c.isUpper || c.isLower || c.isDigit) = true
    simp [hdigit]
  exact Unicode.isWord_of_isAlphanum halphanum

theorem IsDigit.not_isIdLetter {c : Char} (h : IsDigit c) : ¬ IsIdLetter c := by
  obtain ⟨hfirst, hlast⟩ := h.toNat_bounds
  rintro (⟨hlower, -⟩ | ⟨hupper, -⟩ | rfl | rfl | rfl)
  · have hlower : 97 ≤ c.toNat := le_iff_toNat_le.1 hlower
    omega
  · have hupper : 65 ≤ c.toNat := le_iff_toNat_le.1 hupper
    omega
  · exact absurd hfirst (by decide)
  · exact absurd hlast (by decide)
  · exact absurd hlast (by decide)

theorem isIdLetter_of_isAlphanum {c : Char} (h : c.isAlphanum = true) (hdigit : ¬ IsDigit c) :
    IsIdLetter c := by
  have hkinds : (c.isUpper || c.isLower || c.isDigit) = true := h
  rw [Bool.or_eq_true, Bool.or_eq_true] at hkinds
  rcases hkinds with (hupper | hlower) | hdecimal
  · exact .inr (.inl (of_decide_eq_true hupper))
  · obtain ⟨hfirst, hlast⟩ := Bool.and_eq_true_iff.1 hlower
    exact .inl ⟨of_decide_eq_true hfirst, of_decide_eq_true hlast⟩
  · obtain ⟨hfirst, hlast⟩ := Bool.and_eq_true_iff.1 hdecimal
    exact absurd ⟨of_decide_eq_true hfirst, of_decide_eq_true hlast⟩ hdigit

/-- A digit is none of the marks that end what leads to an id. -/
theorem IsDigit.foldCase_not_mem {c : Char} (h : IsDigit c) :
    foldCase c ∉ ['/', '=', '\'', '"'] := by
  obtain ⟨hfirst, hlast⟩ := h.toNat_bounds
  have hfold : (foldCase c).toNat = c.toNat := by
    rw [toNat_foldCase, toNat_toLower]
    split_ifs <;> omega
  simp only [List.mem_cons, List.not_mem_nil, or_false, ← Char.toNat_inj, hfold, Char.reduceToNat]
  omega

theorem beginsWithWord_append_digit {word rest : List Char} {digit : Char}
    (hword : ∀ c ∈ word, Unicode.isWord c = true) (hdigit : IsDigit digit) :
    BeginsWithWord (word ++ digit :: rest) :=
  beginsWithWord_append hword ⟨digit, rfl, hdigit.isWord⟩

/-- Where word letters run up to a digit, no id of a hot phrase ends among them. -/
theorem not_isBounded_of_digit {id word rest more after : List Char} {digit : Char}
    (hword : ∀ c ∈ word, Unicode.isWord c = true) (hdigit : IsDigit digit)
    (hsplit : word ++ digit :: rest = more ++ after) (hne : more ≠ []) :
    ¬ IsBounded (id ++ more) after := by
  intro h
  have hle : more.length ≤ word.length := by
    by_contra hlt
    obtain ⟨extra, rfl, hextra⟩ := eq_append_of_length_le hsplit (by omega)
    cases extra with
    | nil => simp at hlt
    | cons c extra =>
        obtain ⟨rfl, -⟩ := List.cons.inj hextra
        exact hdigit.not_isIdLetter (h.letters digit (by simp))
  obtain ⟨left, rfl, rfl⟩ := eq_append_of_length_le hsplit.symm hle
  have hends : EndsInWord (id ++ more) := by
    apply endsInWord_append
    refine ⟨more.getLast hne, List.getLast?_eq_some_getLast hne, hword _ ?_⟩
    exact List.mem_append_left _ (List.getLast_mem hne)
  have hbegins : BeginsWithWord (left ++ digit :: rest) :=
    beginsWithWord_append_digit (fun c hc => hword c (List.mem_append_right _ hc)) hdigit
  exact (atWordEdge_iff_of_endsInWord hends).1 h.edge hbegins

/-- Before word letters that run up to a digit a hot phrase has no id. -/
theorem idAt?_hotPhrase_of_digit {word rest : List Char} {digit : Char}
    (hword : ∀ c ∈ word, Unicode.isWord c = true) (hdigit : IsDigit digit) :
    idAt? .hotPhrase (word ++ digit :: rest) = none := by
  rw [Option.eq_none_iff_forall_ne_some]
  intro id hid
  obtain ⟨after, hsplit, hisPhraseId⟩ := boundedId?_eq_some_iff.1 hid
  have hbounded : IsBounded ([] ++ id) after := hisPhraseId.bounded
  exact not_isBounded_of_digit hword hdigit hsplit hbounded.ne_nil hbounded

/-- A hyphen before such word letters is at the edge of a word, so a hot phrase reads up to it. -/
theorem idAt?_hotPhrase_of_hyphen {head word rest : List Char} {digit : Char}
    (hhead : ∀ c ∈ head, IsIdLetter c) (hword : ∀ c ∈ word, Unicode.isWord c = true)
    (hdigit : IsDigit digit) :
    idAt? .hotPhrase (head ++ ['-'] ++ (word ++ digit :: rest)) = some (head ++ ['-']) := by
  have hends : ¬ EndsInWord (head ++ ['-']) :=
    not_endsInWord_append_hyphens (by simp) (by simp)
  have hletters : ∀ c ∈ head ++ ['-'], IsIdLetter c := by
    intro c hc
    rcases List.mem_append.1 hc with hc | hc
    · exact hhead c hc
    · obtain rfl := List.mem_singleton.1 hc
      exact isIdLetter_hyphen
  refine boundedId?_eq_some_iff.2 ⟨_, rfl, ⟨by simp, hletters, ?_⟩, ?_⟩
  · rw [atWordEdge_iff_of_not_endsInWord hends]
    exact beginsWithWord_append_digit hword hdigit
  · intro more after hsplit hne
    exact not_isBounded_of_digit hword hdigit hsplit hne

end FeatureRefs
