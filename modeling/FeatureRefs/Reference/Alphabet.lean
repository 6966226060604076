/-!
# Letters of ids and keywords

Keywords and ids are read without regard to case. Besides the two cases of ASCII, two characters
fold to an ASCII letter: the long s and the Kelvin sign.
-/

namespace FeatureRefs

/-- The case-folded form of a character, as far as it matters for ASCII letters. -/
def foldCase (c : Char) : Char :=
  if c = 'ſ' then 's' else if c = '\u212a' then 'k' else c.toLower

/-- Ids are made of letters, up to case, and hyphens. -/
def isIdChar (c : Char) : Bool :=
  let folded := foldCase c
  ('a' ≤ folded && folded ≤ 'z') || folded == '-'

/-- What follows a keyword at the head of a text, if the text begins with the keyword up to case. -/
def dropKeyword? : List Char → List Char → Option (List Char)
  | [], text => some text
  | _ :: _, [] => none
  | k :: keyword, c :: text =>
      if foldCase c = foldCase k then dropKeyword? keyword text else none

/-- A text begins with a keyword when its first characters are those of the keyword up to case. -/
theorem dropKeyword?_eq_some_iff {keyword text rest : List Char} :
    dropKeyword? keyword text = some rest ↔
      ∃ head, text = head ++ rest ∧ head.map foldCase = keyword.map foldCase := by
  fun_induction dropKeyword? keyword text with
  | case1 text =>
      constructor
      · intro h
        exact ⟨[], by simpa using h, rfl⟩
      · rintro ⟨head, rfl, h⟩
        have hnil : head = [] := by simpa using h
        simp [hnil]
  | case2 k keyword =>
      constructor
      · intro h
        simp at h
      · rintro ⟨head, happend, h⟩
        have hnil : head = [] := (List.append_eq_nil_iff.1 happend.symm).1
        simp [hnil] at h
  | case3 k keyword c text heq ih =>
      rw [ih]
      constructor
      · rintro ⟨head, rfl, h⟩
        exact ⟨c :: head, rfl, by simp [heq, h]⟩
      · rintro ⟨head, happend, h⟩
        cases head with
        | nil => simp at h
        | cons d head =>
            obtain ⟨rfl, htext⟩ := List.cons.inj happend
            exact ⟨head, htext, (List.cons.inj h).2⟩
  | case4 k keyword c text hne =>
      constructor
      · intro h
        simp at h
      · rintro ⟨head, happend, h⟩
        cases head with
        | nil => simp at h
        | cons d head =>
            obtain ⟨rfl, -⟩ := List.cons.inj happend
            exact absurd (List.cons.inj h).1 hne

/-- The characters that may enclose an attribute's value. -/
def isQuote (c : Char) : Bool :=
  c == '\'' || c == '"'

/-- A text split behind the quote that it may begin with. -/
def splitQuote : List Char → List Char × List Char
  | [] => ([], [])
  | c :: rest => if isQuote c then ([c], rest) else ([], c :: rest)

theorem splitQuote_append (text : List Char) :
    (splitQuote text).1 ++ (splitQuote text).2 = text := by
  cases text with
  | nil => rfl
  | cons c rest =>
      by_cases h : isQuote c = true
      · simp [splitQuote, h]
      · simp [splitQuote, h]

/-- The head of a hot phrase. -/
def hotPhraseKeyword : List Char := "baseline/".toList

/-- The head of a status tag. -/
def statusTagKeyword : List Char := "<baseline-status".toList

/-- The head of the attribute of a status tag that holds an id. -/
def featureIdKeyword : List Char := "featureId=".toList

end FeatureRefs
