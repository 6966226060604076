import FeatureRefs.Registry.Search
import FeatureRefs.Text.Lines
import FeatureRefs.Proofs.Reference.Grammar

/-!
# Letters in either case

What the characters of a text are told apart by is the same for both cases of an ASCII letter. So the measures
of a text, its lines and its lower-case form stay the same, or are put in lower case, when its letters are. Beyond
ASCII case is NOT looked past here: a capital sigma and a small one are different letters.
-/

namespace FeatureRefs

/-- Two texts that differ in the case of ASCII letters at most. -/
def Text.SameLetters (text text' : List Char) : Prop :=
  text.map Char.toLower = text'.map Char.toLower

instance (text text' : List Char) : Decidable (Text.SameLetters text text') :=
  inferInstanceAs (Decidable (_ = _))

/-! ## Characters -/

/-- What does not tell the two cases of a letter apart does not see lower case. -/
theorem apply_toLower_eq {α : Type} {f : Char → α}
    (h : ∀ n : Fin 26, f (Char.ofNat (97 + n)) = f (Char.ofNat (65 + n))) (c : Char) :
    f c.toLower = f c := by
  by_cases hcapital : 65 ≤ c.toNat ∧ c.toNat ≤ 90
  · have hlower : c.toLower.toNat = 97 + (c.toNat - 65) := by
      rw [toNat_toLower, if_pos hcapital]
      omega
    have hself : c.toNat = 65 + (c.toNat - 65) := by omega
    have hletter := h ⟨c.toNat - 65, by omega⟩
    simp only [← hlower, ← hself, Char.ofNat_toNat] at hletter
    exact hletter
  · have hself : c.toLower = c := by
      rw [← Char.toNat_inj, toNat_toLower, if_neg hcapital]
    rw [hself]

/-- A character that is no letter is not made by lower case. -/
theorem toLower_eq_iff {d : Char} (h : d.toNat < 65 ∨ 122 < d.toNat) (c : Char) :
    c.toLower = d ↔ c = d := by
  rw [← Char.toNat_inj, ← Char.toNat_inj, toNat_toLower]
  split
  · omega
  · rfl

theorem foldCase_toLower (c : Char) : foldCase c.toLower = foldCase c :=
  apply_toLower_eq (by decide) c

theorem isIdChar_toLower (c : Char) : isIdChar c.toLower = isIdChar c := by
  rw [isIdChar, isIdChar, foldCase_toLower]

theorem isQuote_toLower (c : Char) : isQuote c.toLower = isQuote c :=
  apply_toLower_eq (by decide) c

namespace Unicode

theorem isWord_toLower (c : Char) : isWord c.toLower = isWord c :=
  apply_toLower_eq (by decide) c

theorem isBlank_toLower (c : Char) : isBlank c.toLower = isBlank c :=
  apply_toLower_eq (by decide) c

theorem isCased_toLower (c : Char) : isCased c.toLower = isCased c :=
  apply_toLower_eq (by decide) c

theorem isCaseIgnorable_toLower (c : Char) : isCaseIgnorable c.toLower = isCaseIgnorable c :=
  apply_toLower_eq (by decide) c

theorem lowercaseChar_toLower (c : Char) : lowercaseChar c.toLower = lowercaseChar c :=
  apply_toLower_eq (by decide) c

end Unicode

namespace Text

theorem utf16Size_toLower (c : Char) : utf16Size c.toLower = utf16Size c :=
  apply_toLower_eq (by decide) c

theorem utf8Size_toLower (c : Char) : c.toLower.utf8Size = c.utf8Size :=
  apply_toLower_eq (by decide) c

/-! ## Measures and lines -/

theorem utf16Length_map_toLower (text : List Char) :
    utf16Length (text.map Char.toLower) = utf16Length text := by
  induction text with
  | nil => rfl
  | cons c text ih => rw [List.map_cons, utf16Length_cons, utf16Length_cons, utf16Size_toLower, ih]

theorem byteOffset_map_toLower (line : List Char) (column : Nat) :
    byteOffset (line.map Char.toLower) column = byteOffset line column := by
  induction line generalizing column with
  | nil => rfl
  | cons c line ih =>
      rw [List.map_cons, byteOffset, byteOffset, utf8Size_toLower, utf16Size_toLower, ih]

theorem takeBytes_map_toLower (offset : Nat) (line : List Char) :
    takeBytes offset (line.map Char.toLower) = (takeBytes offset line).map Char.toLower := by
  induction line generalizing offset with
  | nil => rfl
  | cons c line ih =>
      rw [List.map_cons, takeBytes, takeBytes, utf8Size_toLower, ih]
      split
      · rfl
      · rfl

/-- Lines end at the same places in either case. -/
theorem lines_map_toLower (text : List Char) :
    lines (text.map Char.toLower) = (lines text).map (List.map Char.toLower) := by
  fun_induction lines text with
  | case1 => rfl
  | case2 rest ih =>
      have hfeed : ('\n' :: rest).map Char.toLower = '\n' :: rest.map Char.toLower := rfl
      rw [hfeed, lines_newline, ih]
      rfl
  | case3 rest ih =>
      have hfeed : ('\r' :: '\n' :: rest).map Char.toLower = '\r' :: '\n' :: rest.map Char.toLower :=
        rfl
      rw [hfeed, lines_return_newline, ih]
      rfl
  | case4 c rest hc hreturn hnil ih =>
      obtain rfl : rest = [] := lines_eq_nil_iff.1 hnil
      have hne : '\n' ∉ [c.toLower] := by
        rw [List.mem_singleton, eq_comm, toLower_eq_iff (by decide)]
        exact hc
      exact lines_eq_singleton (List.cons_ne_nil _ _) hne
  | case5 c rest hc hreturn first others hlines ih =>
      rw [List.map_cons, lines, ih, hlines]
      · rfl
      · rw [toLower_eq_iff (by decide)]
        exact hc
      · intro more hlower hmore
        rw [toLower_eq_iff (by decide)] at hlower
        cases rest with
        | nil => contradiction
        | cons d rest =>
            obtain ⟨hd, -⟩ := List.cons.inj hmore
            rw [toLower_eq_iff (by decide)] at hd
            exact hreturn rest hlower (by rw [hd])

end Text

/-! ## Lower-case forms -/

namespace Unicode

theorem startsWithWord_map_toLower (text : List Char) :
    startsWithWord (text.map Char.toLower) = startsWithWord text := by
  cases text with
  | nil => rfl
  | cons c text => exact isWord_toLower c

theorem isBoundary_map_toLower (before after : List Char) :
    isBoundary (before.map Char.toLower) (after.map Char.toLower) = isBoundary before after := by
  rw [isBoundary, isBoundary, startsWithWord_map_toLower, startsWithWord_map_toLower]

/-- What is dropped does not depend on case where the test does not. -/
theorem dropWhile_map_toLower {p : Char → Bool} (h : ∀ c : Char, p c.toLower = p c)
    (text : List Char) :
    (text.map Char.toLower).dropWhile p = (text.dropWhile p).map Char.toLower := by
  have hp : p ∘ Char.toLower = p := funext h
  rw [List.dropWhile_map, hp]

theorem trim_map_toLower (text : List Char) :
    trim (String.ofList (text.map Char.toLower)) =
      String.ofList ((trim (String.ofList text)).toList.map Char.toLower) := by
  simp only [trim, trimBy, String.toList_ofList, ← List.map_reverse,
    dropWhile_map_toLower isBlank_toLower]

theorem casedNext_map_toLower (text : List Char) :
    casedNext (text.map Char.toLower) = casedNext text := by
  rw [casedNext, casedNext, dropWhile_map_toLower isCaseIgnorable_toLower]
  cases text.dropWhile isCaseIgnorable with
  | nil => rfl
  | cons c rest => exact isCased_toLower c

theorem lowercaseAfter_map_toLower (before text : List Char) :
    lowercaseAfter (before.map Char.toLower) (text.map Char.toLower) =
      lowercaseAfter before text := by
  induction text generalizing before with
  | nil => rfl
  | cons c rest ih =>
      have hrest := ih (c :: before)
      rw [List.map_cons] at hrest
      rw [List.map_cons, lowercaseAfter, lowercaseAfter, hrest, casedNext_map_toLower,
        casedNext_map_toLower, lowercaseChar_toLower]
      simp only [toLower_eq_iff (d := 'Σ') (by decide)]

/-- Texts with the same letters have the same lower-case form. -/
theorem lowercase_map_toLower (text : List Char) :
    lowercase (String.ofList (text.map Char.toLower)) = lowercase (String.ofList text) := by
  rw [lowercase, lowercase, String.toList_ofList, String.toList_ofList]
  exact congrArg String.ofList (lowercaseAfter_map_toLower [] text)

end Unicode

/-- A search finds the same for a query in either case. -/
theorem Registry.search_map_toLower (r : Registry) (query : List Char) :
    r.search (String.ofList (query.map Char.toLower)) = r.search (String.ofList query) := by
  rw [search, search, searchBy, searchBy, Unicode.trim_map_toLower, Unicode.lowercase_map_toLower,
    String.ofList_toList]

end FeatureRefs
