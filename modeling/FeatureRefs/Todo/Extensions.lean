import FeatureRefs.Unicode.Blank
import FeatureRefs.Unicode.Case
import FeatureRefs.Files.Path

/-!
# File extensions

The files to look at are chosen by their extensions. A list of extensions is normalised first: without
white space around them, without leading dots, in lower case, without empty or repeated ones.
-/

namespace FeatureRefs

/-- An extension in its normal form. -/
def normalizeExtension (extension : String) : String :=
  Unicode.lowercase (Unicode.trimStart (· == '.') (Unicode.trim extension))

/-- A list without the elements that occur before, given those that were seen already. -/
def distinctFrom (seen : List String) : List String → List String
  | [] => []
  | s :: rest =>
      if seen.contains s then distinctFrom seen rest else s :: distinctFrom (s :: seen) rest

/-- The elements that are kept are those that were not seen. -/
theorem mem_distinctFrom {s : String} {seen list : List String} :
    s ∈ distinctFrom seen list ↔ s ∈ list ∧ s ∉ seen := by
  induction list generalizing seen with
  | nil => simp [distinctFrom]
  | cons t rest ih =>
      by_cases ht : t ∈ seen
      · simp only [distinctFrom, List.contains_iff_mem, ht, if_true, ih, List.mem_cons]
        constructor
        · rintro ⟨hs, hseen⟩
          exact ⟨.inr hs, hseen⟩
        · rintro ⟨rfl | hs, hseen⟩
          · exact absurd ht hseen
          · exact ⟨hs, hseen⟩
      · simp only [distinctFrom, List.contains_iff_mem, ht, if_false, ih, List.mem_cons, not_or]
        constructor
        · rintro (rfl | ⟨hs, -, hseen⟩)
          · exact ⟨.inl rfl, ht⟩
          · exact ⟨.inr hs, hseen⟩
        · rintro ⟨hs, hseen⟩
          by_cases heq : s = t
          · exact .inl heq
          · exact .inr ⟨hs.resolve_left heq, heq, hseen⟩

/-- No element is kept twice. -/
theorem nodup_distinctFrom (seen list : List String) : (distinctFrom seen list).Nodup := by
  induction list generalizing seen with
  | nil => simp [distinctFrom]
  | cons t rest ih =>
      rw [distinctFrom]
      split
      · exact ih seen
      · exact List.nodup_cons.2 ⟨fun h => (mem_distinctFrom.1 h).2 (by simp), ih _⟩

/-- The normal form of a list of extensions. -/
def normalizeExtensions (extensions : List String) : List String :=
  distinctFrom [] ((extensions.map normalizeExtension).filter (!·.isEmpty))

/-- Whether two texts differ at most in the case of ASCII letters. -/
def eqIgnoringAsciiCase (s t : String) : Bool :=
  s.toList.map Char.toLower == t.toList.map Char.toLower

/-- Whether a file has one of the extensions. -/
def hasAllowedExtension (path : Path) (extensions : List String) : Bool :=
  match path.extension? with
  | some extension => extensions.any (eqIgnoringAsciiCase · extension)
  | none => false

end FeatureRefs
