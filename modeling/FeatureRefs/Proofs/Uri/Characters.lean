import FeatureRefs.Uri.File

/-!
# Characters of the URI of a file

The URI of a file is made of the names on the way to the file. What it has besides their characters
are letters, digits and the marks of a URI; and of their characters only the plain ones stand as such.
-/

namespace FeatureRefs

/-- A character that the separator does not have comes from one of the parts. -/
theorem Text.mem_intercalate_iff {separator : List Char} {parts : List (List Char)} {c : Char}
    (hc : c ∉ separator) : c ∈ separator.intercalate parts ↔ ∃ part ∈ parts, c ∈ part := by
  induction parts with
  | nil => simp
  | cons part parts ih =>
      by_cases hnil : parts = []
      · subst hnil
        simp
      · rw [List.intercalate_cons_of_ne_nil hnil, List.mem_append, List.mem_append, ih]
        simp [hc]

namespace Percent

variable {plain : Char → Bool} {text : List Char} {c : Char}

theorem isAlphanum_digit {n : Nat} (h : n < 16) : (digit n).isAlphanum = true := by
  revert n
  decide

/-- An encoded byte has only digits behind its percent sign. -/
theorem isAlphanum_of_mem_encodeByte {byte : UInt8} (hmem : c ∈ encodeByte byte) (hc : c ≠ '%') :
    c.isAlphanum = true := by
  have hbyte := byte.toNat_lt
  simp only [encodeByte, List.mem_cons, List.not_mem_nil, or_false] at hmem
  rcases hmem with rfl | rfl | rfl
  · contradiction
  · exact isAlphanum_digit (by omega)
  · exact isAlphanum_digit (by omega)

/-- A character that encoded bytes do not have stands in an encoded text where it is plain. -/
theorem mem_encode_iff (hc : c ≠ '%') (hdigit : c.isAlphanum = false) :
    c ∈ encode plain text ↔ plain c = true ∧ c ∈ text := by
  rw [encode, List.mem_flatMap]
  constructor
  · rintro ⟨d, hd, hmem⟩
    split at hmem
    case isTrue hplain =>
        obtain rfl := List.mem_singleton.1 hmem
        exact ⟨hplain, hd⟩
    case isFalse =>
        obtain ⟨byte, -, hbyte⟩ := List.mem_flatMap.1 hmem
        rw [isAlphanum_of_mem_encodeByte hbyte hc] at hdigit
        contradiction
  · rintro ⟨hplain, hmem⟩
    refine ⟨c, hmem, ?_⟩
    rw [if_pos hplain]
    exact List.mem_singleton_self c

end Percent

namespace Uri

/-- The marks that the URI of a file has on its own. -/
def fileMarks : List Char := ['.', '/', ':', '%']

variable {directory path : Path} {c : Char}

/-- A segment has a character of the name it is made for, and no other one. -/
theorem mem_segment_iff {component : Path.Component} {segment : String} (hmark : c ∉ fileMarks)
    (hdigit : c.isAlphanum = false) (h : segmentOfComponent? component = some segment) :
    c ∈ segment.toList ↔
      isPlainInFileName c = true ∧ ∃ name, component = .name name ∧ c ∈ name.toList := by
  have hpercent : c ≠ '%' := by
    rintro rfl
    exact hmark (by decide)
  have hdot : c ≠ '.' := by
    rintro rfl
    exact hmark (by decide)
  cases component with
  | root => contradiction
  | current => contradiction
  | parent =>
      obtain rfl : ".." = segment := Option.some.inj h
      simp [hdot]
  | name text =>
      obtain rfl := Option.some.inj h
      rw [String.toList_ofList, Percent.mem_encode_iff hpercent hdigit]
      simp

theorem mem_text_rooted_iff {segments : List String} (hslash : c ≠ '/') :
    c ∈ (UriPath.rooted segments).text.toList ↔ ∃ segment ∈ segments, c ∈ segment.toList := by
  have hempty : c ∉ "".toList := by simp
  rw [UriPath.text, String.toList_intercalate, Text.mem_intercalate_iff hempty, List.map_map]
  constructor
  · rintro ⟨part, hpart, hc⟩
    obtain ⟨segment, hsegment, rfl⟩ := List.mem_map.1 hpart
    refine ⟨segment, hsegment, ?_⟩
    simpa [hslash] using hc
  · rintro ⟨segment, hsegment, hc⟩
    refine ⟨_, List.mem_map_of_mem hsegment, ?_⟩
    simpa using Or.inr hc

theorem text_ofPath (directory path : Path) :
    (ofPath directory path).text = "file://" ++ (ofPath directory path).path.text := by
  have hbegin : "file" ++ ":" ++ ("//" ++ "") ++ "" = "file://" := by decide
  have hend (text : String) : text ++ "" ++ "" = text := by
    rw [String.append_empty, String.append_empty]
  have htext : (ofPath directory path).text =
      "file" ++ ":" ++ ("//" ++ "") ++ "" ++ (ofPath directory path).path.text ++ "" ++ "" := rfl
  rw [htext, hend, hbegin]

/-- Of the characters that are no letters, digits or marks, the URI of a file has the plain ones of
the names on the way to the file. -/
theorem mem_text_ofPath_iff (hmark : c ∉ fileMarks) (hdigit : c.isAlphanum = false) :
    c ∈ (ofPath directory path).text.toList ↔
      isPlainInFileName c = true ∧
        ∃ name, .name name ∈ (directory.join path).components ∧ c ∈ name.toList := by
  have hslash : c ≠ '/' := by
    rintro rfl
    exact hmark (by decide)
  have hfile : c ∉ "file://".toList := by
    intro hmem
    have hall : ("file://".toList.all fun d => d ∈ fileMarks || d.isAlphanum) = true := by
      decide
    have hc := List.all_eq_true.1 hall c hmem
    rw [hdigit, Bool.or_false, decide_eq_true_eq] at hc
    exact hmark hc
  -- An empty path is written as one empty segment, which has no characters either.
  have hsegments : c ∈ (ofPath directory path).path.text.toList ↔
      ∃ segment ∈ (directory.join path).components.filterMap segmentOfComponent?,
        c ∈ segment.toList := by
    unfold ofPath
    dsimp only
    split
    · rename_i hnil
      rw [mem_text_rooted_iff hslash, hnil]
      simp
    · exact mem_text_rooted_iff hslash
  rw [text_ofPath, String.toList_append, List.mem_append, or_iff_right hfile, hsegments]
  constructor
  · rintro ⟨segment, hsegment, hc⟩
    obtain ⟨component, hmem, hof⟩ := List.mem_filterMap.1 hsegment
    obtain ⟨hplain, name, rfl, hname⟩ := (mem_segment_iff hmark hdigit hof).1 hc
    exact ⟨hplain, name, hmem, hname⟩
  · rintro ⟨hplain, name, hmem, hc⟩
    have hof : segmentOfComponent? (.name name) = some _ := rfl
    exact ⟨_, List.mem_filterMap.2 ⟨_, hmem, hof⟩,
      (mem_segment_iff hmark hdigit hof).2 ⟨hplain, name, rfl, hc⟩⟩

end Uri

end FeatureRefs
