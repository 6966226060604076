import FeatureRefs.Files.Path

/-!
# Joined paths

What joining does to the segments of a path. A name that is joined becomes the last segment, in place
of an empty one if the path ends in a slash. Whether names are joined to a path before or after it is
taken from a directory makes no difference.
-/

namespace FeatureRefs

namespace Path

/-- A name that an entry of a directory can have. -/
structure IsName (name : String) : Prop where
  ne_nil : name.toList ≠ []
  no_slash : '/' ∉ name.toList
  ne_dot : name.toList ≠ ['.']
  ne_dots : name.toList ≠ ['.', '.']

instance (name : String) : Decidable (IsName name) :=
  decidable_of_iff
    (name.toList ≠ [] ∧ '/' ∉ name.toList ∧ name.toList ≠ ['.'] ∧ name.toList ≠ ['.', '.'])
    ⟨fun ⟨hnil, hslash, hdot, hdots⟩ => ⟨hnil, hslash, hdot, hdots⟩,
      fun ⟨hnil, hslash, hdot, hdots⟩ => ⟨hnil, hslash, hdot, hdots⟩⟩

/-! ## Segments -/

theorem segments_append_slash (text rest : List Char) :
    segments (text ++ '/' :: rest) = segments text ++ segments rest := by
  fun_induction segments text with
  | case1 => rfl
  | case2 text ih => simp [segments, ih]
  | case3 c text _ h ih => exact absurd h (segments_ne_nil text)
  | case4 c text hc segment others h ih =>
      rw [h] at ih
      rw [List.cons_append, segments, ih]
      · rfl
      · exact hc

/-- A text without slashes is a segment. -/
theorem segments_eq_singleton {text : List Char} (h : '/' ∉ text) : segments text = [text] := by
  induction text with
  | nil => rfl
  | cons c text ih =>
      rw [List.mem_cons, not_or] at h
      rw [segments, ih h.2]
      rintro rfl
      exact h.1 rfl

/-! ## Joining -/

/-- What stands between a path and a relative one that is joined to it. -/
def separator (p : Path) : String :=
  if p.text.isEmpty || p.text.toList.getLast? == some '/' then "" else "/"

theorem isAbsolute_append {text : String} (h : text.toList ≠ []) (more : String) :
    isAbsolute ⟨text ++ more⟩ = isAbsolute ⟨text⟩ := by
  obtain ⟨c, rest, hcons⟩ := List.exists_cons_of_ne_nil h
  simp only [isAbsolute, String.toList_append, hcons, List.cons_append, List.head?_cons]

theorem IsName.isAbsolute_eq_false {name : String} (h : IsName name) :
    isAbsolute ⟨name⟩ = false := by
  rw [isAbsolute, beq_eq_false_iff_ne]
  intro hhead
  exact h.no_slash (List.mem_of_head? hhead)

theorem join_of_relative {p q : Path} (h : q.isAbsolute = false) :
    p.join q = ⟨p.text ++ p.separator ++ q.text⟩ := by
  unfold join separator
  rw [h]
  split
  · contradiction
  · split
    · rw [String.append_empty]
    · rfl

theorem separator_append (text : String) {more : String} (h : more.toList ≠ []) :
    separator ⟨text ++ more⟩ = separator ⟨more⟩ := by
  have hempty : (text ++ more).isEmpty = more.isEmpty := by
    rw [Bool.eq_iff_iff, String.isEmpty_iff, String.isEmpty_iff, ← String.toList_inj,
      ← String.toList_inj, String.toList_append]
    simp [h]
  have hlast : (text ++ more).toList.getLast? = more.toList.getLast? := by
    obtain ⟨c, hc⟩ := Option.ne_none_iff_exists'.1 (mt List.getLast?_eq_none_iff.1 h)
    rw [String.toList_append, List.getLast?_append, hc, Option.some_or]
  simp only [separator, hempty, hlast]

/-- A name may be joined to a path before or after the path is taken from a directory. -/
theorem join_join_name {p q : Path} {name : String} (hq : q.text.toList ≠ []) (h : IsName name) :
    p.join (q.join ⟨name⟩) = (p.join q).join ⟨name⟩ := by
  have hname : isAbsolute ⟨name⟩ = false := h.isAbsolute_eq_false
  have habsolute : (q.join ⟨name⟩).isAbsolute = q.isAbsolute := by
    rw [join_of_relative hname, String.append_assoc]
    exact isAbsolute_append hq _
  cases hq' : q.isAbsolute with
  | true => rw [join, habsolute, hq', join.eq_1 p q, hq', if_pos rfl, if_pos rfl]
  | false =>
      rw [join_of_relative (habsolute.trans hq'), join_of_relative hq', join_of_relative hname,
        join_of_relative hname, separator_append _ hq]
      simp only [String.append_assoc]

/-- The segments of a path joined with a name are those of the path, without an empty one at the end,
and the name. -/
theorem exists_segments_join (p : Path) {name : String} (h : IsName name) :
    ∃ init, (segments p.text.toList = init ∨ segments p.text.toList = init ++ [[]]) ∧
      segments (p.join ⟨name⟩).text.toList = init ++ [name.toList] := by
  have hsegments : segments name.toList = [name.toList] := segments_eq_singleton h.no_slash
  rw [join_of_relative h.isAbsolute_eq_false]
  by_cases hend : p.text.isEmpty || p.text.toList.getLast? == some '/'
  · have hseparator : p.separator = "" := if_pos hend
    simp only [hseparator, String.append_empty, String.toList_append]
    rcases List.eq_nil_or_concat p.text.toList with hnil | ⟨text, c, htext⟩
    · rw [hnil]
      exact ⟨[], .inr rfl, hsegments⟩
    · -- The path ends in the slash that its last segment, an empty one, stands behind.
      have hne : p.text.isEmpty = false := by
        rw [Bool.eq_false_iff, Ne, String.isEmpty_iff, ← String.toList_inj, htext]
        simp
      obtain rfl : c = '/' := by simpa [hne, htext] using hend
      rw [htext, List.concat_eq_append]
      refine ⟨segments text, .inr ?_, ?_⟩
      · rw [segments_append_slash]
        rfl
      · rw [List.append_assoc, List.singleton_append, segments_append_slash, hsegments]
  · have hseparator : p.separator = "/" := if_neg hend
    have hslash : "/".toList = ['/'] := rfl
    refine ⟨segments p.text.toList, .inl rfl, ?_⟩
    simp only [hseparator, String.toList_append, hslash, List.append_assoc, List.singleton_append]
    rw [segments_append_slash, hsegments]

end Path

end FeatureRefs
