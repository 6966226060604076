import Mathlib.Data.List.DropRight
import FeatureRefs.Files.Path

/-!
# Paths without their last component

A path that has lost its last component has the others, in the same order, and it stays absolute or relative. The
empty path and the root directory are the only paths with no component to lose.

Two paths with the same components need NOT be written alike: slashes and dots that do not count are taken away
with a component if they stand right before it, and are kept elsewhere.
-/

namespace FeatureRefs.Path

/-! ## Segments that make up a text -/

theorem slash_not_mem_of_mem_segments {text segment : List Char} (h : segment ∈ segments text) :
    '/' ∉ segment := by
  fun_induction segments text generalizing segment with
  | case1 =>
      rw [List.mem_singleton.1 h]
      exact List.not_mem_nil
  | case2 rest ih =>
      rcases List.mem_cons.1 h with rfl | hrest
      · exact List.not_mem_nil
      · exact ih hrest
  | case3 c rest _ hnil _ => exact absurd hnil (segments_ne_nil rest)
  | case4 c rest hc first others hsegments ih =>
      rw [hsegments] at ih
      rcases List.mem_cons.1 h with rfl | hothers
      · rw [List.mem_cons, not_or]
        exact ⟨fun heq => hc heq.symm, ih List.mem_cons_self⟩
      · exact ih (List.mem_cons_of_mem first hothers)

/-- Segments with slashes between them are the segments of the text they make up. No segments at all make up the
text that has a single empty one. -/
theorem segments_ofSegments {segs : List (List Char)} (h : ∀ s ∈ segs, '/' ∉ s) :
    segments (ofSegments segs) = if segs = [] then [[]] else segs := by
  induction segs with
  | nil => rfl
  | cons segment others ih =>
      obtain ⟨hsegment, hothers⟩ := List.forall_mem_cons.1 h
      rw [if_neg (List.cons_ne_nil _ _)]
      induction segment with
      | nil =>
          cases others with
          | nil => rfl
          | cons next more =>
              have hrest := ih hothers
              rw [if_neg (List.cons_ne_nil _ _)] at hrest
              have htext : ofSegments ([] :: next :: more) = '/' :: ofSegments (next :: more) := rfl
              rw [htext, segments, hrest]
      | cons c segment ihsegment =>
          rw [List.mem_cons, not_or] at hsegment
          have hinner := ihsegment (List.forall_mem_cons.2 ⟨hsegment.2, hothers⟩) hsegment.2
          rw [ofSegments_cons_cons, segments, hinner]
          rintro rfl
          exact hsegment.1 rfl

/-! ## Components and segments -/

/-- What segments begin with as components: a dot counts where the list begins a relative path. -/
def leadingComponents (isFirst : Bool) (segs : List (List Char)) : List Component :=
  if isFirst && segs.head? == some ['.'] then [.current] else []

/-- The components that segments stand for. `isFirst` says that the list begins a relative path. -/
def bodyComponents (isFirst : Bool) (segs : List (List Char)) : List Component :=
  leadingComponents isFirst segs ++ innerComponents segs

/-- The component that an absolute path begins with. -/
def rootComponents (isAbsolute : Bool) : List Component :=
  if isAbsolute then [.root] else []

/-- The segments of a path behind the slash that it may begin with. -/
def body (p : Path) : List (List Char) :=
  (segments p.text.toList).drop (if !p.isAbsolute then 0 else 1)

theorem innerComponents_append (segs more : List (List Char)) :
    innerComponents (segs ++ more) = innerComponents segs ++ innerComponents more := by
  simp [innerComponents]

theorem innerComponents_of_skipped {segs : List (List Char)} (h : ∀ s ∈ segs, isSkipped s = true) :
    innerComponents segs = [] := by
  have hnone : segs.filter (fun s => !isSkipped s) = [] := by
    rw [List.filter_eq_nil_iff]
    intro s hs
    simp [h s hs]
  rw [innerComponents, hnone, List.map_nil]

theorem components_eq (p : Path) :
    p.components = rootComponents p.isAbsolute ++ bodyComponents (!p.isAbsolute) p.body := by
  obtain ⟨first, others, hsegments⟩ := List.exists_cons_of_ne_nil (segments_ne_nil p.text.toList)
  unfold components body
  rw [hsegments]
  cases p.isAbsolute with
  | true => simp [rootComponents, bodyComponents, leadingComponents]
  | false =>
      by_cases hdot : first = ['.']
      · subst hdot
        simp [rootComponents, bodyComponents, leadingComponents, innerComponents, isSkipped]
      · simp [rootComponents, bodyComponents, leadingComponents, hdot]

/-! ## Segments without the last ones that do not count -/

section

variable {isFirst : Bool} {segs : List (List Char)}

/-- Either a segment that counts is left at the end, or the dot at the beginning, or nothing. -/
theorem trimSegments_cases (isFirst : Bool) (segs : List (List Char)) :
    (∃ init last more, segs = (init ++ [last]) ++ more ∧ isSkipped last = false ∧
        (∀ s ∈ more, isSkipped s = true) ∧ trimSegments isFirst segs = init ++ [last]) ∨
      (isFirst = true ∧ segs.head? = some ['.'] ∧ bodyComponents isFirst segs = [.current] ∧
        trimSegments isFirst segs = [['.']]) ∨
      (bodyComponents isFirst segs = [] ∧ trimSegments isFirst segs = []) := by
  have hdef : trimSegments isFirst segs =
      if isFirst && (segs.rdropWhile isSkipped).isEmpty && segs.head? == some ['.'] then [['.']]
      else segs.rdropWhile isSkipped := rfl
  by_cases hnil : segs.rdropWhile isSkipped = []
  · rw [hdef, hnil, List.isEmpty_nil, Bool.and_true, bodyComponents, leadingComponents,
      innerComponents_of_skipped (List.rdropWhile_eq_nil_iff.1 hnil), List.append_nil]
    split
    · next hdot =>
        rw [Bool.and_eq_true, beq_iff_eq] at hdot
        exact .inr (.inl ⟨hdot.1, hdot.2, rfl, rfl⟩)
    · exact .inr (.inr ⟨rfl, rfl⟩)
  · have hempty : (segs.rdropWhile isSkipped).isEmpty = false := by simpa using hnil
    have hlast := List.rdropWhile_last_not isSkipped segs hnil
    have hconcat := List.dropLast_append_getLast hnil
    refine .inl ⟨(segs.rdropWhile isSkipped).dropLast, _, segs.rtakeWhile isSkipped, ?_,
      Bool.eq_false_iff.2 hlast, fun s hs => List.mem_rtakeWhile_imp hs, ?_⟩
    · rw [hconcat, List.rdropWhile_append_rtakeWhile]
    · rw [hdef, hempty, hconcat]
      simp

theorem bodyComponents_concat (init : List (List Char)) {last : List Char}
    (h : isSkipped last = false) :
    bodyComponents isFirst (init ++ [last]) =
      bodyComponents isFirst init ++ [Component.ofSegment last] := by
  have hlast : innerComponents [last] = [Component.ofSegment last] := by
    simp [innerComponents, h]
  have hleading : leadingComponents isFirst (init ++ [last]) = leadingComponents isFirst init := by
    cases init with
    | nil =>
        have hdot : last ≠ ['.'] := by
          rintro rfl
          contradiction
        simp [leadingComponents, hdot]
    | cons first others => rfl
  rw [bodyComponents, bodyComponents, innerComponents_append, hlast, hleading, List.append_assoc]

theorem bodyComponents_append_skipped {more : List (List Char)} (hne : segs ≠ [])
    (h : ∀ s ∈ more, isSkipped s = true) :
    bodyComponents isFirst (segs ++ more) = bodyComponents isFirst segs := by
  obtain ⟨first, others, rfl⟩ := List.exists_cons_of_ne_nil hne
  rw [bodyComponents, innerComponents_append, innerComponents_of_skipped h, List.append_nil]
  rfl

/-- The segments that are left out stand for no components. -/
theorem bodyComponents_trimSegments (isFirst : Bool) (segs : List (List Char)) :
    bodyComponents isFirst (trimSegments isFirst segs) = bodyComponents isFirst segs := by
  rcases trimSegments_cases isFirst segs with
    ⟨init, last, more, rfl, -, hmore, htrim⟩ | ⟨rfl, -, hbody, htrim⟩ | ⟨hbody, htrim⟩
  · rw [htrim, bodyComponents_append_skipped (by simp) hmore]
  · rw [htrim, hbody]
    decide
  · rw [htrim, hbody]
    cases isFirst with
    | true => rfl
    | false => rfl

/-- Nothing is left just where there are no components. -/
theorem trimSegments_eq_nil_iff :
    trimSegments isFirst segs = [] ↔ bodyComponents isFirst segs = [] := by
  rcases trimSegments_cases isFirst segs with
    ⟨init, last, more, rfl, hlast, hmore, htrim⟩ | ⟨rfl, -, hbody, htrim⟩ | ⟨hbody, htrim⟩
  · rw [htrim, bodyComponents_append_skipped (by simp) hmore, bodyComponents_concat init hlast]
    simp
  · rw [htrim, hbody]
    simp
  · rw [htrim, hbody]
    simp

/-- Without the last segment that is left the last component is missing. -/
theorem bodyComponents_dropLast (isFirst : Bool) (segs : List (List Char)) :
    bodyComponents isFirst (trimSegments isFirst segs).dropLast =
      (bodyComponents isFirst segs).dropLast := by
  rcases trimSegments_cases isFirst segs with
    ⟨init, last, more, rfl, hlast, hmore, htrim⟩ | ⟨rfl, -, hbody, htrim⟩ | ⟨hbody, htrim⟩
  · rw [htrim, bodyComponents_append_skipped (by simp) hmore, bodyComponents_concat init hlast,
      List.dropLast_concat, List.dropLast_concat]
  · rw [htrim, hbody]
    rfl
  · rw [htrim, hbody]
    cases isFirst with
    | true => rfl
    | false => rfl

/-- What is left is the beginning of the segments. -/
theorem trimSegments_isPrefix (isFirst : Bool) (segs : List (List Char)) :
    trimSegments isFirst segs <+: segs := by
  rcases trimSegments_cases isFirst segs with
    ⟨init, last, more, rfl, -, -, htrim⟩ | ⟨-, hhead, -, htrim⟩ | ⟨-, htrim⟩
  · rw [htrim]
    exact List.prefix_append _ _
  · obtain ⟨others, rfl⟩ := List.head?_eq_some_iff.1 hhead
    rw [htrim]
    exact List.prefix_append [['.']] others
  · rw [htrim]
    exact List.nil_prefix

end

/-! ## Paths that segments make up -/

/-- The path that segments make up behind the slash of an absolute path. -/
def ofBody (isAbsolute : Bool) (segs : List (List Char)) : Path :=
  ⟨String.ofList (if isAbsolute then '/' :: ofSegments segs else ofSegments segs)⟩

section

variable {isAbsolute : Bool} {segs : List (List Char)}

/-- Segments make up a relative path unless an empty one is the first. -/
theorem head?_ofSegments_ne (hslash : ∀ s ∈ segs, '/' ∉ s) (hhead : segs.head? ≠ some []) :
    (ofSegments segs).head? ≠ some '/' := by
  cases segs with
  | nil => simp [ofSegments, List.intercalate]
  | cons first others =>
      cases first with
      | nil => exact absurd rfl hhead
      | cons c first =>
          rw [ofSegments_cons_cons, List.head?_cons, Ne, Option.some_inj]
          rintro rfl
          exact hslash _ List.mem_cons_self List.mem_cons_self

theorem isAbsolute_ofBody (hslash : ∀ s ∈ segs, '/' ∉ s)
    (hhead : isAbsolute = false → segs.head? ≠ some []) :
    (ofBody isAbsolute segs).isAbsolute = isAbsolute := by
  rw [Path.isAbsolute, ofBody, String.toList_ofList]
  cases isAbsolute with
  | true => rfl
  | false => simpa using head?_ofSegments_ne hslash (hhead rfl)

theorem body_ofBody (hslash : ∀ s ∈ segs, '/' ∉ s)
    (hhead : isAbsolute = false → segs.head? ≠ some []) :
    (ofBody isAbsolute segs).body = if segs = [] then [[]] else segs := by
  have htext : (ofBody isAbsolute segs).text.toList =
      if isAbsolute then '/' :: ofSegments segs else ofSegments segs := String.toList_ofList
  rw [body, isAbsolute_ofBody hslash hhead, htext]
  cases isAbsolute with
  | true =>
      have hslashed : segments ('/' :: ofSegments segs) = [] :: segments (ofSegments segs) := rfl
      rw [if_pos rfl, hslashed, segments_ofSegments hslash]
      rfl
  | false => exact segments_ofSegments hslash

theorem components_ofBody (hslash : ∀ s ∈ segs, '/' ∉ s)
    (hhead : isAbsolute = false → segs.head? ≠ some []) :
    (ofBody isAbsolute segs).components =
      rootComponents isAbsolute ++ bodyComponents (!isAbsolute) segs := by
  rw [components_eq, isAbsolute_ofBody hslash hhead, body_ofBody hslash hhead]
  split
  · next hnil =>
      subst hnil
      cases isAbsolute with
      | true => rfl
      | false => rfl
  · rfl

end

/-! ## The path without its last component -/

/-- The first segment of a relative path is not empty unless the path is. -/
theorem head?_segments_ne {text : List Char} (hne : text ≠ []) (hhead : text.head? ≠ some '/') :
    (segments text).head? ≠ some [] := by
  fun_cases segments text with
  | case1 => exact absurd rfl hne
  | case2 rest => exact absurd rfl hhead
  | case3 c rest _ h => simp
  | case4 c rest _ segment others h => simp

/-- The segments of a path without those that stand for its last component. -/
def bodyAbove (p : Path) : List (List Char) :=
  trimSegments (!p.isAbsolute) (trimSegments (!p.isAbsolute) p.body).dropLast

variable {p q : Path}

theorem bodyAbove_isPrefix (p : Path) : p.bodyAbove <+: p.body :=
  ((trimSegments_isPrefix _ _).trans (List.dropLast_prefix _)).trans (trimSegments_isPrefix _ _)

theorem bodyComponents_bodyAbove (p : Path) :
    bodyComponents (!p.isAbsolute) p.bodyAbove =
      (bodyComponents (!p.isAbsolute) p.body).dropLast := by
  rw [bodyAbove, bodyComponents_trimSegments, bodyComponents_dropLast]

theorem slash_not_mem_of_mem_bodyAbove {s : List Char} (h : s ∈ p.bodyAbove) : '/' ∉ s :=
  slash_not_mem_of_mem_segments (List.mem_of_mem_drop (p.bodyAbove_isPrefix.mem h))

theorem head?_bodyAbove_ne (hbody : bodyComponents (!p.isAbsolute) p.body ≠ [])
    (hrelative : p.isAbsolute = false) : p.bodyAbove.head? ≠ some [] := by
  intro hempty
  have hsegments : p.body = segments p.text.toList := by rw [body, hrelative]; rfl
  obtain ⟨others, hothers⟩ := List.head?_eq_some_iff.1 hempty
  obtain ⟨more, hmore⟩ := p.bodyAbove_isPrefix
  rw [hothers, hsegments] at hmore
  have hhead : p.text.toList.head? ≠ some '/' := by
    rw [Path.isAbsolute, beq_eq_false_iff_ne] at hrelative
    exact hrelative
  by_cases htext : p.text.toList = []
  · rw [hsegments, htext, hrelative] at hbody
    exact hbody rfl
  · exact head?_segments_ne htext hhead (by rw [← hmore]; rfl)

theorem parent?_eq (p : Path) :
    p.parent? =
      if bodyComponents (!p.isAbsolute) p.body = [] then none
      else some (ofBody p.isAbsolute p.bodyAbove) := by
  have hbody : (segments p.text.toList).drop (if !p.isAbsolute then 0 else 1) = p.body := rfl
  unfold parent?
  dsimp only
  rw [hbody]
  split
  · next hnil => rw [if_pos (trimSegments_eq_nil_iff.1 hnil)]
  · next hne =>
      rw [if_neg (mt trimSegments_eq_nil_iff.2 hne), ofBody, bodyAbove]
      cases p.isAbsolute with
      | true => rfl
      | false => rfl

/-- The empty path and the root directory have no component to lose. -/
theorem parent?_eq_none_iff : p.parent? = none ↔ p.components = rootComponents p.isAbsolute := by
  rw [parent?_eq, components_eq]
  split
  · next hnil => simp [hnil]
  · next hne => simp [hne]

/-- A path that loses its last component keeps the others, and it stays absolute or relative. -/
theorem components_of_parent? (h : p.parent? = some q) :
    q.isAbsolute = p.isAbsolute ∧ q.components = p.components.dropLast := by
  rw [parent?_eq] at h
  split at h
  · contradiction
  · next hne =>
      obtain rfl := Option.some.inj h
      have hslash : ∀ s ∈ p.bodyAbove, '/' ∉ s := fun s hs => slash_not_mem_of_mem_bodyAbove hs
      have hhead := head?_bodyAbove_ne hne
      refine ⟨isAbsolute_ofBody hslash hhead, ?_⟩
      rw [components_ofBody hslash hhead, bodyComponents_bodyAbove, components_eq,
        List.dropLast_append_of_ne_nil hne]

end FeatureRefs.Path
