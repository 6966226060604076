import FeatureRefs.Proofs.Reference.Recognition
import FeatureRefs.Todo.Marker

/-!
# The grammar of TODO markers

What a marker is, said without a search: `TODO(baseline/` in exactly this case and not in the middle
of a word, then an id of ASCII letters, digits and hyphens that has no hyphen at either end, then a
closing bracket. The search finds the first marker of a line.

In contrast to references the id is not cut to what fits. Where another character stands before the
bracket there is NO marker, not a marker with a shorter id.
-/

namespace FeatureRefs

/-- Letters, digits and hyphens of ASCII with a letter or digit at both ends. -/
structure IsMarkerId (id : List Char) : Prop where
  letters : ∀ c ∈ id, c.isAlphanum = true ∨ c = '-'
  first : ∃ c, id.head? = some c ∧ c.isAlphanum = true
  last : ∃ c, id.getLast? = some c ∧ c.isAlphanum = true

/-- A marker on a line: the text of the line up to its id, and its id. -/
def MarkerAt (line lead id : List Char) : Prop :=
  ∃ before after, lead = before ++ "TODO(baseline/".toList ∧
    line = lead ++ (id ++ ')' :: after) ∧ ¬ EndsInWord before ∧ IsMarkerId id

/-- The marker of a line before which there is no other. -/
def IsFirstMarker (line lead id : List Char) : Prop :=
  MarkerAt line lead id ∧ ∀ lead' id', MarkerAt line lead' id' → lead.length ≤ lead'.length

theorem isMarkerId_iff {id : List Char} :
    (∀ c ∈ id, isMarkerIdChar c = true) ∧ isMarkerId id = true ↔ IsMarkerId id := by
  constructor
  · rintro ⟨hletters, hends⟩
    have hchars : ∀ c ∈ id, c.isAlphanum = true ∨ c = '-' := by
      simpa [isMarkerIdChar] using hletters
    unfold isMarkerId at hends
    split at hends
    · rename_i first last hfirst hlast
      rw [Bool.and_eq_true] at hends
      exact ⟨hchars, ⟨first, hfirst, hends.1⟩, ⟨last, hlast, hends.2⟩⟩
    · contradiction
  · rintro ⟨hletters, ⟨first, hfirst, halphanum⟩, ⟨last, hlast, halphanum'⟩⟩
    refine ⟨by simpa [isMarkerIdChar] using hletters, ?_⟩
    unfold isMarkerId
    rw [hfirst, hlast]
    simp [halphanum, halphanum']

theorem beginsWithWord_markerKeyword (rest : List Char) :
    BeginsWithWord (markerKeyword ++ rest) :=
  ⟨'T', rfl, by decide⟩

/-- The id of a marker ends where the run of its characters does, at the bracket. -/
theorem IsMarkerId.span_eq {id : List Char} (h : IsMarkerId id) (after : List Char) :
    (id ++ ')' :: after).takeWhile isMarkerIdChar = id ∧
      (id ++ ')' :: after).dropWhile isMarkerIdChar = ')' :: after := by
  have hletters := (isMarkerId_iff.2 h).1
  have hbracket : isMarkerIdChar ')' = false := by
    decide
  constructor
  · rw [List.takeWhile_append_of_pos hletters]
    simp [hbracket]
  · rw [List.dropWhile_append_of_pos hletters]
    simp [hbracket]

/-- What is found at a place is the marker that begins there. -/
theorem markerAt?_eq_some_iff {before text id : List Char} :
    markerAt? before.reverse text = some id ↔
      MarkerAt (before ++ text) (before ++ markerKeyword) id := by
  constructor
  · intro h
    unfold markerAt? at h
    obtain ⟨hmarker, hid⟩ := Option.ite_none_right_eq_some.1 h
    simp only [Bool.and_eq_true, beq_iff_eq, List.isPrefixOf_iff_prefix] at hmarker
    obtain ⟨⟨⟨hboundary, rest, rfl⟩, hends⟩, hbracket⟩ := hmarker
    rw [List.drop_left] at hid hends hbracket
    obtain ⟨after, hafter⟩ := List.head?_eq_some_iff.1 hbracket
    have hrun := Option.some.inj hid
    have hrest : rest = id ++ ')' :: after := by
      rw [← hrun, ← hafter, List.takeWhile_append_dropWhile]
    refine ⟨before, after, rfl, by rw [hrest, List.append_assoc], ?_, ?_⟩
    · rw [isBoundary_iff, atWordEdge_iff_of_beginsWithWord (beginsWithWord_markerKeyword rest)]
        at hboundary
      exact hboundary
    · rw [hrun] at hends
      refine isMarkerId_iff.1 ⟨?_, hends⟩
      intro c hc
      rw [← hrun] at hc
      exact List.mem_takeWhile_imp hc
  · rintro ⟨before', after, hlead, hline, houtside, hid⟩
    obtain rfl : before = before' := List.append_cancel_right hlead
    obtain rfl : text = markerKeyword ++ (id ++ ')' :: after) := by
      rw [List.append_assoc] at hline
      exact List.append_cancel_left hline
    obtain ⟨htake, hdrop⟩ := hid.span_eq after
    have hboundary : Unicode.isBoundary before.reverse
        (markerKeyword ++ (id ++ ')' :: after)) = true := by
      rw [isBoundary_iff, atWordEdge_iff_of_beginsWithWord (beginsWithWord_markerKeyword _)]
      exact houtside
    have hkeyword : markerKeyword.isPrefixOf (markerKeyword ++ (id ++ ')' :: after)) = true :=
      List.isPrefixOf_iff_prefix.2 (List.prefix_append _ _)
    unfold markerAt?
    simp only [List.drop_left, htake, hdrop, hboundary, hkeyword, (isMarkerId_iff.2 hid).2,
      List.head?_cons, Bool.and_self, beq_self_eq_true, if_true]

/-- The search finds the first marker of a line. -/
theorem todoMarker_eq_some_iff {line : List Char} {m : String} :
    todoMarker line = some m ↔ ∃ lead id, IsFirstMarker line lead id ∧ m = String.ofList id := by
  unfold todoMarker
  rw [Option.map_eq_some_iff]
  constructor
  · rintro ⟨id, hfound, rfl⟩
    obtain ⟨before, text, -, rfl, hhere, hnone⟩ := leftmost_eq_some_iff.1 hfound
    rw [List.append_nil] at hhere
    refine ⟨before ++ markerKeyword, id, ⟨markerAt?_eq_some_iff.1 hhere, ?_⟩, rfl⟩
    rintro lead' id' ⟨before', after, rfl, hline, hmarker⟩
    by_contra hlt
    have hshorter : before'.length < before.length := by
      simp only [List.length_append] at hlt
      have hkeyword : "TODO(baseline/".toList.length = markerKeyword.length := rfl
      omega
    have hmissing := hnone before' (markerKeyword ++ (id' ++ ')' :: after)) hshorter
      (by rw [hline, List.append_assoc]; rfl)
    rw [List.append_nil] at hmissing
    have hthere : markerAt? before'.reverse (markerKeyword ++ (id' ++ ')' :: after)) = some id' :=
      markerAt?_eq_some_iff.2 ⟨before', after, rfl, by rw [List.append_assoc], hmarker⟩
    rw [hmissing] at hthere
    contradiction
  · rintro ⟨lead, id, ⟨⟨before, after, rfl, rfl, hmarker⟩, hfirst⟩, rfl⟩
    refine ⟨id, leftmost_eq_some_iff.2 ⟨before, markerKeyword ++ (id ++ ')' :: after), ?_, ?_, ?_, ?_⟩,
      rfl⟩
    · exact List.append_ne_nil_of_left_ne_nil (by decide) _
    · rw [List.append_assoc]
      rfl
    · rw [List.append_nil]
      exact markerAt?_eq_some_iff.2 ⟨before, after, rfl, by rw [List.append_assoc], hmarker⟩
    · intro earlier later hlt hline
      rw [List.append_nil]
      cases hearlier : markerAt? earlier.reverse later with
      | none => rfl
      | some id' =>
          -- A marker at an earlier place would come before the first one.
          have hthere := markerAt?_eq_some_iff.1 hearlier
          rw [← hline] at hthere
          have hle := hfirst _ id' hthere
          simp only [List.length_append] at hle
          have hkeyword : "TODO(baseline/".toList.length = markerKeyword.length := rfl
          omega

end FeatureRefs
