import FeatureRefs.Server.Completion
import FeatureRefs.Proofs.Trigger.Filling
import FeatureRefs.Proofs.Validation

/-!
# Accepted completions

An item that is accepted replaces what is typed by its id. When the line has no reference before the
trigger, the line with the item has that id as its first reference, at the trigger and in its form,
and nothing is reported of it. The id must be one that both grammars read to its end: lowercase
letters and hyphens, with a letter at the end.
-/

namespace FeatureRefs

namespace Text

/-- The part of a line before a column. -/
def beforeColumn (line : List Char) (column : Nat) : List Char :=
  takeBytes (byteOffset line column) line

/-- A line in which a text stands in place of what is between two columns. -/
def replaceColumns (line : List Char) (start stop : Nat) (text : List Char) : List Char :=
  beforeColumn line start ++ text ++ line.drop (beforeColumn line stop).length

theorem beforeColumn_append (seen rest : List Char) :
    beforeColumn (seen ++ rest) (utf16Length seen) = seen := by
  rw [beforeColumn, byteOffset_utf16Length, takeBytes_utf8Length]

/-- What is between the columns is replaced, and nothing else. -/
theorem replaceColumns_append (before old after text : List Char) :
    replaceColumns (before ++ old ++ after) (utf16Length before) (utf16Length (before ++ old)) text =
      before ++ text ++ after := by
  have hstop : beforeColumn (before ++ old ++ after) (utf16Length (before ++ old)) =
      before ++ old := beforeColumn_append (before ++ old) after
  have hstart : beforeColumn (before ++ old ++ after) (utf16Length before) = before := by
    rw [List.append_assoc]
    exact beforeColumn_append before (old ++ after)
  rw [replaceColumns, hstop, hstart, List.drop_left]

end Text

/-- The line of an item after the item was accepted. -/
def CompletionItem.applyTo (item : CompletionItem) (line : List Char) : List Char :=
  Text.replaceColumns line item.range.start.character item.range.stop.character
    item.newText.toList

/-- The items are the features that are found, each at its rank; the id of each replaces what is
typed. -/
theorem mem_completionItems_iff {t : Trigger} {registry : Registry} {item : CompletionItem} :
    item ∈ completionItems t registry ↔ ∃ candidate rank,
      (registry.search t.typed)[rank]? = some candidate ∧
        item = .ofCandidate t candidate rank := by
  rw [completionItems, List.mem_map]
  constructor
  · rintro ⟨⟨candidate, rank⟩, hcandidate, rfl⟩
    exact ⟨candidate, rank, List.mk_mem_zipIdx_iff_getElem?.1 hcandidate, rfl⟩
  · rintro ⟨candidate, rank, hcandidate, rfl⟩
    exact ⟨(candidate, rank), List.mk_mem_zipIdx_iff_getElem?.2 hcandidate, rfl⟩

/-- Only registered features are offered. -/
theorem contains_of_search {registry : Registry} {query : String} {rank : Nat}
    {candidate : Candidate} (h : (registry.search query)[rank]? = some candidate) :
    registry.contains candidate.id = true := by
  obtain ⟨feature, hfeature, -, rfl⟩ := Registry.mem_search_iff.1 (List.mem_of_getElem? h)
  exact Registry.contains_iff.2 ⟨feature, hfeature, rfl⟩

/-! ## The line of an accepted item -/

/-- An item that is accepted at the end of a line leaves what leads to the id and puts the id behind
it. -/
theorem CompletionItem.applyTo_ofCandidate {t : Trigger} {lead typed : List Char}
    (hcolumn : t.column = Text.utf16Length lead)
    (hcursor : t.cursor = Text.utf16Length (lead ++ typed)) (candidate : Candidate) (rank : Nat) :
    (CompletionItem.ofCandidate t candidate rank).applyTo (lead ++ typed) =
      lead ++ candidate.id.toList := by
  have hreplaced := Text.replaceColumns_append lead typed [] candidate.id.toList
  rw [List.append_nil, List.append_nil] at hreplaced
  show Text.replaceColumns (lead ++ typed) t.column t.cursor candidate.id.toList = _
  rw [hcolumn, hcursor, hreplaced]

/-- An item that is accepted at the end of a line, where no reference stands before the trigger, makes
its id the first reference of the line, and nothing is reported of the line. -/
theorem firstReference_applyTo {line : List Char} {n : Nat} {t : Trigger} {registry : Registry}
    {item : CompletionItem} (ht : completionTrigger line n (Text.utf16Length line) = some t)
    (hbefore : firstReference (Text.beforeColumn line t.column) n = none)
    (hitem : item ∈ completionItems t registry) (hid : IsPlainId item.featureId.toList) :
    firstReference (item.applyTo line) n = some
        { line := n
          startColumn := t.column
          endColumn := t.column + item.featureId.length
          featureId := item.featureId
          form := t.form } ∧
      ('\n' ∉ line → validate (String.ofList (item.applyTo line)) registry = []) := by
  have hcut : completionTrigger (line ++ []) n (Text.utf16Length line) = some t := by
    rwa [List.append_nil]
  obtain ⟨form, lead, typed, hends, rfl⟩ := completionTrigger_append_eq_some_iff.1 hcut
  obtain rfl := hends.split
  obtain ⟨candidate, rank, hcandidate, rfl⟩ := mem_completionItems_iff.1 hitem
  replace hid : IsPlainId candidate.id.toList := hid
  rw [Text.beforeColumn_append] at hbefore
  have hlower : Unicode.lowercase (String.ofList candidate.id.toList) = candidate.id := by
    rw [String.ofList_toList, lowercase_of_forall hid.letters]
  have hfound (m : Nat) : firstReference (lead ++ candidate.id.toList) m = some
      (Occurrence.toReference ⟨lead, candidate.id.toList⟩ form m) := by
    have hnone : firstReference lead m = none := by
      rw [firstReference_eq_none_iff] at hbefore ⊢
      exact hbefore
    rw [hends.untyped.firstReference_append hnone (leadsNowhere_of_letters hid.isIdLetter),
      idAt?_of_letters hid.isIdLetter hid.endsInWord, Option.map_some]
  rw [CompletionItem.applyTo_ofCandidate rfl rfl]
  constructor
  · rw [hfound n, Occurrence.toReference, hlower]
    simp only [Occurrence.startColumn, Occurrence.endColumn, utf16Length_of_letters hid.isIdLetter,
      String.length_toList]
    rfl
  · intro hline
    have hne : lead ++ candidate.id.toList ≠ [] := by
      intro hnil
      obtain ⟨c, hc, -⟩ := hid.last
      rw [(List.append_eq_nil_iff.1 hnil).2] at hc
      simp at hc
    have hfeed : '\n' ∉ lead ++ candidate.id.toList := by
      rw [List.mem_append, not_or]
      refine ⟨fun hmem => hline (List.mem_append_left _ hmem), fun hmem => ?_⟩
      rcases hid.letters _ hmem with hlower | hhyphen
      · exact absurd hlower (by decide)
      · exact absurd hhyphen (by decide)
    have hcontains := contains_of_search hcandidate
    rw [validate_line_eq_nil_iff (Registry.isEmpty_eq_false hcontains) hne hfeed]
    intro r hr
    rw [hfound 0, Option.some.injEq] at hr
    rw [← hr, Occurrence.toReference, hlower]
    exact hcontains

/-- A feature is accepted in a tag behind a `baseline/` that leads to no id. -/
theorem firstReference_applyTo_subgrid :
    let line := "baseline/ <baseline-status class=x FeatureID='gr".toList
    let registry := (Registry.empty.put ⟨"grid", "Grid", "", "", {}⟩).put
      ⟨"subgrid", "Subgrid", "", "", {}⟩
    let t : Trigger := ⟨0, 46, 48, "gr", .attribute⟩
    completionTrigger line 0 48 = some t ∧
      firstReference (Text.beforeColumn line 46) 0 = none ∧
      ∃ item ∈ completionItems t registry,
        firstReference (item.applyTo line) 0 = some ⟨0, 46, 53, "subgrid", .attribute⟩ ∧
        validate (String.ofList (item.applyTo line)) registry = [] := by
  intro line registry t
  let candidate : Candidate := .ofFeature ⟨"subgrid", "Subgrid", "", "", {}⟩
  have ht : completionTrigger line 0 48 = some t := by
    decide +kernel
  have hbefore : firstReference (Text.beforeColumn line 46) 0 = none := by
    decide +kernel
  have hsearch : candidate ∈ registry.search t.typed :=
    Registry.mem_search_iff.2 ⟨_, List.mem_cons_of_mem _ List.mem_cons_self, by decide +kernel, rfl⟩
  obtain ⟨rank, hrank⟩ := List.mem_iff_getElem?.1 hsearch
  have hitem : .ofCandidate t candidate rank ∈ completionItems t registry :=
    mem_completionItems_iff.2 ⟨candidate, rank, hrank, rfl⟩
  have hletters : (candidate.id.toList.all fun c => decide (IsLowercaseLetter c ∨ c = '-')) = true := by
    decide
  have hid : IsPlainId candidate.id.toList :=
    ⟨fun c hc => of_decide_eq_true (List.all_eq_true.1 hletters c hc), 'd', by decide⟩
  have hlength : candidate.id.length = 7 := by
    decide
  obtain ⟨hfirst, hvalid⟩ := firstReference_applyTo ht hbefore hitem hid
  refine ⟨ht, hbefore, _, hitem, ?_, hvalid (by decide)⟩
  rw [hfirst]
  show some (Reference.mk 0 46 (46 + candidate.id.length) "subgrid" .attribute) = _
  rw [hlength]

end FeatureRefs
