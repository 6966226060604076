import FeatureRefs.Proofs.Completion.Acceptance
import FeatureRefs.Proofs.Reference.Whole
import FeatureRefs.Proofs.Registry.Ranking

/-!
# What is offered while an id is typed

An editor that was given all items for what is typed filters them by itself while more is typed. It hides
nothing that way: whatever the server would offer for the longer text it offered for the shorter one
already. And every id with the typed letters in it is offered, their case aside.

For other characters this would NOT be so. A capital sigma at the end of a word has another lower-case form
than in front of a letter, so what is typed last may be looked for in another form than later on. Typed
letters are id letters, and each of them has one lower-case form.
-/

namespace FeatureRefs

/-! ## Queries of id letters -/

theorem IsIdLetter.isBlank_eq_false {c : Char} (h : IsIdLetter c) : Unicode.isBlank c = false := by
  unfold IsIdLetter at h
  simp only [le_iff_toNat_le, ← Char.toNat_inj, Char.reduceToNat] at h
  simp only [Unicode.isBlank, Bool.or_eq_false_iff, Bool.and_eq_false_iff, decide_eq_false_iff_not,
    beq_eq_false_iff_ne, ne_eq]
  omega

theorem trim_of_letters {typed : List Char} (h : ∀ c ∈ typed, IsIdLetter c) :
    Unicode.trim (String.ofList typed) = String.ofList typed := by
  rw [Unicode.trim, String.toList_ofList,
    Unicode.trimBy_eq_self fun c hc => (h c hc).isBlank_eq_false]

/-- A query of id letters is looked for letter by letter in lower case. -/
theorem toList_lowercase_of_letters {typed : List Char} (h : ∀ c ∈ typed, IsIdLetter c) :
    (Unicode.lowercase (String.ofList typed)).toList = typed.map lowerIdLetter := by
  rw [Unicode.lowercase, String.toList_ofList, String.toList_ofList, lowercaseAfter_of_letters h]

/-- What mentions a query mentions every part of it. -/
theorem Candidate.Mentions.of_infix {c : Candidate} {query part : String} (h : c.Mentions query)
    (hpart : part.toList <:+: query.toList) : c.Mentions part := by
  rcases h with hid | hname | hdescription
  · exact .inl (hpart.trans hid)
  · exact .inr (.inl (hpart.trans hname))
  · exact .inr (.inr (hpart.trans hdescription))

/-! ## Offered ids -/

/-- The ids that are offered at a trigger, best first. -/
def offeredIds (t : Trigger) (registry : Registry) : List String :=
  (completionItems t registry).map CompletionItem.featureId

theorem mem_offeredIds_iff {t : Trigger} {registry : Registry} {id : String} :
    id ∈ offeredIds t registry ↔ ∃ feature ∈ registry.features,
      (Candidate.ofFeature feature).Mentions (Unicode.lowercase (Unicode.trim t.typed)) ∧
        feature.id = id := by
  rw [offeredIds, List.mem_map]
  constructor
  · rintro ⟨item, hitem, rfl⟩
    obtain ⟨candidate, rank, hcandidate, rfl⟩ := mem_completionItems_iff.1 hitem
    obtain ⟨feature, hfeature, hhit, rfl⟩ :=
      Registry.mem_search_iff.1 (List.mem_of_getElem? hcandidate)
    exact ⟨feature, hfeature, Registry.isHit_iff_mentions.1 hhit, rfl⟩
  · rintro ⟨feature, hfeature, hmentions, rfl⟩
    obtain ⟨rank, hrank⟩ := List.mem_iff_getElem?.1 (Registry.mem_search_iff.2
      ⟨feature, hfeature, Registry.isHit_iff_mentions.2 hmentions, rfl⟩)
    exact ⟨_, mem_completionItems_iff.2 ⟨_, rank, hrank, rfl⟩, rfl⟩

/-- More id letters at the end of a trigger are typed at that trigger. -/
theorem EndsInTrigger.append_letters {text lead typed more : List Char} {form : ReferenceForm}
    (h : EndsInTrigger text form lead typed) (hmore : ∀ c ∈ more, IsIdLetter c) :
    EndsInTrigger (text ++ more) form lead (typed ++ more) := by
  have hletters : ∀ c ∈ typed ++ more, IsIdLetter c :=
    List.forall_mem_append.2 ⟨h.letters, hmore⟩
  cases h with
  | ofHotPhrase split spelled outside letters =>
      refine .ofHotPhrase ?_ spelled outside hletters
      rw [split]
      simp only [List.append_assoc]
  | ofAttribute split spelled isOpen leads letters =>
      refine .ofAttribute ?_ spelled isOpen leads hletters
      rw [split]
      simp only [List.append_assoc]

/-- While id letters are typed, the ids that are offered are among those that were offered before, at
whatever triggers. Every registered id that has what is typed in it, in lower case, is offered. And a
cursor at which something is typed stays at its trigger while more is typed. -/
theorem offeredIds_narrow {typed more : List Char} (htyped : ∀ c ∈ typed, IsIdLetter c)
    (hmore : ∀ c ∈ more, IsIdLetter c) (registry : Registry) :
    (∀ earlier later : Trigger, earlier.typed = String.ofList typed →
      later.typed = String.ofList (typed ++ more) →
        offeredIds later registry ⊆ offeredIds earlier registry) ∧
    (∀ (t : Trigger) (id : String), t.typed = String.ofList typed → registry.contains id = true →
      (Unicode.lowercase (String.ofList typed)).toList <:+: id.toList →
        id ∈ offeredIds t registry) ∧
    ∀ (seen rest : List Char) (n : Nat) (t : Trigger), t.typed = String.ofList typed →
      completionTrigger (seen ++ rest) n (Text.utf16Length seen) = some t →
        completionTrigger (seen ++ more ++ rest) n (Text.utf16Length (seen ++ more)) = some
          { t with
            cursor := Text.utf16Length (seen ++ more)
            typed := String.ofList (typed ++ more) } := by
  refine ⟨?_, ?_, ?_⟩
  · intro earlier later hearlier hlater id hid
    obtain ⟨feature, hfeature, hmentions, rfl⟩ := mem_offeredIds_iff.1 hid
    refine mem_offeredIds_iff.2 ⟨feature, hfeature, hmentions.of_infix ?_, rfl⟩
    have hall : ∀ c ∈ typed ++ more, IsIdLetter c := List.forall_mem_append.2 ⟨htyped, hmore⟩
    rw [hearlier, hlater, trim_of_letters htyped, trim_of_letters hall,
      toList_lowercase_of_letters htyped, toList_lowercase_of_letters hall, List.map_append]
    exact (List.prefix_append _ _).isInfix
  · intro t id ht hregistered hinfix
    obtain ⟨feature, hfeature, rfl⟩ := Registry.contains_iff.1 hregistered
    refine mem_offeredIds_iff.2 ⟨feature, hfeature, .inl ?_, rfl⟩
    rwa [ht, trim_of_letters htyped]
  · intro seen rest n t ht htrigger
    obtain ⟨form, lead, typed', hends, rfl⟩ := completionTrigger_append_eq_some_iff.1 htrigger
    obtain rfl : typed' = typed := String.ofList_injective ht
    exact completionTrigger_append_eq_some_iff.2
      ⟨form, lead, typed' ++ more, hends.append_letters hmore, rfl⟩

/-- `Su` is typed and then `b-`, in front of a closing bracket. -/
theorem offeredIds_narrow_sub :
    let registry := ((Registry.empty.put ⟨"grid", "Grid", "", "", {}⟩).put
      ⟨"subgrid", "Subgrid", "", "", {}⟩).put ⟨"sub-sup", "Sub and sup", "", "", {}⟩
    let earlier : Trigger := ⟨0, 9, 11, "Su", .hotPhrase⟩
    let later : Trigger := ⟨0, 9, 13, "Sub-", .hotPhrase⟩
    (∀ c ∈ "Su".toList, IsIdLetter c) ∧ (∀ c ∈ "b-".toList, IsIdLetter c) ∧
      completionTrigger "baseline/Su>".toList 0 11 = some earlier ∧
      completionTrigger "baseline/Sub->".toList 0 13 = some later ∧
      offeredIds later registry ⊆ offeredIds earlier registry ∧
      "sub-sup" ∈ offeredIds later registry ∧ "subgrid" ∈ offeredIds earlier registry ∧
      "subgrid" ∉ offeredIds later registry := by
  intro registry earlier later
  have htyped : ∀ c ∈ "Su".toList, IsIdLetter c :=
    all_isIdChar_iff.1 (by decide +kernel)
  have hmore : ∀ c ∈ "b-".toList, IsIdLetter c :=
    all_isIdChar_iff.1 (by decide +kernel)
  have hall : ∀ c ∈ "Sub-".toList, IsIdLetter c :=
    all_isIdChar_iff.1 (by decide +kernel)
  have hearlier : completionTrigger "baseline/Su>".toList 0 11 = some earlier := by
    decide +kernel +revert
  have hgone : ∀ feature ∈ registry.features,
      (Candidate.ofFeature feature).Mentions (Unicode.lowercase (Unicode.trim later.typed)) →
        feature.id ≠ "subgrid" := by
    decide +kernel
  obtain ⟨hnarrow, hoffered, htyping⟩ := offeredIds_narrow htyped hmore registry
  obtain ⟨-, hofferedLater, -⟩ := offeredIds_narrow hall hmore registry
  refine ⟨htyped, hmore, hearlier, ?_, hnarrow earlier later rfl rfl, ?_, ?_, ?_⟩
  · exact htyping "baseline/Su".toList ">".toList 0 earlier rfl hearlier
  · exact hofferedLater later "sub-sup" rfl (by decide) (by decide +kernel)
  · exact hoffered earlier "subgrid" rfl (by decide) (by decide +kernel)
  · rw [mem_offeredIds_iff]
    rintro ⟨feature, hfeature, hmentions, hid⟩
    exact hgone feature hfeature hmentions hid

end FeatureRefs
