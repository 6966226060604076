import Mathlib.Data.List.DropRight
import FeatureRefs.Registry.Load
import FeatureRefs.Proofs.Trigger.Filling
import FeatureRefs.Proofs.Validation

/-!
# References to registered features

Both forms of a reference, written out for a registered id of lowercase letters, digits and single
hyphens inside it. An id without digits is read as it is written, so nothing is reported. Digits are
no letters of ids: a form then reads a part of the id, or nothing, and reports the part unless it
happens to be registered too. So it is not true that nothing is ever reported of a registered id.
-/

namespace FeatureRefs

/-! ## Ids and references as they are written -/

/-- Lowercase letters, digits and hyphens, with hyphens only inside and one at a time. -/
structure IsKebab (id : List Char) : Prop where
  letters : ∀ c ∈ id, IsLowercaseLetter c ∨ IsDigit c ∨ c = '-'
  first : id.head? ≠ some '-'
  last : id.getLast? ≠ some '-'
  single : ¬ ['-', '-'] <:+: id

/-- What a reference begins with, up to its id. -/
def ReferenceForm.opening : ReferenceForm → String
  | .hotPhrase => "baseline/"
  | .attribute => "<baseline-status featureId=\""

/-- What a reference ends with behind its id. -/
def ReferenceForm.closing : ReferenceForm → String
  | .hotPhrase => ""
  | .attribute => "\">"

/-- A reference to an id. -/
def ReferenceForm.write (form : ReferenceForm) (id : String) : String :=
  form.opening ++ id ++ form.closing

theorem ReferenceForm.write_eq (form : ReferenceForm) (id : String) :
    form.write id =
      String.ofList (form.opening.toList ++ (id.toList ++ form.closing.toList)) := by
  rw [← String.toList_inj, ReferenceForm.write, String.toList_append, String.toList_append,
    String.toList_ofList, List.append_assoc]

theorem ReferenceForm.endsInTrigger_opening (form : ReferenceForm) :
    EndsInTrigger form.opening.toList form form.opening.toList [] := by
  have hfound : triggerOccurrence? form.opening.toList = some (⟨form.opening.toList, []⟩, form) := by
    cases form with
    | hotPhrase => decide +kernel
    | «attribute» => decide +kernel
  exact triggerOccurrence?_eq_some_iff.1 hfound

theorem ReferenceForm.firstReference_opening (form : ReferenceForm) :
    firstReference form.opening.toList 0 = none := by
  cases form with
  | hotPhrase => decide +kernel
  | «attribute» => decide +kernel

/-! ## What is read of an id -/

/-- The part of an id before its first digit. -/
def beforeDigit (id : List Char) : List Char :=
  id.takeWhile fun c => decide (¬ IsDigit c)

/-- The part of an id that is read. Up to the first digit an attribute reads all letters and hyphens,
and a hot phrase those up to the last hyphen. -/
def readPart : ReferenceForm → List Char → List Char
  | .attribute, id => beforeDigit id
  | .hotPhrase, id =>
      if beforeDigit id = id then id else (beforeDigit id).rdropWhile (· ≠ '-')

theorem not_isDigit_of_mem_beforeDigit {id : List Char} {c : Char} (h : c ∈ beforeDigit id) :
    ¬ IsDigit c := by
  have hc := List.mem_takeWhile_imp (p := fun c => decide (¬ IsDigit c)) h
  exact of_decide_eq_true hc

theorem exists_eq_beforeDigit_append {id : List Char} (h : beforeDigit id ≠ id) :
    ∃ digit rest, id = beforeDigit id ++ digit :: rest ∧ IsDigit digit := by
  have hsplit : beforeDigit id ++ id.dropWhile (fun c => decide (¬ IsDigit c)) = id :=
    List.takeWhile_append_dropWhile
  cases hrest : id.dropWhile fun c => decide (¬ IsDigit c) with
  | nil =>
      rw [hrest, List.append_nil] at hsplit
      exact absurd hsplit h
  | cons digit rest =>
      rw [hrest] at hsplit
      have hhead := List.head?_dropWhile_not (fun c => decide (¬ IsDigit c)) id
      rw [hrest] at hhead
      exact ⟨digit, rest, hsplit.symm, by simpa using hhead⟩

section

variable {id : List Char}

/-- An id without digits is read as a whole. -/
theorem readPart_eq_self (h : ∀ c ∈ id, ¬ IsDigit c) (form : ReferenceForm) :
    readPart form id = id := by
  have hwhole : beforeDigit id = id := by
    rw [beforeDigit, List.takeWhile_eq_self_iff]
    intro c hc
    exact decide_eq_true (h c hc)
  cases form with
  | «attribute» => exact hwhole
  | hotPhrase => exact if_pos hwhole

theorem beforeDigit_letters (hletters : ∀ c ∈ id, IsLowercaseLetter c ∨ IsDigit c ∨ c = '-') :
    ∀ c ∈ beforeDigit id, IsLowercaseLetter c ∨ c = '-' := by
  intro c hc
  have hmem : c ∈ id := (List.takeWhile_sublist _).mem hc
  rcases hletters c hmem with hlower | hdigit | rfl
  · exact .inl hlower
  · exact absurd hdigit (not_isDigit_of_mem_beforeDigit hc)
  · exact .inr rfl

theorem readPart_letters (hletters : ∀ c ∈ id, IsLowercaseLetter c ∨ IsDigit c ∨ c = '-')
    (form : ReferenceForm) : ∀ c ∈ readPart form id, IsLowercaseLetter c ∨ c = '-' := by
  intro c hc
  apply beforeDigit_letters hletters
  cases form with
  | «attribute» => exact hc
  | hotPhrase =>
      rw [readPart] at hc
      split at hc
      · rename_i hwhole
        rwa [hwhole]
      · exact (List.rdropWhile_prefix _ _).mem hc

/-- A run of id letters ends at the first digit of an id, or else behind the id. -/
theorem takeWhile_isIdChar_append {rest : List Char} {stop : Char}
    (hletters : ∀ c ∈ id, IsLowercaseLetter c ∨ IsDigit c ∨ c = '-') (hstop : ¬ IsIdLetter stop) :
    (id ++ stop :: rest).takeWhile isIdChar = beforeDigit id := by
  induction id with
  | nil => exact List.takeWhile_cons_of_neg (mt isIdChar_iff.1 hstop)
  | cons c id ih =>
      have hid := ih fun d hd => hletters d (List.mem_cons_of_mem c hd)
      by_cases hdigit : IsDigit c
      · have hc : ¬ isIdChar c = true := mt isIdChar_iff.1 hdigit.not_isIdLetter
        rw [List.cons_append, List.takeWhile_cons_of_neg hc, beforeDigit,
          List.takeWhile_cons_of_neg (by simpa using hdigit)]
      · have hc : IsIdLetter c := by
          rcases hletters c List.mem_cons_self with hlower | hdigit' | rfl
          · exact .inl hlower
          · exact absurd hdigit' hdigit
          · exact isIdLetter_hyphen
        rw [List.cons_append, List.takeWhile_cons_of_pos (isIdChar_iff.2 hc), hid, beforeDigit,
          beforeDigit, List.takeWhile_cons_of_pos (by simpa using hdigit)]

theorem idAt?_attribute_closed (hletters : ∀ c ∈ id, IsLowercaseLetter c ∨ IsDigit c ∨ c = '-') :
    idAt? .attribute (id ++ ['"', '>']) =
      if readPart .attribute id = [] then none else some (readPart .attribute id) := by
  have hrun : (id ++ ['"', '>']).takeWhile isIdChar = readPart .attribute id :=
    takeWhile_isIdChar_append hletters (not_isIdLetter_of_foldCase_mem (by decide))
  split
  · rename_i hnil
    rw [idAt?, hrun, hnil]
  · rename_i hne
    exact idAt?_attribute_eq_some_iff.2 ⟨hne, hrun⟩

theorem rdropWhile_hyphen (text : List Char) :
    text.rdropWhile (· ≠ '-') = [] ∨ ∃ head, text.rdropWhile (· ≠ '-') = head ++ ['-'] := by
  by_cases hnil : text.rdropWhile (· ≠ '-') = []
  · exact .inl hnil
  · have hlast : (text.rdropWhile (· ≠ '-')).getLast hnil = '-' := by
      simpa using List.rdropWhile_last_not _ text hnil
    have hconcat := List.dropLast_append_getLast hnil
    rw [hlast] at hconcat
    exact .inr ⟨_, hconcat.symm⟩

/-- The letters before the first digit are cut behind their last hyphen: up to it is an id, for a
word begins there, and the word itself goes on with the digit. -/
theorem idAt?_hotPhrase_of_ne
    (hletters : ∀ c ∈ id, IsLowercaseLetter c ∨ IsDigit c ∨ c = '-') (h : beforeDigit id ≠ id) :
    idAt? .hotPhrase id =
      if readPart .hotPhrase id = [] then none else some (readPart .hotPhrase id) := by
  obtain ⟨digit, rest, hsplit, hdigit⟩ := exists_eq_beforeDigit_append h
  let word := (beforeDigit id).rtakeWhile (· ≠ '-')
  have hword : ∀ c ∈ word, Unicode.isWord c = true := by
    intro c hc
    have hhyphen : c ≠ '-' := by simpa using List.mem_rtakeWhile_imp hc
    rcases beforeDigit_letters hletters c ((List.rtakeWhile_suffix _ _).mem hc) with hlower | rfl
    · exact (IsIdLetter.isWord_iff (.inl hlower)).2 hhyphen
    · exact absurd rfl hhyphen
  have hpart : readPart .hotPhrase id = (beforeDigit id).rdropWhile (· ≠ '-') := if_neg h
  have hcut : idAt? .hotPhrase id =
      idAt? .hotPhrase (readPart .hotPhrase id ++ (word ++ digit :: rest)) := by
    rw [hpart, ← List.append_assoc, List.rdropWhile_append_rtakeWhile, ← hsplit]
  rw [hcut]
  rcases rdropWhile_hyphen (beforeDigit id) with hnil | ⟨head, hhead⟩
  · rw [hpart, hnil]
    exact idAt?_hotPhrase_of_digit hword hdigit
  · have hletter : ∀ c ∈ head, IsIdLetter c := by
      intro c hc
      have hmem : c ∈ readPart .hotPhrase id := by
        rw [hpart, hhead]
        exact List.mem_append_left _ hc
      rcases readPart_letters hletters .hotPhrase c hmem with hlower | rfl
      · exact .inl hlower
      · exact isIdLetter_hyphen
    rw [hpart, hhead, if_neg (by simp)]
    exact idAt?_hotPhrase_of_hyphen hletter hword hdigit

/-- What is read of an id in a written reference. -/
theorem IsKebab.idAt?_closed (h : IsKebab id) (form : ReferenceForm) :
    idAt? form (id ++ form.closing.toList) =
      if readPart form id = [] then none else some (readPart form id) := by
  cases form with
  | «attribute» => exact idAt?_attribute_closed h.letters
  | hotPhrase =>
      show idAt? .hotPhrase (id ++ []) = _
      rw [List.append_nil]
      by_cases hwhole : beforeDigit id = id
      · have hpart : readPart .hotPhrase id = id := if_pos hwhole
        rw [hpart]
        split
        · rename_i hnil
          rw [hnil]
          rfl
        · rename_i hne
          have hletters : ∀ c ∈ id, IsLowercaseLetter c ∨ c = '-' := by
            intro c hc
            exact beforeDigit_letters h.letters c (hwhole.symm ▸ hc)
          have hplain : IsPlainId id := by
            refine ⟨hletters, id.getLast hne, List.getLast?_eq_some_getLast hne, ?_⟩
            rcases hletters _ (List.getLast_mem hne) with hlower | hhyphen
            · exact hlower
            · exact absurd (hhyphen ▸ List.getLast?_eq_some_getLast hne) h.last
          exact idAt?_of_letters hplain.isIdLetter hplain.endsInWord .hotPhrase
      · exact idAt?_hotPhrase_of_ne h.letters hwhole

theorem ReferenceForm.leadsNowhere_closing (form : ReferenceForm) :
    LeadsNowhere form.closing.toList := by
  cases form with
  | hotPhrase => exact leadsNowhere_nil
  | «attribute» =>
      rintro before c after hsplit hmark ⟨d, hd, hletter⟩
      have hclosing : ['"', '>'] = before ++ c :: after := hsplit
      cases before with
      | nil =>
          -- Behind the quote comes the closing bracket.
          obtain ⟨-, rfl⟩ := List.cons.inj hclosing
          obtain rfl : '>' = d := by simpa using hd
          exact absurd (isIdChar_iff.2 hletter) (by decide)
      | cons quote before =>
          obtain ⟨-, hbracket⟩ := List.cons.inj hclosing
          have hmem : c ∈ ['>'] := by
            rw [hbracket]
            simp
          obtain rfl := List.mem_singleton.1 hmem
          exact absurd hmark (by decide)

theorem IsKebab.leadsNowhere_closed (h : IsKebab id) (form : ReferenceForm) :
    LeadsNowhere (id ++ form.closing.toList) := by
  refine leadsNowhere_append (fun c hc hmark => ?_) form.leadsNowhere_closing
  rcases h.letters c hc with hlower | hdigit | rfl
  · exact not_isIdLetter_of_foldCase_mem hmark (.inl hlower)
  · exact hdigit.foldCase_not_mem hmark
  · exact not_isIdLetter_of_foldCase_mem hmark isIdLetter_hyphen

end

/-! ## What is reported -/

theorem IsKebab.firstReference_write {id : String} (h : IsKebab id.toList) (form : ReferenceForm) :
    firstReference (form.opening.toList ++ (id.toList ++ form.closing.toList)) 0 =
      if readPart form id.toList = [] then none
      else some (Occurrence.toReference ⟨form.opening.toList, readPart form id.toList⟩ form 0) := by
  have hleads : LeadsNowhere (id.toList ++ form.closing.toList) := h.leadsNowhere_closed form
  rw [form.endsInTrigger_opening.firstReference_append form.firstReference_opening hleads,
    h.idAt?_closed form]
  split
  · rfl
  · rfl

theorem IsKebab.no_newline_write {id : String} (h : IsKebab id.toList) (form : ReferenceForm) :
    '\n' ∉ form.opening.toList ++ (id.toList ++ form.closing.toList) := by
  have hid : '\n' ∉ id.toList := by
    intro hmem
    rcases h.letters _ hmem with hlower | hdigit | hhyphen
    · exact absurd hlower (by decide)
    · exact absurd hdigit (by decide)
    · exact absurd hhyphen (by decide)
  have hopening : '\n' ∉ form.opening.toList := by
    cases form with
    | hotPhrase => decide
    | «attribute» => decide
  have hclosing : '\n' ∉ form.closing.toList := by
    cases form with
    | hotPhrase => decide
    | «attribute» => decide
  simp only [List.mem_append, hopening, hid, hclosing, or_self, not_false_eq_true]

/-- Of a written reference to a registered id nothing is reported exactly when the id has no digits, or
the part of it that is read is empty or registered as well. -/
theorem validate_write_eq_nil_iff {registry : Registry} {id : String}
    (hregistered : registry.contains id = true) (hid : IsKebab id.toList) (form : ReferenceForm) :
    validate (form.write id) registry = [] ↔
      (∀ c ∈ id.toList, ¬ IsDigit c) ∨ readPart form id.toList = [] ∨
        registry.contains (String.ofList (readPart form id.toList)) = true := by
  have hne : form.opening.toList ++ (id.toList ++ form.closing.toList) ≠ [] := by
    cases form with
    | hotPhrase => simp [ReferenceForm.opening]
    | «attribute» => simp [ReferenceForm.opening]
  have hlower : Unicode.lowercase (String.ofList (readPart form id.toList)) =
      String.ofList (readPart form id.toList) := by
    apply lowercase_of_forall
    rw [String.toList_ofList]
    exact readPart_letters hid.letters form
  rw [form.write_eq, validate_line_eq_nil_iff (Registry.isEmpty_eq_false hregistered) hne
    (hid.no_newline_write form), hid.firstReference_write form]
  by_cases hnil : readPart form id.toList = []
  · simp [hnil]
  · rw [if_neg hnil]
    constructor
    · intro h
      have hread := h _ rfl
      rw [Occurrence.toReference, hlower] at hread
      exact .inr (.inr hread)
    · intro h r hr
      obtain rfl := Option.some.inj hr
      rw [Occurrence.toReference, hlower]
      rcases h with hdigits | hnil' | hread
      · -- What is read is the id itself.
        rw [readPart_eq_self hdigits form, String.ofList_toList]
        exact hregistered
      · exact absurd hnil' hnil
      · exact hread

/-- Of `css-web2` a hot phrase reads `css-`, which is registered here, and an attribute `css-web`,
which is not. -/
theorem validate_write_css_web2 :
    let registry := (Registry.empty.put ⟨"css-", "CSS", "", "", {}⟩).put
      ⟨"css-web2", "Web", "", "", {}⟩
    registry.contains "css-web2" = true ∧ IsKebab "css-web2".toList ∧
      validate (ReferenceForm.hotPhrase.write "css-web2") registry = [] ∧
      validate (ReferenceForm.attribute.write "css-web2") registry ≠ [] := by
  intro registry
  have hregistered : registry.contains "css-web2" = true := by
    decide
  have hletters : ("css-web2".toList.all fun c =>
      decide (IsLowercaseLetter c ∨ IsDigit c ∨ c = '-')) = true := by
    decide +kernel
  have hid : IsKebab "css-web2".toList :=
    ⟨fun c hc => of_decide_eq_true (List.all_eq_true.1 hletters c hc), by decide, by decide,
      by decide +kernel⟩
  have hphrase : registry.contains (String.ofList (readPart .hotPhrase "css-web2".toList)) = true := by
    decide +kernel
  have hattribute : ¬ (readPart .attribute "css-web2".toList = [] ∨
      registry.contains (String.ofList (readPart .attribute "css-web2".toList)) = true) := by
    decide +kernel
  refine ⟨hregistered, hid, ?_, ?_⟩
  · exact (validate_write_eq_nil_iff hregistered hid .hotPhrase).2 (.inr (.inr hphrase))
  · intro hnil
    rcases (validate_write_eq_nil_iff hregistered hid .attribute).1 hnil with hdigits | hread
    · exact hdigits '2' (by decide) (by decide)
    · exact hattribute hread

/-- The data registers `grid2`, but of an attribute for it `grid` is reported. -/
theorem validate_write_grid2 :
    ¬ ∀ (data : String) (registry : Registry) (id : String), Registry.parse data = .ok registry →
      registry.contains id = true → IsKebab id.toList →
        ∀ form : ReferenceForm, validate (form.write id) registry = [] := by
  intro hclean
  let data := "\x7b\"browsers\":\x7b\x7d,\"features\":\x7b\"grid2\":\x7b\"name\":\"Grid\"\x7d\x7d\x7d"
  have hletters : ("grid2".toList.all fun c =>
      decide (IsLowercaseLetter c ∨ IsDigit c ∨ c = '-')) = true := by
    decide +kernel
  have hid : IsKebab "grid2".toList :=
    ⟨fun c hc => of_decide_eq_true (List.all_eq_true.1 hletters c hc), by decide, by decide,
      by decide +kernel⟩
  -- The data is read, and the registry has the id and flags the reference.
  have hflagged : (match Registry.parse data with
      | .ok registry => registry.contains "grid2" &&
          decide (validate (ReferenceForm.attribute.write "grid2") registry ≠ [])
      | .error _ => false) = true := by
    decide +kernel
  cases hparse : Registry.parse data with
  | error e =>
      rw [hparse] at hflagged
      contradiction
  | ok registry =>
      rw [hparse] at hflagged
      obtain ⟨hregistered, hreported⟩ := Bool.and_eq_true_iff.1 hflagged
      exact of_decide_eq_true hreported
        (hclean data registry "grid2" hparse hregistered hid .attribute)

end FeatureRefs
