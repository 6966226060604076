import Mathlib.Data.Bool.AllAny
import Mathlib.Data.List.DropRight
import FeatureRefs.Todo.Extensions
import FeatureRefs.Proofs.Text.Lowercase

/-!
# Chosen extensions

What a list of chosen extensions is in its normal form, and which files it chooses. The normal forms are distinct
and in lower case, without a dot at the beginning and without white space at the end. They do NOT all begin with
something else than white space: white space between the dots and the name of an extension is left, and only then
another normal form would be made of the list.

A chosen extension is put in lower case by the rules for all letters, and the extension of a file is compared with
it up to the case of ASCII letters. So a file with a capital beyond ASCII in its extension is not chosen, even if
its extension is chosen just as it is written.
-/

namespace FeatureRefs

namespace Unicode

/-! ## Trimming -/

variable {α : Type} {p : α → Bool}

/-- What is trimmed off is before and behind what is left. -/
theorem exists_eq_append_trimBy (p : α → Bool) (l : List α) :
    ∃ before after, (∀ a ∈ before, p a = true) ∧ l = before ++ (trimBy p l ++ after) := by
  obtain ⟨after, hafter⟩ := List.rdropWhile_prefix p (l := l.dropWhile p)
  refine ⟨l.takeWhile p, after, fun _ ha => List.mem_takeWhile_imp ha, ?_⟩
  have hrest : trimBy p l ++ after = l.dropWhile p := hafter
  rw [hrest, List.takeWhile_append_dropWhile]

theorem head?_trimBy {l : List α} {a : α} (h : (trimBy p l).head? = some a) : p a = false := by
  obtain ⟨after, hafter⟩ := List.rdropWhile_prefix p (l := l.dropWhile p)
  have hhead := List.head?_dropWhile_not p l
  have hrest : trimBy p l ++ after = l.dropWhile p := hafter
  rw [← hrest, List.head?_append, h] at hhead
  exact hhead

theorem getLast?_trimBy {l : List α} {a : α} (h : (trimBy p l).getLast? = some a) : p a = false := by
  have hne : (l.dropWhile p).rdropWhile p ≠ [] := by
    intro hnil
    have hempty : trimBy p l = [] := hnil
    rw [hempty] at h
    contradiction
  have hlast := List.rdropWhile_last_not p (l.dropWhile p) hne
  have hget : trimBy p l = (l.dropWhile p).rdropWhile p := rfl
  rw [hget, List.getLast?_eq_some_getLast hne, Option.some_inj] at h
  rw [← h]
  exact Bool.eq_false_iff.2 hlast

/-- A text stays as it is where white space is neither at its beginning nor at its end. -/
theorem trim_eq_self_iff {s : String} : trim s = s ↔
    (∀ c, s.toList.head? = some c → isBlank c = false) ∧
      (∀ c, s.toList.getLast? = some c → isBlank c = false) := by
  rw [trim, ← String.toList_inj, String.toList_ofList]
  constructor
  · intro h
    rw [← h]
    exact ⟨fun c hc => head?_trimBy hc, fun c hc => getLast?_trimBy hc⟩
  · rintro ⟨hhead, hlast⟩
    have hfront : s.toList.dropWhile isBlank = s.toList := by
      cases hs : s.toList with
      | nil => rfl
      | cons c rest =>
          have hc := hhead c (by rw [hs, List.head?_cons])
          exact List.dropWhile_cons_of_neg (Bool.eq_false_iff.1 hc)
    have hback : s.toList.rdropWhile isBlank = s.toList := by
      rw [List.rdropWhile_eq_self_iff]
      intro hne
      exact Bool.eq_false_iff.1 (hlast _ (List.getLast?_eq_some_getLast hne))
    calc trimBy isBlank s.toList = (s.toList.dropWhile isBlank).rdropWhile isBlank := rfl
      _ = s.toList := by rw [hfront, hback]

/-- What stands before an element that stays stays at the end. -/
theorem rdropWhile_append_of_mem {l more : List α} {a : α} (ha : a ∈ more) (hstays : p a = false) :
    (l ++ more).rdropWhile p = l ++ more.rdropWhile p := by
  have hne : more.reverse.dropWhile p ≠ [] := by
    intro hnil
    have hall := List.dropWhile_eq_nil_iff.1 hnil a (List.mem_reverse.2 ha)
    rw [hall] at hstays
    contradiction
  rw [List.rdropWhile, List.reverse_append, List.dropWhile_append, if_neg (by simpa using hne),
    List.reverse_append, List.reverse_reverse]
  rfl

end Unicode

open Unicode (isBlank trimBy lowercase lowercaseChar)

/-! ## The name of an extension -/

/-- A text without the white space around it and then without the dots at its beginning. -/
def bareName (text : List Char) : List Char :=
  (trimBy isBlank text).dropWhile (· == '.')

/-- Whether there is white space between the dots at the beginning of a text and something else. White space
before the dots does not matter. -/
def HasGap (text : List Char) : Prop :=
  ∃ blanks dots gap rest, text = blanks ++ (dots ++ gap :: rest) ∧
    (∀ b ∈ blanks, isBlank b = true) ∧ (dots ≠ [] ∧ ∀ d ∈ dots, d = '.') ∧
    isBlank gap = true ∧ ∃ c ∈ rest, isBlank c = false

theorem normalizeExtension_eq (e : String) :
    normalizeExtension e = lowercase (String.ofList (bareName e.toList)) := by
  rw [normalizeExtension, Unicode.trimStart, Unicode.trim, String.toList_ofList]
  rfl

theorem head?_bareName_ne (text : List Char) : (bareName text).head? ≠ some '.' := by
  intro h
  have hhead := List.head?_dropWhile_not (· == '.') (trimBy isBlank text)
  rw [bareName] at h
  rw [h] at hhead
  contradiction

theorem getLast?_bareName {text : List Char} {c : Char} (h : (bareName text).getLast? = some c) :
    isBlank c = false := by
  apply Unicode.getLast?_trimBy (l := text)
  rw [← List.takeWhile_append_dropWhile (p := (· == '.')) (l := trimBy isBlank text),
    List.getLast?_append]
  rw [bareName] at h
  rw [h, Option.some_or]

/-- A name begins with white space just where there is a gap before it. -/
theorem hasGap_iff {text : List Char} :
    HasGap text ↔ ∃ b, (bareName text).head? = some b ∧ isBlank b = true := by
  constructor
  · rintro ⟨blanks, dots, gap, rest, rfl, hblanks, ⟨hne, hdots⟩, hgap, c, hc, hstays⟩
    refine ⟨gap, ?_, hgap⟩
    -- The dots end the white space in front, and what stays ends that behind.
    have hfront : (dots ++ gap :: rest).dropWhile isBlank = dots ++ gap :: rest := by
      obtain ⟨dot, others, rfl⟩ := List.exists_cons_of_ne_nil hne
      obtain rfl : dot = '.' := hdots dot List.mem_cons_self
      rw [List.cons_append, List.dropWhile_cons_of_neg (by decide)]
    have htrim : trimBy isBlank (blanks ++ (dots ++ gap :: rest)) =
        dots ++ gap :: rest.rdropWhile isBlank := by
      calc trimBy isBlank (blanks ++ (dots ++ gap :: rest))
          = ((dots ++ [gap]) ++ rest).rdropWhile isBlank := by
            rw [trimBy, List.dropWhile_append_of_pos hblanks, hfront, List.append_assoc]
            rfl
        _ = (dots ++ [gap]) ++ rest.rdropWhile isBlank :=
            Unicode.rdropWhile_append_of_mem hc hstays
        _ = dots ++ gap :: rest.rdropWhile isBlank := by
            rw [List.append_assoc, List.singleton_append]
    have hdot : ¬ (gap == '.') = true := by
      rw [beq_iff_eq]
      rintro rfl
      contradiction
    rw [bareName, htrim, List.dropWhile_append_of_pos (by simpa using hdots),
      List.dropWhile_cons_of_neg (p := (· == '.')) hdot, List.head?_cons]
  · rintro ⟨b, hhead, hb⟩
    obtain ⟨rest, hbare⟩ := List.head?_eq_some_iff.1 hhead
    obtain ⟨before, after, hbefore, htext⟩ := Unicode.exists_eq_append_trimBy isBlank text
    have hsplit : (trimBy isBlank text).takeWhile (· == '.') ++ b :: rest = trimBy isBlank text := by
      rw [← hbare]
      exact List.takeWhile_append_dropWhile
    refine ⟨before, (trimBy isBlank text).takeWhile (· == '.'), b, rest ++ after, ?_, hbefore,
      ⟨?_, ?_⟩, hb, ?_⟩
    · rw [← List.cons_append, ← List.append_assoc ((trimBy isBlank text).takeWhile _), hsplit]
      exact htext
    · -- Without dots the white space would have been trimmed.
      intro hnil
      rw [hnil, List.nil_append] at hsplit
      have hstays := Unicode.head?_trimBy (p := isBlank) (l := text) (a := b) (by rw [← hsplit]; rfl)
      rw [hb] at hstays
      contradiction
    · intro d hd
      simpa using List.mem_takeWhile_imp hd
    · -- What a name ends with is no white space, so it is not what the name begins with.
      obtain ⟨c, hc⟩ : ∃ c, (b :: rest).getLast? = some c :=
        ⟨_, List.getLast?_eq_some_getLast (List.cons_ne_nil b rest)⟩
      have hstays : isBlank c = false := getLast?_bareName (hbare ▸ hc)
      have hmem := List.mem_of_getLast? hc
      rcases List.mem_cons.1 hmem with rfl | hrest
      · rw [hb] at hstays
        contradiction
      · exact ⟨c, List.mem_append_left _ hrest, hstays⟩

/-! ## Extensions in normal form -/

section

variable {e : String} {list : List String}

theorem normalizeExtension_eq_empty_iff : normalizeExtension e = "" ↔ bareName e.toList = [] := by
  rw [normalizeExtension_eq, Unicode.lowercase_eq_empty_iff, ← String.toList_inj,
    String.toList_ofList]
  rfl

/-- A normal form does not begin with a dot. -/
theorem head?_normalizeExtension_ne (e : String) : (normalizeExtension e).toList.head? ≠ some '.' := by
  intro h
  cases hname : (bareName e.toList).head? with
  | none =>
      rw [normalizeExtension_eq_empty_iff.2 (List.head?_eq_none_iff.1 hname)] at h
      contradiction
  | some c =>
      obtain ⟨piece, d, hpiece, hd, hhead⟩ := Unicode.exists_head?_lowercase hname
      rw [normalizeExtension_eq, hhead, Option.some_inj] at h
      rw [(hpiece.dot d hd).1 h] at hname
      exact head?_bareName_ne e.toList hname

/-- A normal form does not end with white space. -/
theorem getLast?_normalizeExtension {d : Char}
    (h : (normalizeExtension e).toList.getLast? = some d) : isBlank d = false := by
  cases hname : (bareName e.toList).getLast? with
  | none =>
      rw [normalizeExtension_eq_empty_iff.2 (List.getLast?_eq_none_iff.1 hname)] at h
      contradiction
  | some c =>
      obtain ⟨piece, d', hpiece, hd, hlast⟩ := Unicode.exists_getLast?_lowercase hname
      rw [normalizeExtension_eq, hlast, Option.some_inj] at h
      rw [← h, hpiece.blank d' hd]
      exact getLast?_bareName hname

/-- A normal form begins with white space just where there is a gap. -/
theorem exists_head?_normalizeExtension_iff :
    (∃ b, (normalizeExtension e).toList.head? = some b ∧ isBlank b = true) ↔ HasGap e.toList := by
  rw [hasGap_iff]
  cases hname : (bareName e.toList).head? with
  | none =>
      rw [normalizeExtension_eq_empty_iff.2 (List.head?_eq_none_iff.1 hname)]
      simp
  | some c =>
      obtain ⟨piece, d, hpiece, hd, hhead⟩ := Unicode.exists_head?_lowercase hname
      rw [normalizeExtension_eq, hhead]
      simp [hpiece.blank d hd]

/-- A normal form is the lower-case form of itself. -/
theorem lowercase_normalizeExtension (e : String) :
    lowercase (normalizeExtension e) = normalizeExtension e := by
  rw [normalizeExtension_eq, Unicode.lowercase_lowercase]

/-- A text in lower case has its bare name as its normal form. -/
theorem normalizeExtension_of_lowercase (h : ∀ c ∈ e.toList, lowercaseChar c = [c]) :
    normalizeExtension e = String.ofList (bareName e.toList) := by
  have hname : ∀ c ∈ bareName e.toList, lowercaseChar c = [c] := by
    intro c hc
    obtain ⟨before, after, -, htext⟩ := Unicode.exists_eq_append_trimBy isBlank e.toList
    have hmem : c ∈ trimBy isBlank e.toList := (List.dropWhile_sublist _).mem hc
    apply h
    rw [htext]
    exact List.mem_append_right _ (List.mem_append_left _ hmem)
  rw [normalizeExtension_eq, lowercase, String.toList_ofList,
    Unicode.lowercaseAfter_eq_self_of_forall hname]

/-- A text in lower case without a dot at the beginning is its own normal form just where it is trimmed. -/
theorem normalizeExtension_eq_self_iff (h : ∀ c ∈ e.toList, lowercaseChar c = [c])
    (hdot : e.toList.head? ≠ some '.') : normalizeExtension e = e ↔ Unicode.trim e = e := by
  have hlength : (bareName e.toList).length ≤ (trimBy isBlank e.toList).length :=
    (List.dropWhile_sublist _).length_le
  obtain ⟨before, after, -, htext⟩ := Unicode.exists_eq_append_trimBy isBlank e.toList
  have htrim : (trimBy isBlank e.toList).Sublist e.toList := by
    conv_rhs => rw [htext]
    exact (List.sublist_append_left _ _).trans (List.sublist_append_right _ _)
  rw [normalizeExtension_of_lowercase h, Unicode.trim, ← String.toList_inj, ← String.toList_inj,
    String.toList_ofList, String.toList_ofList]
  constructor
  · intro hself
    rw [hself] at hlength
    exact htrim.eq_of_length_le hlength
  · intro hself
    rw [bareName, hself]
    cases hchars : e.toList with
    | nil => rfl
    | cons c rest =>
        have hc : ¬ (c == '.') = true := by
          rw [beq_iff_eq]
          rintro rfl
          exact hdot (by rw [hchars, List.head?_cons])
        exact List.dropWhile_cons_of_neg hc

/-! ## Lists of extensions -/

theorem mem_normalizeExtensions_iff {a : String} :
    a ∈ normalizeExtensions list ↔ a ≠ "" ∧ ∃ e ∈ list, normalizeExtension e = a := by
  rw [normalizeExtensions, mem_distinctFrom, List.mem_filter, List.mem_map]
  simp [and_comm]

theorem distinctFrom_sublist (seen list : List String) : (distinctFrom seen list).Sublist list := by
  induction list generalizing seen with
  | nil => exact List.Sublist.slnil
  | cons s rest ih =>
      rw [distinctFrom]
      split
      · exact (ih seen).cons s
      · exact (ih (s :: seen)).cons_cons s

/-- Where nothing is repeated all is kept. -/
theorem distinctFrom_eq_self {seen list : List String} (h : list.Nodup)
    (hseen : ∀ s ∈ list, s ∉ seen) : distinctFrom seen list = list := by
  induction list generalizing seen with
  | nil => rfl
  | cons s rest ih =>
      obtain ⟨hs, hrest⟩ := List.forall_mem_cons.1 hseen
      obtain ⟨hnew, hnodup⟩ := List.nodup_cons.1 h
      rw [distinctFrom, if_neg (by simpa using hs), ih hnodup]
      intro t ht
      rw [List.mem_cons, not_or]
      exact ⟨fun heq => hnew (heq ▸ ht), hrest t ht⟩

/-- A list without repetitions and without the empty text stays as it is just where its elements do. -/
theorem normalizeExtensions_eq_self_iff (hnodup : list.Nodup) (hne : ∀ e ∈ list, e ≠ "") :
    normalizeExtensions list = list ↔ ∀ e ∈ list, normalizeExtension e = e := by
  constructor
  · intro h e he
    -- Nothing can be left out, so the normal forms are the list itself, one by one.
    have hdistinct := distinctFrom_sublist [] ((list.map normalizeExtension).filter (!·.isEmpty))
    have hkept : ((list.map normalizeExtension).filter (!·.isEmpty)).Sublist
        (list.map normalizeExtension) := List.filter_sublist
    rw [normalizeExtensions] at h
    rw [h] at hdistinct
    have hsame : list = list.map normalizeExtension :=
      (hdistinct.trans hkept).eq_of_length_le (by rw [List.length_map])
    have hforms : list.map normalizeExtension = list.map id := by rw [List.map_id, ← hsame]
    exact List.map_inj_left.1 hforms e he
  · intro h
    have hforms : list.map normalizeExtension = list := by
      rw [List.map_congr_left h, List.map_id']
    have hkept : list.filter (!·.isEmpty) = list := by
      rw [List.filter_eq_self]
      intro e he
      simpa [String.isEmpty_iff] using hne e he
    rw [normalizeExtensions, hforms, hkept]
    exact distinctFrom_eq_self hnodup fun s _ => List.not_mem_nil

/-- The normal forms are trimmed just where there is no gap. -/
theorem forall_trim_normalizeExtensions_iff :
    (∀ e ∈ normalizeExtensions list, Unicode.trim e = e) ↔ ∀ e ∈ list, ¬ HasGap e.toList := by
  constructor
  · intro h e he hgap
    obtain ⟨b, hb, hblank⟩ := exists_head?_normalizeExtension_iff.2 hgap
    have hne : normalizeExtension e ≠ "" := by
      intro hempty
      rw [hempty] at hb
      contradiction
    have hmem : normalizeExtension e ∈ normalizeExtensions list :=
      mem_normalizeExtensions_iff.2 ⟨hne, e, he, rfl⟩
    obtain ⟨hhead, -⟩ := Unicode.trim_eq_self_iff.1 (h _ hmem)
    exact Bool.eq_false_iff.1 (hhead b hb) hblank
  · intro h e he
    obtain ⟨-, source, hsource, rfl⟩ := mem_normalizeExtensions_iff.1 he
    rw [Unicode.trim_eq_self_iff]
    refine ⟨fun b hb => ?_, fun d hd => getLast?_normalizeExtension hd⟩
    rw [Bool.eq_false_iff]
    intro hblank
    exact h source hsource (exists_head?_normalizeExtension_iff.1 ⟨b, hb, hblank⟩)

/-- A normal form is neither empty nor begins with a dot, and it is in lower case. -/
theorem form_of_mem_normalizeExtensions (h : e ∈ normalizeExtensions list) :
    e ≠ "" ∧ lowercase e = e ∧ e.toList.head? ≠ some '.' := by
  obtain ⟨hne, source, -, rfl⟩ := mem_normalizeExtensions_iff.1 h
  exact ⟨hne, lowercase_normalizeExtension source, head?_normalizeExtension_ne source⟩

/-- The normal forms are distinct, not empty, in lower case and without a dot at the beginning. They are trimmed,
and stay as they are when their normal forms are taken, just where no extension has a gap between its dots and its
name. -/
theorem normalizeExtensions_stable_iff (list : List String) :
    (normalizeExtensions list).Nodup ∧
      (∀ e ∈ normalizeExtensions list, e ≠ "" ∧ lowercase e = e ∧ e.toList.head? ≠ some '.') ∧
      ((∀ e ∈ normalizeExtensions list, Unicode.trim e = e) ↔ ∀ e ∈ list, ¬ HasGap e.toList) ∧
      (normalizeExtensions (normalizeExtensions list) = normalizeExtensions list ↔
        ∀ e ∈ list, ¬ HasGap e.toList) := by
  have hnodup : (normalizeExtensions list).Nodup := nodup_distinctFrom _ _
  refine ⟨hnodup, fun e he => form_of_mem_normalizeExtensions he,
    forall_trim_normalizeExtensions_iff, ?_⟩
  rw [normalizeExtensions_eq_self_iff hnodup fun e he => (form_of_mem_normalizeExtensions he).1,
    ← forall_trim_normalizeExtensions_iff]
  refine forall₂_congr fun e he => ?_
  obtain ⟨-, hlower, hdot⟩ := form_of_mem_normalizeExtensions he
  refine normalizeExtension_eq_self_iff (fun c hc => ?_) hdot
  rw [← hlower] at hc
  exact Unicode.lowercaseChar_of_mem_lowercase hc

end

/-- White space behind a dot is left, and taken away when the normal form is taken once more. -/
theorem normalizeExtensions_not_stable :
    normalizeExtensions [". js"] = [" js"] ∧ Unicode.trim " js" ≠ " js" ∧
      normalizeExtensions (normalizeExtensions [". js"]) ≠ normalizeExtensions [". js"] := by
  decide +kernel

/-! ## Files with a chosen extension -/

/-- Whether a file is chosen by an extension, whatever else is chosen. -/
def IsChosenBy (path : Path) (e : String) : Prop :=
  ∀ list, e ∈ list → hasAllowedExtension path (normalizeExtensions list) = true

section

variable {e x : String} {path : Path}

theorem hasAllowedExtension_iff (hx : path.extension? = some x) (extensions : List String) :
    hasAllowedExtension path extensions = true ↔
      ∃ a ∈ extensions, a.toList.map Char.toLower = x.toList.map Char.toLower := by
  rw [hasAllowedExtension, hx]
  simp [eqIgnoringAsciiCase]

/-- An extension without dots and white space is only put in lower case. -/
theorem normalizeExtension_of_plain (h : ∀ c ∈ e.toList, c ≠ '.' ∧ isBlank c = false) :
    normalizeExtension e = lowercase e := by
  have hname : bareName e.toList = e.toList := by
    rw [bareName, Unicode.trimBy_eq_self fun c hc => (h c hc).2]
    cases hchars : e.toList with
    | nil => rfl
    | cons c rest =>
        have hc : c ≠ '.' := (h c (by rw [hchars]; exact List.mem_cons_self)).1
        exact List.dropWhile_cons_of_neg (by simpa using hc)
  rw [normalizeExtension_eq, hname, String.ofList_toList]

/-- A file is chosen by an extension just where its own is the lower-case form, up to the case of ASCII letters. -/
theorem isChosenBy_iff (hne : e ≠ "") (hplain : ∀ c ∈ e.toList, c ≠ '.' ∧ isBlank c = false)
    (hx : path.extension? = some x) :
    IsChosenBy path e ↔ x.toList.map Char.toLower = (lowercase e).toList := by
  have hmem : ∀ list, e ∈ list → lowercase e ∈ normalizeExtensions list := fun list he =>
    mem_normalizeExtensions_iff.2
      ⟨mt Unicode.lowercase_eq_empty_iff.1 hne, e, he, normalizeExtension_of_plain hplain⟩
  have hself : (lowercase e).toList.map Char.toLower = (lowercase e).toList := by
    refine (List.map_congr_left fun c hc => ?_).trans (List.map_id _)
    exact Unicode.toLower_eq_self_of_lowercaseChar (Unicode.lowercaseChar_of_mem_lowercase hc)
  constructor
  · intro h
    -- If nothing else is chosen, it can only be this extension.
    obtain ⟨a, ha, hsame⟩ := (hasAllowedExtension_iff hx _).1 (h [e] (List.mem_singleton_self e))
    obtain ⟨-, source, hsource, rfl⟩ := mem_normalizeExtensions_iff.1 ha
    obtain rfl := List.mem_singleton.1 hsource
    rw [← hsame, normalizeExtension_of_plain hplain, hself]
  · intro h list he
    rw [hasAllowedExtension_iff hx]
    exact ⟨lowercase e, hmem list he, by rw [hself, h]⟩

/-- A file with some extension is chosen by one without dots and white space, whatever else is chosen, just where
its extension is the lower-case form of the chosen one up to the case of ASCII letters. If the two are the same up
to the case of ASCII letters already, this means that no character beyond ASCII is put in lower case. -/
theorem isChosenBy_iff_lowercase (hne : e ≠ "")
    (hplain : ∀ c ∈ e.toList, c ≠ '.' ∧ isBlank c = false) (hx : path.extension? = some x) :
    (IsChosenBy path e ↔ x.toList.map Char.toLower = (lowercase e).toList) ∧
      (Text.SameLetters e.toList x.toList →
        (IsChosenBy path e ↔ ∀ c ∈ e.toList, 128 ≤ c.toNat → lowercaseChar c = [c])) := by
  refine ⟨isChosenBy_iff hne hplain hx, fun hletters => ?_⟩
  rw [isChosenBy_iff hne hplain hx, ← hletters, eq_comm, lowercase, String.toList_ofList,
    Unicode.lowercaseAfter_eq_map_toLower_iff]
  refine forall₂_congr fun c _ => ?_
  by_cases hsmall : c.toNat < 128
  · have hself : lowercaseChar c = [c.toLower] := by rw [lowercaseChar, if_pos hsmall]
    exact iff_of_true hself fun hlarge => absurd hlarge (by omega)
  · have hself : c.toLower = c := by rw [← Char.toNat_inj, toNat_toLower, if_neg (by omega)]
    rw [hself]
    exact ⟨fun h _ => h, fun h => h (by omega)⟩

end

/-- A sharp s is in lower case, so the case of the other letters is looked past. -/
theorem isChosenBy_iff_lowercase_sharp :
    "Maße" ≠ "" ∧ (∀ c ∈ "Maße".toList, c ≠ '.' ∧ isBlank c = false) ∧
      (⟨"src/table.mAßE"⟩ : Path).extension? = some "mAßE" ∧
      Text.SameLetters "Maße".toList "mAßE".toList ∧ IsChosenBy ⟨"src/table.mAßE"⟩ "Maße" := by
  have hplain : ∀ c ∈ "Maße".toList, c ≠ '.' ∧ isBlank c = false := by
    rw [← List.all_iff_forall_prop]
    decide
  have hx : (⟨"src/table.mAßE"⟩ : Path).extension? = some "mAßE" := by decide +kernel
  have hletters : Text.SameLetters "Maße".toList "mAßE".toList := by decide
  refine ⟨by decide, hplain, hx, hletters, ?_⟩
  rw [(isChosenBy_iff_lowercase (by decide) hplain hx).2 hletters, ← List.all_iff_forall_prop]
  decide +kernel

/-- A file is not chosen by its own extension if there is a capital beyond ASCII in it. -/
theorem not_isChosenBy_capital :
    (⟨"a.É"⟩ : Path).extension? = some "É" ∧
      hasAllowedExtension ⟨"a.É"⟩ (normalizeExtensions ["É"]) = false ∧
      ¬ IsChosenBy ⟨"a.É"⟩ "É" := by
  have hnot : hasAllowedExtension ⟨"a.É"⟩ (normalizeExtensions ["É"]) = false := by decide +kernel
  refine ⟨by decide +kernel, hnot, fun h => ?_⟩
  rw [h ["É"] (List.mem_singleton_self "É")] at hnot
  contradiction

end FeatureRefs
