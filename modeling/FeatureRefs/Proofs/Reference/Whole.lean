import FeatureRefs.Proofs.Reference.Cut
import FeatureRefs.Proofs.Reference.Id

/-!
# Whole ids of hot phrases

The id of a hot phrase is the longest run of id letters that ends at the edge of a word. Whether it is
a whole id, of lowercase letters and hyphens with a letter at the end and with no letter or digit right
behind it, is seen from all the id letters behind the slash: no word character may follow them, and the
long s may not be among them.

It is NOT always so. A hyphen before a word character is at the edge of that word, so the id then ends
in a hyphen; and the long s counts as an s where references are recognised, but it is its own
lower-case form.
-/

namespace FeatureRefs

/-! ## Letters of ids in lower case -/

/-- An id letter in lower case. The Kelvin sign becomes a k, and the long s stays as it is. -/
def lowerIdLetter (c : Char) : Char :=
  if c = '\u212a' then 'k' else c.toLower

theorem toNat_lowerIdLetter (c : Char) :
    (lowerIdLetter c).toNat = if c.toNat = 0x212a then 0x6b else c.toLower.toNat := by
  have hkelvin : c = '\u212a' ↔ c.toNat = 0x212a := by
    rw [← Char.toNat_inj]
    rfl
  simp only [lowerIdLetter, hkelvin]
  split
  · rfl
  · rfl

theorem IsIdLetter.toNat_lt_or {c : Char} (h : IsIdLetter c) :
    c.toNat < 128 ∨ c = 'ſ' ∨ c = '\u212a' := by
  rcases h with ⟨-, hlast⟩ | ⟨-, hlast⟩ | rfl | hlong | hkelvin
  · exact .inl (Nat.lt_of_le_of_lt hlast (by decide))
  · exact .inl (Nat.lt_of_le_of_lt hlast (by decide))
  · exact .inl (by decide)
  · exact .inr (.inl hlong)
  · exact .inr (.inr hkelvin)

theorem lowercaseChar_of_isIdLetter {c : Char} (h : IsIdLetter c) :
    Unicode.lowercaseChar c = [lowerIdLetter c] := by
  rcases h.toNat_lt_or with hsmall | rfl | rfl
  · have hkelvin : c ≠ '\u212a' := by
      rintro rfl
      exact absurd hsmall (by decide)
    rw [Unicode.lowercaseChar, if_pos hsmall, lowerIdLetter, if_neg hkelvin]
  · decide +kernel
  · decide +kernel

theorem lowercaseAfter_of_letters {before text : List Char} (h : ∀ c ∈ text, IsIdLetter c) :
    Unicode.lowercaseAfter before text = text.map lowerIdLetter := by
  induction text generalizing before with
  | nil => rfl
  | cons c text ih =>
      have hletter : IsIdLetter c := h c List.mem_cons_self
      have hsigma : c ≠ 'Σ' := by
        rintro rfl
        exact absurd (isIdChar_iff.2 hletter) (by decide)
      rw [Unicode.lowercaseAfter, if_neg hsigma, lowercaseChar_of_isIdLetter hletter,
        ih fun d hd => h d (List.mem_cons_of_mem c hd)]
      rfl

/-- In lower case an id letter is a lowercase letter, unless it is a hyphen or the long s. -/
theorem isLowercaseLetter_lowerIdLetter_iff {c : Char} (h : IsIdLetter c) :
    IsLowercaseLetter (lowerIdLetter c) ↔ c ≠ '-' ∧ c ≠ 'ſ' := by
  unfold IsIdLetter at h
  unfold IsLowercaseLetter
  simp only [le_iff_toNat_le, ← Char.toNat_inj, toNat_lowerIdLetter, toNat_toLower, ne_eq,
    Char.reduceToNat] at h ⊢
  generalize c.toNat = m at h ⊢
  split_ifs <;> omega

theorem lowerIdLetter_eq_hyphen_iff {c : Char} : lowerIdLetter c = '-' ↔ c = '-' := by
  simp only [← Char.toNat_inj, toNat_lowerIdLetter, toNat_toLower, Char.reduceToNat]
  generalize c.toNat = m
  split_ifs <;> omega

/-- An id in lower case is a plain one exactly when it ends in a word character and the long s is not
in it. -/
theorem isPlainId_map_iff {id : List Char} (h : ∀ c ∈ id, IsIdLetter c) :
    IsPlainId (id.map lowerIdLetter) ↔ EndsInWord id ∧ 'ſ' ∉ id := by
  constructor
  · rintro ⟨hletters, d, hlast, hlower⟩
    rw [List.getLast?_map] at hlast
    obtain ⟨c, hc, rfl⟩ := Option.map_eq_some_iff.1 hlast
    have hletter : IsIdLetter c := h c (List.mem_of_getLast? hc)
    have hhyphen := ((isLowercaseLetter_lowerIdLetter_iff hletter).1 hlower).1
    refine ⟨⟨c, hc, hletter.isWord_iff.2 hhyphen⟩, fun hlong => ?_⟩
    rcases hletters _ (List.mem_map_of_mem hlong) with hlower' | hhyphen'
    · exact absurd hlower' (by decide)
    · exact absurd hhyphen' (by decide)
  · rintro ⟨⟨c, hc, hword⟩, hlong⟩
    constructor
    · intro d hd
      obtain ⟨e, he, rfl⟩ := List.mem_map.1 hd
      rw [isLowercaseLetter_lowerIdLetter_iff (h e he), lowerIdLetter_eq_hyphen_iff]
      by_cases hhyphen : e = '-'
      · exact .inr hhyphen
      · exact .inl ⟨hhyphen, fun hs => hlong (hs ▸ he)⟩
    · have hmem : c ∈ id := List.mem_of_getLast? hc
      refine ⟨lowerIdLetter c, by rw [List.getLast?_map, hc]; rfl, ?_⟩
      rw [isLowercaseLetter_lowerIdLetter_iff (h c hmem)]
      exact ⟨(h c hmem).isWord_iff.1 hword, fun hs => hlong (hs ▸ hmem)⟩

/-! ## The id and the letters behind the slash -/

/-- A reference with a whole id: lowercase letters and hyphens with a letter at the end, and no letter
or digit of ASCII right behind it on its line. -/
structure Reference.IsWhole (r : Reference) (line : List Char) : Prop where
  plain : IsPlainId r.featureId.toList
  alone : ∀ before after, line = before ++ after → Text.utf16Length before = r.endColumn →
    ∀ c, after.head? = some c → c.isAlphanum = false

/-- A line cut around the id letters at which a reference points: what stands before them, all the id
letters from there on, and what stands behind. -/
structure Reference.CutsInto (r : Reference) (line lead run after : List Char) : Prop where
  split : line = lead ++ (run ++ after)
  column : Text.utf16Length lead = r.startColumn
  run : IsIdRun run after

/-- The parts of a line on which a hot phrase is the first reference. -/
theorem exists_isPhraseId_of_firstReference {line : List Char} {n : Nat} {r : Reference}
    (hr : firstReference line n = some r) (hform : r.form = .hotPhrase) :
    ∃ lead id after, line = lead ++ (id ++ after) ∧ IsPhraseId id after ∧
      r.startColumn = Text.utf16Length lead ∧
      r.endColumn = Text.utf16Length lead + Text.utf16Length id ∧
      r.featureId = String.ofList (id.map lowerIdLetter) := by
  obtain ⟨form, lead, id, ⟨start, hreference, -⟩, rfl⟩ := firstReference_eq_some_iff.1 hr
  obtain rfl : form = .hotPhrase := hform
  obtain ⟨before, inner, after, hline, -, rfl, -⟩ := hreference.exists_split
  rw [← List.append_assoc] at hline
  have hid : IsPhraseId id after := hreference.isPhraseId hline
  refine ⟨before ++ inner, id, after, hline, hid, rfl, rfl, ?_⟩
  show String.ofList (Unicode.lowercaseAfter [] (String.ofList id).toList) = _
  rw [String.toList_ofList, lowercaseAfter_of_letters hid.bounded.letters]

/-- An id that ends in a word character is alone, for a word ends there. -/
theorem isWhole_iff_endsInWord {line lead id after : List Char} {r : Reference}
    (hline : line = lead ++ (id ++ after)) (hid : IsPhraseId id after)
    (hend : r.endColumn = Text.utf16Length lead + Text.utf16Length id)
    (hfeature : r.featureId = String.ofList (id.map lowerIdLetter)) :
    r.IsWhole line ↔ EndsInWord id ∧ 'ſ' ∉ id := by
  have hplain : IsPlainId r.featureId.toList ↔ EndsInWord id ∧ 'ſ' ∉ id := by
    rw [hfeature, String.toList_ofList, isPlainId_map_iff hid.bounded.letters]
  constructor
  · intro h
    exact hplain.1 h.plain
  · intro h
    refine ⟨hplain.2 h, ?_⟩
    intro before rest hsplit hcolumn c hc
    rw [hline, ← List.append_assoc] at hsplit
    obtain rfl : lead ++ id = before := Text.eq_of_utf16Length_eq hsplit (by
      rw [Text.utf16Length_append, hcolumn, hend])
    obtain rfl : after = rest := List.append_cancel_left hsplit
    have hedge := (atWordEdge_iff_of_endsInWord h.1).1 hid.bounded.edge
    rw [← Bool.not_eq_true]
    intro halphanum
    exact hedge ⟨c, hc, Unicode.isWord_of_isAlphanum halphanum⟩

/-- A run of id letters is all that can be taken of them. -/
theorem isIdRun_iff {id after : List Char} :
    IsIdRun id after ↔ id ≠ [] ∧ (id ++ after).takeWhile isIdChar = id := by
  constructor
  · intro h
    exact ⟨h.ne_nil, h.takeWhile_eq⟩
  · rintro ⟨hne, htake⟩
    have hrun := isIdRun_takeWhile (htake.symm ▸ hne : (id ++ after).takeWhile isIdChar ≠ [])
    have hsplit := List.takeWhile_append_dropWhile (p := isIdChar) (l := id ++ after)
    rw [htake] at hrun hsplit
    rwa [List.append_cancel_left hsplit] at hrun

/-- The run of id letters at which a hot phrase points begins with its id. -/
theorem Reference.CutsInto.exists_tail {line lead lead' run id rest after : List Char}
    {r : Reference} (h : r.CutsInto line lead run after) (hline : line = lead' ++ (id ++ rest))
    (hletters : ∀ c ∈ id, IsIdLetter c) (hstart : r.startColumn = Text.utf16Length lead') :
    ∃ tail, run = id ++ tail ∧ rest = tail ++ after := by
  have hsplit : lead ++ (run ++ after) = lead' ++ (id ++ rest) := h.split.symm.trans hline
  obtain rfl : lead = lead' := Text.eq_of_utf16Length_eq hsplit (h.column.trans hstart)
  have hrest : run ++ after = id ++ rest := List.append_cancel_left hsplit
  have hrun : run = id ++ rest.takeWhile isIdChar := by
    rw [← h.run.takeWhile_eq, hrest]
    exact List.takeWhile_append_of_pos fun c hc => isIdChar_iff.2 (hletters c hc)
  refine ⟨rest.takeWhile isIdChar, hrun, ?_⟩
  rw [hrun, List.append_assoc] at hrest
  exact (List.append_cancel_left hrest).symm

/-- There are id letters where a hot phrase points, and its id is whole exactly when behind all of them
no word goes on and the long s is not among them. -/
theorem isWhole_iff {line : List Char} {n : Nat} {r : Reference}
    (hr : firstReference line n = some r) (hform : r.form = .hotPhrase) :
    (∃ lead run after, r.CutsInto line lead run after) ∧
      ∀ lead run after, r.CutsInto line lead run after →
        (r.IsWhole line ↔ ¬ BeginsWithWord after ∧ 'ſ' ∉ run) := by
  obtain ⟨lead, id, rest, hline, hid, hstart, hend, hfeature⟩ :=
    exists_isPhraseId_of_firstReference hr hform
  constructor
  · have hletters : ∀ c ∈ id, isIdChar c = true := fun c hc =>
      isIdChar_iff.2 (hid.bounded.letters c hc)
    have htake : (id ++ rest).takeWhile isIdChar ≠ [] := by
      rw [List.takeWhile_append_of_pos hletters]
      exact List.append_ne_nil_of_left_ne_nil hid.bounded.ne_nil _
    have hrun : IsIdRun (id ++ rest.takeWhile isIdChar) (rest.dropWhile isIdChar) := by
      rw [← List.takeWhile_append_of_pos hletters, ← List.dropWhile_append_of_pos hletters]
      exact isIdRun_takeWhile htake
    refine ⟨lead, id ++ rest.takeWhile isIdChar, rest.dropWhile isIdChar, ?_, hstart.symm, hrun⟩
    rw [List.append_assoc, List.takeWhile_append_dropWhile, hline]
  · intro lead' run after hcut
    obtain ⟨tail, rfl, rfl⟩ := hcut.exists_tail hline hid.bounded.letters hstart
    have htail : ∀ c ∈ tail, IsIdLetter c := fun c hc =>
      hcut.run.letters c (List.mem_append_right _ hc)
    rw [isWhole_iff_endsInWord hline hid hend hfeature]
    constructor
    · rintro ⟨hends, hlong⟩
      -- Before a word character the id would take all letters up to it, a hyphen at their end included.
      have hafter : ¬ BeginsWithWord after := fun hbegins => hid.not_endsInWord htail hbegins hends
      refine ⟨hafter, ?_⟩
      rw [List.mem_append, not_or]
      refine ⟨hlong, fun hmem => ?_⟩
      -- What the id leaves of the run is hyphens.
      exact absurd ((hid.hyphens_of_letters htail hafter).2 'ſ' hmem) (by decide)
    · rintro ⟨hafter, hlong⟩
      exact ⟨(hid.hyphens_of_letters htail hafter).1, fun hmem => hlong (List.mem_append_left _ hmem)⟩

/-- The long s stays in an id. -/
example : firstReference "baseline/cſs".toList 0 = some ⟨0, 9, 12, "cſs", .hotPhrase⟩ := by
  decide +kernel

/-- The hyphen is at the edge of the word `2`. -/
theorem firstReference_grid_two :
    firstReference "baseline/grid-2".toList 0 = some ⟨0, 9, 14, "grid-", .hotPhrase⟩ := by
  decide +kernel

/-- Behind the id letters `grid-` of `baseline/grid- 2` a blank follows, so the id is whole; where the
digit follows them it is not. -/
theorem isWhole_iff_grid :
    (∃ r, firstReference "baseline/grid- 2".toList 0 = some r ∧ r.form = .hotPhrase ∧
      r.IsWhole "baseline/grid- 2".toList) ∧
    ∃ r, firstReference "baseline/grid-2".toList 0 = some r ∧ r.form = .hotPhrase ∧
      ¬ r.IsWhole "baseline/grid-2".toList := by
  have hblank : firstReference "baseline/grid- 2".toList 0 = some ⟨0, 9, 13, "grid", .hotPhrase⟩ := by
    decide +kernel
  have hcutBlank : Reference.CutsInto ⟨0, 9, 13, "grid", .hotPhrase⟩ "baseline/grid- 2".toList
      "baseline/".toList "grid-".toList " 2".toList :=
    ⟨by decide, by decide, isIdRun_iff.2 (by decide)⟩
  have hcutDigit : Reference.CutsInto ⟨0, 9, 14, "grid-", .hotPhrase⟩ "baseline/grid-2".toList
      "baseline/".toList "grid-".toList "2".toList :=
    ⟨by decide, by decide, isIdRun_iff.2 (by decide)⟩
  have hblankEnds : ¬ BeginsWithWord " 2".toList := by
    rintro ⟨c, hc, hword⟩
    obtain rfl : ' ' = c := Option.some.inj hc
    exact absurd hword (by decide)
  constructor
  · refine ⟨_, hblank, rfl, ?_⟩
    exact ((isWhole_iff hblank rfl).2 _ _ _ hcutBlank).2 ⟨hblankEnds, by decide⟩
  · refine ⟨_, firstReference_grid_two, rfl, fun hwhole => ?_⟩
    have hends := ((isWhole_iff firstReference_grid_two rfl).2 _ _ _ hcutDigit).1 hwhole
    exact hends.1 ⟨'2', rfl, by decide⟩

/-- The id of `baseline/grid-2` ends in a hyphen. -/
theorem not_isWhole_grid_two :
    ¬ ∀ (line : List Char) (n : Nat) (r : Reference), firstReference line n = some r →
      r.form = .hotPhrase → r.IsWhole line := by
  intro hclaim
  obtain ⟨-, c, hlast, hlower⟩ := (hclaim _ 0 _ firstReference_grid_two rfl).plain
  obtain rfl : '-' = c := Option.some.inj hlast
  exact absurd hlower (by decide)

end FeatureRefs
