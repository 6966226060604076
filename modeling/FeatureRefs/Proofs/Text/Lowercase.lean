import FeatureRefs.Unicode.Blank
import FeatureRefs.Proofs.Text.LetterCase

/-!
# Lower-case forms

A lower-case form is its own lower-case form. This rests on the table of runs: no run leads to a code point
that a run, perhaps another one, maps on. Nor does a run lead from white space or a dot, or to one of them, so
these are in a lower-case form where they are in the text.

Two texts with the same lower-case form need NOT be the same up to the case of ASCII letters, and the lower-case
form of a text may be longer than the text.
-/

namespace FeatureRefs.Unicode

/-! ## Runs -/

namespace CodeRun

/-- The least code point that a run leads to. -/
def low (run : CodeRun) : Nat :=
  (run.first + run.offset).toNat

/-- The greatest code point that a run leads to. -/
def high (run : CodeRun) : Nat :=
  (run.last + run.offset).toNat

/-- Whether no code point of a range is one that a run leads from or to. -/
def avoids (run : CodeRun) (range : Nat × Nat) : Bool :=
  (run.last.blt range.1 || range.2.blt run.first) && (run.high.blt range.1 || range.2.blt run.low)

/-- Whether what a run leads to lies beside what another one leads from: before it, behind it, or between its
steps of two. -/
def misses (run next : CodeRun) : Bool :=
  next.last.blt run.low || run.high.blt next.first ||
    ((run.step == 2 || run.first == run.last) && next.step == 2 && (run.low + next.first) % 2 == 1)

variable {run next : CodeRun} {code image : Nat}

theorem image?_eq_some_iff : run.image? code = some image ↔
    (run.first ≤ code ∧ code ≤ run.last ∧ (code - run.first) % run.step = 0) ∧
      (code + run.offset).toNat = image := by
  unfold image?
  split
  · next h => simp [h]
  · next h => simp [h]

/-- A run stays out of a range that it avoids. -/
theorem outside_of_avoids {range : Nat × Nat} (h : run.avoids range = true)
    (himage : run.image? code = some image) :
    (code < range.1 ∨ range.2 < code) ∧ (image < range.1 ∨ range.2 < image) := by
  obtain ⟨⟨hfirst, hlast, -⟩, rfl⟩ := image?_eq_some_iff.1 himage
  simp only [avoids, low, high, Nat.blt_eq, Bool.and_eq_true, Bool.or_eq_true] at h
  omega

/-- What a run leads to is not led on by a run that it misses. -/
theorem image?_eq_none_of_misses (h : run.misses next = true) (hlow : 0 < run.low)
    (himage : run.image? code = some image) : next.image? image = none := by
  obtain ⟨⟨hfirst, hlast, hstep⟩, rfl⟩ := image?_eq_some_iff.1 himage
  rw [Option.eq_none_iff_forall_ne_some]
  intro further hfurther
  obtain ⟨⟨hfirst', hlast', hstep'⟩, -⟩ := image?_eq_some_iff.1 hfurther
  simp only [misses, low, high, Nat.blt_eq, Bool.or_eq_true, Bool.and_eq_true, beq_iff_eq] at h hlow
  rcases h with (hbefore | hbehind) | ⟨⟨htwo | hone, htwo'⟩, hodd⟩
  · omega
  · omega
  · -- Both runs go in steps of two, and from numbers of different parity.
    rw [htwo] at hstep
    rw [htwo'] at hstep'
    omega
  · rw [htwo'] at hstep'
    omega

end CodeRun

/-- Code points that no run leads from or to: ASCII characters up to the capitals, among them the dot, white space,
the dotted capital I, and what is no character. -/
def settledRanges : CodeRanges := [
  (0, 0x5A), (0x85, 0x85), (0xA0, 0xA0), (0x130, 0x130), (0x1680, 0x1680), (0x2000, 0x200A),
   (0x2028, 0x2029), (0x202F, 0x202F), (0x205F, 0x205F), (0x3000, 0x3000), (0xD800, 0xDFFF)
  ]

theorem misses_lowercaseRuns :
    (lowercaseRuns.all fun run => lowercaseRuns.all run.misses) = true := by
  decide +kernel

theorem avoids_lowercaseRuns :
    (lowercaseRuns.all fun run =>
      0 < run.low && run.high < 0x110000 && settledRanges.all run.avoids) = true := by
  decide +kernel

/-! ## Characters -/

section

variable {run : CodeRun} {code image : Nat}

/-- The bounds of a run, and the ranges that it stays out of. -/
theorem bounds_of_mem_lowercaseRuns (hrun : run ∈ lowercaseRuns) :
    0 < run.low ∧ run.high < 0x110000 ∧ ∀ range ∈ settledRanges, run.avoids range = true := by
  have havoids := List.all_eq_true.1 avoids_lowercaseRuns run hrun
  rw [Bool.and_eq_true, Bool.and_eq_true, decide_eq_true_eq, decide_eq_true_eq,
    List.all_eq_true] at havoids
  exact ⟨havoids.1.1, havoids.1.2, havoids.2⟩

theorem outside_settledRanges (hrun : run ∈ lowercaseRuns) (himage : run.image? code = some image)
    (range : Nat × Nat) (hrange : range ∈ settledRanges) :
    (code < range.1 ∨ range.2 < code) ∧ (image < range.1 ∨ range.2 < image) := by
  obtain ⟨-, -, havoids⟩ := bounds_of_mem_lowercaseRuns hrun
  exact run.outside_of_avoids (havoids range hrange) himage

/-- A run leads neither from nor to a settled code point. -/
theorem not_covers_settledRanges (hrun : run ∈ lowercaseRuns)
    (himage : run.image? code = some image) :
    ¬ settledRanges.covers code = true ∧ ¬ settledRanges.covers image = true := by
  rw [CodeRanges.covers_iff, CodeRanges.covers_iff]
  constructor
  · rintro ⟨range, hrange, hcode⟩
    obtain ⟨hout, -⟩ := outside_settledRanges hrun himage range hrange
    omega
  · rintro ⟨range, hrange, hcode⟩
    obtain ⟨-, hout⟩ := outside_settledRanges hrun himage range hrange
    omega

/-- A run leads to a character. -/
theorem toNat_ofNat_image (hrun : run ∈ lowercaseRuns) (himage : run.image? code = some image) :
    (Char.ofNat image).toNat = image := by
  obtain ⟨-, hbelow, -⟩ := bounds_of_mem_lowercaseRuns hrun
  obtain ⟨-, hnone⟩ := outside_settledRanges hrun himage (0xD800, 0xDFFF) (by decide)
  obtain ⟨⟨-, hlast, -⟩, hsum⟩ := CodeRun.image?_eq_some_iff.1 himage
  have hhigh : image ≤ run.high := by
    unfold CodeRun.high
    omega
  have hvalid : image.isValidChar := by
    unfold Nat.isValidChar
    omega
  rw [Char.ofNat, dif_pos hvalid]
  rfl

/-- No run leads on from where a run leads to. -/
theorem findSome?_image_eq_none (hrun : run ∈ lowercaseRuns)
    (himage : run.image? code = some image) :
    lowercaseRuns.findSome? (·.image? image) = none := by
  rw [List.findSome?_eq_none_iff]
  intro next hnext
  obtain ⟨hlow, -, -⟩ := bounds_of_mem_lowercaseRuns hrun
  have hmisses := List.all_eq_true.1 (List.all_eq_true.1 misses_lowercaseRuns run hrun) next hnext
  exact CodeRun.image?_eq_none_of_misses hmisses hlow himage

end

/-- How a character gets into lower case: an ASCII letter, the dotted capital I, and what a run leads from; all
others stay. -/
theorem lowercaseChar_cases (c : Char) :
    (c.toNat < 128 ∧ lowercaseChar c = [c.toLower]) ∨
      (c = 'İ' ∧ lowercaseChar c = ['i', '\u0307']) ∨
      (∃ run ∈ lowercaseRuns, ∃ image, run.image? c.toNat = some image ∧
        lowercaseChar c = [Char.ofNat image]) ∨
      lowercaseChar c = [c] := by
  unfold lowercaseChar
  split
  · next hsmall => exact .inl ⟨hsmall, rfl⟩
  · split
    · next hdotted => exact .inr (.inl ⟨hdotted, rfl⟩)
    · split
      · next image hfound =>
          obtain ⟨run, hrun, himage⟩ := List.exists_of_findSome?_eq_some hfound
          exact .inr (.inr (.inl ⟨run, hrun, image, himage, rfl⟩))
      · exact .inr (.inr (.inr rfl))

/-- What the lower-case form of a character is made of is in lower case. -/
theorem lowercaseChar_of_mem {c d : Char} (h : d ∈ lowercaseChar c) : lowercaseChar d = [d] := by
  rcases lowercaseChar_cases c with
    ⟨hsmall, hself⟩ | ⟨rfl, hself⟩ | ⟨run, hrun, image, himage, hself⟩ | hself
  · obtain rfl : d = c.toLower := List.mem_singleton.1 (hself ▸ h)
    rw [lowercaseChar_toLower, hself]
  · rw [hself, List.mem_pair] at h
    rcases h with rfl | rfl
    · rfl
    · decide +kernel
  · obtain rfl : d = Char.ofNat image := List.mem_singleton.1 (hself ▸ h)
    have hcode := toNat_ofNat_image hrun himage
    obtain ⟨-, hcapital⟩ := outside_settledRanges hrun himage (0, 0x5A) (by decide)
    obtain ⟨-, hdotted⟩ := outside_settledRanges hrun himage (0x130, 0x130) (by decide)
    unfold lowercaseChar
    rw [hcode, findSome?_image_eq_none hrun himage]
    split
    · rw [List.singleton_inj, ← Char.toNat_inj, toNat_toLower, hcode, if_neg (by omega)]
    · rw [if_neg]
      intro hI
      rw [← Char.toNat_inj, hcode] at hI
      have hcodeI : 'İ'.toNat = 0x130 := rfl
      omega
  · obtain rfl : d = c := List.mem_singleton.1 (hself ▸ h)
    exact hself

theorem covers_settledRanges_of_isBlank {c : Char} (h : isBlank c = true) :
    settledRanges.covers c.toNat = true := by
  simp only [isBlank, Bool.or_eq_true, Bool.and_eq_true, decide_eq_true_eq, beq_iff_eq] at h
  simp only [settledRanges, CodeRanges.covers, List.any_cons, List.any_nil, Bool.or_eq_true,
    Bool.and_eq_true, decide_eq_true_eq]
  omega

/-- White space stays in lower case, and nothing else becomes white space. -/
theorem isBlank_of_mem_lowercaseChar {c d : Char} (h : d ∈ lowercaseChar c) :
    isBlank d = isBlank c := by
  rcases lowercaseChar_cases c with
    ⟨-, hself⟩ | ⟨rfl, hself⟩ | ⟨run, hrun, image, himage, hself⟩ | hself
  · obtain rfl : d = c.toLower := List.mem_singleton.1 (hself ▸ h)
    exact isBlank_toLower c
  · rw [hself, List.mem_pair] at h
    rcases h with rfl | rfl
    · rfl
    · rfl
  · obtain rfl : d = Char.ofNat image := List.mem_singleton.1 (hself ▸ h)
    obtain ⟨hcode, himage'⟩ := not_covers_settledRanges hrun himage
    rw [← toNat_ofNat_image hrun himage] at himage'
    rw [Bool.eq_false_iff.2 (mt covers_settledRanges_of_isBlank himage'),
      Bool.eq_false_iff.2 (mt covers_settledRanges_of_isBlank hcode)]
  · obtain rfl : d = c := List.mem_singleton.1 (hself ▸ h)
    rfl

/-- Nothing but a dot becomes a dot. -/
theorem dot_mem_lowercaseChar_iff {c : Char} : '.' ∈ lowercaseChar c ↔ c = '.' := by
  constructor
  · intro h
    rcases lowercaseChar_cases c with
      ⟨-, hself⟩ | ⟨rfl, hself⟩ | ⟨run, hrun, image, himage, hself⟩ | hself
    · rw [hself, List.mem_singleton, eq_comm, toLower_eq_iff (by decide)] at h
      exact h
    · simp [hself] at h
    · have hcode : (46 : Nat) = image := by
        have hdot := congrArg Char.toNat (List.mem_singleton.1 (hself ▸ h))
        rwa [toNat_ofNat_image hrun himage] at hdot
      obtain ⟨-, hnone⟩ := not_covers_settledRanges hrun himage
      rw [← hcode] at hnone
      exact absurd (by decide) hnone
    · exact (List.mem_singleton.1 (hself ▸ h)).symm
  · rintro rfl
    decide +kernel

theorem lowercaseChar_ne_nil (c : Char) : lowercaseChar c ≠ [] := by
  rcases lowercaseChar_cases c with ⟨-, hself⟩ | ⟨-, hself⟩ | ⟨_, -, _, -, hself⟩ | hself
  · simp [hself]
  · simp [hself]
  · simp [hself]
  · simp [hself]

/-- A character that is its own lower-case form has no ASCII capital in it. -/
theorem toLower_eq_self_of_lowercaseChar {c : Char} (h : lowercaseChar c = [c]) : c.toLower = c := by
  by_cases hsmall : c.toNat < 128
  · rw [lowercaseChar, if_pos hsmall] at h
    exact List.singleton_inj.1 h
  · rw [← Char.toNat_inj, toNat_toLower, if_neg (by omega)]

/-! ## Texts -/

/-- A text of characters that are in lower case is its own lower-case form. -/
theorem lowercaseAfter_eq_self_of_forall {before text : List Char}
    (h : ∀ c ∈ text, lowercaseChar c = [c]) : lowercaseAfter before text = text := by
  induction text generalizing before with
  | nil => rfl
  | cons c rest ih =>
      obtain ⟨hc, hrest⟩ := List.forall_mem_cons.1 h
      have hsigma : c ≠ 'Σ' := by
        rintro rfl
        exact absurd hc (by decide +kernel)
      rw [lowercaseAfter, if_neg hsigma, hc, ih hrest]
      rfl

/-- What a character leaves in the lower-case form of a text. -/
structure IsPiece (c : Char) (piece : List Char) : Prop where
  ne_nil : piece ≠ []
  lower : ∀ d ∈ piece, lowercaseChar d = [d]
  blank : ∀ d ∈ piece, isBlank d = isBlank c
  dot : ∀ d ∈ piece, d = '.' ↔ c = '.'

theorem isPiece_lowercaseChar (c : Char) : IsPiece c (lowercaseChar c) where
  ne_nil := lowercaseChar_ne_nil c
  lower _ hd := lowercaseChar_of_mem hd
  blank _ hd := isBlank_of_mem_lowercaseChar hd
  dot d hd := by
    constructor
    · rintro rfl
      exact dot_mem_lowercaseChar_iff.1 hd
    · rintro rfl
      rw [lowercaseChar_of_mem (dot_mem_lowercaseChar_iff.2 rfl)] at hd
      exact List.mem_singleton.1 hd

theorem isPiece_sigma {d : Char} (h : d = 'ς' ∨ d = 'σ') : IsPiece 'Σ' [d] where
  ne_nil := List.cons_ne_nil _ _
  lower := by
    rw [List.forall_mem_singleton]
    rcases h with rfl | rfl
    · decide +kernel
    · decide +kernel
  blank := by
    rw [List.forall_mem_singleton]
    rcases h with rfl | rfl
    · decide
    · decide
  dot := by
    rw [List.forall_mem_singleton]
    rcases h with rfl | rfl
    · decide
    · decide

/-- The lower-case form of a text is made of what its characters leave, in the same order. -/
theorem exists_pieces (before text : List Char) :
    ∃ pieces, lowercaseAfter before text = pieces.flatten ∧ List.Forall₂ IsPiece text pieces := by
  induction text generalizing before with
  | nil => exact ⟨[], rfl, .nil⟩
  | cons c rest ih =>
      obtain ⟨pieces, hflatten, hpieces⟩ := ih (c :: before)
      rw [lowercaseAfter, hflatten]
      refine ⟨_ :: pieces, List.flatten_cons.symm, .cons ?_ hpieces⟩
      split
      · next hsigma =>
          subst hsigma
          apply isPiece_sigma
          split
          · exact .inl rfl
          · exact .inr rfl
      · exact isPiece_lowercaseChar c

section

variable {s : String}

theorem lowercaseChar_of_mem_lowercase {d : Char} (h : d ∈ (lowercase s).toList) :
    lowercaseChar d = [d] := by
  obtain ⟨pieces, hflatten, hpieces⟩ := exists_pieces [] s.toList
  rw [lowercase, String.toList_ofList, hflatten, List.mem_flatten] at h
  obtain ⟨piece, hpiece, hd⟩ := h
  obtain ⟨i, hi, rfl⟩ := List.getElem_of_mem hpiece
  exact (hpieces.get (by rwa [hpieces.length_eq]) hi).lower d hd

/-- A lower-case form is its own lower-case form. -/
theorem lowercase_lowercase (s : String) : lowercase (lowercase s) = lowercase s := by
  rw [lowercase, lowercaseAfter_eq_self_of_forall fun c hc => lowercaseChar_of_mem_lowercase hc,
    String.ofList_toList]

/-- A lower-case form begins with what the first character leaves. -/
theorem exists_head?_lowercase {text : List Char} {c : Char} (h : text.head? = some c) :
    ∃ piece d, IsPiece c piece ∧ d ∈ piece ∧
      (lowercase (String.ofList text)).toList.head? = some d := by
  obtain ⟨rest, rfl⟩ := List.head?_eq_some_iff.1 h
  obtain ⟨pieces, hflatten, hpieces⟩ := exists_pieces [] (c :: rest)
  rw [lowercase, String.toList_ofList, String.toList_ofList, hflatten]
  cases hpieces with
  | cons hpiece _ =>
      obtain ⟨d, more, rfl⟩ := List.exists_cons_of_ne_nil hpiece.ne_nil
      exact ⟨_, d, hpiece, List.mem_cons_self, rfl⟩

/-- A lower-case form ends with what the last character leaves. -/
theorem exists_getLast?_lowercase {text : List Char} {c : Char} (h : text.getLast? = some c) :
    ∃ piece d, IsPiece c piece ∧ d ∈ piece ∧
      (lowercase (String.ofList text)).toList.getLast? = some d := by
  obtain ⟨init, rfl⟩ := List.getLast?_eq_some_iff.1 h
  obtain ⟨pieces, hflatten, hpieces⟩ := exists_pieces [] (init ++ [c])
  rw [lowercase, String.toList_ofList, String.toList_ofList, hflatten]
  have hreverse := List.rel_reverse hpieces
  rw [List.reverse_append, List.reverse_singleton, List.singleton_append] at hreverse
  generalize hlast : pieces.reverse = reversed at hreverse
  cases hreverse with
  | @cons _ piece _ others hpiece _ =>
      have hsplit : pieces = others.reverse ++ [piece] := by
        rw [← List.reverse_cons, ← hlast, List.reverse_reverse]
      have hend := List.getLast?_eq_some_getLast hpiece.ne_nil
      refine ⟨piece, _, hpiece, List.getLast_mem hpiece.ne_nil, ?_⟩
      rw [hsplit, List.flatten_append, List.flatten_singleton, List.getLast?_append, hend,
        Option.some_or]

theorem lowercase_eq_empty_iff : lowercase s = "" ↔ s = "" := by
  constructor
  · intro h
    rw [← String.toList_inj]
    cases hs : s.toList with
    | nil => rfl
    | cons c rest =>
        have hhead : (c :: rest).head? = some c := List.head?_cons
        obtain ⟨-, d, -, -, hd⟩ := exists_head?_lowercase hhead
        rw [← hs, String.ofList_toList, h] at hd
        contradiction
  · rintro rfl
    rfl

end

/-- The lower-case form differs from the text in the case of ASCII letters only where no other character is put in
lower case. -/
theorem lowercaseAfter_eq_map_toLower_iff {before text : List Char} :
    lowercaseAfter before text = text.map Char.toLower ↔
      ∀ c ∈ text, lowercaseChar c = [c.toLower] := by
  induction text generalizing before with
  | nil => simp [lowercaseAfter]
  | cons c rest ih =>
      have hsigma : lowercaseChar 'Σ' ≠ ['Σ'.toLower] := by decide +kernel
      rw [lowercaseAfter, List.map_cons, List.forall_mem_cons]
      by_cases hc : c = 'Σ'
      · subst hc
        rw [if_pos rfl]
        refine iff_of_false ?_ fun h => hsigma h.1
        intro h
        have hhead := (List.cons.inj h).1
        split at hhead
        · exact absurd hhead (by decide)
        · exact absurd hhead (by decide)
      · rw [if_neg hc]
        constructor
        · intro h
          obtain ⟨d, more, hpiece⟩ := List.exists_cons_of_ne_nil (lowercaseChar_ne_nil c)
          -- What comes first is in lower case, and so the character leaves nothing else.
          have hhead : d = c.toLower := by
            rw [hpiece] at h
            exact (List.cons.inj h).1
          have hself : lowercaseChar c = [c.toLower] := by
            rw [← lowercaseChar_toLower, ← hhead]
            exact lowercaseChar_of_mem (c := c) (by rw [hpiece]; exact List.mem_cons_self)
          rw [hself] at h
          exact ⟨hself, ih.1 (List.cons.inj h).2⟩
        · rintro ⟨hself, hrest⟩
          rw [hself, ih.2 hrest]
          rfl

end FeatureRefs.Unicode
