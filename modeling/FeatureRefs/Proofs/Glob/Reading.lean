import FeatureRefs.Glob.Parser

/-!
# Patterns for everything below

A pattern with a slash and two stars behind it is read as what the pattern is read as, with everything
below at the end. When the pattern itself ends in two stars that make up a name, the two are read as the
same tokens.

The longer pattern may be a glob where the pattern is none: a backslash at the end of the pattern takes
the slash. The other way round it is one whenever the pattern is.
-/

namespace FeatureRefs

namespace Glob

/-- Tokens that match all paths below those that they match. -/
def EndsBelow (tokens : List Token) : Prop :=
  tokens = [.leadingDirectories] ∨ ∃ before, tokens = before ++ [.everythingBelow]

/-- How the tokens of a pattern go with those of the pattern for what is below. -/
inductive IsReadBelow : Option (List Token) → Option (List Token) → Prop where
  /-- Everything below is put behind the tokens of the pattern, if it is a glob. -/
  | behind {own : Option (List Token)} {tokens : List Token}
      (h : own = none ∨ own = some tokens) : IsReadBelow own (some (tokens ++ [.everythingBelow]))
  /-- Nothing is put behind tokens that match everything below already. -/
  | taken {tokens : List Token} (h : EndsBelow tokens) : IsReadBelow (some tokens) (some tokens)
  /-- Neither pattern is a glob. -/
  | unread : IsReadBelow none none

namespace Reading

variable {r r' : Reading} {token : Token} {c : Char}

/-! ## One character -/

/-- Notes the character that was read last. -/
def note (c : Char) (r : Reading) : Reading :=
  { r with last := some c }

theorem step?_plain (h : r.mode = .plain) (c : Char) : r.step? c = (r.plain? c).map (note c) := by
  unfold step?
  rw [h]
  cases r.plain? c with
  | none => rfl
  | some next => rfl

theorem step?_escape (h : r.mode = .escape) (c : Char) :
    r.step? c = some (note c (r.push (.literal c))) := by
  unfold step?
  rw [h]
  rfl

theorem step?_star {before : Option Char} (h : r.mode = .star before) (c : Char) :
    r.step? c =
      if c = '*' then some (note c { r with mode := .twoStars before })
      else ((r.push .anyBytes).plain? c).map (note c) := by
  unfold step?
  rw [h]
  by_cases hstar : c = '*'
  · simp only [if_pos hstar]
    rfl
  · simp only [if_neg hstar]
    cases (r.push .anyBytes).plain? c with
    | none => rfl
    | some next => rfl

theorem step?_twoStars {before : Option Char} (h : r.mode = .twoStars before) (c : Char) :
    r.step? c =
      if (r.pushTwoStars before (some c)).2 then some (note c (r.pushTwoStars before (some c)).1)
      else ((r.pushTwoStars before (some c)).1.plain? c).map (note c) := by
  unfold step?
  rw [h]
  dsimp only
  obtain ⟨next, isTaken⟩ := r.pushTwoStars before (some c)
  cases isTaken with
  | true => rfl
  | false =>
      dsimp only
      cases next.plain? c with
      | none => rfl
      | some next => rfl

theorem step?_bracket (h : r.mode = .bracket) (c : Char) :
    r.step? c =
      if c = '!' ∨ c = '^' then some (note c { r with mode := .inClass { negated := true } })
      else (r.classChar? {} c).map (note c) := by
  unfold step?
  rw [h]
  by_cases hnegation : c = '!' ∨ c = '^'
  · simp only [if_pos hnegation]
    rfl
  · simp only [if_neg hnegation]
    cases r.classChar? {} c with
    | none => rfl
    | some next => rfl

theorem step?_inClass {part : OpenClass} (h : r.mode = .inClass part) (c : Char) :
    r.step? c = (r.classChar? part c).map (note c) := by
  unfold step?
  rw [h]
  dsimp only
  cases r.classChar? part c with
  | none => rfl
  | some next => rfl

/-! ## Leading directories -/

/-- Nothing was read before leading directories. -/
def IsSound (r : Reading) : Prop :=
  ∀ before, r.tokens = .leadingDirectories :: before → before = []

theorem IsSound.of_tokens_eq (h : r.IsSound) (htokens : r'.tokens = r.tokens) : r'.IsSound := by
  intro before hbefore
  exact h before (htokens.symm.trans hbefore)

theorem isSound_of_tokens_eq_nil (h : r.tokens = []) : r.IsSound := by
  intro before hbefore
  rw [h] at hbefore
  contradiction

theorem isSound_of_tokens_eq_cons {tokens : List Token} (h : r.tokens = token :: tokens)
    (htoken : token ≠ .leadingDirectories) : r.IsSound := by
  intro before hbefore
  exact absurd (List.cons.inj (h.symm.trans hbefore)).1 htoken

theorem IsSound.pushDirectories (h : r.IsSound) (htoken : token ≠ .leadingDirectories) :
    (r.pushDirectories token).IsSound := by
  unfold Reading.pushDirectories
  split
  · exact h.of_tokens_eq rfl
  · exact h.of_tokens_eq rfl
  · exact isSound_of_tokens_eq_cons rfl htoken

theorem IsSound.pushTwoStars (h : r.IsSound) (before next : Option Char) :
    (r.pushTwoStars before next).1.IsSound := by
  have hwildcards : r.pushWildcards.IsSound := isSound_of_tokens_eq_cons rfl (by simp)
  unfold Reading.pushTwoStars
  by_cases hempty : r.tokens.isEmpty = true
  · rw [if_pos hempty]
    split
    · -- This is the only place where leading directories are read.
      intro tokens htokens
      exact (List.cons.inj htokens).2.symm.trans (List.isEmpty_iff.1 hempty)
    · exact hwildcards
  · rw [if_neg hempty]
    split
    · exact hwildcards
    · split
      · exact h.pushDirectories (by simp)
      · exact h.pushDirectories (by simp)
      · split
        · exact h.pushDirectories (by simp)
        · exact hwildcards

theorem IsSound.plain? (h : r.IsSound) (hplain : r.plain? c = some r') : r'.IsSound := by
  unfold Reading.plain? at hplain
  split at hplain
  · obtain rfl := Option.some.inj hplain
    exact isSound_of_tokens_eq_cons rfl (by simp)
  · obtain rfl := Option.some.inj hplain
    exact h.of_tokens_eq rfl
  · obtain rfl := Option.some.inj hplain
    exact h.of_tokens_eq rfl
  · obtain rfl := Option.some.inj hplain
    exact isSound_of_tokens_eq_nil rfl
  · unfold closeBrace? at hplain
    split at hplain
    · contradiction
    · obtain rfl := Option.some.inj hplain
      exact isSound_of_tokens_eq_cons rfl (by simp)
  · obtain rfl := Option.some.inj hplain
    unfold comma
    split
    · exact isSound_of_tokens_eq_cons rfl (by simp)
    · exact isSound_of_tokens_eq_nil rfl
  · obtain rfl := Option.some.inj hplain
    exact h.of_tokens_eq rfl
  · obtain rfl := Option.some.inj hplain
    exact isSound_of_tokens_eq_cons rfl (by simp)

theorem IsSound.classChar? (h : r.IsSound) {part : OpenClass}
    (hchar : r.classChar? part c = some r') : r'.IsSound := by
  unfold Reading.classChar? at hchar
  dsimp only at hchar
  split at hchar
  · obtain rfl := Option.some.inj hchar
    exact h.of_tokens_eq rfl
  · split at hchar
    · obtain rfl := Option.some.inj hchar
      exact isSound_of_tokens_eq_cons rfl (by simp)
    · split at hchar
      · obtain ⟨part', -, rfl⟩ := Option.map_eq_some_iff.1 hchar
        exact h.of_tokens_eq rfl
      · split at hchar
        · obtain rfl := Option.some.inj hchar
          exact h.of_tokens_eq rfl
        · obtain rfl := Option.some.inj hchar
          exact h.of_tokens_eq rfl

theorem IsSound.step? (h : r.IsSound) (hstep : r.step? c = some r') : r'.IsSound := by
  cases hmode : r.mode with
  | plain =>
      rw [step?_plain hmode] at hstep
      obtain ⟨next, hnext, rfl⟩ := Option.map_eq_some_iff.1 hstep
      exact (h.plain? hnext).of_tokens_eq rfl
  | escape =>
      rw [step?_escape hmode] at hstep
      obtain rfl := Option.some.inj hstep
      exact isSound_of_tokens_eq_cons rfl (by simp)
  | star before =>
      rw [step?_star hmode] at hstep
      split at hstep
      · obtain rfl := Option.some.inj hstep
        exact h.of_tokens_eq rfl
      · obtain ⟨next, hnext, rfl⟩ := Option.map_eq_some_iff.1 hstep
        have hpush : (r.push .anyBytes).IsSound := isSound_of_tokens_eq_cons rfl (by simp)
        exact (hpush.plain? hnext).of_tokens_eq rfl
  | twoStars before =>
      rw [step?_twoStars hmode] at hstep
      have hstars := h.pushTwoStars before (some c)
      split at hstep
      · obtain rfl := Option.some.inj hstep
        exact hstars.of_tokens_eq rfl
      · obtain ⟨next, hnext, rfl⟩ := Option.map_eq_some_iff.1 hstep
        exact (hstars.plain? hnext).of_tokens_eq rfl
  | bracket =>
      rw [step?_bracket hmode] at hstep
      split at hstep
      · obtain rfl := Option.some.inj hstep
        exact h.of_tokens_eq rfl
      · obtain ⟨next, hnext, rfl⟩ := Option.map_eq_some_iff.1 hstep
        exact (h.classChar? hnext).of_tokens_eq rfl
  | inClass part =>
      rw [step?_inClass hmode] at hstep
      obtain ⟨next, hnext, rfl⟩ := Option.map_eq_some_iff.1 hstep
      exact (h.classChar? hnext).of_tokens_eq rfl

theorem isSound_foldlM {pattern : List Char} (h : r.IsSound)
    (hread : pattern.foldlM Reading.step? r = some r') : r'.IsSound := by
  induction pattern generalizing r with
  | nil =>
      obtain rfl := Option.some.inj hread
      exact h
  | cons c pattern ih =>
      obtain ⟨next, hnext, hrest⟩ := Option.bind_eq_some_iff.1 hread
      exact ih (h.step? hnext) hrest

/-! ## The end of a pattern -/

/-- The tokens at the end of a pattern, unless a brace is open. -/
def ended (r : Reading) (tokens : List Token) : Option (List Token) :=
  if r.braces.isEmpty then some tokens.reverse else none

theorem finish?_plain (h : r.mode = .plain) : r.finish? = r.ended r.tokens := by
  unfold finish?
  rw [h]
  rfl

theorem finish?_star {before : Option Char} (h : r.mode = .star before) :
    r.finish? = r.ended (.anyBytes :: r.tokens) := by
  unfold finish?
  rw [h]
  rfl

theorem finish?_escape (h : r.mode = .escape) : r.finish? = none := by
  unfold finish?
  rw [h]
  rfl

theorem finish?_bracket (h : r.mode = .bracket) : r.finish? = none := by
  unfold finish?
  rw [h]
  rfl

theorem finish?_inClass {part : OpenClass} (h : r.mode = .inClass part) : r.finish? = none := by
  unfold finish?
  rw [h]
  rfl

theorem braces_pushDirectories (r : Reading) (token : Token) :
    (r.pushDirectories token).braces = r.braces := by
  unfold pushDirectories
  split
  · rfl
  · rfl
  · rfl

theorem braces_pushTwoStars (r : Reading) (before next : Option Char) :
    (r.pushTwoStars before next).1.braces = r.braces := by
  have hwildcards : r.pushWildcards.braces = r.braces := rfl
  unfold pushTwoStars
  split
  · split
    · rfl
    · exact hwildcards
  · split
    · exact hwildcards
    · split
      · exact r.braces_pushDirectories _
      · exact r.braces_pushDirectories _
      · split
        · exact r.braces_pushDirectories _
        · exact hwildcards

theorem finish?_twoStars {before : Option Char} (h : r.mode = .twoStars before) :
    r.finish? = r.ended (r.pushTwoStars before none).1.tokens := by
  unfold finish? ended
  rw [h, ← r.braces_pushTwoStars before none]
  rfl

theorem pushTwoStars_of_isEmpty (h : r.tokens.isEmpty = true) (before : Option Char)
    {next : Option Char} (hnext : next.all (· == '/') = true) :
    r.pushTwoStars before next = (r.push .leadingDirectories, true) := by
  unfold pushTwoStars
  rw [if_pos h, if_pos hnext]

section

variable {before : Option Char} (hempty : ¬ r.tokens.isEmpty = true)
include hempty

theorem pushTwoStars_name (hopens : r.opensName before = true) :
    r.pushTwoStars before none = (r.pushDirectories .everythingBelow, true) := by
  unfold pushTwoStars
  rw [if_neg hempty, if_neg (by simp [hopens])]

theorem pushTwoStars_directories (hopens : r.opensName before = true) :
    r.pushTwoStars before (some '/') = (r.pushDirectories .innerDirectories, true) := by
  unfold pushTwoStars
  rw [if_neg hempty, if_neg (by simp [hopens])]
  rfl

theorem pushTwoStars_wildcards (hopens : ¬ r.opensName before = true) {next : Option Char} :
    r.pushTwoStars before next = (r.pushWildcards, false) := by
  unfold pushTwoStars
  rw [if_neg hempty, if_pos (by simp [hopens])]

end

/-! ## A slash and two stars at the end -/

/-- The tokens of a pattern that ends in a slash and two stars. -/
def finishBelow? (r : Reading) : Option (List Token) :=
  (['/', '*', '*'].foldlM step? r).bind finish?

theorem finishBelow?_eq_none (h : r.step? '/' = none) : r.finishBelow? = none := by
  unfold finishBelow?
  rw [List.foldlM_cons, h]
  rfl

/-- Tokens with one for whole directories in place of the slash at their end, read backwards. -/
def withDirectories (token : Token) : List Token → List Token
  | .leadingDirectories :: before => .leadingDirectories :: before
  | .everythingBelow :: before => .everythingBelow :: before
  | tokens => token :: tokens.tail

theorem tokens_pushDirectories (r : Reading) (token : Token) :
    (r.pushDirectories token).tokens = withDirectories token r.tokens := by
  unfold pushDirectories
  split
  · next h =>
      rw [h]
      rfl
  · next h =>
      rw [h]
      rfl
  · next hleading hbelow =>
      unfold withDirectories
      split
      · next h => exact absurd h (hleading _)
      · next h => exact absurd h (hbelow _)
      · rfl

/-- Behind a slash that is not the first token, two stars at the end stand for everything below. -/
theorem finishBelow?_eq_ended {next : Reading} (hstep : r.step? '/' = some (note '/' next))
    (hmode : next.mode = .plain) (hbraces : next.braces = r.braces) (htokens : next.tokens ≠ []) :
    r.finishBelow? = r.ended (withDirectories .everythingBelow next.tokens) := by
  let starred : Reading := { next with last := some '*', mode := .twoStars (some '/') }
  have hstar : (note '/' next).step? '*' =
      some { next with last := some '*', mode := .star (some '/') } := by
    rw [step?_plain (r := note '/' next) hmode]
    rfl
  have hstars : ['/', '*', '*'].foldlM step? r = some starred := by
    rw [List.foldlM_cons, hstep, Option.bind_eq_bind, Option.bind_some, List.foldlM_cons, hstar,
      Option.bind_eq_bind, Option.bind_some, List.foldlM_cons, step?_star rfl, if_pos rfl]
    rfl
  have hempty : ¬ starred.tokens.isEmpty = true := by
    rwa [List.isEmpty_iff]
  -- The slash in front of the stars makes them a name, and everything below takes its place.
  have hopens : ¬ (!starred.opensName (some '/')) = true := by
    simp [opensName]
  have hpush : starred.pushTwoStars (some '/') none =
      (starred.pushDirectories .everythingBelow, true) := by
    unfold pushTwoStars
    rw [if_neg hempty, if_neg hopens]
  unfold finishBelow?
  rw [hstars, Option.bind_some, finish?_twoStars rfl, hpush, tokens_pushDirectories]
  unfold ended
  rw [← hbraces]

/-- A class goes on with whatever is not a bracket. -/
theorem mode_of_classChar? {part : OpenClass} (hc : c ≠ ']')
    (h : r.classChar? part c = some r') : ∃ part', r'.mode = .inClass part' := by
  unfold classChar? at h
  dsimp only at h
  split at h
  · obtain rfl := Option.some.inj h
    exact ⟨_, rfl⟩
  · split at h
    · obtain ⟨part', -, rfl⟩ := Option.map_eq_some_iff.1 h
      exact ⟨part', rfl⟩
    · split at h
      · obtain rfl := Option.some.inj h
        exact ⟨_, rfl⟩
      · obtain rfl := Option.some.inj h
        exact ⟨_, rfl⟩

theorem mode_of_foldlM_inClass {part : OpenClass} (hmode : r.mode = .inClass part)
    {pattern : List Char} (hpattern : ']' ∉ pattern)
    (h : pattern.foldlM step? r = some r') : ∃ part', r'.mode = .inClass part' := by
  induction pattern generalizing r part with
  | nil =>
      obtain rfl := Option.some.inj h
      exact ⟨part, hmode⟩
  | cons c pattern ih =>
      have hc : c ≠ ']' := (List.ne_of_not_mem_cons hpattern).symm
      obtain ⟨next, hnext, hrest⟩ := Option.bind_eq_some_iff.1 h
      rw [step?_inClass hmode] at hnext
      obtain ⟨read, hread, rfl⟩ := Option.map_eq_some_iff.1 hnext
      obtain ⟨part', hpart'⟩ := mode_of_classChar? hc hread
      exact ih (r := note c read) hpart' (List.not_mem_of_not_mem_cons hpattern) hrest

theorem finishBelow?_inClass {part : OpenClass} (h : r.mode = .inClass part) :
    r.finishBelow? = none := by
  unfold finishBelow?
  cases hread : ['/', '*', '*'].foldlM step? r with
  | none => rfl
  | some read =>
      obtain ⟨part', hpart'⟩ := mode_of_foldlM_inClass h (by decide) hread
      exact finish?_inClass hpart'

theorem finishBelow?_bracket (h : r.mode = .bracket) : r.finishBelow? = none := by
  have hstep := step?_bracket h '/'
  rw [if_neg (by decide)] at hstep
  cases hchar : r.classChar? {} '/' with
  | none =>
      rw [hchar] at hstep
      exact finishBelow?_eq_none hstep
  | some next =>
      rw [hchar] at hstep
      obtain ⟨part, hpart⟩ := mode_of_classChar? (by decide) hchar
      unfold finishBelow?
      rw [List.foldlM_cons, hstep, Option.map_some, Option.bind_eq_bind, Option.bind_some]
      cases hread : ['*', '*'].foldlM step? (note '/' next) with
      | none => rfl
      | some read =>
          obtain ⟨part', hpart'⟩ :=
            mode_of_foldlM_inClass (r := note '/' next) hpart (by decide) hread
          exact finish?_inClass hpart'

theorem mode_pushDirectories (r : Reading) (token : Token) :
    (r.pushDirectories token).mode = .plain := by
  unfold pushDirectories
  split
  · rfl
  · rfl
  · rfl

theorem withDirectories_ne_nil (token : Token) (tokens : List Token) :
    withDirectories token tokens ≠ [] := by
  unfold withDirectories
  split
  · simp
  · simp
  · simp

/-- Everything below takes the place of directories in the middle. -/
theorem withDirectories_everythingBelow (tokens : List Token) :
    withDirectories .everythingBelow (withDirectories .innerDirectories tokens) =
      withDirectories .everythingBelow tokens := by
  rcases tokens with - | ⟨token, before⟩
  · rfl
  · cases token with
    | _ => rfl

/-! ## Both patterns -/

theorem isReadBelow_ended {own : Option (List Token)} {tokens : List Token}
    (h : own = none ∨ own = r.ended tokens) :
    IsReadBelow own (r.ended (.everythingBelow :: tokens)) := by
  unfold ended at h ⊢
  by_cases hclosed : r.braces.isEmpty = true
  · rw [if_pos hclosed] at h ⊢
    rw [List.reverse_cons]
    exact .behind h
  · rw [if_neg hclosed] at h ⊢
    rw [or_self_iff.1 h]
    exact .unread

theorem isReadBelow_ended_self {tokens : List Token} (h : EndsBelow tokens.reverse) :
    IsReadBelow (r.ended tokens) (r.ended tokens) := by
  unfold ended
  by_cases hclosed : r.braces.isEmpty = true
  · rw [if_pos hclosed]
    exact .taken h
  · rw [if_neg hclosed]
    exact .unread

theorem IsSound.endsBelow_withDirectories (h : r.IsSound) :
    EndsBelow (withDirectories .everythingBelow r.tokens).reverse := by
  unfold withDirectories
  split
  · next htokens =>
      left
      rw [h _ htokens]
      rfl
  · exact .inr ⟨_, List.reverse_cons⟩
  · exact .inr ⟨_, List.reverse_cons⟩

theorem IsSound.isReadBelow_twoStars (h : r.IsSound) {before : Option Char}
    (hmode : r.mode = .twoStars before) : IsReadBelow r.finish? r.finishBelow? := by
  rw [finish?_twoStars hmode]
  have hstep := step?_twoStars hmode '/'
  by_cases hempty : r.tokens.isEmpty = true
  · -- The stars are the first name of the pattern.
    have htokens : (r.push .leadingDirectories).tokens = [.leadingDirectories] := by
      rw [← List.isEmpty_iff.1 hempty]
      rfl
    rw [pushTwoStars_of_isEmpty hempty before rfl] at hstep ⊢
    rw [finishBelow?_eq_ended hstep rfl rfl (by simp [htokens]), htokens]
    exact isReadBelow_ended_self (.inl rfl)
  · by_cases hopens : r.opensName before = true
    · -- The stars make up another name.
      rw [pushTwoStars_name hempty hopens, tokens_pushDirectories]
      rw [pushTwoStars_directories hempty hopens] at hstep
      have hne : (r.pushDirectories .innerDirectories).tokens ≠ [] := by
        rw [tokens_pushDirectories]
        exact withDirectories_ne_nil _ _
      rw [finishBelow?_eq_ended hstep (r.mode_pushDirectories _) (r.braces_pushDirectories _) hne,
        tokens_pushDirectories, withDirectories_everythingBelow]
      exact isReadBelow_ended_self h.endsBelow_withDirectories
    · -- The stars are wildcards.
      rw [pushTwoStars_wildcards hempty hopens] at hstep ⊢
      rw [finishBelow?_eq_ended hstep rfl rfl (by simp [push])]
      exact isReadBelow_ended (.inr rfl)

theorem IsSound.isReadBelow (h : r.IsSound) : IsReadBelow r.finish? r.finishBelow? := by
  cases hmode : r.mode with
  | plain =>
      have hstep : r.step? '/' = some (note '/' (r.push (.literal '/'))) := by
        rw [step?_plain hmode]
        rfl
      rw [finishBelow?_eq_ended hstep rfl rfl (by simp [push])]
      exact isReadBelow_ended (.inr (finish?_plain hmode))
  | escape =>
      -- The backslash takes the slash, which the stars replace.
      rw [finishBelow?_eq_ended (step?_escape hmode '/') rfl rfl (by simp [push])]
      exact isReadBelow_ended (.inl (finish?_escape hmode))
  | star before =>
      have hstep : r.step? '/' = some (note '/' ((r.push .anyBytes).push (.literal '/'))) := by
        rw [step?_star hmode, if_neg (by decide)]
        rfl
      rw [finishBelow?_eq_ended hstep rfl rfl (by simp [push])]
      exact isReadBelow_ended (.inr (finish?_star hmode))
  | twoStars before => exact h.isReadBelow_twoStars hmode
  | bracket =>
      rw [finish?_bracket hmode, finishBelow?_bracket hmode]
      exact .unread
  | inClass part =>
      rw [finish?_inClass hmode, finishBelow?_inClass hmode]
      exact .unread

end Reading

end Glob

open Glob

/-- How a pattern is read, with and without a slash and two stars behind it. -/
theorem Glob.isReadBelow_parse? (pattern : List Char) : ∃ own below,
    parse? pattern = own.map mk ∧ parse? (pattern ++ ['/', '*', '*']) = below.map mk ∧
      IsReadBelow own below := by
  unfold parse?
  cases hread : pattern.foldlM Reading.step? {} with
  | none =>
      refine ⟨none, none, rfl, ?_, .unread⟩
      rw [List.foldlM_append, hread]
      rfl
  | some r =>
      have hsound : r.IsSound :=
        Reading.isSound_foldlM (Reading.isSound_of_tokens_eq_nil rfl) hread
      refine ⟨r.finish?, r.finishBelow?, rfl, ?_, hsound.isReadBelow⟩
      rw [List.foldlM_append, hread]
      rfl

end FeatureRefs
