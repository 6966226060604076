import FeatureRefs.Text.Units

/-!
# References to features

A reference is a feature id found on a line of a text. Lines are numbered from zero, and columns
count UTF-16 code units from the start of the line.
-/

namespace FeatureRefs

/-- A place in a text. -/
structure Position where
  line : Nat
  character : Nat
deriving Repr, DecidableEq

/-- A stretch of text; the end is exclusive. -/
structure Range where
  start : Position
  stop : Position
deriving Repr, DecidableEq

/-- How a reference is written. -/
inductive ReferenceForm where
  /-- The word `baseline`, a slash and the id. -/
  | hotPhrase
  /-- The `featureId` attribute of a `baseline-status` tag. -/
  | attribute
deriving Repr, DecidableEq

/-- A feature id found on a line. -/
structure Reference where
  line : Nat
  startColumn : Nat
  /-- The column behind the id. -/
  endColumn : Nat
  /-- The id in lower case. -/
  featureId : String
  form : ReferenceForm
deriving Repr, DecidableEq

namespace Reference

/-- The stretch that the id covers. -/
def range (r : Reference) : Range where
  start := ⟨r.line, r.startColumn⟩
  stop := ⟨r.line, r.endColumn⟩

/-- Whether a column falls on the id. -/
def containsColumn (r : Reference) (column : Nat) : Bool :=
  r.startColumn ≤ column && column < r.endColumn

end Reference

/-- Where a grammar found an id on a line: the text up to the id, and the id. -/
structure Occurrence where
  before : List Char
  id : List Char
deriving Repr, DecidableEq

namespace Occurrence

/-- The occurrence with more text in front of it, which is given backwards. -/
def after (before : List Char) (o : Occurrence) : Occurrence :=
  { o with before := before.reverse ++ o.before }

/-- The column at which the id starts. -/
def startColumn (o : Occurrence) : Nat :=
  Text.utf16Length o.before

/-- The column behind the id. -/
def endColumn (o : Occurrence) : Nat :=
  Text.utf16Length o.before + Text.utf16Length o.id

end Occurrence

/-- The first answer of `recognise` over the places of a text. At each place it is given the text
before the place, read backwards, and the text from the place on. -/
def leftmost {α : Type} (recognise : List Char → List Char → Option α) (before : List Char) :
    List Char → Option α
  | [] => none
  | c :: rest =>
      match recognise before (c :: rest) with
      | some found => some found
      | none => leftmost recognise (c :: before) rest

/-- There is no answer when there is none at any place. -/
theorem leftmost_eq_none_iff {α : Type} {recognise : List Char → List Char → Option α}
    {before text : List Char} :
    leftmost recognise before text = none ↔
      ∀ skipped rest, rest ≠ [] → text = skipped ++ rest →
        recognise (skipped.reverse ++ before) rest = none := by
  induction text generalizing before with
  | nil =>
      refine ⟨fun _ skipped rest hne h => ?_, fun _ => rfl⟩
      exact absurd (List.append_eq_nil_iff.1 h.symm).2 hne
  | cons c text ih =>
      constructor
      · intro h skipped rest hne hsplit
        cases hc : recognise before (c :: text) with
        | some found => simp [leftmost, hc] at h
        | none =>
            simp only [leftmost, hc] at h
            cases skipped with
            | nil =>
                have hrest : rest = c :: text := hsplit.symm
                simpa [hrest] using hc
            | cons d skipped =>
                obtain ⟨rfl, hrest⟩ := List.cons.inj hsplit
                simpa using ih.1 h skipped rest hne hrest
      · intro h
        have hc : recognise before (c :: text) = none := by
          simpa using h [] (c :: text) (by simp) rfl
        simp only [leftmost, hc]
        refine ih.2 fun skipped rest hne hsplit => ?_
        simpa using h (c :: skipped) rest hne (by rw [hsplit]; rfl)

/-- The answer is the one at some place before which there is none. -/
theorem leftmost_eq_some_iff {α : Type} {recognise : List Char → List Char → Option α}
    {before text : List Char} {found : α} :
    leftmost recognise before text = some found ↔
      ∃ skipped rest, rest ≠ [] ∧ text = skipped ++ rest ∧
        recognise (skipped.reverse ++ before) rest = some found ∧
        ∀ earlier later, earlier.length < skipped.length → text = earlier ++ later →
          recognise (earlier.reverse ++ before) later = none := by
  induction text generalizing before with
  | nil =>
      constructor
      · intro h
        simp [leftmost] at h
      · rintro ⟨skipped, rest, hne, h, -⟩
        exact absurd (List.append_eq_nil_iff.1 h.symm).2 hne
  | cons c text ih =>
      constructor
      · intro h
        cases hc : recognise before (c :: text) with
        | some here =>
            simp only [leftmost, hc, Option.some.injEq] at h
            exact ⟨[], c :: text, by simp, rfl, by simp [hc, h], by simp⟩
        | none =>
            simp only [leftmost, hc] at h
            obtain ⟨skipped, rest, hne, hsplit, hfound, hnone⟩ := ih.1 h
            refine ⟨c :: skipped, rest, hne, by rw [hsplit]; rfl, by simpa using hfound, ?_⟩
            intro earlier later hlt hearlier
            cases earlier with
            | nil =>
                have hlater : later = c :: text := hearlier.symm
                simpa [hlater] using hc
            | cons d earlier =>
                obtain ⟨rfl, hlater⟩ := List.cons.inj hearlier
                simpa using hnone earlier later (by simpa using hlt) hlater
      · rintro ⟨skipped, rest, hne, hsplit, hfound, hnone⟩
        cases skipped with
        | nil =>
            have hrest : c :: text = rest := by simpa using hsplit
            subst hrest
            have hc : recognise before (c :: text) = some found := by simpa using hfound
            simp [leftmost, hc]
        | cons d skipped =>
            obtain ⟨rfl, htext⟩ := List.cons.inj hsplit
            have hc : recognise before (c :: text) = none := by
              simpa using hnone [] (c :: text) (by simp) rfl
            simp only [leftmost, hc]
            refine ih.2 ⟨skipped, rest, hne, htext, by simpa using hfound, ?_⟩
            intro earlier later hlt hearlier
            simpa using hnone (c :: earlier) later (by simpa using hlt) (by rw [hearlier]; rfl)

end FeatureRefs
