/-!
# Tables of code points

A property of characters beyond ASCII is written down as a list of inclusive ranges of code points.
The ranges of every table of this library are in increasing order and do not touch; nothing here
relies on that.
-/

namespace FeatureRefs.Unicode

/-- Inclusive ranges of code points. -/
abbrev CodeRanges := List (Nat × Nat)

/-- A code point lies in a table when some range covers it. -/
def CodeRanges.covers (table : CodeRanges) (code : Nat) : Bool :=
  table.any fun range => range.1 ≤ code && code ≤ range.2

/-- Code points from `first` to `last` in steps of `step`, each of which maps to itself plus
`offset`. -/
structure CodeRun where
  first : Nat
  last : Nat
  step : Nat
  offset : Int
deriving Repr, DecidableEq

/-- The image of a code point under a run, if the run has it. -/
def CodeRun.image? (run : CodeRun) (code : Nat) : Option Nat :=
  if run.first ≤ code ∧ code ≤ run.last ∧ (code - run.first) % run.step = 0 then
    some (code + run.offset).toNat
  else
    none

theorem CodeRanges.covers_iff {table : CodeRanges} {code : Nat} :
    table.covers code = true ↔ ∃ range ∈ table, range.1 ≤ code ∧ code ≤ range.2 := by
  simp [covers]

end FeatureRefs.Unicode
