/-!
# Similarity of texts

The Jaro similarity of two texts lies between 0 and 1. Two equal characters match when they stand at
most half the longer length apart; each character matches once, the first free partner being taken.
The similarity is the mean of the matched shares of both texts and of the share of matches that are
in the same order on both sides. Above 0.7 a common beginning of up to four characters raises it, a
tenth of what is missing to 1 for each.
-/

namespace FeatureRefs.Similarity

/-- Takes the first free partner of `c` among the characters whose distance from the start of the
list is in reach: at least `low` and less than `high`. A partner is free as long as its mark is not
set. -/
def takePartner? (c : Char) : (low high : Nat) → List (Char × Bool) → Option (List (Char × Bool))
  | _, 0, _ => none
  | _, _, [] => none
  | low, high + 1, (d, taken) :: rest =>
      if low = 0 ∧ c = d ∧ taken = false then
        some ((d, true) :: rest)
      else
        (takePartner? c (low - 1) high rest).map ((d, taken) :: ·)

/-- Matches the characters of one text, from position `i` on, with those of the other. The answer
marks what is matched in both. -/
def matchFrom (reach i : Nat) : List Char → List (Char × Bool) →
    List (Char × Bool) × List (Char × Bool)
  | [], others => ([], others)
  | c :: rest, others =>
      match takePartner? c (i - reach) (i + reach + 1) others with
      | some others =>
          let (marked, others) := matchFrom reach (i + 1) rest others
          ((c, true) :: marked, others)
      | none =>
          let (marked, others) := matchFrom reach (i + 1) rest others
          ((c, false) :: marked, others)

/-- The marked characters, in order. -/
def matched (marked : List (Char × Bool)) : List Char :=
  (marked.filter (·.2)).map (·.1)

/-- The number of places at which two lists differ. -/
def differences (s t : List Char) : Nat :=
  ((s.zip t).filter fun p => p.1 != p.2).length

/-- The Jaro similarity. -/
def jaro (s t : List Char) : Float :=
  if s.isEmpty && t.isEmpty then 1
  else if s.isEmpty || t.isEmpty then 0
  else
    let reach := max s.length t.length / 2 - 1
    let (left, right) := matchFrom reach 0 s (t.map (·, false))
    let common := matched left
    let m := common.length
    let transpositions := differences common (matched right) / 2
    if m = 0 then 0
    else
      (m.toFloat / s.length.toFloat + m.toFloat / t.length.toFloat +
        (m - transpositions).toFloat / m.toFloat) / 3

/-- The length of the common beginning, up to four. -/
def commonPrefix (s t : List Char) : Nat :=
  (((s.take 4).zip t).takeWhile fun p => p.1 == p.2).length

/-- The Jaro similarity, raised for a common beginning. -/
def jaroWinkler (s t : List Char) : Float :=
  let similarity := jaro s t
  if 0.7 < similarity then
    similarity + 0.1 * (commonPrefix s t).toFloat * (1 - similarity)
  else
    similarity

/-- The similarity as a rank: the greater, the more similar. Numbers that are not negative are
ordered as their representations are. -/
def rank (s t : List Char) : Nat :=
  (jaroWinkler s t).toBits.toNat

end FeatureRefs.Similarity
