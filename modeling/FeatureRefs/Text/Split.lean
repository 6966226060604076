/-!
# Splitting text

A text is split at every character that satisfies a test, so there is one part more than there are such
characters, and parts may be empty.
-/

namespace FeatureRefs.Text

/-- What stands between the characters of a text that satisfy `p`. -/
def split (p : Char → Bool) : List Char → List (List Char)
  | [] => [[]]
  | c :: rest =>
      if p c then [] :: split p rest
      else
        match split p rest with
        | [] => [[c]]
        | part :: others => (c :: part) :: others

/-- A text cut before the first character that satisfies `p`. -/
def cutBefore (p : Char → Bool) (text : List Char) : List Char × List Char :=
  (text.takeWhile (!p ·), text.dropWhile (!p ·))

/-- A text cut at the first mark, which belongs to neither side. -/
def cutAt (mark : Char) (text : List Char) : List Char × Option (List Char) :=
  match cutBefore (· == mark) text with
  | (before, _ :: after) => (before, some after)
  | (before, []) => (before, none)

@[simp] theorem cutBefore_append (p : Char → Bool) (text : List Char) :
    (cutBefore p text).1 ++ (cutBefore p text).2 = text := by
  simp [cutBefore]

end FeatureRefs.Text
