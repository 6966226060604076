/-!
# White space

The characters that count as white space, and trimming by them. The zero-width space and the byte
order mark are not among them.
-/

namespace FeatureRefs.Unicode

/-- Whether a character is white space. -/
def isBlank (c : Char) : Bool :=
  let code := c.toNat
  (9 ≤ code && code ≤ 13) || code == 0x20 || code == 0x85 || code == 0xA0 || code == 0x1680 ||
    (0x2000 ≤ code && code ≤ 0x200A) || code == 0x2028 || code == 0x2029 || code == 0x202F ||
    code == 0x205F || code == 0x3000

/-- A list without its leading and trailing elements that satisfy `p`. -/
def trimBy {α : Type} (p : α → Bool) (l : List α) : List α :=
  ((l.dropWhile p).reverse.dropWhile p).reverse

/-- Where nothing is to be trimmed the list stays as it is. -/
theorem trimBy_eq_self {α : Type} {p : α → Bool} {l : List α} (h : ∀ a ∈ l, p a = false) :
    trimBy p l = l := by
  have hdrop (xs : List α) (hxs : ∀ a ∈ xs, p a = false) : xs.dropWhile p = xs := by
    cases xs with
    | nil => rfl
    | cons a xs => simp [hxs a List.mem_cons_self]
  rw [trimBy, hdrop l h, hdrop l.reverse fun a ha => h a (List.mem_reverse.1 ha),
    List.reverse_reverse]

/-- A text without the white space around it. -/
def trim (s : String) : String :=
  String.ofList (trimBy isBlank s.toList)

/-- A text without its leading characters that satisfy `p`. -/
def trimStart (p : Char → Bool) (s : String) : String :=
  String.ofList (s.toList.dropWhile p)

/-- A text without its trailing characters that satisfy `p`. -/
def trimEnd (p : Char → Bool) (s : String) : String :=
  String.ofList (s.toList.reverse.dropWhile p).reverse

end FeatureRefs.Unicode
