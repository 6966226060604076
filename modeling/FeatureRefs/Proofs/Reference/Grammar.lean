import Mathlib.Data.List.Forall2
import Mathlib.Tactic.SplitIfs
import FeatureRefs.Reference.Find

/-!
# The grammar of references

What a reference is, said without a search. A line is cut into pieces, and the pieces are told what
they have to be:

* a hot phrase is `baseline/` up to case, not in the middle of a word, and the longest run of id
  letters behind it that ends at the edge of a word;
* an attribute is `<baseline-status` up to case, then text without a closing bracket, then
  `featureId=` up to case and at most one quote, and the whole run of id letters behind it. Of
  several `featureId=` of a tag the last one counts.

`ReferenceAt` puts a reference at a place of a line, and `IsFirstReference` says that no other place
comes before. Nothing here says how a reference is found.
-/

namespace FeatureRefs

/-! ## Letters -/

/-- Two characters that differ in case at most. The long s is an s, and the Kelvin sign is a k. -/
def SameUpToCase (c d : Char) : Prop :=
  c.toLower = d.toLower ∨
    (c ∈ ['s', 'S', 'ſ'] ∧ d ∈ ['s', 'S', 'ſ']) ∨
    (c ∈ ['k', 'K', '\u212a'] ∧ d ∈ ['k', 'K', '\u212a'])

/-- The letters of ids: those of ASCII in either case, the hyphen, the long s and the Kelvin
sign. -/
def IsIdLetter (c : Char) : Prop :=
  ('a' ≤ c ∧ c ≤ 'z') ∨ ('A' ≤ c ∧ c ≤ 'Z') ∨ c = '-' ∨ c = 'ſ' ∨ c = '\u212a'

/-- A text that is a keyword up to case. -/
def Spells (keyword : String) (text : List Char) : Prop :=
  List.Forall₂ SameUpToCase keyword.toList text

theorem le_iff_toNat_le {a b : Char} : a ≤ b ↔ a.toNat ≤ b.toNat := Iff.rfl

theorem toNat_toLower (c : Char) :
    c.toLower.toNat = if 65 ≤ c.toNat ∧ c.toNat ≤ 90 then c.toNat + 32 else c.toNat := by
  have hupper : (c.val ≥ 'A'.val ∧ c.val ≤ 'Z'.val) ↔ (65 ≤ c.toNat ∧ c.toNat ≤ 90) := by
    simp [UInt32.le_iff_toNat_le]
  unfold Char.toLower
  by_cases h : 65 ≤ c.toNat ∧ c.toNat ≤ 90
  · rw [dif_pos (hupper.2 h), if_pos h, ← Char.toNat_val, UInt32.toNat_add, Char.toNat_val]
    have hshift : ('a'.val - 'A'.val).toNat = 32 := by decide
    rw [hshift]
    omega
  · rw [dif_neg (mt hupper.1 h), if_neg h]

theorem toNat_foldCase (c : Char) :
    (foldCase c).toNat =
      if c.toNat = 0x17f then 0x73 else if c.toNat = 0x212a then 0x6b else c.toLower.toNat := by
  have hs : c = 'ſ' ↔ c.toNat = 0x17f := by
    rw [← Char.toNat_inj]
    rfl
  have hk : c = '\u212a' ↔ c.toNat = 0x212a := by
    rw [← Char.toNat_inj]
    rfl
  simp only [foldCase, hs, hk]
  split
  · rfl
  · split
    · rfl
    · rfl

/-- Folding brings together exactly the characters that differ in case at most. -/
theorem foldCase_eq_iff {c d : Char} : foldCase c = foldCase d ↔ SameUpToCase c d := by
  unfold SameUpToCase
  simp only [← Char.toNat_inj, toNat_foldCase, toNat_toLower, List.mem_cons, List.not_mem_nil,
    or_false, Char.reduceToNat]
  generalize c.toNat = m, d.toNat = n
  split_ifs <;> omega

theorem isIdChar_iff {c : Char} : isIdChar c = true ↔ IsIdLetter c := by
  unfold isIdChar IsIdLetter
  simp only [Bool.or_eq_true, Bool.and_eq_true, decide_eq_true_eq, beq_iff_eq, le_iff_toNat_le,
    ← Char.toNat_inj, toNat_foldCase, toNat_toLower, Char.reduceToNat]
  generalize c.toNat = m
  split_ifs <;> omega

theorem spells_iff {keyword : String} {text : List Char} :
    Spells keyword text ↔ text.map foldCase = keyword.toList.map foldCase := by
  have hfold : SameUpToCase = fun c d => foldCase c = foldCase d := by
    funext c d
    exact propext foldCase_eq_iff.symm
  rw [Spells, hfold, eq_comm, ← List.forall₂_eq_eq_eq, List.forall₂_map_left_iff,
    List.forall₂_map_right_iff]

theorem Spells.length_eq {keyword : String} {text : List Char} (h : Spells keyword text) :
    text.length = keyword.toList.length :=
  (List.Forall₂.length_eq h).symm

/-- What is dropped is a spelling of the keyword. -/
theorem dropKeyword?_eq_some_iff_spells {keyword : String} {text rest : List Char} :
    dropKeyword? keyword.toList text = some rest ↔
      ∃ head, text = head ++ rest ∧ Spells keyword head := by
  simp only [dropKeyword?_eq_some_iff, spells_iff]

/-! ## Edges of words -/

/-- A text whose last character is a word character. -/
def EndsInWord (text : List Char) : Prop :=
  ∃ c, text.getLast? = some c ∧ Unicode.isWord c = true

/-- A text whose first character is a word character. -/
def BeginsWithWord (text : List Char) : Prop :=
  ∃ c, text.head? = some c ∧ Unicode.isWord c = true

/-- Between two texts there is a word character on exactly one side. -/
def AtWordEdge (before after : List Char) : Prop :=
  ¬ (EndsInWord before ↔ BeginsWithWord after)

theorem atWordEdge_iff_of_endsInWord {before after : List Char} (h : EndsInWord before) :
    AtWordEdge before after ↔ ¬ BeginsWithWord after := by
  rw [AtWordEdge, iff_true_left h]

theorem atWordEdge_iff_of_not_endsInWord {before after : List Char} (h : ¬ EndsInWord before) :
    AtWordEdge before after ↔ BeginsWithWord after := by
  rw [AtWordEdge, iff_false_left h, not_not]

theorem atWordEdge_iff_of_beginsWithWord {before after : List Char} (h : BeginsWithWord after) :
    AtWordEdge before after ↔ ¬ EndsInWord before := by
  rw [AtWordEdge, iff_true_right h]

theorem atWordEdge_iff_of_not_beginsWithWord {before after : List Char}
    (h : ¬ BeginsWithWord after) :
    AtWordEdge before after ↔ EndsInWord before := by
  rw [AtWordEdge, iff_false_right h, not_not]

theorem startsWithWord_iff {text : List Char} :
    Unicode.startsWithWord text = true ↔ BeginsWithWord text := by
  cases text with
  | nil => simp [BeginsWithWord]
  | cons c text => simp [BeginsWithWord]

theorem startsWithWord_reverse_iff {text : List Char} :
    Unicode.startsWithWord text.reverse = true ↔ EndsInWord text := by
  rw [startsWithWord_iff, BeginsWithWord, EndsInWord, List.head?_reverse]

/-- The boundaries that the search looks for are the edges of words. -/
theorem isBoundary_iff {before after : List Char} :
    Unicode.isBoundary before.reverse after = true ↔ AtWordEdge before after := by
  rw [Unicode.isBoundary, bne_iff_ne, Ne, Bool.eq_iff_iff, startsWithWord_reverse_iff,
    startsWithWord_iff, AtWordEdge]

/-! ## Hot phrases -/

/-- A run of id letters that ends at the edge of a word. -/
structure IsBounded (id after : List Char) : Prop where
  ne_nil : id ≠ []
  letters : ∀ c ∈ id, IsIdLetter c
  edge : AtWordEdge id after

/-- The longest such run at the head of a text. -/
structure IsPhraseId (id after : List Char) : Prop where
  bounded : IsBounded id after
  longest : ∀ more rest, after = more ++ rest → more ≠ [] → ¬ IsBounded (id ++ more) rest

/-- A hot phrase: what stands before it on its line, its keyword, its id, and what stands behind. -/
structure IsHotPhrase (before keyword id after : List Char) : Prop where
  spelled : Spells "baseline/" keyword
  outside : ¬ EndsInWord before
  isPhraseId : IsPhraseId id after

/-! ## Attributes -/

/-- `featureId=` up to case with at most one quote behind it. -/
def LeadsToId (lead : List Char) : Prop :=
  ∃ keyword quote, lead = keyword ++ quote ∧ Spells "featureId=" keyword ∧
    quote ∈ [[], ['\''], ['"']]

/-- A text that begins with an id letter. -/
def BeginsWithIdLetter (text : List Char) : Prop :=
  ∃ c, text.head? = some c ∧ IsIdLetter c

/-- An id in the text behind the head of a tag that is still open there: the text before
`featureId=`, `featureId=` with its quote, and what the id begins. -/
structure IsOpenValue (text gap lead value : List Char) : Prop where
  split : text = gap ++ lead ++ value
  isOpen : '>' ∉ gap
  leads : LeadsToId lead
  begins : BeginsWithIdLetter value

/-- A whole run of id letters. -/
structure IsIdRun (id after : List Char) : Prop where
  ne_nil : id ≠ []
  letters : ∀ c ∈ id, IsIdLetter c
  ends : ¬ BeginsWithIdLetter after

/-- An attribute: the head of its tag, the text up to `featureId=`, `featureId=` with its quote, the
id, and what stands behind it. -/
structure IsAttribute (tag gap lead id after : List Char) : Prop where
  spelled : Spells "<baseline-status" tag
  isOpen : '>' ∉ gap
  leads : LeadsToId lead
  run : IsIdRun id after
  last : ∀ gap' lead' value, IsOpenValue (gap ++ lead ++ (id ++ after)) gap' lead' value →
    gap'.length ≤ gap.length

/-! ## References on a line -/

/-- A reference on a line: the place where it begins, its form, the text of the line up to its id,
and its id. -/
inductive ReferenceAt (line : List Char) : Nat → ReferenceForm → List Char → List Char → Prop where
  | ofHotPhrase {before keyword id after : List Char}
      (split : line = before ++ (keyword ++ (id ++ after)))
      (isHotPhrase : IsHotPhrase before keyword id after) :
      ReferenceAt line before.length .hotPhrase (before ++ keyword) id
  | ofAttribute {before tag gap lead id after : List Char}
      (split : line = before ++ (tag ++ (gap ++ lead ++ (id ++ after))))
      (isAttribute : IsAttribute tag gap lead id after) :
      ReferenceAt line before.length .attribute (before ++ (tag ++ (gap ++ lead))) id

/-- The reference of a line before which no other begins. -/
def IsFirstReference (line : List Char) (form : ReferenceForm) (lead id : List Char) : Prop :=
  ∃ start, ReferenceAt line start form lead id ∧
    ∀ start' form' lead' id', ReferenceAt line start' form' lead' id' → start ≤ start'

end FeatureRefs
