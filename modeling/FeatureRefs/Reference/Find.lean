import FeatureRefs.Unicode.Case
import FeatureRefs.Unicode.Word
import FeatureRefs.Reference.Alphabet
import FeatureRefs.Reference.Basic

/-!
# Recognising references

A hot phrase is the keyword `baseline/` at the beginning of a word, followed by an id. Its id is the
longest run of id characters that ends at a word boundary. An attribute is the last `featureId=` of a
`<baseline-status` tag that is followed by an id, with or without a quote before it. Its id is the
longest run of id characters. Of all places on a line the first one counts.
-/

namespace FeatureRefs

/-- The longest non-empty run of id characters at the head of a text that ends at a word boundary. -/
def boundedId? : List Char → Option (List Char)
  | [] => none
  | c :: rest =>
      if isIdChar c then
        -- A longer run wins; only where none ends at a boundary may the run end here.
        match boundedId? rest with
        | some id => some (c :: id)
        | none => if Unicode.isBoundary [c] rest then some [c] else none
      else
        none

/-- A hot phrase that begins right here. -/
def hotPhraseAt? (before text : List Char) : Option Occurrence :=
  if Unicode.isBoundary before text then
    match dropKeyword? hotPhraseKeyword text with
    | some rest => (boundedId? rest).map fun id => ⟨text.take hotPhraseKeyword.length, id⟩
    | none => none
  else
    none

/-- An id right behind `featureId=` and, if there is one, a quote. -/
def attributeValueAt? (text : List Char) : Option Occurrence :=
  match dropKeyword? featureIdKeyword text with
  | some rest =>
      let (quote, value) := splitQuote rest
      match value.takeWhile isIdChar with
      | [] => none
      | c :: id => some ⟨text.take featureIdKeyword.length ++ quote, c :: id⟩
  | none => none

/-- The last place of an open tag at which `recognise` succeeds. The tag is open up to the first
closing bracket. -/
def lastInTag (recognise : List Char → Option Occurrence) : List Char → Option Occurrence
  | [] => recognise []
  | c :: rest =>
      -- A later place wins over this one.
      match if c = '>' then none else lastInTag recognise rest with
      | some o => some { o with before := c :: o.before }
      | none => recognise (c :: rest)

/-- What `recognise` finds last in a status tag that begins right here. -/
def statusTagAt? (recognise : List Char → Option Occurrence) (text : List Char) :
    Option Occurrence :=
  match dropKeyword? statusTagKeyword text with
  | some rest =>
      (lastInTag recognise rest).map fun o =>
        { o with before := text.take statusTagKeyword.length ++ o.before }
  | none => none

/-- An attribute whose tag begins right here. -/
def attributeAt? (text : List Char) : Option Occurrence :=
  statusTagAt? attributeValueAt? text

/-- What `recognise` finds right here, with the number of characters before it. -/
def placedAt? (recognise : List Char → List Char → Option Occurrence) (before text : List Char) :
    Option (Nat × Occurrence) :=
  (recognise before text).map fun o => (before.length, o.after before)

/-- The first hot phrase of a text, with the number of characters before it. -/
def firstHotPhrase? (text : List Char) : Option (Nat × Occurrence) :=
  leftmost (placedAt? hotPhraseAt?) [] text

/-- The first attribute of a text, with the number of characters before its tag. -/
def firstAttribute? (text : List Char) : Option (Nat × Occurrence) :=
  leftmost (placedAt? fun _ rest => attributeAt? rest) [] text

/-- Of a hot phrase and an attribute that are found, the one that begins first. If they begin at the same place it
is the hot phrase. -/
def earlier : Option (Nat × Occurrence) → Option (Nat × Occurrence) →
    Option (Occurrence × ReferenceForm)
  | some (start, o), some (start', o') =>
      if start' < start then some (o', .attribute) else some (o, .hotPhrase)
  | some (_, o), none => some (o, .hotPhrase)
  | none, some (_, o) => some (o, .attribute)
  | none, none => none

/-- The reference that an occurrence on a numbered line stands for. -/
def Occurrence.toReference (o : Occurrence) (form : ReferenceForm) (line : Nat) : Reference where
  line := line
  startColumn := o.startColumn
  endColumn := o.endColumn
  featureId := Unicode.lowercase (String.ofList o.id)
  form := form

/-- The first reference of a line. Each form is searched for by itself. -/
def firstReference (text : List Char) (line : Nat) : Option Reference :=
  (earlier (firstHotPhrase? text) (firstAttribute? text)).map fun (o, form) => o.toReference form line

end FeatureRefs
