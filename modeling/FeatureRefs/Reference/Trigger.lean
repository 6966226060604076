import FeatureRefs.Reference.Find

/-!
# Places where an id may be inserted

A cursor that stands behind `baseline/`, or behind `featureId=` in an open status tag, is at a place
where an id belongs. What is already typed of the id stands between the trigger and the cursor and
consists of id characters only. A cursor that splits a surrogate pair is moved behind the pair, and
one past the end of the line to its end.
-/

namespace FeatureRefs

/-- A place for a feature id. -/
structure Trigger where
  line : Nat
  /-- The column at which the id starts. -/
  column : Nat
  /-- The column of the cursor. -/
  cursor : Nat
  /-- What stands between the two. -/
  typed : String
  form : ReferenceForm
deriving Repr, DecidableEq

/-- A text to put into a line. -/
structure Insertion where
  line : Nat
  column : Nat
  text : String
deriving Repr, DecidableEq

/-- Puts an id at a trigger. -/
def Trigger.insert (t : Trigger) (featureId : String) : Insertion where
  line := t.line
  column := t.column
  text := featureId

/-- A hot phrase that begins right here and is typed up to the end of the text. -/
def hotPhraseTriggerAt? (before text : List Char) : Option Occurrence :=
  if Unicode.isBoundary before text then
    match dropKeyword? hotPhraseKeyword text with
    | some rest =>
        if rest.all isIdChar then some ⟨text.take hotPhraseKeyword.length, rest⟩ else none
    | none => none
  else
    none

/-- A value that begins right here and is typed up to the end of the text. -/
def attributeValueTriggerAt? (text : List Char) : Option Occurrence :=
  match dropKeyword? featureIdKeyword text with
  | some rest =>
      let (quote, value) := splitQuote rest
      if value.all isIdChar then
        some ⟨text.take featureIdKeyword.length ++ quote, value⟩
      else
        none
  | none => none

/-- An attribute whose tag begins right here and whose value is typed up to the end of the text. -/
def attributeTriggerAt? (text : List Char) : Option Occurrence :=
  statusTagAt? attributeValueTriggerAt? text

/-- The hot phrase that a text ends in. -/
def hotPhraseTrigger? (text : List Char) : Option Occurrence :=
  leftmost (fun before rest => (hotPhraseTriggerAt? before rest).map (·.after before)) [] text

/-- The attribute that a text ends in. -/
def attributeTrigger? (text : List Char) : Option Occurrence :=
  leftmost (fun before rest => (attributeTriggerAt? rest).map (·.after before)) [] text

/-- What a text up to the cursor ends in, and in which form. -/
def triggerOccurrence? (text : List Char) : Option (Occurrence × ReferenceForm) :=
  match hotPhraseTrigger? text with
  | some o => some (o, .hotPhrase)
  | none => (attributeTrigger? text).map fun o => (o, .attribute)

/-- The trigger at a cursor, if an id or a part of one belongs there. -/
def completionTrigger (text : List Char) (line column : Nat) : Option Trigger :=
  -- Only what stands before the cursor matters.
  let cut := Text.byteOffset text column
  (triggerOccurrence? (Text.takeBytes cut text)).map fun (o, form) =>
    { line := line
      column := o.startColumn
      cursor := Text.utf16Column text cut
      typed := String.ofList o.id
      form := form }

/-- The trigger at a cursor right behind it, with nothing typed. -/
def insertionTrigger (text : List Char) (line column : Nat) : Option Trigger :=
  (completionTrigger text line column).filter (·.typed.isEmpty)

end FeatureRefs
