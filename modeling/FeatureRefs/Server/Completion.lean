import FeatureRefs.Registry.Search
import FeatureRefs.Server.Basic

/-!
# Completion

At a place for an id the features are offered that what is typed so far finds, the best first. Each
replaces what is typed. Editors sort by text, so each item carries its rank in digits.
-/

namespace FeatureRefs

/-- A feature that is offered at a place for an id. -/
structure CompletionItem where
  featureId : String
  name : String
  /-- What is said of the feature, in Markdown. -/
  documentation : String
  /-- The text by which an editor sorts. -/
  sortText : String
  /-- What is replaced. -/
  range : Range
  /-- What it is replaced by. -/
  newText : String
deriving Repr, DecidableEq

/-- The width of a rank as text. -/
def rankWidth : Nat := 5

/-- A rank as text, with zeros in front. -/
def rankText (rank : Nat) : String :=
  let digits := Nat.toDigits 10 rank
  String.ofList (List.replicate (rankWidth - digits.length) '0' ++ digits)

/-- The stretch between a trigger and the cursor. -/
def Trigger.range (t : Trigger) : Range :=
  ⟨⟨t.line, t.column⟩, ⟨t.line, t.cursor⟩⟩

/-- What is said of a candidate that is offered. -/
def Candidate.documentation (c : Candidate) : String :=
  "**" ++ c.name ++ "**\n\n" ++ c.descriptionHtml ++ "\n\n*" ++ c.summary ++ "*"

/-- The item of a candidate at a rank. -/
def CompletionItem.ofCandidate (trigger : Trigger) (candidate : Candidate) (rank : Nat) :
    CompletionItem where
  featureId := candidate.id
  name := candidate.name
  documentation := candidate.documentation
  sortText := rankText rank
  range := trigger.range
  newText := (trigger.insert candidate.id).text

/-- What is offered at a trigger. -/
def completionItems (trigger : Trigger) (registry : Registry) : List CompletionItem :=
  (registry.search trigger.typed).zipIdx.map fun (candidate, rank) =>
    .ofCandidate trigger candidate rank

/-- What is offered at a position of a document. -/
def Server.complete (server : Server) (uri : String) (position : Position) :
    List CompletionItem :=
  match server.documents.completionTrigger uri position with
  | none => []
  | some trigger => completionItems trigger server.registry

end FeatureRefs
