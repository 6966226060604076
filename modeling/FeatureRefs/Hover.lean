import FeatureRefs.Text.Lines
import FeatureRefs.Reference.Find
import FeatureRefs.Registry.Support
import FeatureRefs.Registry.Search

/-!
# Hovers

A position on the id of a registered feature has a hover: the name of the feature, its description,
its status and its support by browsers, in Markdown. Only the beginning of a line is looked at.
-/

namespace FeatureRefs

/-- How many characters of a line are looked at. -/
def hoverScanLength : Nat := 100

/-- How a hover is written. -/
structure HoverStyle where
  /-- Where the images of the icons are; without it icons are written as text. -/
  iconBaseUri : Option String := none
deriving Repr, DecidableEq

/-- What is shown at a position. -/
structure Hover where
  markdown : String
  range : Range
  featureId : String
  status : Status
deriving Repr, DecidableEq

namespace Hover

/-- A name as a heading. A leading angle bracket would open a tag. -/
def heading (name : String) : String :=
  match name.toList with
  | '<' :: rest => "&lt;" ++ String.ofList rest
  | _ => name

/-- An icon, as an image or as text. -/
def iconMarkup (style : HoverStyle) (icon : Icon) : String :=
  match style.iconBaseUri with
  | some base =>
      "<img src=\"" ++ Unicode.trimEnd (· == '/') base ++ "/baseline-" ++ icon.name ++
        "-icon.svg\" alt=\"Baseline " ++ icon.name ++ "\" height=\"16\" />"
  | none => "`[" ++ icon.name ++ "]`"

/-- A row of the support table. -/
def supportRow (cell : SupportCell) : String :=
  let support :=
    match cell.version, cell.releaseDate with
    | some version, some date => version ++ " (" ++ date ++ ")"
    | some version, none => version
    | none, _ => unsupportedMark
  "| " ++ cell.browserName ++ " | " ++ support ++ " |\n"

/-- What is said of a feature. -/
def markdownOf (registry : Registry) (style : HoverStyle) (feature : Feature) : String :=
  let description :=
    if feature.descriptionHtml.isEmpty then "" else Unicode.trim feature.descriptionHtml ++ "\n\n"
  let rows := String.join ((registry.supportCells feature).map supportRow)
  "### " ++ heading feature.name ++ "\n\n" ++ description ++
    iconMarkup style feature.status.icon ++ " **Baseline:** " ++ feature.status.label ++ "\n\n" ++
    "| Browser | Supported since |\n| --- | --- |\n" ++ rows ++
    "\n[Explore on webstatus.dev](" ++ exploreUrl feature.id ++ ")"

end Hover

/-- The reference at a position, if its id covers the position. -/
def referenceUnder (text : String) (position : Position) : Option Reference := do
  let line ← (Text.lines text.toList)[position.line]?
  let reference ← firstReference (line.take hoverScanLength) position.line
  if reference.containsColumn position.character then some reference else none

/-- The hover at a position. -/
def hover (text : String) (position : Position) (registry : Registry) (style : HoverStyle) :
    Option Hover := do
  let reference ← referenceUnder text position
  let feature ← registry.get? reference.featureId
  return {
    markdown := Hover.markdownOf registry style feature
    range := reference.range
    featureId := reference.featureId
    status := feature.status }

end FeatureRefs
