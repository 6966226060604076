/-!
# Styled text

A terminal switches a style on and off by control sequences around the text. A style put around an
already styled text adds to it.
-/

namespace FeatureRefs.Terminal

/-- The colours in use. -/
inductive Colour where
  | red
  | green
  | yellow
  | blue
  | cyan
deriving Repr, DecidableEq

/-- The number of a foreground colour. -/
def Colour.code : Colour → String
  | red => "31"
  | green => "32"
  | yellow => "33"
  | blue => "34"
  | cyan => "36"

/-- The control sequence of a style number. -/
def control (code : String) : String :=
  "\x1b[" ++ code ++ "m"

/-- Bold text. -/
def bold (text : String) : String :=
  control "1" ++ text ++ control "0"

/-- Dimmed text. -/
def dimmed (text : String) : String :=
  control "2" ++ text ++ control "0"

/-- Coloured text. -/
def coloured (colour : Colour) (text : String) : String :=
  control colour.code ++ text ++ control "39"

/-- Bold and coloured text. -/
def strong (colour : Colour) (text : String) : String :=
  bold (coloured colour text)

end FeatureRefs.Terminal
