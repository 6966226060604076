import FeatureRefs.Text.Hex
import FeatureRefs.Unicode.Mark
import FeatureRefs.Unicode.Printable

/-!
# Quoted text

A text that is shown to a reader stands between quotes, so that its ends can be seen. Quotes, backslashes,
marks and characters that do not print are escaped in it.
-/

namespace FeatureRefs.Text

/-- A code point between braces behind a backslash. -/
def codeEscape (c : Char) : List Char :=
  ['\\', 'u', '\x7b'] ++ hexDigits c.toNat ++ ['\x7d']

/-- A character inside quotes. -/
def quotedChar : Char → List Char
  | '"' => ['\\', '"']
  | '\\' => ['\\', '\\']
  | '\n' => ['\\', 'n']
  | '\r' => ['\\', 'r']
  | '\t' => ['\\', 't']
  | '\x00' => ['\\', '0']
  | c => if Unicode.isPrintable c && !Unicode.isNonspacing c then [c] else codeEscape c

/-- A text between quotes. -/
def quoted (text : String) : String :=
  String.ofList (['"'] ++ text.toList.flatMap quotedChar ++ ['"'])

end FeatureRefs.Text
