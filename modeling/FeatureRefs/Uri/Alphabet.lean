/-!
# Characters of the parts of a URI

Which characters stand as such in a part; all others are percent encoded there.
-/

namespace FeatureRefs.Uri

/-- The printable ASCII characters. -/
def isPlain (c : Char) : Bool :=
  0x20 ≤ c.toNat && c.toNat < 0x7F

/-- The characters that stand as such in a fragment. -/
def isPlainInFragment (c : Char) : Bool :=
  isPlain c && c ∉ [' ', '"', '<', '>', '`']

/-- The characters that stand as such in a path. -/
def isPlainInPath (c : Char) : Bool :=
  isPlainInFragment c && c ∉ ['#', '?', '\x7b', '\x7d']

/-- The characters of a file name that stand as such in a path. -/
def isPlainInFileName (c : Char) : Bool :=
  isPlainInPath c && c ∉ ['/', '%', '\\']

/-- The characters that stand as such in a user or a password. -/
def isPlainInAccount (c : Char) : Bool :=
  isPlainInPath c && c ∉ ['/', ':', ';', '=', '@', '[', '\\', ']', '^', '|']

/-- The characters that stand as such in a query. A quote does where the scheme is not special. -/
def isPlainInQuery (special : Bool) (c : Char) : Bool :=
  isPlain c && c ∉ [' ', '"', '#', '<', '>'] && !(special && c == '\'')

/-- The characters that must not stand in a host that is taken as it is. -/
def isRefusedInHost (c : Char) : Bool :=
  c ∈ ['\x00', '\t', '\n', '\r', ' ', '#', '/', ':', '<', '>', '?', '@', '[', '\\', ']', '^', '|']

end FeatureRefs.Uri
