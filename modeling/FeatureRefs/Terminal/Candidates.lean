import FeatureRefs.Registry.Search
import FeatureRefs.Terminal.Style
import FeatureRefs.Text.Listing

/-!
# Search results on a terminal

The best candidates are shown, and how many more there are.
-/

namespace FeatureRefs.Terminal

/-- A candidate. -/
def renderCandidate (c : Candidate) : String :=
  strong .cyan c.id ++ " " ++ c.name ++ "\n    " ++ dimmed c.statusLabel ++ "\n    " ++
    c.description ++ "\n"

/-- The first `limit` candidates. -/
def renderCandidates (candidates : List Candidate) (limit : Nat) : String :=
  if candidates.isEmpty then
    dimmed Text.noItems ++ "\n"
  else
    let more := candidates.length - limit
    String.join ((candidates.take limit).map renderCandidate) ++
      if more = 0 then "" else dimmed ("... and " ++ toString more ++ " more") ++ "\n"

end FeatureRefs.Terminal
