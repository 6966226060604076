import FeatureRefs.Files.Disk
import FeatureRefs.Main
import FeatureRefs.Proofs.Reference.Grammar
import FeatureRefs.Proofs.Reference.Recognition
import FeatureRefs.Proofs.Reference.First
import FeatureRefs.Proofs.Session.Currency
import FeatureRefs.Proofs.Reference.Cut
import FeatureRefs.Proofs.Hover.Agreement
import FeatureRefs.Proofs.Server.Coherence
import FeatureRefs.Proofs.Trigger.Agreement
import FeatureRefs.Proofs.Trigger.Filling
import FeatureRefs.Proofs.Completion.Acceptance
import FeatureRefs.Proofs.Validation.Spelling
import FeatureRefs.Proofs.Files.Plain
import FeatureRefs.Proofs.Scan.Reported
import FeatureRefs.Proofs.Session.History
import FeatureRefs.Proofs.Todo.Marker
import FeatureRefs.Proofs.Todo.Agreement
import FeatureRefs.Proofs.Server.Scanning
import FeatureRefs.Proofs.Glob.Matching
import FeatureRefs.Proofs.Glob.Reading
import FeatureRefs.Proofs.Scan.Pruning
import FeatureRefs.Proofs.Validation.Places
import FeatureRefs.Proofs.Todo.Page
import FeatureRefs.Proofs.Todo.Table
import FeatureRefs.Proofs.Registry.Reloading
import FeatureRefs.Proofs.Registry.Enumeration
import FeatureRefs.Proofs.Registry.Ranking
import FeatureRefs.Proofs.Completion.Narrowing
import FeatureRefs.Proofs.Text.Findings
import FeatureRefs.Proofs.Text.LineEndings
import FeatureRefs.Proofs.Todo.Cut
import FeatureRefs.Proofs.Reference.Whole
import FeatureRefs.Proofs.CommandLine.Check
import FeatureRefs.Proofs.Trigger.Placement
import FeatureRefs.Proofs.Reference.LetterCase
import FeatureRefs.Proofs.Scan.IgnoreLines
import FeatureRefs.Proofs.Json.Rewriting
import FeatureRefs.Proofs.Json.Reordering
import FeatureRefs.Proofs.Registry.Rewriting
import FeatureRefs.Proofs.Registry.Reordering
import FeatureRefs.Proofs.Registry.Answers
import FeatureRefs.Proofs.Text.Lowercase
import FeatureRefs.Proofs.Todo.Extensions
import FeatureRefs.Proofs.Files.Parent
import FeatureRefs.Proofs.Project.Root
import FeatureRefs.Proofs.Server.Setup
import FeatureRefs.Proofs.Completion.Order
import FeatureRefs.Proofs.Text.Rounding
