import DocFinder.Tool
import DocFinder.Proofs.Attempts
import DocFinder.Proofs.FrontMatter.Block
import DocFinder.Proofs.Judgement
import DocFinder.Proofs.Selection.TwoPhases
import DocFinder.Proofs.DocumentRoot.Course
import DocFinder.Proofs.Selection.Single
import DocFinder.Proofs.DocumentRoot.Enumeration
import DocFinder.Proofs.Criterion.Grammar
import DocFinder.Proofs.Document.Memory
import DocFinder.Proofs.Selection.Course
import DocFinder.Proofs.Selection.Recording
import DocFinder.Proofs.Selection.Laziness
import DocFinder.Proofs.DocumentRoot.Distinct
import DocFinder.Proofs.Finder.Containment
import DocFinder.Proofs.Comparison.Leaves
import DocFinder.Proofs.FileTree.Names
import DocFinder.Proofs.DocumentRoot.Reported
import DocFinder.Proofs.Selection.Outcome
import DocFinder.Proofs.Selection.Asking
import DocFinder.Proofs.Finder.Results
import DocFinder.Proofs.Finder.Reading
import DocFinder.Proofs.Finder.Agreement
import DocFinder.Proofs.Document.Sharing
import DocFinder.Proofs.Query.Compilation
import DocFinder.Proofs.Selection.Negation
import DocFinder.Proofs.Pattern.Reading
import DocFinder.Proofs.Pattern.Tokens
import DocFinder.Proofs.Pattern.Refusal
import DocFinder.Proofs.Input.Refusal
import DocFinder.Proofs.FrontMatter.Reads
import DocFinder.Proofs.Text.Trimming
import DocFinder.Proofs.Finder.Refusal
import DocFinder.Proofs.Input.Acceptance
import DocFinder.Proofs.Selection.Order
import DocFinder.Proofs.FileTree.Resolution
import DocFinder.Proofs.FileTree.Canonical
import DocFinder.Proofs.FileTree.Unaskable
import DocFinder.Proofs.Discovery.Outcome
import DocFinder.Proofs.FrontMatter.LineEnds
import DocFinder.Proofs.DocumentRoot.Order
import DocFinder.Proofs.DocumentRoot.Loops
import DocFinder.Proofs.Document.Openings
import DocFinder.Proofs.FileTree.Contents
import DocFinder.Proofs.Selection.Openings
import DocFinder.Proofs.Value.Entries
import DocFinder.Proofs.Yaml.Flattening
import DocFinder.Proofs.Value.Text
import DocFinder.Proofs.Value.Json
import DocFinder.Proofs.Value.Fields
import DocFinder.Proofs.Yaml.Construction
import DocFinder.Proofs.Yaml.Forms
import DocFinder.Proofs.Yaml.Ordering
import DocFinder.Proofs.Yaml.Mapping
import DocFinder.Proofs.Yaml.Resolution
import DocFinder.Proofs.Configuration.Structure
import DocFinder.Proofs.Finder.Fields
import DocFinder.Proofs.FrontMatter.Scalars
import DocFinder.Proofs.FileTree.Descent
import DocFinder.Proofs.Discovery.Nearest
import DocFinder.Proofs.Discovery.Dependence
