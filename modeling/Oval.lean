import Oval.Check
import Oval.Config
import Oval.Criteria.Status
import Oval.Document.Json
import Oval.Evaluator
import Oval.Evr.Token
import Oval.Inventory.Json
import Oval.Json.Printer
import Oval.Logging
import Oval.Registry
import Oval.Report.Json
import Oval.Proofs.Criteria.Leaf
import Oval.Proofs.Criteria.Verdict
import Oval.Proofs.Registry.Extension
import Oval.Proofs.Evaluation.Plan
import Oval.Proofs.Assessment.Effects
import Oval.Proofs.Evaluation.Reference
import Oval.Proofs.Evaluation.History
import Oval.Proofs.Evaluation.Nesting
import Oval.Proofs.Evaluation.CycleReport
import Oval.Proofs.Evaluation.DiagnosticGroups
import Oval.Proofs.Evaluation.Repair
import Oval.Proofs.Evaluation.Explanation
import Oval.Proofs.Evaluation.Frame
import Oval.Proofs.Evaluation.Isolation
import Oval.Proofs.Evaluation.Accounting
import Oval.Proofs.Evr.Asymmetry
import Oval.Proofs.Evr.Shape
import Oval.Proofs.Evr.Refusal
import Oval.Proofs.Evaluation.Locality
import Oval.Proofs.Evaluation.Delivery
import Oval.Proofs.Evr.TokenOrder
import Oval.Proofs.Json.Literal
import Oval.Proofs.Json.RoundTrip
import Oval.Proofs.Json.Record
import Oval.Proofs.Document.Criteria
import Oval.Proofs.Document.Entity
import Oval.Proofs.Document.RoundTrip
import Oval.Proofs.Inventory.RoundTrip
import Oval.Proofs.Assessment.Judgment
import Oval.Proofs.Assessment.Kinds
import Oval.Proofs.Assessment.Permutation
import Oval.Proofs.Evr.Prerelease
import Oval.Proofs.Criteria.Combination
import Oval.Proofs.Criteria.Rewriting
import Oval.Proofs.Registry.Revision
import Oval.Proofs.Evaluation.Rewriting
import Oval.Proofs.Evaluation.Reordering
import Oval.Proofs.Evr.Spelling
import Oval.Proofs.Evr.Alignment
import Oval.Proofs.Config.Layers
import Oval.Proofs.Evaluation.Questions
import Oval.Proofs.Evaluation.Contributions
import Oval.Proofs.Evaluation.References
