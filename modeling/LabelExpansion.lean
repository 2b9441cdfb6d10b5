import LabelExpansion.Artifact.Order
import LabelExpansion.Mapping.Basic
import LabelExpansion.Proofs.Mapping.Agreement
import LabelExpansion.Log.Directive
import LabelExpansion.Session.Step
import LabelExpansion.Proofs.Label.Component
import LabelExpansion.Proofs.Text.Occurrence
import LabelExpansion.Proofs.Label.Cutting
import LabelExpansion.Proofs.Fallible
import LabelExpansion.Proofs.Label.Grammar
import LabelExpansion.Proofs.Label.Display
import LabelExpansion.Proofs.Template.Outcome
import LabelExpansion.Proofs.Template.Runs
import LabelExpansion.Proofs.Template.Dissection
import LabelExpansion.Proofs.Template.Specification
import LabelExpansion.Proofs.Template.Visibility
import LabelExpansion.Proofs.Label.Identity
import LabelExpansion.Proofs.Template.Concatenation
import LabelExpansion.Proofs.Template.Wording
import LabelExpansion.Proofs.Text.Quotation
import LabelExpansion.Proofs.Template.Account
import LabelExpansion.Proofs.Template.Scan
import LabelExpansion.Proofs.Template.Readable
import LabelExpansion.Proofs.Template.Spellings
import LabelExpansion.Proofs.Log.Control
import LabelExpansion.Proofs.Session.Conduct
import LabelExpansion.Proofs.Session.FilterInForce
import LabelExpansion.Proofs.Template.Listing
import LabelExpansion.Proofs.Artifact.ExecPath
import LabelExpansion.Proofs.Ordered
import LabelExpansion.Proofs.Precedence
import LabelExpansion.Proofs.Path.Flaw
import LabelExpansion.Proofs.Label.Refusal
import LabelExpansion.Proofs.Label.Diagnosis
import LabelExpansion.Proofs.Label.Independence
import LabelExpansion.Proofs.Text.Membership
import LabelExpansion.Proofs.Path.Verdict
import LabelExpansion.Proofs.Log.Effective
import LabelExpansion.Proofs.Log.Rules
import LabelExpansion.Proofs.Log.Reading
import LabelExpansion.Proofs.Log.Rearrangement
import LabelExpansion.Proofs.Session.RearrangedFilter
import LabelExpansion.Proofs.Text.Splitting
import LabelExpansion.Proofs.Label.InferredName
