import ThreatModel.Main
import ThreatModel.Model.Change
import ThreatModel.Proofs.Analysis.Report
import ThreatModel.Proofs.Rule.Distinct
import ThreatModel.Proofs.Rule.Growth
import ThreatModel.Proofs.Rule.Sensitivity
import ThreatModel.Proofs.Rule.Soundness
import ThreatModel.Proofs.Validation.Acceptance
import ThreatModel.Proofs.Analysis.Determined
import ThreatModel.Proofs.Analysis.Outcome
import ThreatModel.Proofs.Analysis.Skipping
import ThreatModel.Proofs.Model.Usage
import ThreatModel.Proofs.Rule.Usage
import ThreatModel.Proofs.Text.Digits
import ThreatModel.Proofs.Json.Numeral
import ThreatModel.Proofs.Json.Double
import ThreatModel.Proofs.Json.Quoted
import ThreatModel.Proofs.Json.Roundtrip
import ThreatModel.Proofs.ValueSet.Word
import ThreatModel.Proofs.Json.Record
import ThreatModel.Proofs.Calendar
import ThreatModel.Proofs.Model.Written
import ThreatModel.Proofs.Risk.Written
import ThreatModel.Proofs.Model.Transport
import ThreatModel.Proofs.Model.Lookup
import ThreatModel.Proofs.Plugin.Served
import ThreatModel.Proofs.Validation.Truthful
import ThreatModel.Proofs.Inclusion.Exact
import ThreatModel.Proofs.Text.Wildcard
import ThreatModel.Proofs.Model.Enclosure
import ThreatModel.Proofs.Analysis.Spelling
import ThreatModel.Proofs.Model.CommonAncestor
import ThreatModel.Proofs.Model.Network
import ThreatModel.Proofs.Model.Protection
import ThreatModel.Proofs.Attractiveness.Scores
import ThreatModel.Proofs.Attractiveness.SteppingStone
import ThreatModel.Proofs.Rule.TransferOrder
import ThreatModel.Proofs.Rule.RuntimeOrder
import ThreatModel.Proofs.Rule.ContentImpact
import ThreatModel.Proofs.Rule.ExampleSearch
import ThreatModel.Proofs.Rule.CloudHardening
import ThreatModel.Proofs.Rule.CloudCoverage
import ThreatModel.Proofs.Rule.ForwardedAccess
import ThreatModel.Proofs.Risk.Order
import ThreatModel.Proofs.Analysis.Registration
import ThreatModel.Proofs.Text.Slug
