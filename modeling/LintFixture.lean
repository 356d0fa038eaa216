import LintFixture.CommandLine
import LintFixture.Main
import LintFixture.Proofs.Cleaning
import LintFixture.Proofs.Composition
import LintFixture.Proofs.Discovery
import LintFixture.Proofs.Faults
import LintFixture.Proofs.Forms
import LintFixture.Proofs.LineEnds
import LintFixture.Proofs.Quoting
import LintFixture.Proofs.Registrations
import LintFixture.Proofs.Rejection
import LintFixture.Proofs.RuleLoading
import LintFixture.Proofs.RuleOrder
import LintFixture.Proofs.Sessions
import LintFixture.Proofs.Spans
import LintFixture.Proofs.Stacking
import LintFixture.Proofs.Verdict
import LintFixture.Result.OfValue
import LintFixture.Rule.Description
