import Eligibility.Candidate.Exposure
import Eligibility.Proofs.Candidate.Isolation
import Eligibility.Proofs.Candidate.Validated
import Eligibility.Proofs.Composition.Verdict
import Eligibility.Proofs.Construction.Refinement
import Eligibility.Proofs.Description.Reading
import Eligibility.Proofs.Evaluation.Batch
import Eligibility.Proofs.Evaluation.Coherence
import Eligibility.Proofs.Graph.Descent
import Eligibility.Proofs.Remainder.Narrowing
import Eligibility.Proofs.Rule.Duality
import Eligibility.Proofs.Rule.Fold
import Eligibility.Proofs.Rule.Places
import Eligibility.Proofs.Salary.Consistency
import Eligibility.Proofs.Salary.Division
import Eligibility.Proofs.Salary.Printed
import Eligibility.Proofs.Session.LeftFold
import Eligibility.Proofs.Settings.Loading
import Eligibility.Proofs.Tenure.Printed
import Eligibility.Proofs.Tenure.Seniority
import Eligibility.Proofs.Workbench.Session
import Eligibility.Settings
import Eligibility.Workbench.Check
