import GradeRelay.Main
import GradeRelay.Store.Foreign
import GradeRelay.Workspace
import GradeRelay.Proofs.Footprint
import GradeRelay.Proofs.Delivery
import GradeRelay.Proofs.Queue.Change
import GradeRelay.Proofs.Queue.Workers
import GradeRelay.Proofs.Resit.Carrying
import GradeRelay.Proofs.Resit.Takeover
import GradeRelay.Proofs.Resit.Standing
import GradeRelay.Proofs.Resit.Stale
import GradeRelay.Proofs.Resit.Chain
import GradeRelay.Proofs.Learners.Apart
import GradeRelay.Proofs.Redelivery.Books
import GradeRelay.Proofs.Redelivery.Convergence
import GradeRelay.Proofs.Gate
import GradeRelay.Proofs.Skips
import GradeRelay.Proofs.Outbox.Ledger
import GradeRelay.Proofs.Resit.Allowances
import GradeRelay.Proofs.Outages
import GradeRelay.Proofs.Verdicts
import GradeRelay.Proofs.Queue.Links
import GradeRelay.Proofs.Resit.Planning
import GradeRelay.Proofs.Frame
import GradeRelay.Proofs.Limits
import GradeRelay.Proofs.RetryTimes
import GradeRelay.Proofs.Events.Spellings
import GradeRelay.Proofs.Notices
import GradeRelay.Proofs.Queue.Refinement
import GradeRelay.Proofs.CreditNotes
import GradeRelay.Proofs.Listings.Lines
import GradeRelay.Proofs.PublicNames
import GradeRelay.Proofs.Snapshots
import GradeRelay.Proofs.Layers
import GradeRelay.Proofs.Searches
