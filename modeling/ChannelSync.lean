import ChannelSync.Session
import ChannelSync.Proofs.Reconciliation.Failures
import ChannelSync.Proofs.Reconciliation.Quiescence
import ChannelSync.Proofs.Reconciliation.Retry
import ChannelSync.Proofs.Reconciliation.Obstacles
import ChannelSync.Proofs.Reconciliation.Safeguards
import ChannelSync.Proofs.Reconciliation.Retention
import ChannelSync.Proofs.Reconciliation.Plan
import ChannelSync.Proofs.Reconciliation.Prediction
import ChannelSync.Proofs.Reconciliation.Frame
import ChannelSync.Proofs.Reconciliation.Repetition
import ChannelSync.Proofs.Reconciliation.BestEffort
import ChannelSync.Proofs.Reconciliation.Simulation
import ChannelSync.Proofs.Run.Interleaving
import ChannelSync.Proofs.Workspace.Neighbours
import ChannelSync.Proofs.Reconciliation.Independence
import ChannelSync.Proofs.Workspace.WellFormed
import ChannelSync.Proofs.Reconciliation.NewChannels
import ChannelSync.Proofs.Reconciliation.Unresolved
import ChannelSync.Proofs.Reconciliation.Verdict
import ChannelSync.Proofs.Reconciliation.Admissions
import ChannelSync.Proofs.Reconciliation.Departures
import ChannelSync.Proofs.Reconciliation.Accord
import ChannelSync.Proofs.Workspace.Tours
import ChannelSync.Proofs.Access.Walking
import ChannelSync.Proofs.Workspace.Listings
import ChannelSync.Proofs.Web.Sheets
import ChannelSync.Proofs.Access.StoredTexts
import ChannelSync.Proofs.Access.Renaming
import ChannelSync.Proofs.Reconciliation.Projection
import ChannelSync.Proofs.Workspace.FailedOperations
import ChannelSync.Proofs.Reconciliation.Unreported
