import PageRuntime.Node.Arguments
import PageRuntime.Node.Attributes
import PageRuntime.Page
import PageRuntime.Value.Cycle
import PageRuntime.Value.Equal
import PageRuntime.Value.Raised
import PageRuntime.Proofs.RefreshDeferral
import PageRuntime.Proofs.Filling
import PageRuntime.Proofs.FailedActions
import PageRuntime.Proofs.LockedRoots
import PageRuntime.Proofs.Accounts
import PageRuntime.Proofs.BatchClosing
import PageRuntime.Proofs.CaptureOnly
import PageRuntime.Proofs.Dispatch
import PageRuntime.Proofs.ErrorHandlers
import PageRuntime.Proofs.ActiveFrames
import PageRuntime.Proofs.BatchPlaces
import PageRuntime.Proofs.PureCalls
import PageRuntime.Proofs.PathText
import PageRuntime.Proofs.Copies
import PageRuntime.Proofs.FailedWrites
import PageRuntime.Proofs.CallResults
import PageRuntime.Proofs.EventScopes
import PageRuntime.Proofs.RootNames
import PageRuntime.Proofs.LostWrites
import PageRuntime.Proofs.ReadBack
import PageRuntime.Proofs.DeepEquality
import PageRuntime.Proofs.Conversion
import PageRuntime.Proofs.Retries
import PageRuntime.Proofs.Initialization
import PageRuntime.Proofs.SameReturns
import PageRuntime.Proofs.Deletions
import PageRuntime.Proofs.Accumulation
import PageRuntime.Proofs.HandlerPathText
import PageRuntime.Proofs.ContextWrites
import PageRuntime.Proofs.UnawareSteps
import PageRuntime.Proofs.QuotedKeys
import PageRuntime.Proofs.HandleNames
import PageRuntime.Proofs.NodeRestoring
import PageRuntime.Proofs.LocalAddresses
import PageRuntime.Proofs.SkippedRecords
import PageRuntime.Proofs.RouteWrites
