import GwzCore.Carrier.Writer
import GwzCore.CommitLog.Markers
import GwzCore.Diff.Operands
import GwzCore.FamilyModel.Lifecycle
import GwzCore.FamilyModel.Normalising
import GwzCore.HistoryCheck.Connectivity
import GwzCore.LocalDisposal.Waivers
import GwzCore.LocalDisposal.Witnesses
import GwzCore.LocalImport.Effects
import GwzCore.Merge.Pending
import GwzCore.Merge.Order
import GwzCore.SessionChannel.ByteStream
import GwzCore.SessionChannel.InProcess
import GwzCore.SessionChannel.WriteQueue
import GwzCore.SessionHost.Retention
import GwzCore.SessionHost.Starts
import GwzCore.SessionHost.Tally
import GwzCore.SessionHost.Workers
import GwzCore.SetupRetry.Backoff
import GwzCore.SetupRetry.Attempts
import GwzCore.SetupRetry.Capacity
import GwzCore.SetupRetry.Exactness
import GwzCore.SetupRetry.Liveness
import GwzCore.SetupRetry.RetryAfter
import GwzCore.SetupRetry.Withdrawn
