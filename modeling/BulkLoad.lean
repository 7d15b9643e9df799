import BulkLoad.Main
import BulkLoad.Run.Progress
import BulkLoad.Proofs.Influx.DryRun
import BulkLoad.Proofs.Dispatch.Limit
import BulkLoad.Proofs.Dispatch.Stopped
import BulkLoad.Proofs.Source.Truncated
import BulkLoad.Proofs.Batch.Log
import BulkLoad.Proofs.Influx.Lifecycle
import BulkLoad.Proofs.Run.Conduct
import BulkLoad.Proofs.Write.Episodes
import BulkLoad.Proofs.Run.BackPressure
import BulkLoad.Proofs.Write.Pauses
import BulkLoad.Proofs.Dispatch.Dropped
import BulkLoad.Proofs.Pool.Custody
import BulkLoad.Proofs.Influx.Endpoint
import BulkLoad.Proofs.Influx.WriteQuery
import BulkLoad.Proofs.Config.RoundTrip
import BulkLoad.Proofs.Write.Overload
import BulkLoad.Proofs.Stats.Merged
import BulkLoad.Proofs.Influx.SetUp
import BulkLoad.Proofs.Write.Jitter
