import CallRegistry.Application.Boot
import CallRegistry.CallId
import CallRegistry.Settings.Cache
import CallRegistry.Text.Composition
import CallRegistry.Compression.Bits
import CallRegistry.Compression.Inflate
import CallRegistry.Compression.Checksum
import CallRegistry.Compression.Wrapping
import CallRegistry.Proofs.Codec
import CallRegistry.Proofs.TableService
import CallRegistry.Proofs.Registry
import CallRegistry.Proofs.OneGroup
import CallRegistry.Proofs.Interleaving
import CallRegistry.Proofs.Linearization
import CallRegistry.Proofs.Eras
import CallRegistry.Proofs.Pages
import CallRegistry.Proofs.MemoryAgreement
import CallRegistry.Proofs.Retries
import CallRegistry.Proofs.ItemReading
import CallRegistry.Proofs.NumberReading
import CallRegistry.Proofs.StoredValues
import CallRegistry.Proofs.StorageFailure
import CallRegistry.Proofs.TreeView
import CallRegistry.Proofs.TokenReplacement
import CallRegistry.Proofs.RefreshCycles
import CallRegistry.Proofs.TokenHistory
import CallRegistry.Proofs.RequestSchedule
import CallRegistry.Proofs.RefresherEnd
import CallRegistry.Proofs.WebClients
import CallRegistry.Proofs.FirstToken
import CallRegistry.Proofs.StartedServices
import CallRegistry.Proofs.ApplicationLife
import CallRegistry.Proofs.LaterRequests
import CallRegistry.Proofs.Shutdown
import CallRegistry.Proofs.LocalModes
import CallRegistry.Proofs.Liveness
import CallRegistry.Proofs.Readiness
import CallRegistry.Proofs.MemoryHistory
import CallRegistry.Proofs.RegionScan
import CallRegistry.Proofs.CorruptItems
import CallRegistry.Proofs.TokenWriters
import CallRegistry.Proofs.SharedDraft
import CallRegistry.Proofs.RequestsSent
import CallRegistry.Proofs.LogBalance
import CallRegistry.Proofs.Rounding
import CallRegistry.Proofs.Interval
import CallRegistry.Proofs.CallIds
