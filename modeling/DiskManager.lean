import DiskManager.Interact.Prog
import DiskManager.Text
import DiskManager.Utils
import DiskManager.Traversal
import DiskManager.Errno
import DiskManager.Json
import DiskManager.StdMap
import DiskManager.Voldata.Store
import DiskManager.Voldata.Files
import DiskManager.Voldata.Load
import DiskManager.Voldata.Durable
import DiskManager.JsonCodec
import DiskManager.Voldata.Runs
import DiskManager.Voldata.Recovery
import DiskManager.Manager.State
import DiskManager.Manager.Lookup
import DiskManager.Manager.Records
import DiskManager.Manager.Crypt
import DiskManager.Manager.Mount
import DiskManager.Manager.Repair
import DiskManager.Interact.Frame
import DiskManager.Voldata.Paths
import DiskManager.Manager.Daemon
import DiskManager.Manager.MountSpec
import DiskManager.Manager.UnmountSpec
import DiskManager.Manager.Lifecycle
import DiskManager.Interact.Pool
import DiskManager.Manager.Interleave
import DiskManager.Interact.Undisturbed
import DiskManager.Manager.Core
import DiskManager.Manager.Details
import DiskManager.Manager.Uuids
import DiskManager.Uevent.Table
import DiskManager.Uevent.Volumes
import DiskManager.Uevent.Cdrom
import DiskManager.Uevent.Events
import DiskManager.Manager.Index
import DiskManager.Uevent.Discovery
import DiskManager.Uevent.Sync
import DiskManager.Uevent.Devices
import DiskManager.Uevent.Attach
import DiskManager.Uevent.InStep
import DiskManager.Uevent.WholeDisk
import DiskManager.Manager.Filed
import DiskManager.Uevent.Filing
import DiskManager.Uevent.Service
import DiskManager.Uevent.FreshTable
import DiskManager.Uevent.Repartition
import DiskManager.Uevent.Coverage
import DiskManager.Uevent.Optical
import DiskManager.Interact.Tasks
import DiskManager.Provider.DataDisk
import DiskManager.Interact.Built
import DiskManager.Uevent.Prohibited
import DiskManager.Uevent.DevicePath
import DiskManager.Uevent.ReadOnly
import DiskManager.Interact.Beside
import DiskManager.Uevent.PartitionDone
import DiskManager.Interact.Counter
import DiskManager.Provider.Idle
import DiskManager.Manager.CryptWorld
import DiskManager.Manager.CryptTable
import DiskManager.Provider.CryptVolumes
import DiskManager.Interact.Locks
import DiskManager.Manager.LockOrder
import DiskManager.Voldata.Allocation
import DiskManager.Voldata.Sanitise
import DiskManager.LexicalPath
import DiskManager.Manager.Confinement
import DiskManager.Manager.Burn
import DiskManager.Manager.MountWorld
import DiskManager.Manager.FuseUnmount
import DiskManager.Manager.MountUndone
import DiskManager.Manager.RoundTrip
import DiskManager.Innerkits.Parcelable
import DiskManager.Innerkits.Queries
import DiskManager.Uevent.Redundant
import DiskManager.Manager.Dedup
import DiskManager.Manager.DedupValid
import DiskManager.Words
import DiskManager.Manager.PartitionLine
import DiskManager.Manager.TableRead
import DiskManager.Manager.TableReport
import DiskManager.Search
import DiskManager.Manager.Sectors
import DiskManager.Uevent.Dump
import DiskManager.Uevent.EnvParser
import DiskManager.Manager.FormatMapping
import DiskManager.Manager.PublicEvents
import DiskManager.Uevent.Ejections
import DiskManager.Uevent.Removal
import DiskManager.Uevent.SysfsReader
import DiskManager.Uevent.HashDispatch
import DiskManager.Uevent.GeneratedIds
import DiskManager.Uevent.PartitionNames
import DiskManager.Manager.FreeSize
import DiskManager.Uevent.LoopBinding
import DiskManager.Interact.Traced
import DiskManager.Dfx.HiAudit
import DiskManager.Dfx.AuditFiles
import DiskManager.Dfx.AuditTitles
import DiskManager.Manager.ForcedUnmount
import DiskManager.Uevent.NodeRemoval
import DiskManager.Manager.Resting
import DiskManager.Uevent.Resting
import DiskManager.Uevent.Lives
import DiskManager.Manager.ExternalInfos
import DiskManager.Provider.Entries
import DiskManager.Provider.Access
import DiskManager.Provider.Authorisation
import DiskManager.Interact.Implement
import DiskManager.Adapter.Edm
import DiskManager.JsonText
import DiskManager.Interact.Gathered
import DiskManager.Db.BlockInfoTable
import DiskManager.Db.BlockInfos
