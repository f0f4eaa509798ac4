import CsiPowerscale.ClientIPs
import CsiPowerscale.CloneModes
import CsiPowerscale.ConfigReload
import CsiPowerscale.CreateLocks
import CsiPowerscale.DeferredDeletion
import CsiPowerscale.EphemeralHost
import CsiPowerscale.FSGroupComplete
import CsiPowerscale.FSGroupGoroutines
import CsiPowerscale.GroupDeletion
import CsiPowerscale.HostConnectivity
import CsiPowerscale.LabelAddresses
import CsiPowerscale.ListVolumes
import CsiPowerscale.LocalDeletion
import CsiPowerscale.MetricSeries
import CsiPowerscale.MetricsRuntime
import CsiPowerscale.MutableLimits
import CsiPowerscale.NodeClients
import CsiPowerscale.NodeIdentity
import CsiPowerscale.NodeWatcher
import CsiPowerscale.ReaderExclusion
import CsiPowerscale.RecursiveOwnership
import CsiPowerscale.RefusedDeletion
import CsiPowerscale.RestoreSize
import CsiPowerscale.RpoKept
import CsiPowerscale.SnapshotPages
import CsiPowerscale.VolumeSnapshots
