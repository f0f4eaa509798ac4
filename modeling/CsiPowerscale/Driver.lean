import Mathlib.Logic.Function.Basic
import CsiPowerscale.GoLib.Net
import CsiPowerscale.IsiService

namespace CsiPowerscale
open GoLib Effects Effects.Prog

/-- `IsilonClusterConfig`. `isiSvc` says whether the client of the cluster is set up, and
`currentClient` is what the node map holds for the cluster and the dummy host. -/
structure ClusterConfig where
  clusterName : Str
  endpoint : Str
  mountEndpoint : Str
  isiPath : Str
  isiVolumePathPermissions : Str
  replicationCertificateID : Str
  nfsMountFQDN : Str
  ignoreUnresolvableHosts : Bool
  isiSvc : Bool
  currentClient : Option Str
  deriving DecidableEq

inductive AllowedNetworksMode
  | single
  | multi
  deriving DecidableEq

structure Service where
  defaultIsiClusterName : Str
  isilonClusters : List ClusterConfig
  accessZone : Str
  quotaEnabled : Bool
  autoProbeEnabled : Bool
  customTopologyEnabled : Bool
  replicationPrefix : Str
  envNFSMountFQDN : Str
  chownTimeoutSeconds : Int
  runID : Str
  allowedNetworksMode : AllowedNetworksMode := .single
  allowedNetworks : List Str := []
  maxVolumesPerNode : Int := 0
  deriving DecidableEq

namespace Service

def getIsilonConfig (svc : Service) (clusterName : Str) : Except Err (Str × ClusterConfig) :=
  let name := if clusterName = [] then svc.defaultIsiClusterName else clusterName
  if name = [] then
    .error (.plain "no default cluster config available to continue with request")
  else
    match svc.isilonClusters.find? fun c => c.clusterName = name with
    | some cfg => .ok (name, cfg)
    | none => .error (.plain
        (sprintf ["failed to get cluster config details for clusterName: '", name, "'"]))

def autoProbeWith {C : Type} {R : C → Type} (svc : Service) (cfg : ClusterConfig)
    (probe : Prog C R Err Unit) : Prog C R Err Unit :=
  if cfg.isiSvc then ret ()
  else if !svc.autoProbeEnabled then
    fail (.status .failedPrecondition "isiSvc not initialized, but auto probe is not enabled")
  else probe

def Reaches (svc : Service) (clusterName : Str) : Prop :=
  ∃ name cfg, svc.getIsilonConfig clusterName = .ok (name, cfg) ∧
    (cfg.isiSvc = true ∨ svc.autoProbeEnabled = true)

def autoProbe (svc : Service) (cfg : ClusterConfig) : IsiM Unit :=
  svc.autoProbeWith cfg (request .probe)

def withRP (svc : Service) (key : Str) : Str := svc.replicationPrefix ++ "/" ++ key

end Service

def nfsTransportSecurityNone : Str := "none"

def nfsTransportSecurityTLS : Str := "tls"

def nfsTransportSecurityMTLS : Str := "mtls"

def resolveMountFQDN (scFQDN clusterFQDN envFQDN : Str) : Str :=
  if scFQDN ≠ [] then scFQDN else if clusterFQDN ≠ [] then clusterFQDN else envFQDN

def isIPAddress (target : Str) : Bool :=
  let body := if target.getLast? = some 93 then target.dropLast else target
  target ≠ [] && isIP (if body.head? = some 91 then body.tail else body)

def validateNFSTransportSecurity (value : Str) : Except Err Unit :=
  let v := toLower value
  if v = [] ∨ v = nfsTransportSecurityNone ∨ v = nfsTransportSecurityTLS ∨
      v = nfsTransportSecurityMTLS then .ok ()
  else .error (.plain (sprintf ["invalid NFSTransportSecurity value '", value,
    "': must be one of '', 'none', 'tls', or 'mtls'"]))

def isMTLSEnabled (transportSecurity : Str) : Bool :=
  toLower transportSecurity = nfsTransportSecurityMTLS

def resolveXprtsec (nfsTransportSecurity : Str) : Str :=
  let v := toLower nfsTransportSecurity
  if v = nfsTransportSecurityMTLS then "mtls" else if v = nfsTransportSecurityTLS then "tls" else []

def validateClusterTLSMode (requestedMode : Str) : IsiM Unit := do
  if requestedMode = [] ∨ requestedMode = nfsTransportSecurityNone then ret ()
  else
    match ← tryRequest .getNfsSettings with
    | .error e => fail (.wrapped (sprintf [
        "cluster does not support NFS over TLS (OneFS 9.16.0+ required for '", requestedMode,
        "' mode): ", e.text]) e)
    | .ok none => fail (.plain (sprintf ["cluster nfs_tls_mode is not configured; cannot create '",
        requestedMode, "' export (configure NFS over TLS on PowerScale array)"]))
    | .ok (some modes) =>
      if (split modes ":").any fun m => equalFold (trimSpace m) requestedMode then ret ()
      else fail (.plain (sprintf ["cluster nfs_tls_mode '", modes, "' does not support '",
        requestedMode, "'; update cluster TLS configuration to include '", requestedMode, "'"]))

def checkXprtsec (xprtsec : Str) : IsiM Unit := do
  if xprtsec = [] then ret ()
  else
    match ← attempt (validateClusterTLSMode xprtsec) with
    | .ok _ => ret ()
    | .error e => fail (.wrapped (sprintf ["cluster TLS mode validation failed: ", e.text]) e)

def IsiService.exportVolumeWithZoneAndXprtsec (isiPath volName accessZone description xprtsec : Str) :
    IsiM Int := do
  checkXprtsec xprtsec
  request (.exportVolume (getPathForVolume isiPath volName) accessZone description xprtsec)

inductive AccessMode
  | unknown
  | singleNodeWriter
  | singleNodeReaderOnly
  | multiNodeReaderOnly
  | multiNodeSingleWriter
  | multiNodeMultiWriter
  | singleNodeSingleWriter
  | singleNodeMultiWriter
  deriving DecidableEq

def AccessMode.text : AccessMode → Str
  | unknown => "UNKNOWN"
  | singleNodeWriter => "SINGLE_NODE_WRITER"
  | singleNodeReaderOnly => "SINGLE_NODE_READER_ONLY"
  | multiNodeReaderOnly => "MULTI_NODE_READER_ONLY"
  | multiNodeSingleWriter => "MULTI_NODE_SINGLE_WRITER"
  | multiNodeMultiWriter => "MULTI_NODE_MULTI_WRITER"
  | singleNodeSingleWriter => "SINGLE_NODE_SINGLE_WRITER"
  | singleNodeMultiWriter => "SINGLE_NODE_MULTI_WRITER"

inductive AccessType
  | mount
  | block
  deriving DecidableEq

structure VolumeCapability where
  accessType : Option AccessType
  accessMode : Option AccessMode
  deriving DecidableEq

/-- `VolumeContentSource`; `unset` is a source that is neither a snapshot nor a volume. -/
inductive ContentSource
  | snapshot (snapshotID : Str)
  | volume (volumeID : Str)
  | unset
  deriving DecidableEq

structure CreateVolumeRequest where
  name : Str
  requiredBytes : Int
  volumeCapabilities : List (Option VolumeCapability)
  parameters : Params
  mutableParameters : Params
  volumeContentSource : Option ContentSource
  deriving DecidableEq

structure Volume where
  volumeID : Str
  capacityBytes : Int
  volumeContext : Params
  contentSource : Option ContentSource
  deriving DecidableEq

def defaultVolumeSizeInBytes : Int := 3 * (1024 * 1024 * 1024)

def validateVolSize (requiredBytes : Int) : Except Err Int :=
  if requiredBytes < 0 then
    .error (.status .outOfRange (sprintf ["bad capacity: volume size bytes '", itoa requiredBytes,
      "' must not be negative"]))
  else .ok (if requiredBytes = 0 then defaultVolumeSizeInBytes else requiredBytes)

def isVolumeTypeBlock (vcs : List (Option VolumeCapability)) : Bool :=
  vcs.any fun vc => (vc.bind VolumeCapability.accessType) = some .block

def validateCreateVolumeRequest (req : CreateVolumeRequest) : Except Err Int := do
  let size ← validateVolSize req.requiredBytes
  if req.name = [] then .error (.status .invalidArgument "name cannot be empty")
  else if isVolumeTypeBlock req.volumeCapabilities then
    .error (.plain "raw block requested from NFS Volume")
  else .ok size

def supportedMutableParams : List Str :=
  [("AdvisoryLimit" : Str), ("SoftLimit" : Str), ("SoftGracePrd" : Str)]

def validateMutableParamKeys : Params → Except Err Unit
  | [] => .ok ()
  | (key, value) :: rest =>
    if key ∉ supportedMutableParams then
      .error (.status .invalidArgument (sprintf ["unsupported mutable parameter '", key,
        "'; supported mutable parameters are: AdvisoryLimit, SoftLimit, SoftGracePrd"]))
    else
      match parseInt64 value with
      | none => .error (.status .invalidArgument (sprintf ["mutable parameter '", key,
          "' must be a valid integer, got '", value, "'"]))
      | some n =>
        if n < 0 then .error (.status .invalidArgument (sprintf ["mutable parameter '", key,
          "' must be a non-negative integer, got '", itoa n, "'"]))
        else validateMutableParamKeys rest

def quotaLimitParam (params mutableParams : Params) (key pvcKey : Str) : Str :=
  if mutableParams.get key ≠ [] then mutableParams.get key
  else if params.get pvcKey ≠ [] then params.get pvcKey
  else params.get key

def readQuotaLimitParams (params mutableParams : Params) : Str × Str × Str :=
  (quotaLimitParam params mutableParams "SoftLimit" "pvcSoftLimit",
    quotaLimitParam params mutableParams "AdvisoryLimit" "pvcAdvisoryLimit",
    quotaLimitParam params mutableParams "SoftGracePrd" "pvcSoftGracePrd")

def addMetaData (params : Params) : Params :=
  [(("csi.storage.k8s.io/pv/name" : Str), ("x-csi-pv-name" : Str)),
    ("csi.storage.k8s.io/pvc/name", "x-csi-pv-claimname"),
    ("csi.storage.k8s.io/pvc/namespace", "x-csi-pv-namespace")].filterMap fun (key, header) =>
      (params.get? key).map fun v => (header, v)

def cluster1 : ClusterConfig where
  clusterName := "c1"
  endpoint := "10.0.0.1"
  mountEndpoint := "10.0.0.1"
  isiPath := "/ifs/data"
  isiVolumePathPermissions := "0777"
  replicationCertificateID := []
  nfsMountFQDN := []
  ignoreUnresolvableHosts := false
  isiSvc := true
  currentClient := none

def oneCluster : Service where
  defaultIsiClusterName := "c1"
  isilonClusters := [cluster1]
  accessZone := "System"
  quotaEnabled := true
  autoProbeEnabled := true
  customTopologyEnabled := false
  replicationPrefix := "replication.storage.dell.com"
  envNFSMountFQDN := []
  chownTimeoutSeconds := 60
  runID := "1"

def twoClusters (ignoreUnresolvableHosts : Bool) : Service :=
  let c1 := { cluster1 with ignoreUnresolvableHosts := ignoreUnresolvableHosts }
  let c2 := { c1 with clusterName := "c2", endpoint := "10.0.0.2", mountEndpoint := "10.0.0.2" }
  { oneCluster with isilonClusters := [c1, c2] }

def exportedVolume : OneFS := { OneFS.fresh with
  dirs := ⟨[⟨"/ifs", []⟩, ⟨"/ifs/data", []⟩, ⟨"/ifs/data/vol1", []⟩], by decide⟩
  quotas := ⟨⟨⟨[⟨0, "/ifs/data/vol1", 1024, 0, 0, 0⟩], by decide⟩, 1, by decide⟩, by decide⟩
  exports := ⟨⟨[⟨0, ["/ifs/data/vol1"], "System", "CSI_QUOTA_ID:0", [], [], [], [], []⟩], by decide⟩, 1,
    by decide⟩ }

def newVolume (name : Str) : CreateVolumeRequest where
  name := name
  requiredBytes := 1024
  volumeCapabilities := [some ⟨some .mount, some .multiNodeMultiWriter⟩]
  parameters := []
  mutableParameters := []
  volumeContentSource := none

def pluginName : Str := "csi-isilon.dellemc.com"

structure CSISource where
  driver : Str
  volumeHandle : Str
  volumeAttributes : Params
  deriving DecidableEq

structure PersistentVolume where
  name : Str
  csi : Option CSISource
  bound : Bool
  deriving DecidableEq

structure VolumeAttachment where
  nodeName : Str
  attached : Bool
  persistentVolumeName : Option Str
  deriving DecidableEq

inductive NodeAddressType
  | internalIP
  | externalIP
  | hostName
  deriving DecidableEq

structure NodeAddress where
  type : NodeAddressType
  address : Str
  deriving DecidableEq

structure Kube where
  labels : List (Str × List Str)
  persistentVolumes : List PersistentVolume
  volumeAttachments : List VolumeAttachment
  deriving DecidableEq

/-- The address in a label key of the form `csi-isilon.dellemc.com/az-<network>-<length>-<address>`,
as the pattern `([0-9\.]+)-([0-9]+)-([0-9\.]+)` finds it. -/
def azLabelIP (key : Str) : Option Str :=
  let start := pluginName ++ "/az-"
  let dotted (s : Str) : Bool := s ≠ [] && s.all fun c => isDigit c || c = 46
  if startsWith key start then
    match split (key.drop start.length) "-" with
    | [network, length, ip] =>
      if dotted network && length ≠ [] && length.all isDigit && dotted ip then some ip else none
    | _ => none
  else none

def labelIPs (labels : List Str) : List Str := labels.filterMap azLabelIP

def azNetworkIPs (labels : List Str) (azNetwork : Str) : List Str :=
  (labelIPs labels).filter fun ip => ipInCIDR ip azNetwork

def allowedNetworkIPs (labels allowedNetworks : List Str) : List Str :=
  (labelIPs labels).filter fun ip => allowedNetworks.any fun cidr => ipInCIDR ip cidr

example : azNetworkIPs ["csi-isilon.dellemc.com/az-10.1.0.0-16-10.1.2.3", "kubernetes.io/os"]
    "10.1.0.0/16" = ["10.1.2.3"] := by decide

structure RWMutex where
  writer : Option Nat
  readers : List Nat
  deriving DecidableEq

structure Driver where
  arrays : Str → OneFS
  kube : Kube
  clients : Str → Str → Option Str
  locks : Str → RWMutex

inductive DriverCall
  | array (cluster : Str) (c : Call)
  | getNodeLabels (nodeName : Str)
  | getPersistentVolume (name : Str)
  | listPersistentVolumes
  | listVolumeAttachments
  | loadClient (cluster nodeID : Str)
  | storeClient (cluster nodeID client : Str)
  | rLock (key : Str)
  | rUnlock (key : Str)
  | lock (key : Str)
  | unlock (key : Str)
  deriving DecidableEq

@[reducible] def DriverCall.Reply : DriverCall → Type
  | array _ c => c.Reply
  | getNodeLabels .. => List Str
  | getPersistentVolume .. => PersistentVolume
  | listPersistentVolumes => List PersistentVolume
  | listVolumeAttachments => List VolumeAttachment
  | loadClient .. => Option Str
  | _ => Unit

abbrev DriverM := Prog DriverCall DriverCall.Reply Err

namespace Driver

def setArray (d : Driver) (cluster : Str) (s : OneFS) : Driver :=
  { d with arrays := Function.update d.arrays cluster s }

def setClient (d : Driver) (cluster nodeID client : Str) : Driver :=
  { d with
    clients := Function.update d.clients cluster
      (Function.update (d.clients cluster) nodeID (some client)) }

def setLock (d : Driver) (key : Str) (m : RWMutex) : Driver :=
  { d with locks := Function.update d.locks key m }

def labelsOf (d : Driver) (nodeName : Str) : Option (List Str) := d.kube.labels.lookup nodeName

def volumeNamed (d : Driver) (name : Str) : Option PersistentVolume :=
  d.kube.persistentVolumes.find? fun pv => pv.name = name

def lookUp (d : Driver) (kind name : Str) : Option α → Except Err α × Driver
  | some a => (.ok a, d)
  | none => (.error (.plain (sprintf [kind, " \"", name, "\" not found"])), d)

def serve (i : Nat) : (c : DriverCall) → Driver → Except Err c.Reply × Driver
  | .array cluster c, d =>
    let r := OneFS.serve c (d.arrays cluster)
    (r.1, d.setArray cluster r.2)
  | .getNodeLabels name, d => d.lookUp "nodes" name (d.labelsOf name)
  | .getPersistentVolume name, d => d.lookUp "persistentvolumes" name (d.volumeNamed name)
  | .listPersistentVolumes, d => (.ok d.kube.persistentVolumes, d)
  | .listVolumeAttachments, d => (.ok d.kube.volumeAttachments, d)
  | .loadClient cluster nodeID, d => (.ok (d.clients cluster nodeID), d)
  | .storeClient cluster nodeID client, d => (.ok (), d.setClient cluster nodeID client)
  | .rLock key, d => (.ok (), d.setLock key { d.locks key with readers := i :: (d.locks key).readers })
  | .rUnlock key, d =>
    (.ok (), d.setLock key { d.locks key with readers := (d.locks key).readers.erase i })
  | .lock key, d => (.ok (), d.setLock key { d.locks key with writer := some i })
  | .unlock key, d => (.ok (), d.setLock key { d.locks key with writer := none })

variable {d : Driver}

@[simp] theorem setArray_arrays_self (cluster : Str) (s : OneFS) :
    (d.setArray cluster s).arrays cluster = s := by
  simp [setArray]

@[simp] theorem setArray_setArray (cluster : Str) (s t : OneFS) :
    (d.setArray cluster s).setArray cluster t = d.setArray cluster t := by
  simp [setArray]

@[simp] theorem setArray_self (cluster : Str) : d.setArray cluster (d.arrays cluster) = d := by
  simp [setArray]

@[simp] theorem setClient_clients_self (cluster nodeID client : Str) :
    (d.setClient cluster nodeID client).clients cluster nodeID = some client := by
  simp [setClient]

structure SameButLocks (t d : Driver) : Prop where
  arrays : t.arrays = d.arrays
  kube : t.kube = d.kube
  clients : t.clients = d.clients

theorem setClient_clients (h : (d.setClient cluster nodeID client).clients c n = some x) :
    d.clients c n = some x ∨ c = cluster ∧ n = nodeID ∧ x = client := by
  by_cases hc : c = cluster
  · subst hc
    by_cases hn : n = nodeID
    · subst hn
      right
      simpa [eq_comm] using h
    · left
      simpa [setClient, Function.update_of_ne hn] using h
  · left
    simpa [setClient, Function.update_of_ne hc] using h

end Driver

def driver (i : Nat) : World DriverCall DriverCall.Reply Err Driver := ⟨Driver.serve i⟩

theorem driver_act (i : Nat) (c : DriverCall) (d : Driver) :
    (driver i).act c d = Driver.serve i c d := rfl

def DriverCall.IsRead : DriverCall → Prop
  | array _ c => c.IsRead
  | storeClient .. | rLock _ | rUnlock _ | lock _ | unlock _ => False
  | _ => True

theorem Driver.lookUp_state (d : Driver) (kind name : Str) (o : Option α) :
    (d.lookUp kind name o).2 = d := by
  cases o <;> rfl

theorem DriverCall.IsRead.serve (h : c.IsRead) (i : Nat) (d : Driver) :
    ((driver i).act c d).2 = d := by
  cases c with
  | array cluster c =>
    have hs := Call.IsRead.serve h (d.arrays cluster)
    rw [array_act] at hs
    simp [driver_act, Driver.serve, hs]
  | getNodeLabels name => exact d.lookUp_state _ _ _
  | getPersistentVolume name => exact d.lookUp_state _ _ _
  | listPersistentVolumes => rfl
  | listVolumeAttachments => rfl
  | loadClient cluster nodeID => rfl
  | storeClient => exact h.elim
  | rLock => exact h.elim
  | rUnlock => exact h.elim
  | lock => exact h.elim
  | unlock => exact h.elim

def onCluster (cluster : Str) : IsiM α → DriverM α
  | ret a => ret a
  | fail e => fail e
  | .call c k => .call (.array cluster c) fun r => onCluster cluster (k r)

section OnCluster

variable {cluster : Str} {p : IsiM α} {d : Driver} {i : Nat}

theorem onCluster_uses (h : uses (fun c => U (.array cluster c)) p) :
    uses U (onCluster cluster p) := by
  induction p with
  | ret a => trivial
  | fail e => trivial
  | call c k ih => exact ⟨h.1, fun r => ih r (h.2 r)⟩

theorem onCluster_yields (h : yields P p) : yields P (onCluster cluster p) := by
  induction p with
  | ret a => exact h
  | fail e => trivial
  | call c k ih => exact fun r => ih r (h r)

@[simp] theorem run_onCluster : run (driver i) (onCluster cluster p) d =
    ((run array p (d.arrays cluster)).1, d.setArray cluster (run array p (d.arrays cluster)).2) := by
  induction p generalizing d with
  | ret a => simp [onCluster]
  | fail e => simp [onCluster]
  | call c k ih => simp [onCluster, run, driver_act, array_act, Driver.serve, ih]

theorem wp_onCluster : wp (driver i) F (onCluster cluster p) Q d ↔
      wp array (fun s c e => F (d.setArray cluster s) (.array cluster c) e) p
        (fun r s => Q r (d.setArray cluster s)) (d.arrays cluster) := by
  induction p generalizing d with
  | ret a => simp [onCluster]
  | fail e => simp [onCluster]
  | call c k ih => simp [onCluster, wp_call, driver_act, array_act, Driver.serve, ih]

end OnCluster

end CsiPowerscale
