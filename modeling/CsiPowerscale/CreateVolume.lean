import CsiPowerscale.Driver

namespace CsiPowerscale
open GoLib Effects Effects.Prog

structure SharedExport where
  path : Str
  nfs : Export
  deriving DecidableEq

structure SnapshotSource where
  normalizedID : Str
  snapshotID : Str
  volumeIsiPath : Str
  isiPath : Str
  readOnly : Bool
  deriving DecidableEq

inductive Source
  | none
  | snapshot (src : SnapshotSource)
  | volume (volumeID : Str)
  | unset
  deriving DecidableEq

/-- What `CreateVolume` has worked out before it looks for the volume: its parameters with defaults,
the shared export of a directory-backed volume and the content source. -/
structure Plan where
  name : Str
  cfg : ClusterConfig
  clusterName : Str
  sizeInBytes : Int
  accessZone : Str
  isiPath : Str
  permissions : Option Str
  volumePathPermissions : Str
  azServiceIP : Str
  azNetwork : Str
  rootClientEnabled : Str
  shared : Option SharedExport
  softLimit : Str
  advisoryLimit : Str
  softGracePrd : Str
  smartConnectZoneFQDN : Str
  nfsTransportSecurity : Str
  writableFromSnapshot : Bool
  headerMetadata : Params
  source : Source
  isReplication : Bool
  deriving DecidableEq

namespace Plan

variable (p : Plan)

def directoryBacked : Bool := p.shared.isSome

def sharedExportPath : Str := (p.shared.map SharedExport.path).getD []

def basePath : Str :=
  match p.shared with
  | some shared => shared.path
  | none => p.isiPath

def readOnlySource : Option SnapshotSource :=
  match p.source with
  | .snapshot src => if src.readOnly then some src else none
  | _ => none

def isROVolumeFromSnapshot : Bool := p.readOnlySource.isSome

def thresholds : Int × Int × Int :=
  IsiService.quotaThresholds p.softLimit p.advisoryLimit p.softGracePrd p.sizeInBytes

def hasContentSource : Bool := p.source ≠ .none

def sourceSnapshotID : Str :=
  match p.source with
  | .snapshot src => src.snapshotID
  | _ => []

def sourceVolumeID : Str :=
  match p.source with
  | .volume i => i
  | _ => []

end Plan

def paramOr (params : Params) (key default : Str) : Str :=
  if params.get key = [] then default else params.get key

variable (svc : Service)

def resolveAzServiceIP (cfg : ClusterConfig) (params : Params) : Str :=
  let ip := if svc.customTopologyEnabled then cfg.endpoint
    else paramOr params "AzServiceIP" cfg.endpoint
  if contains ip "localhost" then cfg.mountEndpoint else ip

def validateSharedExport (params : Params) (accessZone : Str) : IsiM (Option SharedExport) := do
  let path := params.get "SharedExportPath"
  if params.get? "DirectoryBacked" ≠ some ("true" : Str) then return none
  else if path = [] then
    fail (.status .invalidArgument "SharedExportPath is required when DirectoryBacked is enabled")
  else if !startsWith path "/" then
    fail (.status .invalidArgument (sprintf ["parameter 'SharedExportPath' must be an absolute path",
      " (start with '/'), got '", path, "'"]))
  else if contains path ".." then
    fail (.status .invalidArgument (sprintf ["parameter 'SharedExportPath' contains path traversal",
      " sequences ('..'), got '", path, "'"]))
  else
    match ← tryRequest (.getExportWithPath path accessZone) with
    | .error e => fail (.status .internal (sprintf ["failed to query shared export at path '", path,
        "' in access zone '", accessZone, "': ", e.text]))
    | .ok none => fail (.status .invalidArgument (sprintf ["shared export not found at path '", path,
        "' in access zone '", accessZone,
        "'. Ensure the shared export is pre-created by an administrator."]))
    | .ok (some e) => return some ⟨path, e⟩

def validateMTLSTarget (fqdn tls : Str) : Except Err Unit := do
  match validateNFSTransportSecurity tls with
  | .error e => .error (.status .invalidArgument e.text)
  | .ok _ =>
    if !isMTLSEnabled tls then .ok ()
    else if fqdn = [] then
      .error (.status .invalidArgument (getMessageWithReqID svc.runID [
        "NFSTransportSecurity is set to 'mtls' but no FQDN is configured. ",
        "mTLS requires an FQDN for certificate validation. ",
        "Configure the FQDN using one of: StorageClass parameter 'SmartConnectZoneFQDN', ",
        "cluster Secret field 'nfsMountFQDN', or environment variable 'X_CSI_ISI_NFS_MOUNT_FQDN'."]))
    else if isIPAddress fqdn then
      .error (.status .invalidArgument (getMessageWithReqID svc.runID [
        "SmartConnectZoneFQDN '", fqdn,
        "' is an IP address, but mTLS requires a valid FQDN for certificate validation. ",
        "Configure a valid FQDN (e.g., 'powerscale.example.com') using one of: ",
        "StorageClass parameter 'SmartConnectZoneFQDN', ",
        "cluster Secret field 'nfsMountFQDN', or environment variable 'X_CSI_ISI_NFS_MOUNT_FQDN'."]))
    else .ok ()

def wantsReadOnly (svc : Service) : List (Option VolumeCapability) → Except Err Bool
  | [] => .ok false
  | none :: _ =>
    .error (.status .invalidArgument (getMessageWithReqID svc.runID ["volume capabilty is required"]))
  | some vc :: rest =>
    match vc.accessMode with
    | none =>
      .error (.status .invalidArgument (getMessageWithReqID svc.runID ["access mode is required"]))
    | some .multiNodeReaderOnly => .ok true
    | some _ => wantsReadOnly svc rest

def resolveSnapshotSource (req : CreateVolumeRequest)
    (clusterName accessZone normalizedID : Str) : IsiM SnapshotSource := do
  match parseNormalizedSnapshotID normalizedID with
  | .error e => fail (.status .invalidArgument (getMessageWithReqID svc.runID [
      "failed to parse snapshot ID '", normalizedID, "', error : '", e.text, "'"]))
  | .ok i =>
    if i.clusterName ≠ [] ∧ i.clusterName ≠ clusterName then
      fail (.status .invalidArgument (getMessageWithReqID svc.runID [
        "source snapshot's cluster name '", i.clusterName, "' and new volume's cluster name '",
        clusterName, "' doesn't match"]))
    else
      match ← attempt (IsiService.getSnapshotSourceVolumeIsiPath i.snapshotID) with
      | .error e => fail (.status .notFound e.text)
      | .ok volumeIsiPath =>
        match ← tryRequest (.getSnapshotIsiPath volumeIsiPath i.snapshotID accessZone) with
        | .error e => fail (.status .internal e.text)
        | .ok isiPath =>
          if req.volumeCapabilities = [] then
            fail (.status .invalidArgument
              (getMessageWithReqID svc.runID ["volume capabilty is required"]))
          else
            let readOnly ← ofExcept (wantsReadOnly svc req.volumeCapabilities)
            return ⟨normalizedID, i.snapshotID, volumeIsiPath, isiPath, readOnly⟩

def resolveSource (req : CreateVolumeRequest) (clusterName accessZone : Str)
    (writableFromSnapshot : Bool) : IsiM Source := do
  match req.volumeContentSource with
  | none =>
    if writableFromSnapshot then fail (.status .invalidArgument
      "writable-from-snapshot parameter requires volume content source snapshot")
    else return .none
  | some (.snapshot normalizedID) =>
    return .snapshot (← resolveSnapshotSource svc req clusterName accessZone normalizedID)
  | some (.volume i) =>
    if writableFromSnapshot then fail (.status .invalidArgument
      "writable-from-snapshot parameter is not supported with PVC clone dataSource")
    else return .volume i
  | some .unset => return .unset

def rpoToInt (rpo : Str) : Option Int :=
  ([(("Five_Minutes" : Str), (300 : Int)), ("Fifteen_Minutes", 900), ("Thirty_Minutes", 1800),
    ("One_Hour", 3600), ("Six_Hours", 21600), ("Twelve_Hours", 43200), ("One_Day", 86400)]).lookup rpo

def ensureVolumeGroup (isiPath vgName : Str) : IsiM VolumeInfo := do
  match ← tryRequest (.getVolume isiPath vgName) with
  | .ok vg => return vg
  | .error e =>
    if e.jsonStatus = some 404 then request (.createVolume isiPath vgName "0777" [])
    else fail e

def ensurePolicy (ppName : Str) (rpo : Int) (path host cert : Str) : IsiM Unit := do
  match ← tryRequest (.getPolicy ppName) with
  | .ok _ => ret ()
  | .error e =>
    if e.jsonStatus = some 404 then
      match ← tryRequest (.createPolicy ppName rpo path path host cert) with
      | .error e => fail (.status .internal (sprintf ["can't create protection policy ", e.text]))
      | .ok _ =>
        match ← tryRequest (.waitForPolicy ppName) with
        | .error e => fail (.status .internal
            (sprintf ["policy job couldn't reach FINISHED state ", e.text]))
        | .ok _ => ret ()
    else fail (.status .internal (sprintf ["can't ensure protection policy exists ", e.text]))

variable (params : Params)

def replicationParam (key what : Str) : IsiM Str :=
  match params.get? (svc.withRP key) with
  | some v => ret v
  | none => fail (.status .invalidArgument
      (sprintf ["replication enabled but no ", what, " specified in storage class"]))

def isReplicationEnabled (params : Params) : Bool :=
  ((params.get? (svc.withRP "isReplicationEnabled")).bind parseBool).getD false

def volumeGroupNamespace : Str :=
  if params.get? (svc.withRP "ignoreNamespaces") = some ("false" : Str) then
    match params.get? "csi.storage.k8s.io/pvc/namespace" with
    | some ns => ns ++ "-"
    | none => []
  else []

def remoteEndpoint (remote : ClusterConfig) : Str :=
  if contains remote.endpoint "localhost" then remote.mountEndpoint else remote.endpoint

def volumeGroupName (vgPrefix rpo endpoint : Str) : Str :=
  (vgPrefix ++ "-" ++ volumeGroupNamespace svc params ++ endpoint ++ "-" ++ rpo).take 128

def prepareReplication (isiPath : Str) : IsiM Str := do
  let vgPrefix ← replicationParam svc params "volumeGroupPrefix" "volume group prefix"
  let rpo ← replicationParam svc params "rpo" "RPO"
  match rpoToInt rpo with
  | none => fail (.status .invalidArgument "invalid rpo value")
  | some rpoint =>
    let remoteSystemName ← replicationParam svc params "remoteSystem" "remote system"
    match svc.getIsilonConfig remoteSystemName with
    | .error _ => fail (.status .invalidArgument (sprintf ["can't find cluster with name ",
        if remoteSystemName = [] then svc.defaultIsiClusterName else remoteSystemName,
        " in driver config"]))
    | .ok (_, remote) =>
      let endpoint := remoteEndpoint remote
      let vgName := volumeGroupName svc params vgPrefix rpo endpoint
      let vg ← ensureVolumeGroup isiPath vgName
      let path := isiPath ++ "/" ++ vgName
      ensurePolicy (replaceByte vg.name 46 45) rpoint path endpoint remote.replicationCertificateID
      return path

def volumeRoot (isiPath : Str) : IsiM Str :=
  if isReplicationEnabled svc params then prepareReplication svc params isiPath else ret isiPath

def wantsWritableSnapshot : Bool :=
  equalFold (params.get "csi-isilon.dellemc.com/writable-from-snapshot") "true"

def resolvePlan (req : CreateVolumeRequest) : IsiM Plan := do
  let params := req.parameters
  ofExcept (validateMutableParamKeys req.mutableParameters)
  let (clusterName, cfg) ← ofExcept (svc.getIsilonConfig (params.get "ClusterName"))
  match ← attempt (svc.autoProbe cfg) with
  | .error e => fail (.status .failedPrecondition e.text)
  | .ok _ =>
    match validateCreateVolumeRequest req with
    | .error e => fail (.status .invalidArgument e.text)
    | .ok sizeInBytes =>
      let accessZone := paramOr params "AccessZone" svc.accessZone
      let isiPath := paramOr params "IsiPath" cfg.isiPath
      let permissions := paramOr params "IsiVolumePathPermissions" cfg.isiVolumePathPermissions
      let shared ← validateSharedExport params accessZone
      let (soft, advisory, grace) := readQuotaLimitParams params req.mutableParameters
      let fqdn := resolveMountFQDN (params.get "SmartConnectZoneFQDN") cfg.nfsMountFQDN
        svc.envNFSMountFQDN
      let tls := params.get "NFSTransportSecurity"
      ofExcept (validateMTLSTarget svc fqdn tls)
      let writable := wantsWritableSnapshot params
      let source ← resolveSource svc req clusterName accessZone writable
      return {
        name := req.name
        cfg := cfg
        clusterName := clusterName
        sizeInBytes := sizeInBytes
        accessZone := accessZone
        isiPath := isiPath
        permissions := (params.get? "IsiVolumePathPermissions").map fun _ => permissions
        volumePathPermissions := permissions
        azServiceIP := resolveAzServiceIP svc cfg params
        azNetwork := params.get "AzNetwork"
        rootClientEnabled := (params.get? "RootClientEnabled").getD "false"
        shared := shared
        softLimit := soft
        advisoryLimit := advisory
        softGracePrd := grace
        smartConnectZoneFQDN := fqdn
        nfsTransportSecurity := tls
        writableFromSnapshot := writable
        headerMetadata := addMetaData params
        source := source
        isReplication := isReplicationEnabled svc params }

def preparePlan (req : CreateVolumeRequest) : IsiM Plan := do
  let p ← resolvePlan svc req
  let isiPath ← volumeRoot svc req.parameters p.isiPath
  return { p with isiPath := isiPath }

namespace Controller

def maxRetries : Nat := 10

def maxQuotaRetries : Nat := 3

def deleteSnapshotMarker : Str := "DELETE_SNAPSHOT"

def ignoreDotAndDotDotSubDirs : Int := 2

variable (p : Plan)

def getCSIVolume (exportID : Int) (volName path accessZone : Str) : Volume :=
  let attributes : Params := [("ID", itoa exportID), ("Name", volName), ("Path", path),
    ("AccessZone", accessZone), ("AzServiceIP", p.azServiceIP), ("AzNetwork", p.azNetwork),
    ("RootClientEnabled", p.rootClientEnabled), ("ClusterName", p.clusterName)]
  let mode : Params :=
    if p.directoryBacked then [("ProvisioningMode", "directory"), ("DirectoryPath", volName),
      ("SharedExportPath", p.sharedExportPath), ("SharedExportID", itoa exportID)]
    else [("ProvisioningMode", "export")]
  let fqdn : Params := if p.smartConnectZoneFQDN ≠ [] then
    [("SmartConnectZoneFQDN", p.smartConnectZoneFQDN)] else []
  let tls : Params := if p.nfsTransportSecurity ≠ [] then
    [("NFSTransportSecurity", p.nfsTransportSecurity)] else []
  let contentSource : Option ContentSource :=
    if p.sourceSnapshotID ≠ [] then some (.snapshot p.sourceSnapshotID)
    else if p.sourceVolumeID ≠ [] then some (.volume p.sourceVolumeID)
    else none
  let ownership : Params :=
    if contentSource.isSome ∧ p.directoryBacked then [("NeedsRecursiveOwnership", "true")] else []
  { volumeID :=
      if p.directoryBacked then
        getDirectoryBackedVolumeID volName exportID accessZone p.clusterName
      else getNormalizedVolumeID volName exportID accessZone p.clusterName
    capacityBytes := p.sizeInBytes
    volumeContext := attributes ++ mode ++ fqdn ++ tls ++ ownership
    contentSource := contentSource }

structure Tracking where
  isiPath : Str
  dir : Str
  entry : Str
  deriving DecidableEq

structure Target where
  path : Str
  foundVol : Bool
  tracking : Option Tracking
  deriving DecidableEq

/-- Look for a read-only volume: it exists when the tracking directory of its snapshot has an entry
for it. Otherwise there may be no entry of another volume; a failed count is zero. -/
def findReadOnlyVolume (src : SnapshotSource) : IsiM Target := do
  if p.isReplication then fail (.plain "unable to create replication volume from snapshot")
  else
    match ← tryRequest (.getSnapshot src.snapshotID) with
    | .error e => fail (.plain (sprintf ["failed to get snapshot id '", src.snapshotID, "', error '",
        e.text, "'"]))
    | .ok snapshot =>
      let trackingDir := getSnapshotTrackingDirName snapshot.name
      let entry := join [trackingDir, p.name]
      let tracking : Tracking := ⟨src.volumeIsiPath, trackingDir, entry⟩
      if ← IsiService.isVolumeExistent src.volumeIsiPath entry then
        return ⟨src.isiPath, true, some tracking⟩
      else
        let count ← attempt (IsiService.getSubDirectoryCount src.volumeIsiPath trackingDir)
        if count.toOption.getD 0 > 2 then
          fail (.plain "another RO volume from this snapshot is already present")
        else return ⟨src.isiPath, false, some tracking⟩

def findVolume : IsiM Target := do
  match p.readOnlySource with
  | some src => findReadOnlyVolume p src
  | none =>
    match p.shared with
    | some shared =>
      let found ← IsiService.isVolumeExistent shared.path p.name
      return ⟨join [shared.path, p.name], found, none⟩
    | none =>
      let found ← IsiService.isVolumeExistent p.isiPath p.name
      return ⟨getPathForVolume p.isiPath p.name, found, none⟩

variable (t : Target)

def createTrackingEntry : IsiM Unit := do
  match t.tracking with
  | some tracking =>
    if !t.foundVol then
      IsiService.createVolume tracking.isiPath tracking.dir p.volumePathPermissions
      IsiService.createVolume tracking.isiPath tracking.entry p.volumePathPermissions
  | none => ret ()

inductive Resolution
  | respond (v : Volume)
  | proceed (exportID : Int) (needsQuota : Bool)
  deriving DecidableEq

/-- A directory-backed volume that exists, or is read-only: answer if its quota has the requested
size, else let a quota be made unless there are sub-directories. -/
def resolveDirectoryBacked (shared : SharedExport) : IsiM Resolution := do
  match ← attempt (IsiService.getQuotaByPath t.path) with
  | .ok quota =>
    if p.sizeInBytes ≠ quota.hard then
      fail (.status .alreadyExists (sprintf ["volume '", p.name,
        "' exists with quota, but at different size (requested: ", itoa p.sizeInBytes,
        " bytes, existing: ", itoa quota.hard, " bytes)"]))
    else return .respond (getCSIVolume p shared.nfs.id p.name t.path shared.nfs.zone)
  | .error _ =>
    match ← attempt (IsiService.getSubDirectoryCount shared.path p.name) with
    | .error e => fail (.status .internal (sprintf ["failed to check directory contents for '",
        p.name, "': ", e.text]))
    | .ok count =>
      if count > ignoreDotAndDotDotSubDirs then
        fail (.status .failedPrecondition (sprintf ["pre-existing data detected at path '", t.path,
          "': directory exists with ", itoa count,
          " entries but no quota (possible external data)"]))
      else return .proceed shared.nfs.id true

def checkVolumeQuota (e : Export) : IsiM Unit := do
  if svc.quotaEnabled then
    match ← attempt (IsiService.getVolumeQuota p.name e.id p.accessZone) with
    | .error err => fail (.status .notFound (sprintf ["can't find quota for volume '", p.name, "': ",
        err.text]))
    | .ok quota =>
      if p.sizeInBytes ≠ quota.hard then
        fail (.status .alreadyExists (sprintf ["volume '", p.name,
          "' exists, but at different size than requested"]))

def resolveExportBacked (e : Export) : IsiM Resolution := do
  checkVolumeQuota svc p e
  return .respond (getCSIVolume p e.id p.name t.path e.zone)

def resolveExport : IsiM Resolution := do
  match p.shared with
  | some shared =>
    if t.foundVol || p.isROVolumeFromSnapshot then resolveDirectoryBacked p t shared
    else return .proceed shared.nfs.id false
  | none =>
    match ← request (.getExportWithPath t.path p.accessZone) with
    | none =>
      if t.foundVol then
        fail (.status .internal (getMessageWithReqID svc.runID [
          "the export may not be ready yet and the path is ", t.path]))
      else return .proceed 0 false
    | some e =>
      if t.foundVol || p.isROVolumeFromSnapshot then resolveExportBacked svc p t e
      else
        -- an export without the directory of its volume is stale
        match ← attempt (IsiService.unexportByIDWithZone e.id p.accessZone) with
        | .error err => fail (.status .internal err.text)
        | .ok _ => return .proceed 0 false

def createDirectory : IsiM Unit := do
  if !p.isROVolumeFromSnapshot && !t.foundVol && !p.writableFromSnapshot then
    let permissions := p.permissions.getD (if p.directoryBacked then "0750" else "0777")
    if p.headerMetadata = [] then
      match ← attempt (IsiService.createVolume p.basePath p.name permissions) with
      | .ok _ => ret ()
      | .error e => fail (.wrapped (sprintf ["failed to create volume directory: ", e.text]) e)
    else
      match ← attempt (IsiService.createVolumeWithMetaData p.basePath p.name permissions
          p.headerMetadata) with
      | .ok _ => ret ()
      | .error e => fail (.wrapped
          (sprintf ["failed to create volume directory with metadata: ", e.text]) e)

def createVolumeFromSnapshot (isiPath normalizedSnapshotID dstVolumeName : Str)
    (sizeInBytes : Int) (accessZone : Str) : IsiM Unit := do
  let i ← ofExcept (parseNormalizedSnapshotID normalizedSnapshotID)
  match ← tryRequest (.getSnapshot i.snapshotID) with
  | .error e => fail (.plain (sprintf ["failed to get snapshot id '", i.snapshotID, "', error '",
      e.text, "'"]))
  | .ok snapshot =>
    let volumeIsiPath := dir snapshot.path
    let size ← IsiService.getSnapshotSize volumeIsiPath snapshot.name accessZone
    if size > sizeInBytes then
      fail (.plain (sprintf ["specified size '", itoa sizeInBytes,
        "' is smaller than source snapshot size '", itoa size, "'"]))
    else
      match ← tryRequest (.copySnapshot isiPath volumeIsiPath snapshot.num dstVolumeName
          accessZone) with
      | .ok _ => ret ()
      | .error e => fail (.status .internal (sprintf ["failed to copy snapshot id '", i.snapshotID,
          "', error '", e.text, "'"]))

def createVolumeFromWritableSnapshot (isiPath normalizedSnapshotID dstVolumeName : Str)
    (sizeInBytes : Int) (accessZone : Str) : IsiM Unit := do
  let i ← ofExcept (parseNormalizedSnapshotID normalizedSnapshotID)
  match ← tryRequest (.getSnapshot i.snapshotID) with
  | .error e => fail (.status .notFound (sprintf ["failed to get snapshot id '", i.snapshotID,
      "', error '", e.text, "'"]))
  | .ok snapshot =>
    let size ← IsiService.getSnapshotSize (dir snapshot.path) snapshot.name accessZone
    if size > sizeInBytes then
      fail (.status .invalidArgument (sprintf ["specified size '", itoa sizeInBytes,
        "' is smaller than source snapshot size '", itoa size, "'"]))
    else
      let destinationPath := getPathForVolume isiPath dstVolumeName
      match ← tryRequest (.getWritableSnapshot destinationPath) with
      | .ok _ => ret ()
      | .error _ =>
        match ← attempt (IsiService.createWritableSnapshot isiPath destinationPath i.snapshotID
            dstVolumeName) with
        | .ok _ => ret ()
        | .error e => fail (.status .internal (sprintf [
            "failed to create writable snapshot from snapshot '", i.snapshotID, "', error '", e.text,
            "'"]))

def createVolumeFromVolume (isiPath srcVolumeName dstVolumeName : Str) (sizeInBytes : Int) :
    IsiM Unit := do
  if ← IsiService.isVolumeExistent isiPath srcVolumeName then
    let size ← IsiService.getVolumeSize isiPath srcVolumeName
    if size > sizeInBytes then
      fail (.plain (sprintf ["specified size '", itoa sizeInBytes,
        "' is smaller than source volume size '", itoa size, "'"]))
    else
      match ← tryRequest (.copyVolume isiPath srcVolumeName dstVolumeName) with
      | .ok _ => ret ()
      | .error e => fail (.plain (sprintf ["failed to copy volume name '", srcVolumeName,
          "', error '", e.text, "'"]))
  else fail (.plain (sprintf ["failed to get volume name '", srcVolumeName, "', error '<nil>'"]))

def toStatus (e : Err) : Err := if e.isStatus then e else .status .internal e.text

/-- The base path of a volume to clone: the shared export of a directory-backed one if its export
can be read, else the base path of the new volume. -/
def sourceBasePath (isiPath : Str) (v : VolumeID) (mode : Str) : IsiM Str := do
  if mode = provisioningModeDirectory then
    match ← tryRequest (.getExportByID v.exportID v.accessZone) with
    | .ok (some e) =>
      match e.paths with
      | path :: _ => return clean path
      | [] => return isiPath
    | _ => return isiPath
  else return isiPath

def createVolumeFromSource (isiPath : Str) : IsiM Unit := do
  match p.source with
  | .snapshot src =>
    match ← attempt (if p.writableFromSnapshot then
        createVolumeFromWritableSnapshot isiPath src.normalizedID p.name p.sizeInBytes p.accessZone
      else createVolumeFromSnapshot isiPath src.normalizedID p.name p.sizeInBytes p.accessZone) with
    | .ok _ => ret ()
    | .error e => fail (toStatus e)
  | .volume i =>
    match parseVolumeIDWithMode i with
    | .error e =>
      if contains e.text "cannot be split into tokens" then
        fail (.status .notFound "volume ID is invalid or not found")
      else fail (.status .internal e.text)
    | .ok (v, mode) =>
      let srcBasePath ← sourceBasePath isiPath v mode
      match ← attempt (createVolumeFromVolume srcBasePath v.volName p.name p.sizeInBytes) with
      | .ok _ => ret ()
      | .error e => fail (.status .internal e.text)
  | _ => ret ()

def cleanUpWritableSnapshot (cause : Str) : IsiM Unit := do
  if p.writableFromSnapshot then
    let dstPath := getPathForVolume p.isiPath p.name
    match ← tryRequest (.deleteWritableSnapshot dstPath) with
    | .ok _ => ret ()
    | .error e => fail (.status .internal (sprintf [
        "failed to clean up writable snapshot during rollback at '", dstPath, "': ", e.text,
        " (original error: ", cause, ")"]))

/-- Fill the new volume from its source. The roll-back works below the base path of export-backed
volumes, in both modes. -/
def populate : IsiM Unit := do
  if p.hasContentSource && !p.isROVolumeFromSnapshot then
    match ← attempt (createVolumeFromSource p p.basePath) with
    | .ok _ => ret ()
    | .error err =>
      cleanUpWritableSnapshot p err.text
      let _ ← attempt (IsiService.deleteVolume p.isiPath p.name)
      fail err

def createQuotaWithRetry (svc : Service) (p : Plan) (path : Str) : Nat → IsiM (Except Err Str)
  | 0 => attempt (IsiService.createQuota path p.softLimit p.advisoryLimit p.softGracePrd
      p.sizeInBytes (svc.quotaEnabled || p.directoryBacked))
  | n + 1 => do
    match ← attempt (IsiService.createQuota path p.softLimit p.advisoryLimit p.softGracePrd
        p.sizeInBytes (svc.quotaEnabled || p.directoryBacked)) with
    | .ok quotaID => return .ok quotaID
    | .error _ =>
      match ← tryRequest .wait with
      | .ok _ => createQuotaWithRetry svc p path n
      | .error e => fail (.status .canceled (sprintf ["quota creation cancelled: ", e.text]))

def rollbackQuota (quotaErr : Err) : IsiM Str := do
  let licenseError : Bool := quotaErr.asJSON = some 403 ∨ quotaErr.asJSON = some 402
  let rejected : Str := "quota creation rejected by OneFS (possible licensing or privilege issue): "
  match ← attempt (IsiService.deleteVolume p.basePath p.name) with
  | .error deleteErr =>
    if licenseError then fail (.status .failedPrecondition (sprintf [rejected, quotaErr.text,
      "; rollback deletion also failed: ", deleteErr.text]))
    else fail (.wrapped (sprintf ["quota creation failed after ", natToStr maxQuotaRetries,
      " retries: ", quotaErr.text, ", and rollback deletion also failed: ", deleteErr.text])
      quotaErr)
  | .ok _ =>
    if licenseError then fail (.status .failedPrecondition (sprintf [rejected, quotaErr.text]))
    else fail (.wrapped (sprintf ["quota creation failed after ", natToStr maxQuotaRetries,
      " retries: ", quotaErr.text, ", volume deleted successfully"]) quotaErr)

def adoptQuota (path : Str) : IsiM Str := do
  match ← tryRequest (.getQuotaWithPath path) with
  | .error err =>
    cleanUpWritableSnapshot p (sprintf ["failed to retrieve auto-created quota: ", err.text])
    let _ ← attempt (IsiService.deleteVolume p.isiPath p.name)
    fail (.status .internal (sprintf [
      "failed to retrieve auto-created quota for writable snapshot '", p.name, "': ", err.text]))
  | .ok quota =>
    match ← attempt (IsiService.updateQuotaSize quota.id p.sizeInBytes 0 0 0) with
    | .error e => fail (.status .internal e.text)
    | .ok _ => return quota.id

def provisionQuota (needsQuota : Bool) : IsiM Str := do
  if needsQuota || (!t.foundVol && !p.isROVolumeFromSnapshot && !p.writableFromSnapshot) then
    match ← createQuotaWithRetry svc p t.path (maxQuotaRetries - 1) with
    | .ok quotaID => return quotaID
    | .error e => rollbackQuota p e
  else if !t.foundVol && !p.isROVolumeFromSnapshot && p.writableFromSnapshot then
    adoptQuota p t.path
  else return []

def addDummyHost (exportID : Int) : IsiM Unit := do
  if !(← IsiService.isHostAlreadyAdded exportID p.accessZone dummyHostNodeID) then
    let _ ← attempt (IsiService.addExportClientNetworkIdentifierByIDWithZone p.cfg.currentClient
      exportID p.accessZone dummyHostNodeID p.cfg.ignoreUnresolvableHosts)

def awaitExport (svc : Service) (p : Plan) (exportID : Int) (path : Str) (f : Export → Volume) :
    Nat → IsiM (Option Volume)
  | 0 => fail (.status .internal (getMessageWithReqID svc.runID ["the export id ", itoa exportID,
      " and path ", path, " may not be ready yet after retrying"]))
  | n + 1 => do
    match ← tryRequest (.getExportByID exportID p.accessZone) with
    | .ok (some e) =>
      addDummyHost p exportID
      return some (f e)
    | _ =>
      match ← tryRequest .wait with
      | .ok _ => awaitExport svc p exportID path f n
      | .error _ => fail (.status .canceled "context canceled during export creation retry")

def readOnlyResponse (exportID : Int) (e : Export) : Volume :=
  getCSIVolume p exportID p.name (e.paths.headD t.path) p.accessZone

def exportReadOnly : IsiM (Option Volume) := do
  let exportID ← IsiService.exportVolumeWithZoneAndXprtsec t.path [] p.accessZone []
    (resolveXprtsec p.nfsTransportSecurity)
  if exportID = 0 then return none
  else awaitExport svc p exportID t.path (readOnlyResponse p t exportID) maxRetries

def rollbackExport (quotaID : Str) : IsiM Unit := do
  let _ ← attempt (IsiService.clearQuotaByID quotaID)
  cleanUpWritableSnapshot p "export creation failed"
  let _ ← attempt (IsiService.deleteVolume p.isiPath p.name)

def exportResponse (exportID : Int) (e : Export) : Volume :=
  match e.paths with
  | path :: _ => getCSIVolume p exportID ((split path "/").getLastD []) path p.accessZone
  | [] => getCSIVolume p exportID p.name t.path p.accessZone

def exportVolume (quotaID : Str) :
    IsiM (Option Volume) := do
  match ← attempt (IsiService.exportVolumeWithZoneAndXprtsec p.isiPath p.name p.accessZone
      (getQuotaIDWithCSITag quotaID) (resolveXprtsec p.nfsTransportSecurity)) with
  | .error err =>
    rollbackExport p quotaID
    fail err
  | .ok exportID =>
    if exportID = 0 then
      rollbackExport p quotaID
      return none
    else awaitExport svc p exportID t.path (exportResponse p t exportID) maxRetries

def exportAndRespond (exportID : Int) (quotaID : Str) :
    IsiM (Option Volume) := do
  if p.directoryBacked then return some (getCSIVolume p exportID p.name t.path p.accessZone)
  else if p.isROVolumeFromSnapshot then exportReadOnly svc p t
  else exportVolume svc p t quotaID

def build (exportID : Int) (needsQuota : Bool) :
    IsiM (Option Volume) := do
  createDirectory p t
  populate p
  let quotaID ← provisionQuota svc p t needsQuota
  exportAndRespond svc p t exportID quotaID

def provision : IsiM (Option Volume) := do
  let t ← findVolume p
  createTrackingEntry p t
  match ← resolveExport svc p t with
  | .respond v => return some v
  | .proceed exportID needsQuota => build svc p t exportID needsQuota

/-- `CreateVolume`. The array never hands out export number zero; if it did, the result would be
neither a volume nor an error. -/
def createVolume (req : CreateVolumeRequest) : IsiM (Option Volume) := do
  let p ← preparePlan svc req
  provision svc p

end Controller

end CsiPowerscale
