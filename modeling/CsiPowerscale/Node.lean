import CsiPowerscale.Driver

namespace CsiPowerscale
open GoLib Effects Effects.Prog

structure Mount where
  device : Str
  path : Str
  opts : List Str
  deriving DecidableEq

structure Node where
  mounts : List Mount
  deriving DecidableEq

namespace Node

def mountedAt (s : Node) (path : Str) : List Mount := s.mounts.filter fun m => m.path = path

def deviceOf (s : Node) (path : Str) : Str :=
  ((s.mounts.find? fun m => m.path = path).map Mount.device).getD path

def push (s : Node) (m : Mount) : Node := ⟨m :: s.mounts⟩

def pop (s : Node) (path : Str) : Node := ⟨s.mounts.eraseP fun m => m.path = path⟩

end Node

structure TLSCapability where
  kernelTLSSupported : Bool
  tlshdAvailable : Bool
  deriving DecidableEq

inductive NodeCall
  | array (c : Call)
  | tlsCapability
  | applyFSGroup (stagingPath fsGroup rootClientEnabled fsType : Str) (accessMode : AccessMode)
  | setVolumeGroupOwnershipByPath (sharedExportPath directoryPath : Str) (gid : Int) (isClone : Bool)
  | setVolumeGroupOwnershipRecursive (sharedExportPath directoryPath : Str) (gid : Int)
  | mkdir (path : Str)
  | getMounts
  | mount (source target fsType : Str) (opts : List Str)
  | unmount (target : Str)
  | removeAll (path : Str)
  | sleep
  | stat (path : Str)
  | readFile (path : Str)
  | getPowerScaleNodeID
  | controllerUnpublishVolume (volumeID nodeID : Str)
  | deleteVolume (volumeID : Str)
  deriving DecidableEq

@[reducible] def NodeCall.Reply : NodeCall → Type
  | array c => c.Reply
  | tlsCapability => TLSCapability
  | setVolumeGroupOwnershipByPath .. => Bool
  | getMounts => List Mount
  | readFile _ => Str
  | getPowerScaleNodeID => Str
  | _ => Unit

abbrev NodeM := Prog NodeCall NodeCall.Reply Err

abbrev nodeRequest (c : NodeCall) : NodeM c.Reply := op c

abbrev tryNodeRequest (c : NodeCall) : NodeM (Except Err c.Reply) := ask c

/-- The answers of everything but the mount table during one call of the node service. -/
structure NodeEnv where
  array : (c : Call) → Except Err c.Reply
  tlsCapability : TLSCapability
  applyFSGroup : Str → Str → Str → Str → AccessMode → Except Err Unit
  setVolumeGroupOwnershipByPath : Str → Str → Int → Bool → Except Err Bool
  setVolumeGroupOwnershipRecursive : Str → Str → Int → Except Err Unit
  mkdir : Str → Except Err Unit
  getMounts : Except Err Unit
  removeAll : Str → Except Err Unit
  stat : Str → Except Err Unit
  readFile : Str → Except Err Str
  getPowerScaleNodeID : Except Err Str
  controllerUnpublishVolume : Str → Str → Except Err Unit
  deleteVolume : Str → Except Err Unit

/-- A mount pushes an entry and an unmount pops one, neither fails; a bind mount shows the device of
what it binds. -/
def NodeEnv.serve (env : NodeEnv) : (c : NodeCall) → Node → Except Err c.Reply × Node
  | .array c, s => (env.array c, s)
  | .tlsCapability, s => (.ok env.tlsCapability, s)
  | .applyFSGroup a b c d m, s => (env.applyFSGroup a b c d m, s)
  | .setVolumeGroupOwnershipByPath p d g c, s => (env.setVolumeGroupOwnershipByPath p d g c, s)
  | .setVolumeGroupOwnershipRecursive p d g, s => (env.setVolumeGroupOwnershipRecursive p d g, s)
  | .mkdir p, s => (env.mkdir p, s)
  | .getMounts, s => (env.getMounts.map fun _ => s.mounts, s)
  | .mount source target _ opts, s =>
    (.ok (), s.push ⟨if ("bind" : Str) ∈ opts then s.deviceOf source else source, target, opts⟩)
  | .unmount target, s => (.ok (), s.pop target)
  | .removeAll p, s => (env.removeAll p, s)
  | .sleep, s => (.ok (), s)
  | .stat p, s => (env.stat p, s)
  | .readFile p, s => (env.readFile p, s)
  | .getPowerScaleNodeID, s => (env.getPowerScaleNodeID, s)
  | .controllerUnpublishVolume v n, s => (env.controllerUnpublishVolume v n, s)
  | .deleteVolume v, s => (env.deleteVolume v, s)

def node (env : NodeEnv) : World NodeCall NodeCall.Reply Err Node := ⟨env.serve⟩

structure MountVolume where
  fsType : Str
  mountFlags : List Str
  volumeMountGroup : Str
  deriving DecidableEq

structure NodeCapability where
  mount : Option MountVolume
  accessMode : Option AccessMode
  deriving DecidableEq

structure NodePublishVolumeRequest where
  volumeID : Str
  targetPath : Str
  stagingTargetPath : Str
  volumeCapability : Option NodeCapability
  volumeContext : Option Params
  readonly : Bool
  deriving DecidableEq

structure NodeUnpublishVolumeRequest where
  volumeID : Str
  targetPath : Str
  deriving DecidableEq

/-- The parts of `NodePublishVolume` in other functions: the publication of an ephemeral volume, and
the diagnosis of a failed direct mount. -/
structure NodeHooks where
  ephemeralNodePublish : NodePublishVolumeRequest → NodeM Unit
  diagnose : Str → Str → Err → Err

namespace NodeService

variable (svc : Service)

def reqError (code : Code) (parts : List Str) : Err :=
  .status code (getMessageWithReqID svc.runID parts)

/-- The directory-backed mode is in the volume ID; the volume context decides when the ID has no
mode or does not parse. -/
def isDirectoryBackedContext (volumeID : Str) (ctx : Params) : Bool :=
  match parseVolumeIDWithMode volumeID with
  | .ok (_, mode) =>
    if mode = [] then ctx.get "ProvisioningMode" = ("directory" : Str)
    else mode = provisioningModeDirectory
  | .error _ => ctx.get "ProvisioningMode" = ("directory" : Str)

/-- `NodeStageVolume` takes the mode from either of them. -/
def isDirectoryBackedStage (volumeID : Str) (ctx : Params) : Bool :=
  (match parseVolumeIDWithMode volumeID with
    | .ok (_, mode) => mode = provisioningModeDirectory
    | .error _ => false) || ctx.get "ProvisioningMode" = ("directory" : Str)

def locateVolume (req : NodePublishVolumeRequest) (ctx : Params) : Except Err (Str × Str) :=
  if isDirectoryBackedContext req.volumeID ctx then
    if ctx.get "SharedExportPath" = [] then
      .error (reqError svc .failedPrecondition ["no entry keyed by 'SharedExportPath' found in ",
        "VolumeContext for directory-backed volume '", req.volumeID, "'"])
    else if ctx.get "DirectoryPath" = [] then
      .error (reqError svc .failedPrecondition ["no entry keyed by 'DirectoryPath' found in ",
        "VolumeContext for directory-backed volume '", req.volumeID, "'"])
    else .ok (getPathForVolume (ctx.get "SharedExportPath") (ctx.get "DirectoryPath"),
      ctx.get "DirectoryPath")
  else if ctx.get "Path" = [] then
    .error (reqError svc .failedPrecondition ["no entry keyed by 'Path' found in VolumeContext of ",
      "volume id : '", req.volumeID, "', name '", ctx.get "name", "', skip NodePublishVolume"])
  else if ctx.get "Name" = [] then
    .error (reqError svc .failedPrecondition ["no entry keyed by 'Name' found in VolumeContext of ",
      "volume id : '", req.volumeID, "', name '", ctx.get "name", "', skip NodePublishVolume"])
  else .ok (ctx.get "Path", ctx.get "Name")

def checkVolume (path volName accessZone : Str) : NodeM Unit := do
  if isROVolumeFromSnapshot path accessZone then
    match ← tryNodeRequest (.array (.getExportWithPath path accessZone)) with
    | .ok (some _) => ret ()
    | _ => fail (reqError svc .internal ["error retrieving export for ", path])
  else
    match getIsiPathFromExportPath path with
    | none => fail .panic
    | some isiPath =>
      let _ ← nodeRequest (.array (.getVolume isiPath volName))

def validateMTLSMountTarget (mountTarget : Str) : Option Str :=
  if mountTarget = [] then some (sprintf ["No FQDN configured for mTLS mount. Configure ",
    "SmartConnectZoneFQDN, cluster nfsMountFQDN, or X_CSI_ISI_NFS_MOUNT_FQDN environment variable."])
  else if isIPAddress mountTarget then some (sprintf ["mTLS mount target '", mountTarget,
    "' is an IP address. Set StorageClass parameter 'SmartConnectZoneFQDN' to the OneFS ",
    "SmartConnect zone FQDN."])
  else none

def validateMountOptionsForMTLS : List Str → Option Str
  | [] => none
  | opt :: opts =>
    if toLower opt = ("xprtsec=none" : Str) then
      some ("mount option 'xprtsec=none' cannot be used with NFSTransportSecurity: mtls" : Str)
    else if toLower opt = ("xprtsec=tls" : Str) then
      some (sprintf ["mount option 'xprtsec=tls' cannot be used with NFSTransportSecurity: mtls; ",
        "mTLS requires mutual authentication"])
    else validateMountOptionsForMTLS opts

def validateMTLSPrerequisites (tls mountTarget : Str) (mountOptions : List Str) : NodeM Unit := do
  if !isMTLSEnabled tls then ret ()
  else
    let cap ← nodeRequest .tlsCapability
    if !cap.kernelTLSSupported then
      fail (reqError svc .failedPrecondition ["Kernel TLS (kTLS) support not available. Ensure ",
        "kernel version 6.5+ and TLS module is loaded (modprobe tls)."])
    else if !cap.tlshdAvailable then
      fail (reqError svc .failedPrecondition ["TLS handshake daemon (tlshd) not found. Install ",
        "ktls-utils package and ensure tlshd is running."])
    else
      match validateMTLSMountTarget mountTarget with
      | some m => fail (reqError svc .invalidArgument [m])
      | none =>
        match validateMountOptionsForMTLS mountOptions with
        | some m => fail (reqError svc .invalidArgument [m])
        | none => ret ()

structure Publication where
  ctx : Params
  mnt : MountVolume
  accessMode : Option AccessMode
  path : Str
  directoryBacked : Bool
  mountTarget : Str
  nfsTransportSecurity : Str
  deriving DecidableEq

def resolveMountTarget (cfg : ClusterConfig) (ctx : Params) : Str :=
  let az := if svc.customTopologyEnabled then cfg.endpoint else ctx.get "AzServiceIP"
  let ip := if contains az "localhost" then cfg.mountEndpoint else az
  let fqdn := resolveMountFQDN (ctx.get "SmartConnectZoneFQDN") cfg.nfsMountFQDN svc.envNFSMountFQDN
  if fqdn ≠ [] then fqdn else ip

def prepareVolume (cfg : ClusterConfig) (req : NodePublishVolumeRequest) (ctx : Params)
    (cap : NodeCapability) (mnt : MountVolume) : NodeM Publication := do
  let (path, volName) ← ofExcept (locateVolume svc req ctx)
  checkVolume svc path volName (ctx.get "AccessZone")
  let target := resolveMountTarget svc cfg ctx
  let tls := ctx.get "NFSTransportSecurity"
  validateMTLSPrerequisites svc tls target mnt.mountFlags
  return ⟨ctx, mnt, cap.accessMode, path, isDirectoryBackedContext req.volumeID ctx, target, tls⟩

def applyFSGroup (stagingPath : Str) (p : Publication) : NodeM Unit := do
  if !p.directoryBacked then
    match ← tryNodeRequest (.applyFSGroup stagingPath p.mnt.volumeMountGroup
        (p.ctx.get "RootClientEnabled") p.mnt.fsType (p.accessMode.getD .unknown)) with
    | .ok _ => ret ()
    | .error e =>
      if e.isDeadline then
        fail (.status .deadlineExceeded (sprintf ["recursive chown for fsGroup timed out after ",
          itoa svc.chownTimeoutSeconds, "s"]))
      else fail (.status .internal (sprintf [
        "failed to apply fsGroup ownership to export-backed volume: ", e.text]))

def bindOptions (p : Publication) (readonly : Bool) : List Str :=
  p.mnt.mountFlags ++ [if readonly then ("ro" : Str) else ("rw" : Str), "bind"]

def publishStaged (req : NodePublishVolumeRequest) (p : Publication) : NodeM Unit := do
  applyFSGroup svc req.stagingTargetPath p
  match ← tryNodeRequest (.mkdir req.targetPath) with
  | .error e => fail (.status .failedPrecondition (sprintf ["could not create target path '",
      req.targetPath, "': ", e.text]))
  | .ok _ =>
    match ← tryNodeRequest (.mount req.stagingTargetPath req.targetPath []
        (bindOptions p req.readonly)) with
    | .error e => fail (.status .internal (sprintf ["failed to bind-mount from staging path: ",
        e.text]))
    | .ok _ => ret ()

def isSingleNode : AccessMode → Bool
  | .singleNodeWriter | .singleNodeReaderOnly | .singleNodeSingleWriter => true
  | _ => false

def checkMounted (url target rwOption : Str) (mode : AccessMode) : List Mount → Except Err Bool
  | [] => .ok false
  | m :: ms =>
    if m.device = url then
      if m.path = target then
        if rwOption ∈ m.opts then .ok true
        else .error (.status .alreadyExists
          "Mount point already in use by device with different options")
      else if isSingleNode mode then
        .error (.status .failedPrecondition "Mount point already in use for same device")
      else checkMounted url target rwOption mode ms
    else checkMounted url target rwOption mode ms

def isRetryableMountError (e : Err) : Bool :=
  contains (toLower e.text) "access denied by server while mounting" ||
    contains (toLower e.text) "no such file or directory"

def mountWithRetry (url target : Str) (opts : List Str) : Nat → NodeM Unit
  | 0 => nodeRequest (.mount url target "nfs" opts)
  | n + 1 => do
    match ← tryNodeRequest (.mount url target "nfs" opts) with
    | .ok _ => ret ()
    | .error e =>
      if isRetryableMountError e then
        let _ ← nodeRequest .sleep
        mountWithRetry url target opts n
      else fail e

def publishVolume (req : NodePublishVolumeRequest) (p : Publication) (url : Str) : NodeM Unit := do
  match p.accessMode with
  | none => fail (.status .invalidArgument "Volume Access Mode is required")
  | some mode =>
    let opts := if isMTLSEnabled p.nfsTransportSecurity &&
        !p.mnt.mountFlags.any fun o => startsWith (toLower o) "xprtsec=" then
      p.mnt.mountFlags ++ [("xprtsec=mtls" : Str)] else p.mnt.mountFlags
    if req.targetPath = [] then fail (.status .invalidArgument "Target Path is required")
    else
      match ← tryNodeRequest (.mkdir req.targetPath) with
      | .error e => fail (.status .failedPrecondition (sprintf ["Could not create '",
          req.targetPath, "': '", e.text, "'"]))
      | .ok _ =>
        let rwOption : Str := if req.readonly then "ro" else "rw"
        match ← tryNodeRequest .getMounts with
        | .error e => fail (.status .internal (sprintf [
            "could not reliably determine existing mount status: '", e.text, "'"]))
        | .ok mounts =>
          if !(← ofExcept (checkMounted url req.targetPath rwOption mode mounts)) then
            mountWithRetry url req.targetPath (opts ++ [rwOption]) 5

def nodePublishVolume (hooks : NodeHooks) (req : NodePublishVolumeRequest) : NodeM Unit := do
  match req.volumeContext with
  | none => fail (reqError svc .invalidArgument ["VolumeContext is nil, skip NodePublishVolume"])
  | some ctx =>
    match req.volumeCapability with
    | none => fail (reqError svc .invalidArgument ["VolumeCapability is required"])
    | some cap =>
      match cap.mount with
      | none => fail (reqError svc .invalidArgument
          ["Invalid access type: mount capability required"])
      | some mnt =>
        let isEphemeral : Bool := ctx.get "csi.storage.k8s.io/ephemeral" = ("true" : Str)
        let clusterName := if isEphemeral then []
          else ((parseNormalizedVolumeID req.volumeID).toOption.map VolumeID.clusterName).getD []
        let (_, cfg) ← ofExcept (svc.getIsilonConfig clusterName)
        svc.autoProbeWith cfg (nodeRequest (.array .probe))
        if isEphemeral then hooks.ephemeralNodePublish req
        else
          let p ← prepareVolume svc cfg req ctx cap mnt
          if req.stagingTargetPath ≠ [] then publishStaged svc req p
          else
            match ← attempt (publishVolume req p (sprintf [p.mountTarget, ":", p.path])) with
            | .ok _ => ret ()
            | .error e => fail (hooks.diagnose p.nfsTransportSecurity p.mountTarget e)

def isVolumeMounted (filterStr target : Str) (mounts : List Mount) : Bool :=
  mounts.any fun m => contains m.device filterStr && m.path = target

def unpublishVolume (target filterStr : Str) : NodeM Unit := do
  if target = [] then fail (.status .invalidArgument "Target Path is required")
  else
    match ← tryNodeRequest .getMounts with
    | .error e => fail (.status .internal (sprintf [
        "could not reliably determine existing mount status: '", e.text, "'"]))
    | .ok mounts =>
      if isVolumeMounted filterStr target mounts then
        match ← tryNodeRequest (.unmount target) with
        | .error e => fail (.status .internal (sprintf ["error unmounting target '", target, "': '",
            e.text, "'"]))
        | .ok _ =>
          match ← tryNodeRequest (.removeAll target) with
          | .error e => fail (.status .internal (sprintf ["error removing target path '", target,
              "': '", e.text, "'"]))
          | .ok _ => ret ()

def ephemeralNodeUnpublish (volumeID targetPath : Str) : NodeM Unit := do
  if volumeID = [] then fail (reqError svc .invalidArgument ["volume ID is required"])
  else
    let nodeID ← nodeRequest .getPowerScaleNodeID
    nodeRequest (.controllerUnpublishVolume volumeID nodeID)
    let v ← ofExcept (parseNormalizedVolumeID volumeID)
    match ← tryNodeRequest (.removeAll (targetPath ++ "/" ++ v.volName)) with
    | .error _ => fail (.plain "failed to cleanup lock files")
    | .ok _ => nodeRequest (.deleteVolume volumeID)

def unpublishFilter (volumeID : Str) (v : Option VolumeID) : NodeM Str := do
  let volName := (v.map VolumeID.volName).getD []
  let name := if volName = [] then volumeID else volName
  match v with
  | none => return name
  | some v =>
    if v.exportID = 0 ∧ v.accessZone = [] then return name
    else
      match ← tryNodeRequest (.array (.getExportByID v.exportID v.accessZone)) with
      | .ok (some e) =>
        match e.paths with
        | path :: _ => return if isROVolumeFromSnapshot path v.accessZone then path else name
        | [] => return name
      | _ => return name

def ephemeralID (volumeID targetPath : Str) : NodeM (Option Str) := do
  let lockFile := targetPath ++ "/" ++ "ephemeral-" ++ volumeID ++ "/id"
  match ← tryNodeRequest (.stat lockFile) with
  | .error _ => return none
  | .ok _ =>
    match ← tryNodeRequest (.readFile (clean lockFile)) with
    | .error _ => fail (.plain "unable to get volume id for ephemeral volume")
    | .ok data => return some data

/-- The checks of `NodeUnpublishVolume` before it unmounts: the volume ID in the lock file of an
ephemeral volume and the text that the device name has to contain. -/
def prepareUnpublish (req : NodeUnpublishVolumeRequest) : NodeM (Option Str × Str) := do
  if req.volumeID = [] then
    fail (reqError svc .failedPrecondition ["no VolumeID found in request"])
  else
    let v := (parseNormalizedVolumeID req.volumeID).toOption
    let (_, cfg) ← ofExcept (svc.getIsilonConfig ((v.map VolumeID.clusterName).getD []))
    svc.autoProbeWith cfg (nodeRequest (.array .probe))
    let ephemeral ← ephemeralID req.volumeID req.targetPath
    let filterStr ← unpublishFilter req.volumeID v
    return (ephemeral, filterStr)

def nodeUnpublishVolume (req : NodeUnpublishVolumeRequest) : NodeM Unit := do
  let prepared ← prepareUnpublish svc req
  unpublishVolume req.targetPath prepared.2
  match prepared.1 with
  | some volumeID => ephemeralNodeUnpublish svc volumeID req.targetPath
  | none => ret ()

end NodeService
end CsiPowerscale
