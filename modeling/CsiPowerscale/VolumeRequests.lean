import CsiPowerscale.CreateVolume

namespace CsiPowerscale
open GoLib Effects Effects.Prog

namespace Controller

def validateDeleteVolumeRequest (volumeID : Str) : Except Err Unit :=
  if volumeID = [] then
    .error (.status .invalidArgument "no volume id is provided by the DeleteVolumeRequest instance")
  else
    match parseNormalizedVolumeID volumeID with
    | .ok _ => .ok ()
    | .error e => .error (.status .invalidArgument (sprintf ["failed to parse volume ID '", volumeID,
        "', error : '", e.text, "'"]))

def isIgnorableWritableSnapshotError (e : Err) : Bool :=
  let m := toLower e.text
  e.jsonStatus = some 404 || contains m "not a member of writablesnapshot domain" ||
    contains m "writable snapshot not found" || contains m "failed to open path"

def isIgnorableWritableSnapshotLookupError (e : Err) : Bool := isIgnorableWritableSnapshotError e

def isIgnorableWritableSnapshotDeleteError (e : Err) : Bool := isIgnorableWritableSnapshotError e

def trackingEntry (trackingDir volName : Str) : Str := join [trackingDir, volName]

def trackingMarker (trackingDir : Str) : Str := join [trackingDir, deleteSnapshotMarker]

def removeTrackedSnapshot (isiPath trackingDir snapshotName accessZone : Str) (exportID : Int) :
    IsiM Unit := do
  match ← attempt (IsiService.unexportByIDWithZone exportID accessZone) with
  | .error _ => ret ()
  | .ok _ =>
    match ← attempt (IsiService.deleteVolume isiPath trackingDir) with
    | .error _ => ret ()
    | .ok _ =>
      let _ ← tryRequest (.removeSnapshot (-1) snapshotName)

def removeTrackingEntry (isiPath entry : Str) : IsiM Unit := do
  if ← IsiService.isVolumeExistent isiPath entry then IsiService.deleteVolume isiPath entry

def removeMarkedSnapshot (isiPath trackingDir snapshotName accessZone : Str) (exportID count : Int) :
    IsiM Unit := do
  if ← IsiService.isVolumeExistent isiPath (trackingMarker trackingDir) then
    if count = 3 then removeTrackedSnapshot isiPath trackingDir snapshotName accessZone exportID

/-- Drop the entry of a read-only volume, and the snapshot with the last entry if it is marked for
deletion. -/
def processSnapshotTrackingDirectoryDuringDeleteVolume (volName accessZone : Str) (e : Export) :
    IsiM Unit := do
  match e.paths with
  | [] => fail .panic
  | exportPath :: _ =>
    let zone ← request (.getZone accessZone)
    match getSnapshotIsiPathComponents exportPath zone.path with
    | none => fail .panic
    | some (isiPath, snapshotName) =>
      let trackingDir := getSnapshotTrackingDirName snapshotName
      removeTrackingEntry isiPath (trackingEntry trackingDir volName)
      match ← attempt (IsiService.getSubDirectoryCount isiPath trackingDir) with
      | .error _ => ret ()
      | .ok totalSubDirectories =>
        removeMarkedSnapshot isiPath trackingDir snapshotName accessZone e.id totalSubDirectories
        if totalSubDirectories = 2 then
          let _ ← attempt (IsiService.deleteVolume isiPath trackingDir)

/-- The mode in the identifier decides; without one, a volume is directory-backed when its export is
not that of its own directory. -/
def isDirectoryBacked (volumeID exportPath isiPath volName : Str) : Bool :=
  match parseVolumeIDWithMode volumeID with
  | .ok (_, mode) =>
    if mode = [] then exportPath ≠ getPathForVolume isiPath volName
    else mode = provisioningModeDirectory
  | .error _ => exportPath ≠ getPathForVolume isiPath volName

def deleteDirectoryQuota (exportPath volName : Str) : IsiM Unit := do
  match ← attempt (IsiService.getQuotaByPath (getPathForVolume exportPath volName)) with
  | .error _ => ret ()
  | .ok quota =>
    match ← attempt (IsiService.clearQuotaByID quota.id) with
    | .ok _ => ret ()
    | .error e =>
      if e.jsonStatus = some 404 then ret ()
      else fail (.plain (sprintf ["failed to clear quota '", quota.id,
        "' for directory-backed volume '", volName, "': ", e.text]))

def deleteExportQuota (volName : Str) (exportID : Int) (accessZone : Str) : IsiM Unit := do
  match ← attempt (IsiService.deleteQuotaByExportIDWithZone volName exportID accessZone) with
  | .ok _ => ret ()
  | .error e => if e.jsonStatus = some 404 then ret () else fail e

def deleteExport (isiPath volName : Str) (exportID : Int) (accessZone : Str) : IsiM Unit := do
  match ← IsiService.getExportsWithParams (getPathForVolume isiPath volName) accessZone with
  | [e] => if e.id = exportID then IsiService.unexportByIDWithZone exportID accessZone
  | _ :: _ :: _ => fail (.plain (sprintf ["exports found for volume ", volName, " in AccessZone ",
      accessZone, ". It is not safe to delete the volume"]))
  | [] => ret ()

/-- Remove the record of a writable snapshot, also when its look-up fails for another reason than a
missing one. -/
def deleteWritableSnapshot (volumePath : Str) : IsiM Unit := do
  match ← tryRequest (.getWritableSnapshot volumePath) with
  | .ok _ => delete
  | .error getErr => if isIgnorableWritableSnapshotLookupError getErr then ret () else delete
where
  delete : IsiM Unit := do
    match ← tryRequest (.deleteWritableSnapshot volumePath) with
    | .ok _ => ret ()
    | .error delErr =>
      if isIgnorableWritableSnapshotDeleteError delErr then ret () else fail delErr

def deleteDirectory (basePath volName : Str) : IsiM Unit := do
  if ← IsiService.isVolumeExistent basePath volName then
    IsiService.deleteVolume basePath volName

def deleteExported (volumeID : Str) (v : VolumeID) (e : Export) : IsiM Unit := do
  match e.paths with
  | [] => fail .panic
  | exportPath :: _ =>
    match getIsiPathFromExportPath exportPath with
    | none => fail .panic
    | some isiPath =>
      if isROVolumeFromSnapshot exportPath v.accessZone then
        processSnapshotTrackingDirectoryDuringDeleteVolume v.volName v.accessZone e
      else if isDirectoryBacked volumeID exportPath isiPath v.volName then
        deleteDirectoryQuota exportPath v.volName
        -- the record is looked up next to the shared export, not below it
        deleteWritableSnapshot (getPathForVolume isiPath v.volName)
        deleteDirectory exportPath v.volName
      else
        deleteExportQuota v.volName v.exportID v.accessZone
        deleteExport isiPath v.volName v.exportID v.accessZone
        deleteWritableSnapshot (getPathForVolume isiPath v.volName)
        deleteDirectory isiPath v.volName

/-- `DeleteVolume`. An identifier that does not parse and an export that is gone both count as a
volume that has been deleted. -/
def deleteVolume (svc : Service) (volumeID : Str) : IsiM Unit := do
  match validateDeleteVolumeRequest volumeID, parseNormalizedVolumeID volumeID with
  | .ok _, .ok v =>
    let (_, cfg) ← ofExcept (svc.getIsilonConfig v.clusterName)
    svc.autoProbe cfg
    match ← tryRequest (.getExportByID v.exportID v.accessZone) with
    | .error err => if err.jsonStatus = some 404 then ret () else fail err
    | .ok none => ret ()
    | .ok (some e) => deleteExported volumeID v e
  | .error _, _ => ret ()
  | .ok _, .error err => fail (.status .notFound err.text)

def isDependencyError (e : Err) : Bool :=
  let m := toLower e.text
  e.jsonStatus = some 409 || contains m "has dependent" || contains m "dependency" ||
    (contains m "conflict" && (contains m "snapshot" || contains m "writable"))

/-- Whether the snapshot may be deleted now. While its tracking directory has entries a marker is
left for the last of them; a failed count is zero. -/
def processSnapshotTrackingDirectoryDuringDeleteSnapshot (cfg : ClusterConfig) (e : Export)
    (snapshotIsiPath accessZone : Str) : IsiM Bool := do
  let zone ← request (.getZone accessZone)
  match getSnapshotIsiPathComponents snapshotIsiPath zone.path with
  | none => fail .panic
  | some (isiPath, snapshotName) =>
    let trackingDir := getSnapshotTrackingDirName snapshotName
    let count ← attempt (IsiService.getSubDirectoryCount isiPath trackingDir)
    let totalSubDirectories := count.toOption.getD 0
    if totalSubDirectories = ignoreDotAndDotDotSubDirs ∨ totalSubDirectories = 0 then
      IsiService.unexportByIDWithZone e.id accessZone
      let _ ← attempt (IsiService.deleteVolume isiPath trackingDir)
      return true
    else
      IsiService.createVolume isiPath (trackingMarker trackingDir) cfg.isiVolumePathPermissions
      return false

def removeSnapshot (svc : Service) (i : Int) (snapshotID : Str) : IsiM Unit := do
  match ← tryRequest (.removeSnapshot i []) with
  | .ok _ => ret ()
  | .error e =>
    if isDependencyError e then
      fail (.status .failedPrecondition (getMessageWithReqID svc.runID ["Snapshot '", snapshotID,
        "' has dependent writable volumes and cannot be deleted. Delete dependent volumes first."]))
    else
      fail (.status .internal (getMessageWithReqID svc.runID ["error deleting snapshot: ", e.text]))

/-- `DeleteSnapshot` of a snapshot that the array has. A source path that cannot be read is taken to
be empty. -/
def deleteExistingSnapshot (svc : Service) (cfg : ClusterConfig) (i : Int) (s : SnapshotID) :
    IsiM Unit := do
  let volumeIsiPath ← attempt (IsiService.getSnapshotSourceVolumeIsiPath s.snapshotID)
  match ← tryRequest (.getSnapshotIsiPath (volumeIsiPath.toOption.getD []) s.snapshotID
      s.accessZone) with
  | .error e => fail (.status .internal (sprintf [" ReqID", svc.runID, " error ", e.text]))
  | .ok snapshotIsiPath =>
    match ← request (.getExportWithPath snapshotIsiPath s.accessZone) with
    | none => removeSnapshot svc i s.snapshotID
    | some e =>
      if ← processSnapshotTrackingDirectoryDuringDeleteSnapshot cfg e snapshotIsiPath
          s.accessZone then
        removeSnapshot svc i s.snapshotID

def deleteSnapshot (svc : Service) (normalizedID : Str) : IsiM Unit := do
  if normalizedID = [] then
    fail (.status .invalidArgument
      (getMessageWithReqID svc.runID ["snapshot id to be deleted is required"]))
  else
    match parseNormalizedSnapshotID normalizedID with
    | .error e => fail (.status .invalidArgument (sprintf ["failed to parse snapshot ID ",
        normalizedID, ", error : ", e.text]))
    | .ok s =>
      let (_, cfg) ← ofExcept (svc.getIsilonConfig s.clusterName)
      svc.autoProbe cfg
      match parseInt64 s.snapshotID with
      | none => ret ()
      | some i =>
        match ← tryRequest (.getSnapshot s.snapshotID) with
        | .ok _ => deleteExistingSnapshot svc cfg i s
        | .error e =>
          let failed : IsiM Unit := fail (.status .internal (getMessageWithReqID svc.runID [
            "cannot check the existence of the snapshot: ", e.text]))
          match e.jsonStatus with
          | none => if contains e.text "not found" then ret () else failed
          | some n => if n = 404 then ret () else failed

end Controller

namespace Controller

variable (svc : Service)

def readyCluster (clusterName : Str) (notReady : Err → Err) :
    IsiM (Str × ClusterConfig) := do
  let (name, cfg) ← ofExcept (svc.getIsilonConfig clusterName)
  match ← attempt (svc.autoProbe cfg) with
  | .ok _ => ret (name, cfg)
  | .error e => fail (notReady e)

def readExportPath (v : VolumeID) : IsiM Str := do
  match ← tryRequest (.getExportByID v.exportID v.accessZone) with
  | .error e => fail (.status .notFound (sprintf ["export '", itoa v.exportID,
      "' not found in access zone '", v.accessZone, "': ", e.text]))
  | .ok none => fail .panic
  | .ok (some e) => ret (e.paths.headD [])

def locateQuota (v : VolumeID) (exportPath : Str) (directoryBacked : Bool) : IsiM Quota :=
  if directoryBacked then IsiService.getQuotaByPath (getPathForVolume exportPath v.volName)
  else IsiService.getVolumeQuota v.volName v.exportID v.accessZone

def scaleLimit (limit requiredBytes hard : Int) : Int :=
  (limit * requiredBytes.tdiv hard).bmod (2 ^ 64)

/-- `ControllerExpandVolume` after the look-up of the quota. With quotas disabled, a failed look-up
passes for a volume without a quota. -/
def expandQuota (volName : Str) (requiredBytes : Int) : Except Err Quota → IsiM Int
  | .error e =>
    if svc.quotaEnabled then fail (.status .notFound (sprintf ["quota not found for volume '",
      volName, "': ", e.text]))
    else ret requiredBytes
  | .ok quota =>
    if requiredBytes ≤ quota.hard then ret quota.hard
    else if quota.hard = 0 then
      fail (.status .internal "Hard limit is 0, cannot proceed with volume expansion")
    else do
      match ← attempt (IsiService.updateQuotaSize quota.id requiredBytes
        (scaleLimit quota.soft requiredBytes quota.hard)
        (scaleLimit quota.advisory requiredBytes quota.hard) quota.softGrace) with
      | .ok _ => ret requiredBytes
      | .error e => fail (.status .internal (sprintf ["failed to update quota: ", e.text]))

variable (volumeID : Str)

def controllerExpandVolume (requiredBytes : Int) : IsiM Int := do
  match parseNormalizedVolumeID volumeID with
  | .error e => fail (.status .notFound e.text)
  | .ok v =>
    let (_, cfg) ← readyCluster svc v.clusterName fun e => .status .failedPrecondition e.text
    let exportPath ← readExportPath v
    let quota ← attempt (locateQuota v exportPath
      (isDirectoryBacked volumeID exportPath cfg.isiPath v.volName))
    expandQuota svc v.volName requiredBytes quota

structure QuotaParams where
  soft : Option Int
  advisory : Option Int
  softGrace : Option Int
  deriving DecidableEq

def convertMutableParam (quota : Quota) (params : QuotaParams) (key value : Str) :
    Except Err QuotaParams :=
  let intValue := (parseInt64 value).getD 0
  if key = ("SoftLimit" : Str) ∨ key = ("AdvisoryLimit" : Str) then
    if intValue > 100 then .error (.status .invalidArgument (sprintf ["mutable parameter ", key,
      " must be between 0 and 100, got ", itoa intValue]))
    else if quota.hard = 0 then .error (.status .failedPrecondition (sprintf [
      "quota hard limit is 0 for volume ", volumeID, "; cannot convert ", key, " from percentage"]))
    else
      let convertedLimit := ((intValue * quota.hard).bmod (2 ^ 64)).tdiv 100
      if key = ("SoftLimit" : Str) then .ok { params with soft := some convertedLimit }
      else .ok { params with advisory := some convertedLimit }
  else .ok { params with softGrace := some intValue }

def convertMutableParams (quota : Quota) (mutableParams : Params) :
    Except Err QuotaParams :=
  mutableParams.foldlM (fun params (key, value) =>
    convertMutableParam volumeID quota params key value) ⟨none, none, none⟩

def QuotaParams.needsUpdate (params : QuotaParams) (quota : Quota) : Bool :=
  params.advisory.any (· ≠ quota.advisory) || params.soft.any (· ≠ quota.soft) ||
    params.softGrace.any (· ≠ quota.softGrace)

def modifyLimits (mutableParams : Params) (quota : Quota) : IsiM Unit := do
  if mutableParams = [] then ret ()
  else
    ofExcept (validateMutableParamKeys mutableParams)
    let params ← ofExcept (convertMutableParams volumeID quota mutableParams)
    if params.needsUpdate quota then
      match ← attempt (IsiService.modifyQuota quota.id params.soft params.advisory
        params.softGrace) with
      | .ok _ => ret ()
      | .error e =>
        fail (.status .internal (sprintf ["failed to modify volume quota: ", e.text]))

def controllerModifyVolume (mutableParams : Params) :
    IsiM Unit := do
  if volumeID = [] then fail (.status .invalidArgument "volume_id is required")
  else
    match parseNormalizedVolumeID volumeID with
    | .error e => fail (.status .notFound (sprintf ["invalid volume ID format: ", e.text]))
    | .ok v =>
      let (_, cfg) ← readyCluster svc v.clusterName fun e => .status .failedPrecondition e.text
      if !svc.quotaEnabled then
        fail (.status .failedPrecondition "quota not enabled for volume")
      else
        let exportPath ← readExportPath v
        match ← attempt (locateQuota v exportPath
          (isDirectoryBacked volumeID exportPath cfg.isiPath v.volName)) with
        | .error e => fail (.status .notFound (sprintf [
            "volume not found or quota does not exist: ", e.text]))
        | .ok quota => modifyLimits volumeID mutableParams quota

structure CSISnapshot where
  sizeBytes : Int
  snapshotID : Str
  sourceVolumeID : Str
  deriving DecidableEq

/-- Only the mode in the identifier counts for `CreateSnapshot`. -/
def isDirectoryBackedSource : Bool :=
  match parseVolumeIDWithMode volumeID with
  | .ok (_, mode) => mode = provisioningModeDirectory
  | .error _ => false

def mapSnapshotCreationError (e : Err) : Err :=
  if e.asJSON = some 403 ∨ e.asJSON = some 402 then
    .status .failedPrecondition (sprintf [" ReqID=", svc.runID,
      " snapshot creation rejected by OneFS (possible licensing or privilege issue): ", e.text])
  else .status .internal (sprintf [" ReqID=", svc.runID, " ", e.text])

def getCreateSnapshotResponse (snapshot : Snapshot) (sourceVolumeID clusterName accessZone : Str)
    (size : Int) : CSISnapshot :=
  ⟨size, getNormalizedSnapshotID (natToStr snapshot.num) clusterName accessZone, sourceVolumeID⟩

def validateCreateSnapshotRequest (isiPath volName snapshotName : Str) :
    IsiM Unit := do
  if ← IsiService.isVolumeExistent isiPath volName then
    if snapshotName = [] then fail (.status .invalidArgument
      (getMessageWithReqID svc.runID ["name cannot be empty"]))
    else ret ()
  else fail (.status .invalidArgument
    (getMessageWithReqID svc.runID ["source volume id is invalid"]))

def snapshotVolume (sourceVolumeID snapshotName clusterName isiPath : Str)
    (v : VolumeID) : IsiM CSISnapshot := do
  let respond (snapshot : Snapshot) : IsiM CSISnapshot := do
    let size ← IsiService.getSnapshotSize isiPath snapshotName v.accessZone
    ret (getCreateSnapshotResponse snapshot sourceVolumeID clusterName v.accessZone size)
  match ← attempt (validateCreateSnapshotRequest svc isiPath v.volName snapshotName) with
  | .error e => fail (.status .invalidArgument (sprintf [" ReqID=", svc.runID, " ", e.text]))
  | .ok _ =>
    match ← tryRequest (.getSnapshot snapshotName) with
    | .ok snapshot =>
      if baseName snapshot.path = v.volName then respond snapshot
      else fail (.status .alreadyExists (getMessageWithReqID svc.runID ["a snapshot with name '",
        snapshotName, "' already exists but is incompatible with the specified source volume id '",
        sourceVolumeID, "'"]))
    | .error _ =>
      match ← tryRequest (.createSnapshot (getPathForVolume isiPath v.volName) snapshotName) with
      | .error e => fail (mapSnapshotCreationError svc e)
      | .ok snapshot =>
        let _ ← tryRequest (.getSnapshot snapshotName)
        respond snapshot

def createSnapshot (sourceVolumeID snapshotName : Str) : IsiM CSISnapshot := do
  match parseNormalizedVolumeID sourceVolumeID with
  | .error e => fail (.status .invalidArgument (sprintf [" ReqID=", svc.runID, " ", e.text]))
  | .ok v =>
    let (clusterName, _) ← readyCluster svc v.clusterName fun e =>
      .status .failedPrecondition (sprintf [" ReqID=", svc.runID, " ", e.text])
    match ← tryRequest (.getExportByID v.exportID v.accessZone) with
    | .error e => fail (.status .notFound e.text)
    | .ok none => fail .panic
    | .ok (some e) =>
      match e.paths with
      | [] => fail (.status .notFound (sprintf ["can't find paths for export with ID ",
          itoa v.exportID]))
      | exportPath :: _ =>
        if isDirectoryBackedSource sourceVolumeID then
          snapshotVolume svc sourceVolumeID snapshotName clusterName exportPath v
        else
          match getIsiPathFromExportPath exportPath with
          | none => fail .panic
          | some isiPath => snapshotVolume svc sourceVolumeID snapshotName clusterName isiPath v

end Controller

structure SnapshotInfo where
  id : Int
  path : Str
  size : Int
  path_ne : path ≠ []

structure SnapshotCluster where
  clusterName : Str
  getSnapshots : Except Err (List SnapshotInfo)
  getExportWithPath : Str → Option Export

namespace Controller

section Listing

variable (equalFold : Str → Str → Bool)

/-- The filter of a request: a snapshot, else a source volume, else everything. An unparsable
identifier counts as an empty name. -/
def shouldIncludeSnapshot (snapID srcID : Str) (snap : SnapshotInfo) : Bool :=
  if snapID ≠ [] then
    match parseNormalizedSnapshotID snapID with
    | .ok i => itoa snap.id = i.snapshotID
    | .error _ => itoa snap.id = []
  else if srcID ≠ [] then
    match parseNormalizedVolumeID srcID with
    | .ok v => equalFold v.volName (getVolumeNameFromExportPath snap.path)
    | .error _ => equalFold [] (getVolumeNameFromExportPath snap.path)
  else true

def normalizeSnapshot (accessZone : Str) (c : SnapshotCluster) (snap : SnapshotInfo) :
    CSISnapshot where
  sizeBytes := snap.size
  snapshotID := getNormalizedSnapshotID (itoa snap.id) c.clusterName accessZone
  sourceVolumeID :=
    match c.getExportWithPath snap.path with
    | some e => getNormalizedVolumeID (getVolumeNameFromExportPath snap.path) e.id e.zone c.clusterName
    | none => snap.path

def includeSnapshots (want : SnapshotInfo → Bool) (snapsToProcess : Int) :
    Int → List SnapshotInfo → List SnapshotInfo
  | _, [] => []
  | processedSnaps, snap :: rest =>
    if want snap then
      if processedSnaps + 1 = snapsToProcess then [snap]
      else snap :: includeSnapshots want snapsToProcess (processedSnaps + 1) rest
    else includeSnapshots want snapsToProcess processedSnaps rest

def includeClusters (accessZone : Str) (want : SnapshotInfo → Bool) (startToken maxEntries : Int) :
    List SnapshotCluster → List CSISnapshot → Int → List CSISnapshot × Int
  | [], filtered, total => (filtered, total)
  | c :: cs, filtered, total =>
    match c.getSnapshots with
    | .error _ => includeClusters accessZone want startToken maxEntries cs filtered total
    | .ok snapshots =>
      let total := total + snapshots.length
      if startToken < total then
        let snapsToProcess : Int :=
          if maxEntries = 0 then snapshots.length else maxEntries - filtered.length
        let filtered := filtered ++
          (includeSnapshots want snapsToProcess 0 snapshots).map (normalizeSnapshot accessZone c)
        if filtered.length ≥ startToken + maxEntries then (filtered, total)
        else includeClusters accessZone want startToken maxEntries cs filtered total
      else includeClusters accessZone want startToken maxEntries cs filtered total

/-- The entries and the next token; to cut the list outside of its bounds is a panic. -/
def listPowerScaleSnapshots (accessZone : Str) (clusters : List SnapshotCluster)
    (startToken maxEntries : Int) (snapID srcID : Str) : Except Err (List CSISnapshot × Str) :=
  let (filtered, total) := includeClusters accessZone (shouldIncludeSnapshot equalFold snapID srcID)
    startToken maxEntries clusters [] 0
  if startToken > total then
    .error (.status .aborted (sprintf ["invalid starting token, error: startingToken=",
      itoa startToken, " > totalSnapshots=", itoa total]))
  else
    let remaining := total - startToken
    let maxEntries := if maxEntries = 0 ∨ maxEntries > remaining then remaining else maxEntries
    let nextToken := if startToken + maxEntries < total then itoa (startToken + filtered.length) else []
    if 0 ≤ startToken ∧ startToken ≤ filtered.length then
      .ok (filtered.drop startToken.toNat, nextToken)
    else .error .panic

structure ListSnapshotsRequest where
  maxEntries : Int
  snapshotID : Str
  sourceVolumeID : Str

def listSnapshots (svc : Service) (clusters : List SnapshotCluster) (req : ListSnapshotsRequest)
    (startingToken : Str) : Except Err (List CSISnapshot × Str) := do
  let startToken ←
    if startingToken ≠ [] then
      match parseInt64 startingToken with
      | some i => .ok i
      | none => .error (.status .aborted (getMessageWithReqID svc.runID [
          "unable to parse StartingToken: ", startingToken, " into uint32"]))
    else .ok 0
  match listPowerScaleSnapshots equalFold svc.accessZone clusters startToken req.maxEntries
    req.snapshotID req.sourceVolumeID with
  | .error .panic => .error .panic
  | .error e => .error (.status .internal (getMessageWithReqID svc.runID [
      "failed to list snapshots: ", e.text]))
  | .ok ([], _) => .ok ([], [])
  | .ok (snapshots, nextToken) => .ok (snapshots, nextToken)

end Listing

end Controller

end CsiPowerscale
