import CsiPowerscale.Node
import CsiPowerscale.VolumeRequests

namespace CsiPowerscale
open GoLib Effects Effects.Prog

abbrev step (c : DriverCall) : DriverM c.Reply := Prog.op c

abbrev tryStep (c : DriverCall) : DriverM (Except Err c.Reply) := Prog.ask c

def fmtList (l : List Str) : Str := sprintf ["[", joinWith " " l, "]"]

namespace IsiService

def addExportClientsTo (field : ClientField) (what : Str) (exportID : Int) (accessZone : Str)
    (clientIPs : List Str) (ignoreUnresolvableHosts : Bool) : IsiM Unit :=
  rename (.addExportClients field exportID accessZone clientIPs ignoreUnresolvableHosts) fun e =>
    .plain (sprintf ["failed to add ", what, " to export id '", itoa exportID,
      "' with access zone '", accessZone, "' : '", e.text, "'"])

def addExportRootClientByIDWithZone (exportID : Int) (accessZone clientIP : Str) (ignore : Bool) :
    IsiM Unit :=
  addExportClientsTo .root "client" exportID accessZone [clientIP] ignore

def addExportReadOnlyClientByIDWithZone (exportID : Int) (accessZone clientIP : Str)
    (ignore : Bool) : IsiM Unit :=
  addExportClientsTo .readOnly "read only client" exportID accessZone [clientIP] ignore

def addExportClientsByIDWithZone (exportID : Int) (accessZone : Str) (clientIPs : List Str)
    (ignore : Bool) : IsiM Unit :=
  addExportClientsTo .clients "clients" exportID accessZone clientIPs ignore

def addExportRootClientsByIDWithZone (exportID : Int) (accessZone : Str) (clientIPs : List Str)
    (ignore : Bool) : IsiM Unit :=
  addExportClientsTo .root "clients" exportID accessZone clientIPs ignore

def addExportReadOnlyClientsByIDWithZone (exportID : Int) (accessZone : Str)
    (clientIPs : List Str) (ignore : Bool) : IsiM Unit :=
  addExportClientsTo .readOnly "read only clients" exportID accessZone clientIPs ignore

end IsiService

structure ExportClientAdders where
  addClient : Int → Str → Str → Bool → IsiM Unit
  addClients : Int → Str → List Str → Bool → IsiM Unit

open IsiService in
def getExportClientAdders (rootClientEnabled readOnly isROVolumeFromSnapshot : Bool) :
    ExportClientAdders :=
  if readOnly then
    if rootClientEnabled && isROVolumeFromSnapshot then
      ⟨addExportRootClientByIDWithZone, addExportRootClientsByIDWithZone⟩
    else ⟨addExportReadOnlyClientByIDWithZone, addExportReadOnlyClientsByIDWithZone⟩
  else if rootClientEnabled then
    ⟨addExportRootClientByIDWithZone, addExportRootClientsByIDWithZone⟩
  else ⟨addExportClientByIDWithZone, addExportClientsByIDWithZone⟩

def Export.clientFields (e : Export) : List (List Str) :=
  [e.clients, e.readOnlyClients, e.readWriteClients, e.rootClients]

/-- `OtherClientsAlreadyAdded` for an export that was read and a node ID that was parsed. -/
def Export.otherClients (e : Export) (n : NodeID) : Bool :=
  let localHost := [("localhost" : Str), ("127.0.0.1" : Str)].any fun c =>
    IsiService.isStringInSlices c e.clientFields
  let clientFieldsNotEmpty := (e.clientFields.any fun l => !l.isEmpty) &&
    !(e.clients.length = 1 && localHost)
  let isNodeInClientFields := IsiService.isStringInSlices n.name e.clientFields ||
    (n.ip ≠ [] && IsiService.isStringInSlices n.ip e.clientFields)
  clientFieldsNotEmpty && !isNodeInClientFields && !IsiService.isStringInSlices n.fqdn e.clientFields

/-- An export that cannot be read or a malformed node ID count as "other clients". -/
def IsiService.otherClientsAlreadyAdded (exportID : Int) (accessZone nodeID : Str) : IsiM Bool := do
  match ← tryRequest (.getExportByID exportID accessZone) with
  | .ok (some e) =>
    match parseNodeID nodeID with
    | .error _ => return true
    | .ok n => return e.otherClients n
  | _ => return true

namespace Controller

def addExportClientNetworkIdentifier (clusterName : Str) (exportID : Int) (accessZone nodeID : Str)
    (ignoreUnresolvableHosts : Bool) (addClient : Int → Str → Str → Bool → IsiM Unit) :
    DriverM Unit := do
  let n ← ofExcept (parseNodeID nodeID)
  if ignoreUnresolvableHosts then
    match ← attempt (onCluster clusterName (addClient exportID accessZone n.ip true)) with
    | .ok _ => ret ()
    | .error _ => fail (.plain (sprintf ["failed to add client '", n.ip, "' to the export id '",
        itoa exportID, "'"]))
  else
    let currentClient ← step (.loadClient clusterName nodeID)
    let clientToUse := currentClient.getD n.fqdn
    match ← attempt (onCluster clusterName (addClient exportID accessZone clientToUse false)) with
    | .ok _ => step (.storeClient clusterName nodeID clientToUse)
    | .error _ =>
      let otherClientToUse := if clientToUse = n.fqdn then n.ip else n.fqdn
      match ← attempt (onCluster clusterName
        (addClient exportID accessZone otherClientToUse false)) with
      | .ok _ => step (.storeClient clusterName nodeID otherClientToUse)
      | .error _ => fail (.plain (sprintf ["failed to add clients '", clientToUse, "' or '",
          otherClientToUse, "' to export id '", itoa exportID, "'"]))

def storeClients (clusterName nodeID : Str) : List Str → DriverM Unit
  | [] => ret ()
  | ip :: ips => do
    step (.storeClient clusterName nodeID ip)
    storeClients clusterName nodeID ips

section ByIP

variable (clusterName : Str) (exportID : Int) (accessZone nodeID : Str)
  (addClient : Int → Str → Str → Bool → IsiM Unit)

def addEachClient : List Str → DriverM Nat
  | [] => ret 0
  | ip :: ips => do
    match ← attempt (onCluster clusterName (addClient exportID accessZone ip false)) with
    | .ok _ =>
      step (.storeClient clusterName nodeID ip)
      let n ← addEachClient ips
      return n + 1
    | .error _ => addEachClient ips

def addFirstClient : List Str → DriverM Bool
  | [] => ret false
  | ip :: ips => do
    match ← attempt (onCluster clusterName (addClient exportID accessZone ip false)) with
    | .ok _ =>
      step (.storeClient clusterName nodeID ip)
      return true
    | .error _ => addFirstClient ips

end ByIP

def addExportClientByIPWithZone (clusterName : Str) (exportID : Int) (accessZone nodeID : Str)
    (clientIPs : List Str) (adders : ExportClientAdders) (mode : AllowedNetworksMode) :
    DriverM Unit := do
  let noneAdded : Err := .plain (sprintf ["failed to add any of clients '", fmtList clientIPs,
    "' to export id '", itoa exportID, "'"])
  match mode with
  | .multi =>
    if clientIPs = [] then fail noneAdded
    else match ← attempt (onCluster clusterName (adders.addClients exportID accessZone clientIPs false)) with
    | .ok _ => storeClients clusterName nodeID clientIPs
    | .error _ =>
      let addedCount ← addEachClient clusterName exportID accessZone nodeID adders.addClient clientIPs
      if addedCount = 0 then fail noneAdded
  | .single =>
    if !(← addFirstClient clusterName exportID accessZone nodeID adders.addClient clientIPs) then
      fail (.plain (sprintf ["failed to add clients '", fmtList clientIPs, "' to export id '",
        itoa exportID, "'"]))

def getIpsFromLabels (nodeID : Str) (select : List Str → List Str) (noMatch : Str) :
    DriverM (List Str) := do
  let n ← ofExcept (parseNodeID nodeID)
  let labels ← step (.getNodeLabels n.name)
  if select labels = [] then fail (.plain noMatch) else ret (select labels)

def getIpsFromAZNetworkLabel (nodeID azNetwork : Str) : DriverM (List Str) :=
  getIpsFromLabels nodeID (fun labels => azNetworkIPs labels azNetwork)
    (sprintf ["failed to match AZNetwork to get IPs for export ", azNetwork])

def getIpsFromAllowedNetworks (svc : Service) (nodeID : Str) : DriverM (List Str) :=
  getIpsFromLabels nodeID (fun labels => allowedNetworkIPs labels svc.allowedNetworks)
    (sprintf ["no IPs in node labels match allowedNetworks ", fmtList svc.allowedNetworks])

end Controller

structure ControllerPublishVolumeRequest where
  volumeID : Str
  nodeID : Str
  volumeCapability : Option VolumeCapability
  volumeContext : Params
  deriving DecidableEq

namespace Controller

variable (svc : Service)

def usesAllowedNetworks : Bool := svc.allowedNetworksMode = .multi && svc.allowedNetworks ≠ []

variable (req : ControllerPublishVolumeRequest)

/-- The addresses in the node's labels that replace its ID: those in `AzNetwork`, or in the mode
`multi` those in the allowed networks. -/
def resolveExportIPs : DriverM (List Str) := do
  let azNetwork := req.volumeContext.get "AzNetwork"
  if azNetwork ≠ [] then
    match ← attempt (getIpsFromAZNetworkLabel req.nodeID azNetwork) with
    | .ok ips => ret ips
    | .error e => fail (.status .internal (sprintf ["getting AZNetwork IPs: ", e.text]))
  else if usesAllowedNetworks svc then
    match ← attempt (getIpsFromAllowedNetworks svc req.nodeID) with
    | .ok ips => ret ips
    | .error e => fail (.status .internal
        (sprintf ["multi-NIC: failed to resolve NFS IPs from node labels: ", e.text]))
  else ret []

def getExportPathFromExportID (exportID : Int) (accessZone : Str) : IsiM Str := do
  match ← tryRequest (.getExportByID exportID accessZone) with
  | .error e => fail (.status .notFound e.text)
  | .ok none => fail .panic
  | .ok (some e) =>
    match e.paths with
    | [] => fail (.status .notFound (sprintf ["can't find paths for export with ID ", itoa exportID]))
    | path :: _ => ret path

def publishExportPath (cfg : ClusterConfig) (v : VolumeID) (ctx : Params) : IsiM Str := do
  if ctx.get "Path" ≠ [] then ret (ctx.get "Path")
  else
    match ← attempt (getExportPathFromExportID v.exportID v.accessZone) with
    | .ok path => ret path
    | .error .panic => fail .panic
    | .error _ => ret (getPathForVolume cfg.isiPath v.volName)

def checkPublishedVolume (v : VolumeID) (ctx : Params) (exportPath : Str) : IsiM Unit := do
  if isROVolumeFromSnapshot (ctx.get "Path") v.accessZone then
    match ← tryRequest (.getExportWithPath exportPath v.accessZone) with
    | .ok (some _) => ret ()
    | _ => fail (NodeService.reqError svc .internal ["error retrieving export for ", exportPath])
  else if ctx.get "ProvisioningMode" ≠ ("directory" : Str) then
    match getIsiPathFromExportPath exportPath with
    | none => fail .panic
    | some isiPath =>
      match ← tryRequest (.getVolume isiPath v.volName) with
      | .ok vol => if vol.name = [] then fail .panic else ret ()
      | .error e => fail (NodeService.reqError svc .internal
          ["failure checking volume status before controller publish: ", e.text])
  else ret ()

def publishAccessMode : Except Err AccessMode :=
  let invalid (text : Str) : Except Err AccessMode :=
    .error (NodeService.reqError svc .invalidArgument [text])
  if req.nodeID = [] then .error (NodeService.reqError svc .notFound ["node ID is required"])
  else
    match req.volumeCapability with
    | none => invalid "volume capability is required"
    | some vc =>
      match vc.accessMode with
      | none => invalid "access mode is required"
      | some mode =>
        if mode = .unknown then invalid "unknown or unsupported access mode"
        else if vc.accessType ≠ some .mount then invalid "unknown access type is not Mount"
        else .ok mode

def checkExportCount (nodeID nodeIP : Str) (exportIPs : List Str) (accessZone : Str) :
    IsiM Unit := do
  let count ← attempt (if exportIPs ≠ [] ∧ svc.allowedNetworksMode = .multi then
    request (.getExportsCountAttachedToNodeIPs exportIPs accessZone)
    else request (.getExportsCountAttachedToNode nodeIP))
  match count with
  | .error _ => fail (NodeService.reqError svc .invalidArgument
      ["failed to export count for node id '", nodeID, "'"])
  | .ok n =>
    if 0 < svc.maxVolumesPerNode ∧ svc.maxVolumesPerNode ≤ n then
      fail (NodeService.reqError svc .invalidArgument
        ["maximum volume limit reached for node : '", nodeID, "'"])
    else ret ()

structure Publication where
  clusterName : Str
  exportID : Int
  accessZone : Str
  nodeID : Str
  exportIPs : List Str
  mode : AccessMode
  rootClientEnabled : Bool
  isROVolumeFromSnapshot : Bool
  directoryBacked : Bool
  ignoreUnresolvableHosts : Bool
  deriving DecidableEq

def checkRequest (exportIPs : List Str) :
    DriverM Publication := do
  if req.volumeID = [] then
    fail (NodeService.reqError svc .invalidArgument ["volume ID is required"])
  else
    match parseNormalizedVolumeID req.volumeID with
    | .error e => fail (NodeService.reqError svc .notFound ["failed to parse volume ID '",
        req.volumeID, "', error : '", e.text, "'"])
    | .ok v =>
      let (clusterName, cfg) ← ofExcept (svc.getIsilonConfig v.clusterName)
      onCluster clusterName (svc.autoProbe cfg)
      if v.exportID = 0 then fail (.status .invalidArgument "invalid export ID")
      else
        let exportPath ← onCluster clusterName (publishExportPath cfg v req.volumeContext)
        onCluster clusterName (checkPublishedVolume svc v req.volumeContext exportPath)
        let mode ← ofExcept (publishAccessMode svc req)
        match parseNodeID req.nodeID with
        | .error _ => fail (NodeService.reqError svc .notFound
            ["failed to parse node id '", req.nodeID, "'"])
        | .ok n =>
          onCluster clusterName (checkExportCount svc req.nodeID n.ip exportIPs v.accessZone)
          ret {
            clusterName := clusterName
            exportID := v.exportID
            accessZone := v.accessZone
            nodeID := req.nodeID
            exportIPs := exportIPs
            mode := mode
            rootClientEnabled :=
              (parseBool (req.volumeContext.get "RootClientEnabled")).getD false
            isROVolumeFromSnapshot :=
              isROVolumeFromSnapshot (req.volumeContext.get "Path") v.accessZone
            directoryBacked :=
              NodeService.isDirectoryBackedContext req.volumeID req.volumeContext
            ignoreUnresolvableHosts := cfg.ignoreUnresolvableHosts }

def checkPublish : DriverM Publication := do
  let exportIPs ← resolveExportIPs svc req
  checkRequest svc req exportIPs

namespace Publication

def addClient (p : Publication) (nodeID : Str) (adders : ExportClientAdders) : DriverM Unit :=
  if p.exportIPs ≠ [] then
    addExportClientByIPWithZone p.clusterName p.exportID p.accessZone nodeID p.exportIPs adders
      svc.allowedNetworksMode
  else
    addExportClientNetworkIdentifier p.clusterName p.exportID p.accessZone nodeID
      p.ignoreUnresolvableHosts adders.addClient

variable (p : Publication)

def addWriter : DriverM Unit := do
  let normalAdders := getExportClientAdders false false false
  if !(← onCluster p.clusterName
    (IsiService.isHostAlreadyAdded p.exportID p.accessZone dummyHostNodeID)) then
    let _ ← attempt (p.addClient svc dummyHostNodeID normalAdders)
  p.addClient svc p.nodeID (getExportClientAdders p.rootClientEnabled false p.isROVolumeFromSnapshot)
  if p.rootClientEnabled then p.addClient svc p.nodeID normalAdders

def addError (e : Err) : Err :=
  NodeService.reqError svc .internal ["internal error occurred when attempting to add client ip ",
    p.nodeID, " to export ", itoa p.exportID, ", error : ", e.text]

def guardAdd (add : DriverM Unit) : DriverM Unit := do
  match ← attempt add with
  | .ok _ => ret ()
  | .error e => fail (p.addError svc e)

def authorizeWriter : DriverM Unit :=
  if p.isROVolumeFromSnapshot then
    fail (p.addError svc (.plain (sprintf ["unsupported access mode: 'mode:", p.mode.text, "'"])))
  else p.guardAdd svc (p.addWriter svc)

def authorize : DriverM Unit := do
  match p.mode with
  | .multiNodeMultiWriter => p.authorizeWriter svc
  | .multiNodeReaderOnly =>
    p.guardAdd svc (p.addClient svc p.nodeID
      (getExportClientAdders p.rootClientEnabled true p.isROVolumeFromSnapshot))
  | .singleNodeWriter | .singleNodeSingleWriter | .singleNodeMultiWriter =>
    if p.isROVolumeFromSnapshot || p.directoryBacked then p.authorizeWriter svc
    else if ← onCluster p.clusterName
      (IsiService.otherClientsAlreadyAdded p.exportID p.accessZone p.nodeID) then
      fail (NodeService.reqError svc .notFound ["export ", itoa p.exportID, " in access zone ",
        p.accessZone, " already has other clients added to it, and the access mode is ",
        p.mode.text, ", thus the request fails"])
    else p.authorizeWriter svc
  | mode => fail (NodeService.reqError svc .invalidArgument
      ["unsupported access mode: mode:", mode.text])

def muKey : Str := sprintf [itoa p.exportID, ":", p.accessZone]

end Publication

def withLock (key : Str) (body : DriverM Unit) : DriverM Unit := do
  step (.lock key)
  let r ← attempt body
  step (.unlock key)
  ofExcept r

/-- `ControllerPublishVolume` after its checks. A directory-backed volume finds its node on the
shared export when another volume has it. -/
def publish (p : Publication) : DriverM Unit := do
  if p.directoryBacked then
    step (.rLock p.muKey)
    let added ← onCluster p.clusterName
      (IsiService.isHostAlreadyAdded p.exportID p.accessZone p.nodeID)
    step (.rUnlock p.muKey)
    if added then ret () else withLock p.muKey (p.authorize svc)
  else p.authorize svc

def controllerPublishVolume : DriverM Unit := do
  let p ← checkPublish svc req
  publish svc p

end Controller

namespace IsiService

def removeExportClients (exportID : Int) (accessZone : Str) (clients : List Str)
    (ignoreUnresolvableHosts : Bool) : IsiM Unit := do
  match ← tryRequest (.removeExportClients exportID accessZone clients ignoreUnresolvableHosts) with
  | .ok _ => ret ()
  | .error e =>
    if e.jsonStatus = some 404 then ret ()
    else fail (.plain (sprintf ["failed to remove clients from export '", itoa exportID,
      "' with access zone '", accessZone, "' : '", e.text, "'"]))

def removeExportClientByIDWithZone (exportID : Int) (accessZone nodeID : Str) (ignore : Bool) :
    IsiM Unit := do
  let n ← ofExcept (parseNodeID nodeID)
  removeExportClients exportID accessZone [n.ip, n.name, n.fqdn] ignore

def removeExportClientByIPsWithZone (exportID : Int) (accessZone : Str) (clientIPs : List Str)
    (ignore : Bool) : IsiM Unit :=
  removeExportClients exportID accessZone clientIPs ignore

end IsiService

def PersistentVolume.directoryVolume (pv : PersistentVolume) : Option VolumeID :=
  match pv.csi with
  | none => none
  | some csi =>
    if csi.driver = pluginName ∧ csi.volumeAttributes.get "ProvisioningMode" = ("directory" : Str) then
      (parseNormalizedVolumeID csi.volumeHandle).toOption
    else none

def PersistentVolume.onExport (pv : PersistentVolume) (exportID : Int) (accessZone : Str) : Bool :=
  match pv.directoryVolume with
  | none => false
  | some v => v.exportID = exportID && v.accessZone = accessZone && pv.bound

def attachedPVs (attachments : List VolumeAttachment) (nodeName excludeVolumeName : Str) : List Str :=
  (attachments.filterMap fun a =>
    if a.nodeName = nodeName ∧ a.attached then
      a.persistentVolumeName.filter fun pvName => pvName ≠ excludeVolumeName
    else none).dedup

def VolumeID.muKey (v : VolumeID) : Str := sprintf [itoa v.exportID, ":", v.accessZone]

structure ControllerUnpublishVolumeRequest where
  volumeID : Str
  nodeID : Str
  deriving DecidableEq

namespace Controller

def anyOnExport (exportID : Int) (accessZone : Str) : List Str → DriverM Bool
  | [] => ret false
  | pvName :: pvNames => do
    match ← tryStep (.getPersistentVolume pvName) with
    | .ok pv =>
      if pv.onExport exportID accessZone then ret true else anyOnExport exportID accessZone pvNames
    | .error _ => anyOnExport exportID accessZone pvNames

def hasOtherDirectoryBackedVolumesOnExport (nodeID : Str) (exportID : Int)
    (accessZone excludeVolumeName : Str) : DriverM Bool := do
  match parseNodeID nodeID with
  | .error e => fail (.wrapped (sprintf ["failed to parse node ID: ", e.text]) e)
  | .ok n =>
    match ← tryStep .listVolumeAttachments with
    | .error e => fail (.wrapped (sprintf ["failed to list VolumeAttachments: ", e.text]) e)
    | .ok attachments =>
      anyOnExport exportID accessZone (attachedPVs attachments n.name excludeVolumeName)

theorem hasOther_uses : uses DriverCall.IsRead
    (hasOtherDirectoryBackedVolumesOnExport nodeID exportID accessZone excludeVolumeName) := by
  have hany (pvNames : List Str) : uses DriverCall.IsRead (anyOnExport exportID accessZone pvNames) := by
    induction pvNames with
    | nil => trivial
    | cons pvName pvNames ih =>
      refine uses_ask_bind trivial fun r => ?_
      split
      · split
        · trivial
        · exact ih
      · exact ih
  unfold hasOtherDirectoryBackedVolumesOnExport
  split
  · trivial
  refine uses_ask_bind trivial fun r => ?_
  split
  · trivial
  · exact hany _

variable (svc : Service)

def removeOrDelete (clusterName : Str) (v : VolumeID) (volumeID shown : Str)
    (remove : IsiM Unit) : DriverM Unit := do
  match ← attempt (onCluster clusterName remove) with
  | .ok _ => ret ()
  | .error e =>
    if contains e.text "No such file or directory" then
      onCluster clusterName (deleteVolume svc volumeID)
    else fail (NodeService.reqError svc .internal ["error encountered when trying to remove ", shown,
      " from export ", itoa v.exportID, " with access zone ", v.accessZone, " on cluster ", clusterName,
      ", error ", e.text])

variable (req : ControllerUnpublishVolumeRequest)

/-- Remove the clients that stand for the node: the addresses in `azNetwork`, or in the mode `multi`
those in the allowed networks, if any, or else those that the node ID names. -/
def removeNode (v : VolumeID) (clusterName : Str)
    (cfg : ClusterConfig) (azNetwork : Str) : DriverM Unit := do
  let removeIPs (ips : List Str) : DriverM Unit :=
    removeOrDelete svc clusterName v req.volumeID (sprintf ["clients ", fmtList ips])
      (IsiService.removeExportClientByIPsWithZone v.exportID v.accessZone ips
        cfg.ignoreUnresolvableHosts)
  let removeID : DriverM Unit :=
    removeOrDelete svc clusterName v req.volumeID (sprintf ["client ", req.nodeID])
      (IsiService.removeExportClientByIDWithZone v.exportID v.accessZone req.nodeID
        cfg.ignoreUnresolvableHosts)
  if azNetwork ≠ [] then
    match ← attempt (getIpsFromAZNetworkLabel req.nodeID azNetwork) with
    | .ok ips => removeIPs ips
    | .error e => fail (NodeService.reqError svc .failedPrecondition ["error ", e.text])
  else if req.nodeID = [] then
    fail (NodeService.reqError svc .invalidArgument ["node ID is required"])
  else if usesAllowedNetworks svc then
    match ← attempt (getIpsFromAllowedNetworks svc req.nodeID) with
    | .ok ips => removeIPs ips
    | .error _ => removeID
  else removeID

/-- For a directory-backed volume the node stays on the export while another volume of it is
attached, and also when that cannot be found out. -/
def removeUnlessShared (v : VolumeID) (clusterName : Str)
    (cfg : ClusterConfig) (azNetwork : Str) : DriverM Unit := do
  match ← attempt (hasOtherDirectoryBackedVolumesOnExport req.nodeID v.exportID v.accessZone
    v.volName) with
  | .ok false => removeNode svc req v clusterName cfg azNetwork
  | _ => ret ()

/-- `ControllerUnpublishVolume` after the read of the persistent volume, without which a volume is
export-backed and has no `AzNetwork`. -/
def unpublish (v : VolumeID)
    (pv : Except Err PersistentVolume) : DriverM Unit := do
  let (clusterName, cfg) ← ofExcept (svc.getIsilonConfig v.clusterName)
  match ← attempt (onCluster clusterName (svc.autoProbe cfg)) with
  | .error e => fail (NodeService.reqError svc .failedPrecondition ["error ", e.text])
  | .ok _ =>
    match pv with
    | .error _ => removeNode svc req v clusterName cfg []
    | .ok pv =>
      match pv.csi with
      | none => fail .panic
      | some csi =>
        let azNetwork := csi.volumeAttributes.get "AzNetwork"
        if csi.volumeAttributes.get "ProvisioningMode" = ("directory" : Str) then
          withLock v.muKey (removeUnlessShared svc req v clusterName cfg azNetwork)
        else removeNode svc req v clusterName cfg azNetwork

def controllerUnpublishVolume : DriverM Unit := do
  if req.volumeID = [] then
    fail (NodeService.reqError svc .invalidArgument
      ["ControllerUnpublishVolumeRequest.VolumeId is empty"])
  else
    match parseNormalizedVolumeID req.volumeID with
    | .error e => fail (NodeService.reqError svc .invalidArgument ["failed to parse volume ID ",
        req.volumeID, ", error : ", e.text])
    | .ok v =>
      let pv ← tryStep (.getPersistentVolume v.volName)
      unpublish svc req v pv

end Controller

structure KubeNode where
  name : Str
  addresses : List NodeAddress
  deriving DecidableEq

def KubeNode.ips (node : KubeNode) : List Str :=
  (node.addresses.filter fun a => a.type = .internalIP ∨ a.type = .externalIP).map NodeAddress.address

def addSharedExport (exports : List VolumeID) (v : VolumeID) : List VolumeID :=
  exports.filter (fun x => x.muKey ≠ v.muKey) ++ [v]

def sharedExports (pvs : List PersistentVolume) : List VolumeID :=
  (pvs.filterMap PersistentVolume.directoryVolume).foldl addSharedExport []

namespace Controller

variable (svc : Service)

def cleanupExport (ips : List Str) (v : VolumeID) : DriverM Unit := do
  match svc.getIsilonConfig v.clusterName with
  | .error _ => ret ()
  | .ok (clusterName, cfg) =>
    if cfg.isiSvc then
      let _ ← attempt (onCluster clusterName
        (IsiService.removeExportClientByIPsWithZone v.exportID v.accessZone ips false))
    else fail .panic

def cleanupExports (ips : List Str) : List VolumeID → DriverM Unit
  | [] => ret ()
  | v :: exports => do
    withLock v.muKey (cleanupExport svc ips v)
    cleanupExports ips exports

def cleanupNodeFromSharedExports (node : KubeNode) : DriverM Unit := do
  if node.ips = [] then ret ()
  else
    match ← tryStep .listPersistentVolumes with
    | .error e => fail (.wrapped (sprintf ["failed to list PVs: ", e.text]) e)
    | .ok pvs => cleanupExports svc node.ips (sharedExports pvs)

end Controller

end CsiPowerscale
