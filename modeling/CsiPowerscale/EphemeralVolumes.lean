import CsiPowerscale.CreateVolumeAnswers
import CsiPowerscale.Publish
import CsiPowerscale.VolumeParameters

namespace CsiPowerscale
open GoLib Effects Effects.Prog

inductive EphemeralCall
  | createVolume (req : CreateVolumeRequest)
  | getPowerScaleNodeID
  | controllerPublishVolume (req : ControllerPublishVolumeRequest)
  | nodePublishVolume (req : NodePublishVolumeRequest)
  | ephemeralNodeUnpublish (req : NodeUnpublishVolumeRequest)
  | isNotExist (path : Str)
  | mkDirAll (path : Str)
  | createFile (path : Str)
  | writeString (path text : Str)

@[reducible] def EphemeralCall.Reply : EphemeralCall → Type
  | createVolume _ => Option Volume
  | getPowerScaleNodeID => Str
  | isNotExist _ => Bool
  | _ => Unit

abbrev EphemeralM := Prog EphemeralCall EphemeralCall.Reply Err

abbrev issue (c : EphemeralCall) : EphemeralM c.Reply := op c

namespace NodeService

def deniedKeys : List Str :=
  ["IsiPath", "AccessZone", "IsiVolumePathPermissions", "ClusterName", "AzServiceIP",
    "RootClientEnabled"]

def sanitizeEphemeralCreateVolumeParams (params : Params) : Params :=
  params.filter fun e => e.1 ∉ deniedKeys

def ephemeralName (volumeID : Str) : Str := "ephemeral-" ++ volumeID

def ephemeralVolume (cap : Option VolumeCapability) (req : NodePublishVolumeRequest) :
    CreateVolumeRequest where
  name := ephemeralName req.volumeID
  requiredBytes := 0
  volumeCapabilities := [cap]
  parameters := sanitizeEphemeralCreateVolumeParams (req.volumeContext.getD [])
  mutableParameters := []
  volumeContentSource := none

def orUnpublish (undo : NodeUnpublishVolumeRequest) (step : EphemeralM Unit) : EphemeralM Unit := do
  match ← attempt step with
  | .ok _ => ret ()
  | .error e =>
    let _ ← ask (EphemeralCall.ephemeralNodeUnpublish undo)
    fail e

def ephemeralPublication (req : NodePublishVolumeRequest) (vol : Volume) :
    NodePublishVolumeRequest where
  volumeID := vol.volumeID
  targetPath := req.targetPath
  stagingTargetPath := []
  volumeCapability := req.volumeCapability
  volumeContext := some (vol.volumeContext.filter fun e => e.1 ≠ "csi.storage.k8s.io/ephemeral")
  readonly := req.readonly

def publishEphemeral (cap : Option VolumeCapability) (req : NodePublishVolumeRequest) (vol : Volume) :
    EphemeralM Unit := do
  let filePath := req.targetPath ++ "/" ++ ephemeralName req.volumeID
  let undo : NodeUnpublishVolumeRequest := ⟨vol.volumeID, req.targetPath⟩
  let nodeID ← issue .getPowerScaleNodeID
  orUnpublish undo (issue (.controllerPublishVolume ⟨vol.volumeID, nodeID, cap, vol.volumeContext⟩))
  orUnpublish undo (issue (.nodePublishVolume (ephemeralPublication req vol)))
  if ← issue (.isNotExist filePath) then orUnpublish undo (issue (.mkDirAll filePath))
  let idFile := clean (clean filePath ++ "/id")
  orUnpublish undo (issue (.createFile idFile))
  orUnpublish undo (issue (.writeString idFile vol.volumeID))

/-- `ephemeralNodePublish`. An answer without a volume panics. -/
def ephemeralNodePublish (cap : Option VolumeCapability) (req : NodePublishVolumeRequest) :
    EphemeralM Unit := do
  match ← issue (.createVolume (ephemeralVolume cap req)) with
  | none => fail .panic
  | some vol => publishEphemeral cap req vol

end NodeService

structure Plannable (svc : Service) (req : CreateVolumeRequest) : Prop where
  limits : validateMutableParamKeys req.mutableParameters = .ok ()
  accepted : ∃ size, validateCreateVolumeRequest req = .ok size
  cluster : ∃ name cfg, svc.getIsilonConfig (req.parameters.get "ClusterName") = .ok (name, cfg) ∧
    (cfg.isiSvc = true ∨ svc.autoProbeEnabled = true) ∧
    validateMTLSTarget svc (resolveMountFQDN (req.parameters.get "SmartConnectZoneFQDN")
      cfg.nfsMountFQDN svc.envNFSMountFQDN) (req.parameters.get "NFSTransportSecurity") = .ok ()
  shared : req.parameters.get? "DirectoryBacked" = some ("true" : Str) →
    req.parameters.get "SharedExportPath" ≠ [] ∧
      startsWith (req.parameters.get "SharedExportPath") "/" = true ∧
      contains (req.parameters.get "SharedExportPath") ".." = false
  noSnapshot : wantsWritableSnapshot req.parameters = false
  replication : isReplicationEnabled svc req.parameters = true →
    ∃ vgPrefix rpo rpoint remoteName remote,
      req.parameters.get? (svc.withRP "volumeGroupPrefix") = some vgPrefix ∧
      req.parameters.get? (svc.withRP "rpo") = some rpo ∧ rpoToInt rpo = some rpoint ∧
      req.parameters.get? (svc.withRP "remoteSystem") = some remoteName ∧
      svc.getIsilonConfig remoteName = .ok remote

section Plannable

variable {svc : Service} {req : CreateVolumeRequest}

theorem validateSharedExport_accepts :
    yields (fun _ => params.get? "DirectoryBacked" = some ("true" : Str) →
      params.get "SharedExportPath" ≠ [] ∧ startsWith (params.get "SharedExportPath") "/" = true ∧
        contains (params.get "SharedExportPath") ".." = false) (validateSharedExport params z) := by
  unfold validateSharedExport
  dsimp only
  split
  · next hbacked =>
    intro h
    exact absurd h hbacked
  split
  · trivial
  next hne =>
  split
  · trivial
  next hrooted =>
  split
  · trivial
  next hdots =>
  apply yields_of_forall
  intro _ _
  exact ⟨hne, by simpa using hrooted, by simpa using hdots⟩

theorem autoProbe_accepts (cfg : ClusterConfig) :
    yields (fun r => ∀ u, r = .ok u → cfg.isiSvc = true ∨ svc.autoProbeEnabled = true)
      (attempt (svc.autoProbe cfg)) := by
  unfold Service.autoProbe Service.autoProbeWith
  split
  · next hsvc =>
    intro _ _
    exact .inl hsvc
  split
  · intro u h
    cases h
  next hauto =>
  apply yields_of_forall
  intro _ _ _
  exact .inr (by simpa using hauto)

theorem preparePlan_plannable (hsource : req.volumeContentSource = none) :
    yields (fun _ => Plannable svc req) (preparePlan svc req) := by
  have hresolve : yields (fun p => (isReplicationEnabled svc req.parameters = true →
      ¬∃ text, prepareReplication svc req.parameters p.isiPath =
        fail (.status .invalidArgument text)) → Plannable svc req) (resolvePlan svc req) := by
    unfold resolvePlan
    apply yields_bind (yields_ofExcept _)
    intro _ hlimits
    apply yields_bind (yields_ofExcept _)
    intro x hcluster
    apply yields_bind (autoProbe_accepts x.2)
    intro r hprobe
    split
    · trivial
    next u =>
    split
    · trivial
    next size hsize =>
    apply yields_bind validateSharedExport_accepts
    intro shared hshared
    apply yields_bind (yields_ofExcept _)
    intro _ hmtls
    unfold resolveSource
    rw [hsource]
    dsimp only
    split
    · trivial
    next hwritable =>
    intro hrep
    refine ⟨hlimits, ⟨size, hsize⟩, ⟨x.1, x.2, hcluster, hprobe u rfl, hmtls⟩, hshared,
      by simpa using hwritable, fun hon => ?_⟩
    obtain ⟨vgPrefix, rpo, rpoint, remoteName, remote, hread, -⟩ :=
      (prepareReplication_cases svc req _).resolve_left (hrep hon)
    exact ⟨vgPrefix, rpo, rpoint, remoteName, remote, hread⟩
  unfold preparePlan
  apply yields_bind hresolve
  intro p hp
  unfold volumeRoot
  split
  · by_cases hrefused : ∃ text, prepareReplication svc req.parameters p.isiPath =
        fail (.status .invalidArgument text)
    · obtain ⟨text, h⟩ := hrefused
      rw [h]
      trivial
    · exact yields_bind_any fun _ => hp fun _ => hrefused
  · next hoff =>
    exact hp fun hon => absurd hon hoff

structure Ready (svc : Service) (req : CreateVolumeRequest) (s : OneFS) : Prop where
  exported : (s.exportAt (req.parameters.get "SharedExportPath") (req.accessZone svc)).isSome = true
  group : s.hasDir (namespacePath (req.isiPath svc) (req.volumeGroup svc)) = true
  policy : replaceByte (req.volumeGroup svc) 46 45 ∈ s.policies

theorem run_validateSharedExport_ready (h : Plannable svc req) (hs : Ready svc req s) :
    ∃ shared, run array (validateSharedExport req.parameters (req.accessZone svc)) s =
      (.ok shared, s) := by
  unfold validateSharedExport
  dsimp only
  split
  · exact ⟨none, rfl⟩
  next hbacked =>
  obtain ⟨hne, hrooted, hdots⟩ := h.shared (by simpa using hbacked)
  obtain ⟨e, he⟩ := Option.isSome_iff_exists.1 hs.exported
  rw [if_neg hne, if_neg (by simp [hrooted]), if_neg (by simp [hdots])]
  simp [run_bind, array_act, OneFS.serve, he]

theorem run_prepareReplication_ready (h : Plannable svc req) (hs : Ready svc req s)
    (hon : isReplicationEnabled svc req.parameters = true) :
    ∃ path, run array (prepareReplication svc req.parameters (req.isiPath svc)) s = (.ok path, s) := by
  obtain ⟨vgPrefix, rpo, rpoint, remoteName, ⟨name, remote⟩, hvgPre, hrpo, hrpoint, hremote, hcfg⟩ :=
    h.replication hon
  have hgroup : volumeGroupName svc req.parameters vgPrefix rpo (remoteEndpoint remote) =
      req.volumeGroup svc := by
    simp [CreateVolumeRequest.volumeGroup, Params.get, hvgPre, hrpo, hremote, hcfg]
  have hvg := run_ensureVolumeGroup_found hs.group
  have hpolicy : ∀ path host cert, run array (ensurePolicy (replaceByte (req.volumeGroup svc) 46 45)
      rpoint path host cert) s = (.ok (), s) := fun _ _ _ => run_ensurePolicy_found hs.policy
  simp [prepareReplication, replicationParam, hvgPre, hrpo, hrpoint, hremote, hcfg, hgroup, run_bind,
    hvg, hpolicy]

theorem run_preparePlan_ready (h : Plannable svc req) (hsource : req.volumeContentSource = none)
    (hs : Ready svc req s) : ∃ p, run array (preparePlan svc req) s = (.ok p, s) := by
  obtain ⟨size, hsize⟩ := h.accepted
  obtain ⟨name, cfg, hcfg, hreach, hmtls⟩ := h.cluster
  obtain ⟨shared, hshared⟩ := run_validateSharedExport_ready h hs
  have hprobe : run array (svc.autoProbe cfg) s = (.ok (), s) := by
    unfold Service.autoProbe Service.autoProbeWith
    split
    · rfl
    · next hno =>
      rw [if_neg (by simp [hreach.resolve_left hno])]
      rfl
  have hresolve : ∃ p, run array (resolvePlan svc req) s = (.ok p, s) := by
    unfold CreateVolumeRequest.accessZone at hshared
    simp [resolvePlan, run_bind, h.limits, hcfg, hprobe, hsize, hshared, hmtls, resolveSource, hsource,
      h.noSnapshot]
  obtain ⟨p, hp⟩ := hresolve
  have hpath := (run_yields resolvePlan_yields hp).2
  have hroot : ∃ path, run array (volumeRoot svc req.parameters p.isiPath) s = (.ok path, s) := by
    unfold volumeRoot
    rw [hpath]
    split
    · next hon => exact run_prepareReplication_ready h hs hon
    · exact ⟨_, rfl⟩
  obtain ⟨path, hpath⟩ := hroot
  exact ⟨{ p with isiPath := path }, by simp [preparePlan, run_bind, hp, hpath]⟩

theorem exists_ready (svc : Service) (req : CreateVolumeRequest) : ∃ s, Ready svc req s := by
  let made := (OneFS.fresh.mkdir (namespacePath (req.isiPath svc) (req.volumeGroup svc))).addExport
    (req.parameters.get "SharedExportPath") (req.accessZone svc) [] []
  refine ⟨{ made with policies := [replaceByte (req.volumeGroup svc) 46 45] }, ?_, ?_, ?_⟩
  · apply Option.isSome_iff_exists.2
    exact Stores.Registry.find?_isSome (OneFS.mem_addExport.2 (.inr rfl)) (by simp)
  · exact Stores.Table.has_add.2 (.inr rfl)
  · exact List.mem_singleton.2 rfl

structure Takes (svc : Service) (req : CreateVolumeRequest) (p : Plan) : Prop where
  replication : p.isReplication = isReplicationEnabled svc req.parameters
  rootClientEnabled : p.rootClientEnabled = (req.parameters.get? "RootClientEnabled").getD "false"
  permissions : p.permissions =
    (req.parameters.get? "IsiVolumePathPermissions").map fun _ => p.volumePathPermissions
  volumePathPermissions : p.volumePathPermissions =
    paramOr req.parameters "IsiVolumePathPermissions" p.cfg.isiVolumePathPermissions

theorem preparePlan_takes : yields (Takes svc req) (preparePlan svc req) := by
  have hresolve : yields (Takes svc req) (resolvePlan svc req) := by
    unfold resolvePlan
    apply yields_bind_any
    intro _
    apply yields_bind_any
    intro x
    apply yields_bind_any
    intro r
    split
    · trivial
    split
    · trivial
    apply yields_bind_any
    intro shared
    apply yields_bind_any
    intro _
    apply yields_bind_any
    intro source
    exact ⟨rfl, rfl, rfl, rfl⟩
  unfold preparePlan
  apply yields_bind hresolve
  intro p hp
  apply yields_bind_any
  intro path
  exact ⟨hp.replication, hp.rootClientEnabled, hp.permissions, hp.volumePathPermissions⟩

end Plannable

namespace NodeService

structure Placement where
  clusterName : Str
  accessZone : Str
  basePath : Str
  permissions : Option Str
  volumePathPermissions : Str
  rootClientEnabled : Str

def Placement.ofPlan (p : Plan) : Placement :=
  ⟨p.clusterName, p.accessZone, p.basePath, p.permissions, p.volumePathPermissions,
    p.rootClientEnabled⟩

def Placement.default (svc : Service) : Placement :=
  match svc.getIsilonConfig [] with
  | .ok (name, cfg) =>
    ⟨name, svc.accessZone, cfg.isiPath, none, cfg.isiVolumePathPermissions, "false"⟩
  | .error _ => ⟨[], [], [], none, [], []⟩

structure Placement.Used (x : Placement) (name : Str) (r : ControllerPublishVolumeRequest) : Prop where
  identity : ∃ i n, r.volumeID = getNormalizedVolumeID n i x.accessZone x.clusterName
  clusterName : r.volumeContext.get? "ClusterName" = some x.clusterName
  accessZone : r.volumeContext.get? "AccessZone" = some x.accessZone
  path : r.volumeContext.get? "Path" = some (getPathForVolume x.basePath name)
  rootClientEnabled : r.volumeContext.get? "RootClientEnabled" = some x.rootClientEnabled

def Selects (svc : Service) (cap : Option VolumeCapability) (req : NodePublishVolumeRequest) : Prop :=
  Plannable svc (ephemeralVolume cap req) ∧
    ((ephemeralVolume cap req).parameters.get? "DirectoryBacked" = some ("true" : Str) ∨
      isReplicationEnabled svc (ephemeralVolume cap req).parameters = true)

section Placement

variable {svc : Service} {cap : Option VolumeCapability} {req : NodePublishVolumeRequest}

theorem get?_denied (h : key ∈ deniedKeys) :
    (ephemeralVolume cap req).parameters.get? key = none := by
  have hfilter := Params.get?_filter (req.volumeContext.getD []) (fun key => key ∉ deniedKeys) key
  rw [if_neg (by simp [h])] at hfilter
  exact hfilter

theorem get_denied (h : key ∈ deniedKeys) : (ephemeralVolume cap req).parameters.get key = [] := by
  rw [Params.get, get?_denied h]
  rfl

theorem ephemeralVolume_placement (hsel : ¬Selects svc cap req) :
    yields (fun p => p.shared = none ∧ p.isReplication = false ∧ p.isROVolumeFromSnapshot = false ∧
      p.name = ephemeralName req.volumeID ∧ Placement.ofPlan p = Placement.default svc)
      (preparePlan svc (ephemeralVolume cap req)) := by
  have hplannable : yields (fun _ => Plannable svc (ephemeralVolume cap req))
      (preparePlan svc (ephemeralVolume cap req)) := preparePlan_plannable rfl
  apply yields_mono (yields_and hplannable (yields_and preparePlan_yields preparePlan_takes))
  intro p hplan
  obtain ⟨hok, hp, htakes⟩ := hplan
  have hbacked : (ephemeralVolume cap req).parameters.get? "DirectoryBacked" ≠ some ("true" : Str) :=
    fun h => hsel ⟨hok, .inl h⟩
  have hoff : isReplicationEnabled svc (ephemeralVolume cap req).parameters = false :=
    Bool.eq_false_iff.2 fun h => hsel ⟨hok, .inr h⟩
  have hshared : p.shared = none := hp.sharedPath_eq_none.2 (if_pos hbacked)
  have hdenied : ∀ key ∈ deniedKeys, ∀ default,
      paramOr (ephemeralVolume cap req).parameters key default = default := by
    intro key hkey default
    rw [paramOr, get_denied hkey, if_pos rfl]
  have hcluster : (ephemeralVolume cap req).parameters.get "ClusterName" = [] :=
    get_denied (by decide)
  have hcfg : svc.getIsilonConfig [] = .ok (p.clusterName, p.cfg) := hcluster ▸ hp.config
  have hzone : p.accessZone = svc.accessZone :=
    hp.accessZone.trans (hdenied "AccessZone" (by decide) _)
  have hbase : p.basePath = p.cfg.isiPath := by
    rw [Plan.basePath, hshared, hp.isiPath, CreateVolumeRequest.root, hoff,
      CreateVolumeRequest.isiPath, hdenied "IsiPath" (by decide), CreateVolumeRequest.clusterIsiPath,
      hcluster, hcfg]
    rfl
  have hroot : p.rootClientEnabled = "false" := by
    rw [htakes.rootClientEnabled, get?_denied (by decide)]
    rfl
  have hexplicit : p.permissions = none := by
    rw [htakes.permissions, get?_denied (by decide)]
    rfl
  have hperm : p.volumePathPermissions = p.cfg.isiVolumePathPermissions :=
    htakes.volumePathPermissions.trans (hdenied "IsiVolumePathPermissions" (by decide) _)
  refine ⟨hshared, htakes.replication.trans hoff, hp.readOnly, hp.name, ?_⟩
  simp only [Placement.ofPlan, Placement.default, hcfg, hzone, hbase, hroot, hexplicit, hperm]

theorem Placement.used (hshared : p.shared = none) (hvol : vol = Controller.getCSIVolume p i name
      (getPathForVolume p.isiPath p.name) p.accessZone) :
    (Placement.ofPlan p).Used p.name ⟨vol.volumeID, nodeID, cap, vol.volumeContext⟩ := by
  subst hvol
  have hbase : p.basePath = p.isiPath := by
    rw [Plan.basePath, hshared]
  have hid := @Controller.getCSIVolume_exportBacked p i name (getPathForVolume p.isiPath p.name)
    p.accessZone hshared
  refine ⟨⟨i, name, hid⟩, rfl, rfl, ?_, rfl⟩
  show _ = some (getPathForVolume p.basePath p.name)
  rw [hbase]
  rfl

theorem createVolume_used (hsel : ¬Selects svc cap req)
    (h : Outcome array F (Controller.createVolume svc (ephemeralVolume cap req)) s (.ok (some vol)) t)
    (nodeID : Str) : (Placement.default svc).Used (ephemeralName req.volumeID)
      ⟨vol.volumeID, nodeID, cap, vol.volumeContext⟩ := by
  obtain ⟨p, u, hplan, hprovision⟩ := Outcome.of_bind h
  obtain ⟨hshared, -, hro, hname, hplaced⟩ :=
    wp_iff_outcome.1 (wp_of_yields (ephemeralVolume_placement hsel)) _ _ hplan p rfl
  obtain ⟨e, he, -⟩ := (Controller.provision_names hshared).outcome hprovision vol rfl
  obtain ⟨name, path, hvol, -, hown⟩ := he.volume
  rw [he.zone, (hown hro).1, Controller.targetPath_own hro hshared] at hvol
  rw [← hplaced, ← hname]
  exact Placement.used hshared hvol

end Placement

/-- The answer to `CreateVolume` is one that it can give, on an array in any state and with any
failing requests. -/
def ServesCreateVolume (svc : Service) (w : World EphemeralCall EphemeralCall.Reply Err S) : Prop :=
  ∀ r s answer t, w.act (.createVolume r) s = (.ok answer, t) →
    ∃ F a b, Outcome array F (Controller.createVolume svc r) a (.ok answer) b

def Issues (svc : Service) (cap : Option VolumeCapability) (req : NodePublishVolumeRequest)
    (c : EphemeralCall) : Prop :=
  ∃ (S : Type) (w : World EphemeralCall EphemeralCall.Reply Err S) (s t : S),
    ServesCreateVolume svc w ∧ (t, c) ∈ calls w (ephemeralNodePublish cap req) s

def Plans (svc : Service) (r : CreateVolumeRequest) (p : Plan) : Prop :=
  ∃ F s t, Outcome array F (preparePlan svc r) s (.ok p) t

structure SamePlacement (svc : Service) (cap : Option VolumeCapability)
    (req₁ req₂ : NodePublishVolumeRequest) : Prop where
  unselected : ∀ req ∈ [req₁, req₂], ∀ r p, Issues svc cap req (.createVolume r) → Plans svc r p →
    p.shared = none ∧ p.isReplication = false
  placed : ∃ x : Placement, ∀ req ∈ [req₁, req₂],
    (∀ r p, Issues svc cap req (.createVolume r) → Plans svc r p → Placement.ofPlan p = x) ∧
    ∀ r, Issues svc cap req (.controllerPublishVolume r) → x.Used (ephemeralName req.volumeID) r

section Calls

variable {svc : Service} {cap : Option VolumeCapability} {req : NodePublishVolumeRequest}

def Obeys (x : Placement) (cap : Option VolumeCapability) (req : NodePublishVolumeRequest) :
    EphemeralCall → Prop
  | .createVolume r => r = ephemeralVolume cap req
  | .controllerPublishVolume r => x.Used (ephemeralName req.volumeID) r
  | _ => True

theorem orUnpublish_obeys {step : EphemeralM Unit} (hstep : uses (Obeys x cap req) step) :
    uses (Obeys x cap req) (orUnpublish undo step) := by
  apply uses_attempt_bind hstep
  intro r
  cases r with
  | ok _ => trivial
  | error e =>
    apply uses_ask_bind trivial
    intro _
    trivial

theorem publishEphemeral_obeys
    (hused : ∀ nodeID, x.Used (ephemeralName req.volumeID) ⟨vol.volumeID, nodeID, cap,
      vol.volumeContext⟩) :
    uses (Obeys x cap req) (publishEphemeral cap req vol) := by
  have hstep : ∀ c : EphemeralCall, Obeys x cap req c → uses (Obeys x cap req) (issue c) :=
    fun c hc => (uses_op c).2 hc
  unfold publishEphemeral
  apply uses_bind (hstep .getPowerScaleNodeID trivial)
  intro nodeID
  apply uses_bind (orUnpublish_obeys (hstep (.controllerPublishVolume _) (hused nodeID)))
  intro _
  apply uses_bind (orUnpublish_obeys (hstep (.nodePublishVolume _) trivial))
  intro _
  apply uses_bind (hstep (.isNotExist _) trivial)
  intro missing
  have hrest : uses (Obeys x cap req) (do
      let idFile := clean (clean (req.targetPath ++ "/" ++ ephemeralName req.volumeID) ++ "/id")
      orUnpublish ⟨vol.volumeID, req.targetPath⟩ (issue (.createFile idFile))
      orUnpublish ⟨vol.volumeID, req.targetPath⟩ (issue (.writeString idFile vol.volumeID))) := by
    apply uses_bind (orUnpublish_obeys (hstep (.createFile _) trivial))
    intro _
    exact orUnpublish_obeys (hstep (.writeString _ _) trivial)
  dsimp only
  split
  · apply uses_bind (orUnpublish_obeys (hstep (.mkDirAll _) trivial))
    intro _
    exact hrest
  · exact hrest

theorem ephemeralNodePublish_obeys (hsel : ¬Selects svc cap req) (h : Issues svc cap req c) :
    Obeys (Placement.default svc) cap req c := by
  obtain ⟨S, w, s, t, hserves, hcall⟩ := h
  have hsends : sends w .none (fun _ c => Obeys (Placement.default svc) cap req c)
      (ephemeralNodePublish cap req) s := by
    have hcreate : sends w .none (fun _ c => Obeys (Placement.default svc) cap req c)
        (issue (.createVolume (ephemeralVolume cap req))) s := sends_op rfl
    apply sends_bind hcreate
    rw [wp_op]
    refine ⟨?_, fun e he => he.elim⟩
    intro answer hanswer
    obtain ⟨F, a, b, hcreated⟩ := hserves _ s answer _ (Prod.ext hanswer rfl)
    cases answer with
    | none => trivial
    | some vol =>
      have hused := createVolume_used hsel hcreated
      exact sends_of_uses (publishEphemeral_obeys hused) fun _ _ hc => hc
  exact calls_of_sends hsends _ hcall

theorem issues_createVolume : Issues svc cap req (.createVolume (ephemeralVolume cap req)) := by
  let w : World EphemeralCall EphemeralCall.Reply Err Unit := ⟨fun _ s => (.error .deadline, s)⟩
  refine ⟨Unit, w, (), (), ?_, List.mem_cons_self ..⟩
  intro r s answer t h
  cases h

theorem not_selects_of_unselected (h : ∀ r p, Issues svc cap req (.createVolume r) → Plans svc r p →
    p.shared = none ∧ p.isReplication = false) : ¬Selects svc cap req := by
  rintro ⟨hok, hsel⟩
  obtain ⟨s, hs⟩ := exists_ready svc (ephemeralVolume cap req)
  obtain ⟨p, hp⟩ := run_preparePlan_ready hok rfl hs
  obtain ⟨hshared, hrep⟩ := h _ p issues_createVolume ⟨.none, s, s, .of_run hp⟩
  rcases hsel with hbacked | hon
  · have hpath := (run_yields preparePlan_yields hp).sharedPath_eq_none.1 hshared
    rw [CreateVolumeRequest.sharedPath, if_neg (not_not.2 hbacked)] at hpath
    cases hpath
  · rw [(run_yields preparePlan_takes hp).replication, hon] at hrep
    cases hrep

end Calls

/-- The attributes of an ephemeral volume do not decide where it is made and published, just when
they select no shared export or replication policy that `CreateVolume` accepts. -/
theorem ephemeralNodePublish_samePlacement_iff (svc : Service) (cap : Option VolumeCapability)
    (req : NodePublishVolumeRequest) (attributes₁ attributes₂ : Option Params) :
    SamePlacement svc cap { req with volumeContext := attributes₁ }
        { req with volumeContext := attributes₂ } ↔
      ¬Selects svc cap { req with volumeContext := attributes₁ } ∧
        ¬Selects svc cap { req with volumeContext := attributes₂ } := by
  constructor
  · intro h
    exact ⟨not_selects_of_unselected (h.unselected _ (List.mem_cons_self ..)),
      not_selects_of_unselected (h.unselected _ (List.mem_cons_of_mem _ (List.mem_cons_self ..)))⟩
  · intro h
    have hsel : ∀ req' ∈ [{ req with volumeContext := attributes₁ },
        { req with volumeContext := attributes₂ }], ¬Selects svc cap req' := by
      intro req' hmem
      rcases List.mem_cons.1 hmem with rfl | hmem
      · exact h.1
      · rw [List.mem_singleton.1 hmem]
        exact h.2
    have hplan : ∀ req' ∈ [{ req with volumeContext := attributes₁ },
        { req with volumeContext := attributes₂ }], ∀ r p, Issues svc cap req' (.createVolume r) →
          Plans svc r p → p.shared = none ∧ p.isReplication = false ∧
            Placement.ofPlan p = Placement.default svc := by
      intro req' hmem r p hissues hplans
      have hr : r = ephemeralVolume cap req' := ephemeralNodePublish_obeys (hsel req' hmem) hissues
      subst hr
      obtain ⟨F, s, t, hout⟩ := hplans
      obtain ⟨hshared, hrep, -, -, hplaced⟩ := wp_iff_outcome.1
        (wp_of_yields (ephemeralVolume_placement (hsel req' hmem))) _ _ hout p rfl
      exact ⟨hshared, hrep, hplaced⟩
    constructor
    · intro req' hmem r p hissues hplans
      exact ⟨(hplan req' hmem r p hissues hplans).1, (hplan req' hmem r p hissues hplans).2.1⟩
    · refine ⟨Placement.default svc, fun req' hmem => ⟨?_, ?_⟩⟩
      · intro r p hissues hplans
        exact (hplan req' hmem r p hissues hplans).2.2
      · intro r hissues
        exact ephemeralNodePublish_obeys (hsel req' hmem) hissues

def ephemeralRequest (attributes : Params) : NodePublishVolumeRequest where
  volumeID := "csi-1"
  targetPath := "/target"
  stagingTargetPath := []
  volumeCapability := none
  volumeContext := some attributes
  readonly := false

def withTenant : OneFS := (OneFS.fresh.mkdir "/ifs/tenant").addExport "/ifs/tenant" "System" [] []

/-- Attributes put an ephemeral volume below the shared export of another tenant. -/
theorem ephemeralVolume_selects_tenant : ∃ p₁ p₂,
    Plans oneCluster (ephemeralVolume (some ⟨some .mount, some .singleNodeWriter⟩)
      (ephemeralRequest [])) p₁ ∧
    Plans oneCluster (ephemeralVolume (some ⟨some .mount, some .singleNodeWriter⟩)
      (ephemeralRequest [("DirectoryBacked", "true"), ("SharedExportPath", "/ifs/tenant")])) p₂ ∧
    p₁.basePath = "/ifs/data" ∧ p₁.shared = none ∧ p₂.basePath = "/ifs/tenant" := by
  obtain ⟨p₁, h₁, hbase₁, hshared⟩ : ∃ p, run array (preparePlan oneCluster (ephemeralVolume
      (some ⟨some .mount, some .singleNodeWriter⟩) (ephemeralRequest []))) withTenant =
        (.ok p, withTenant) ∧ p.basePath = "/ifs/data" ∧ p.shared = none := ⟨_, rfl, by decide, rfl⟩
  obtain ⟨p₂, h₂, hbase₂⟩ : ∃ p, run array (preparePlan oneCluster (ephemeralVolume
      (some ⟨some .mount, some .singleNodeWriter⟩)
      (ephemeralRequest [("DirectoryBacked", "true"), ("SharedExportPath", "/ifs/tenant")])))
        withTenant = (.ok p, withTenant) ∧ p.basePath = "/ifs/tenant" := ⟨_, rfl, by decide⟩
  exact ⟨p₁, p₂, ⟨.none, _, _, .of_run h₁⟩, ⟨.none, _, _, .of_run h₂⟩, hbase₁, hshared, hbase₂⟩

end NodeService

end CsiPowerscale
