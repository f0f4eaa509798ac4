import CsiPowerscale.VolumeRequests

namespace CsiPowerscale
open GoLib Effects Effects.Prog IsiService Stores

theorem request_uses (h : U c) : uses U (request c) := (uses_op c).2 h

namespace IsiService

variable {U : Call → Prop}

theorem rename_uses (h : U c) : uses U (rename c f) := by
  refine uses_ask_bind h fun r => ?_
  cases r with
  | ok a => trivial
  | error e => trivial

theorem createVolume_uses (h : U (.createVolume isiPath volName permissions [])) :
    uses U (createVolume isiPath volName permissions) :=
  uses_bind (request_uses h) fun _ => trivial

theorem createVolumeWithMetaData_uses (h : U (.createVolume isiPath volName permissions metadata)) :
    uses U (createVolumeWithMetaData isiPath volName permissions metadata) :=
  uses_bind (request_uses h) fun _ => trivial

theorem deleteVolume_uses (h : U (.deleteVolume isiPath volName)) :
    uses U (deleteVolume isiPath volName) := rename_uses h

theorem unexportByIDWithZone_uses (h : U (.unexport i z)) : uses U (unexportByIDWithZone i z) :=
  rename_uses h

theorem createQuota_uses
    (h : 0 < size → U (.createQuota path size (quotaThresholds soft advisory grace size).1
      (quotaThresholds soft advisory grace size).2.1 (quotaThresholds soft advisory grace
      size).2.2)) :
    uses U (createQuota path soft advisory grace size enabled) := by
  unfold createQuota
  split
  · next hsize => exact rename_uses (h hsize.2)
  · trivial

theorem clearQuotaByID_uses (h : U (.clearQuota i)) : uses U (clearQuotaByID i) := by
  unfold clearQuotaByID
  split
  · trivial
  · exact rename_uses h

section Reads

variable (hr : ∀ c : Call, c.IsRead → U c)
include hr

theorem isVolumeExistent_uses (isiPath name : Str) : uses U (isVolumeExistent isiPath name) :=
  uses_ask_bind (hr _ trivial) fun _ => trivial

theorem getSubDirectoryCount_uses (isiPath directory : Str) :
    uses U (getSubDirectoryCount isiPath directory) := by
  refine uses_bind (isVolumeExistent_uses hr _ _) fun found => ?_
  split
  · exact uses_bind (request_uses (hr _ trivial)) fun _ => trivial
  · trivial

theorem getVolumeSize_uses (isiPath : Str) : uses U (getVolumeSize isiPath name) := by
  refine uses_ask_bind (hr _ trivial) fun r => ?_
  cases r <;> trivial

theorem getSnapshotSize_uses (isiPath : Str) : uses U (getSnapshotSize isiPath name z) := by
  refine uses_ask_bind (hr _ trivial) fun r => ?_
  cases r <;> trivial

omit hr in
theorem getSnapshotSourceVolumeIsiPath_uses (h : U (.getSnapshot i)) :
    uses U (getSnapshotSourceVolumeIsiPath i) := by
  refine uses_ask_bind h fun r => ?_
  cases r with
  | ok a => trivial
  | error e => trivial

theorem getQuotaByPath_uses (path : Str) : uses U (getQuotaByPath path) :=
  rename_uses (hr _ trivial)

theorem getVolumeQuota_uses (volName : Str) : uses U (getVolumeQuota volName i z) := by
  refine uses_ask_bind (hr _ trivial) fun r => ?_
  split
  · trivial
  · trivial
  dsimp only
  split
  · trivial
  · exact request_uses (hr _ trivial)

theorem getExportsWithParams_uses (path : Str) : uses U (getExportsWithParams path z) :=
  rename_uses (hr _ trivial)

theorem isHostAlreadyAdded_uses (i : Int) : uses U (isHostAlreadyAdded i z nodeID) := by
  refine uses_ask_bind (hr _ trivial) fun r => ?_
  split
  · split <;> trivial
  · trivial

end Reads

theorem addExportClientNetworkIdentifierByIDWithZone_uses
    (h : ∀ client b, (∀ n, parseNodeID nodeID = .ok n → client = n.fqdn ∨ client = n.ip ∨
      currentClient = some client) → U (.addExportClients .clients i z [client] b)) :
    uses U (addExportClientNetworkIdentifierByIDWithZone currentClient i z nodeID ignore) := by
  unfold addExportClientNetworkIdentifierByIDWithZone
  cases hn : parseNodeID nodeID with
  | error e => trivial
  | ok n =>
    have hadd : ∀ client b, client = n.fqdn ∨ client = n.ip ∨ currentClient = some client →
        uses U (attempt (addExportClientByIDWithZone i z client b)) := by
      intro client b hc
      refine uses_attempt.2 (rename_uses (h client b fun m hm => ?_))
      obtain rfl : n = m := Except.ok.inj (hn.symm.trans hm)
      exact hc
    have hcurrent : currentClient.getD n.fqdn = n.fqdn ∨ currentClient.getD n.fqdn = n.ip ∨
        currentClient = some (currentClient.getD n.fqdn) := by
      cases currentClient with
      | none => exact .inl rfl
      | some c => exact .inr (.inr rfl)
    rw [ofExcept_ok, ret_bind]
    split
    · refine uses_bind (hadd _ _ (.inr (.inl rfl))) fun r => ?_
      cases r with
      | ok a => trivial
      | error e => trivial
    refine uses_bind (hadd _ _ hcurrent) fun r => ?_
    split
    · trivial
    refine uses_bind (hadd _ _ ?_) fun r => ?_
    · split
      · exact .inr (.inl rfl)
      · exact .inl rfl
    · split <;> trivial

end IsiService

section Plan

variable {U : Call → Prop} {svc : Service}

theorem autoProbe_uses (h : U .probe) (cfg : ClusterConfig) : uses U (svc.autoProbe cfg) := by
  unfold Service.autoProbe Service.autoProbeWith
  split
  · trivial
  · split
    · trivial
    · exact request_uses h

/-- The shared export of a directory-backed volume. -/
def CreateVolumeRequest.sharedPath (req : CreateVolumeRequest) : Option Str :=
  if req.parameters.get? "DirectoryBacked" ≠ some ("true" : Str) then none
  else some (req.parameters.get "SharedExportPath")

/-- What a plan is made from. -/
def Call.Consults (shared : Option Str) : Call → Prop
  | probe | getSnapshot _ | getSnapshotIsiPath .. => True
  | getExportWithPath path _ => shared = some path
  | _ => False

theorem Call.Consults.isRead {c : Call} (h : c.Consults shared) : c.IsRead := by
  cases c <;> trivial

theorem validateSharedExport_uses :
    uses (Call.Consults (if params.get? "DirectoryBacked" ≠ some ("true" : Str) then none
      else some (params.get "SharedExportPath"))) (validateSharedExport params z) := by
  unfold validateSharedExport
  dsimp only
  split
  · trivial
  split
  · trivial
  split
  · trivial
  split
  · trivial
  refine uses_ask_bind rfl fun r => ?_
  split <;> trivial

theorem resolveSource_uses (shared : Option Str) :
    uses (Call.Consults shared) (resolveSource svc req clusterName z writable) := by
  unfold resolveSource
  split
  · split <;> trivial
  · refine uses_bind ?_ fun _ => trivial
    unfold resolveSnapshotSource
    split
    · trivial
    split
    · trivial
    refine uses_attempt_bind
      (getSnapshotSourceVolumeIsiPath_uses trivial) fun r => ?_
    split
    · trivial
    refine uses_ask_bind trivial fun r => ?_
    split
    · trivial
    · split
      · trivial
      · exact uses_bind (uses_ofExcept _) fun _ => trivial
  · split <;> trivial
  · trivial

theorem resolvePlan_consults (req : CreateVolumeRequest) :
    uses (Call.Consults req.sharedPath) (resolvePlan svc req) := by
  refine uses_bind (uses_ofExcept _) fun _ => uses_bind (uses_ofExcept _) fun x => ?_
  refine uses_attempt_bind (autoProbe_uses trivial _) fun r => ?_
  split
  · trivial
  split
  · trivial
  · refine uses_bind validateSharedExport_uses fun _ => ?_
    refine uses_bind (uses_ofExcept _) fun _ => ?_
    exact uses_bind (resolveSource_uses _) fun _ => trivial

variable (hr : ∀ c : Call, c.IsRead → U c)
include hr

theorem validateClusterTLSMode_uses (mode : Str) : uses U (validateClusterTLSMode mode) := by
  unfold validateClusterTLSMode
  split
  · trivial
  refine uses_ask_bind (hr _ trivial) fun r => ?_
  split
  · trivial
  · trivial
  · split <;> trivial

theorem checkXprtsec_uses (xprtsec : Str) : uses U (checkXprtsec xprtsec) := by
  unfold checkXprtsec
  split
  · trivial
  refine uses_attempt_bind (validateClusterTLSMode_uses hr _) fun r => ?_
  split <;> trivial

theorem exportVolumeWithZoneAndXprtsec_uses
    (he : U (.exportVolume (getPathForVolume isiPath volName) z description xprtsec)) :
    uses U (exportVolumeWithZoneAndXprtsec isiPath volName z description xprtsec) :=
  uses_bind (checkXprtsec_uses hr _) fun _ => request_uses he

omit hr in
theorem replicationParam_uses : uses U (replicationParam svc params key what) := by
  unfold replicationParam
  split <;> trivial

theorem ensureVolumeGroup_uses (hv : U (.createVolume isiPath vg "0777" [])) :
    uses U (ensureVolumeGroup isiPath vg) := by
  refine uses_ask_bind (hr _ trivial) fun r => ?_
  split
  · trivial
  · split
    · exact request_uses hv
    · trivial

theorem ensurePolicy_uses (hp : U (.createPolicy name rpo path path host cert)) :
    uses U (ensurePolicy name rpo path host cert) := by
  refine uses_ask_bind (hr _ trivial) fun r => ?_
  split
  · trivial
  split
  · refine uses_ask_bind hp fun r => ?_
    split
    · trivial
    refine uses_ask_bind (hr _ trivial) fun r => ?_
    split <;> trivial
  · trivial

theorem prepareReplication_uses (hv : ∀ isiPath vg, U (.createVolume isiPath vg "0777" []))
    (hp : ∀ name rpo src dst host cert, U (.createPolicy name rpo src dst host cert))
    (params : Params) : uses U (prepareReplication svc params isiPath) := by
  refine uses_bind replicationParam_uses fun _ =>
    uses_bind replicationParam_uses fun _ => ?_
  split
  · trivial
  refine uses_bind replicationParam_uses fun _ => ?_
  split
  · trivial
  · refine uses_bind (ensureVolumeGroup_uses hr (hv _ _)) fun _ =>
      uses_bind (ensurePolicy_uses hr (hp _ _ _ _ _ _)) fun _ => trivial

theorem preparePlan_uses (hv : ∀ isiPath vg, U (.createVolume isiPath vg "0777" []))
    (hp : ∀ name rpo src dst host cert, U (.createPolicy name rpo src dst host cert))
    (req : CreateVolumeRequest) : uses U (preparePlan svc req) := by
  refine uses_bind (uses_mono (resolvePlan_consults req)
    fun c hc => hr c hc.isRead) fun p => uses_bind ?_ fun _ => trivial
  unfold volumeRoot
  split
  · exact prepareReplication_uses hr hv hp _
  · trivial

end Plan

namespace Controller

variable {U : Call → Prop} {svc : Service} {p : Plan} {t : Target} (hr : ∀ c : Call, c.IsRead → U c)
include hr

theorem findVolume_uses : uses U (findVolume p) := by
  unfold findVolume
  split
  · unfold findReadOnlyVolume
    split
    · trivial
    refine uses_ask_bind (hr _ trivial) fun r => ?_
    split
    · trivial
    refine uses_bind (isVolumeExistent_uses hr _ _) fun found => ?_
    split
    · trivial
    refine uses_attempt_bind (getSubDirectoryCount_uses hr _ _) fun count => ?_
    split <;> trivial
  · split
    · exact uses_bind (isVolumeExistent_uses hr _ _) fun _ => trivial
    · exact uses_bind (isVolumeExistent_uses hr _ _) fun _ => trivial

omit hr in
theorem createTrackingEntry_uses (h : ∀ x, t.tracking = some x →
    U (.createVolume x.isiPath x.dir p.volumePathPermissions []) ∧
      U (.createVolume x.isiPath x.entry p.volumePathPermissions [])) :
    uses U (createTrackingEntry p t) := by
  unfold createTrackingEntry
  split
  · rename_i x hx
    split
    · refine uses_bind (IsiService.createVolume_uses (h x hx).1) fun _ => ?_
      exact IsiService.createVolume_uses (h x hx).2
    · trivial
  · trivial

theorem resolveDirectoryBacked_uses (shared : SharedExport) :
    uses U (resolveDirectoryBacked p t shared) := by
  refine uses_attempt_bind (getQuotaByPath_uses hr _) fun r => ?_
  split
  · split <;> trivial
  refine uses_attempt_bind (getSubDirectoryCount_uses hr _ _) fun r => ?_
  split
  · trivial
  · split <;> trivial

theorem checkVolumeQuota_uses (e : Export) : uses U (checkVolumeQuota svc p e) := by
  unfold checkVolumeQuota
  split
  · refine uses_attempt_bind (getVolumeQuota_uses hr _) fun r => ?_
    split
    · trivial
    · split <;> trivial
  · trivial

theorem resolveExportBacked_uses (e : Export) : uses U (resolveExportBacked svc p t e) :=
  uses_bind (checkVolumeQuota_uses hr e) fun _ => trivial

theorem resolveExport_uses (hu : ∀ i z, U (.unexport i z)) : uses U (resolveExport svc p t) := by
  unfold resolveExport
  split
  · split
    · exact resolveDirectoryBacked_uses hr _
    · trivial
  refine uses_bind (request_uses (hr _ trivial)) fun r => ?_
  split
  · split <;> trivial
  split
  · exact resolveExportBacked_uses hr _
  refine uses_attempt_bind (unexportByIDWithZone_uses (hu _ _)) fun r => ?_
  split <;> trivial

omit hr in
theorem createDirectory_uses
    (h : ∀ permissions metadata, U (.createVolume p.basePath p.name permissions metadata)) :
    uses U (createDirectory p t) := by
  unfold createDirectory
  split
  · dsimp only
    split
    · refine uses_attempt_bind (IsiService.createVolume_uses (h _ _)) fun r => ?_
      split <;> trivial
    refine uses_attempt_bind (createVolumeWithMetaData_uses (h _ _)) fun r => ?_
    split <;> trivial
  · trivial

def DummyClient (p : Plan) (client : Str) : Prop :=
  client = ("localhost" : Str) ∨ client = ("127.0.0.1" : Str) ∨ p.cfg.currentClient = some client

theorem addDummyHost_uses
    (h : ∀ client b, DummyClient p client → U (.addExportClients .clients i p.accessZone [client]
      b)) : uses U (addDummyHost p i) := by
  refine uses_bind (isHostAlreadyAdded_uses hr _) fun added => ?_
  split
  · refine uses_attempt_bind ?_ fun _ => trivial
    exact addExportClientNetworkIdentifierByIDWithZone_uses fun client b hc =>
      h client b (hc _ parseNodeID_dummyHostNodeID)
  · trivial

theorem awaitExport_uses
    (h : ∀ client b, DummyClient p client → U (.addExportClients .clients i p.accessZone [client]
      b)) (n : Nat) :
    uses U (awaitExport svc p i path f n) := by
  induction n with
  | zero => trivial
  | succ n ih =>
    refine uses_ask_bind (hr _ trivial) fun r => ?_
    split
    · exact uses_bind (addDummyHost_uses hr h) fun _ => trivial
    refine uses_ask_bind (hr _ trivial) fun r => ?_
    split
    · exact ih
    · trivial

theorem exportReadOnly_uses (he : ∀ path z description xprtsec,
      U (.exportVolume path z description xprtsec))
    (ha : ∀ i client b, DummyClient p client →
      U (.addExportClients .clients i p.accessZone [client] b)) :
    uses U (exportReadOnly svc p t) := by
  refine uses_bind (exportVolumeWithZoneAndXprtsec_uses hr (he _ _ _ _)) fun i => ?_
  split
  · trivial
  · exact awaitExport_uses hr (ha i) _

end Controller

namespace IsiService

variable {s : OneFS}

@[simp] theorem run_rename :
    run array (rename c f) s = ((array.act c s).1.mapError f, (array.act c s).2) := by
  simp only [rename, run_bind, run_ask]
  cases (array.act c s).1 <;> rfl

@[simp] theorem run_isVolumeExistent (isiPath name : Str) :
    run array (isVolumeExistent isiPath name) s =
      (.ok (s.hasDir (namespacePath isiPath name)), s) := by
  simp only [isVolumeExistent, run_bind, run_ask, array_act, OneFS.serve]
  cases s.hasDir (namespacePath isiPath name) <;> rfl

@[simp] theorem run_getExportsWithParams (path z : Str) :
    run array (getExportsWithParams path z) s = (.ok (s.exportsAt path z), s) := rfl

theorem run_getSubDirectoryCount (h : s.hasDir (namespacePath isiPath directory) = true) :
    run array (getSubDirectoryCount isiPath directory) s =
      (.ok (s.nlink (namespacePath isiPath directory)), s) := by
  simp [getSubDirectoryCount, run_bind, array_act, OneFS.serve, OneFS.reply, h]

end IsiService

theorem Service.run_autoProbe {svc : Service}
    (h : cfg.isiSvc = true ∨ svc.autoProbeEnabled = true) :
    run array (svc.autoProbe cfg) s = (.ok (), s) := by
  unfold autoProbe autoProbeWith
  split
  · rfl
  · rename_i hsvc
    rw [h.resolve_left hsvc]
    rfl

theorem Service.autoProbe_unready {svc : Service}
    (h : ¬(cfg.isiSvc = true ∨ svc.autoProbeEnabled = true)) : ∃ e, svc.autoProbe cfg = fail e := by
  simp only [not_or, Bool.not_eq_true] at h
  unfold autoProbe autoProbeWith
  rw [h.1, h.2]
  exact ⟨_, rfl⟩

namespace Controller

variable {svc : Service} {s : OneFS}

theorem deleteVolume_unreached (hne : volumeID ≠ [])
    (hv : parseNormalizedVolumeID volumeID = .ok v) (h : ¬ svc.Reaches v.clusterName) :
    ∃ e, deleteVolume svc volumeID = fail e := by
  unfold deleteVolume validateDeleteVolumeRequest
  simp only [hne, if_false, hv]
  cases hcfg : svc.getIsilonConfig v.clusterName with
  | error e => exact ⟨e, rfl⟩
  | ok x =>
    have hready : ¬(x.2.isiSvc = true ∨ svc.autoProbeEnabled = true) :=
      fun hready => h ⟨x.1, x.2, hcfg, hready⟩
    obtain ⟨e, he⟩ := Service.autoProbe_unready hready
    exact ⟨e, by simp [he]⟩

theorem run_deleteVolume (hne : volumeID ≠ []) (hv : parseNormalizedVolumeID volumeID = .ok v)
    (h : svc.Reaches v.clusterName) :
    run array (deleteVolume svc volumeID) s =
      match s.exportById v.exportID v.accessZone with
      | none => (.ok (), s)
      | some e => run array (deleteExported volumeID v e) s := by
  obtain ⟨name, cfg, hcfg, hready⟩ := h
  unfold deleteVolume validateDeleteVolumeRequest
  simp only [hne, if_false, hv, hcfg, ofExcept_ok, ret_bind, run_bind,
    Service.run_autoProbe hready, run_ask, array_act, OneFS.serve]
  cases s.exportById v.exportID v.accessZone <;> rfl

end Controller

section

namespace CreateVolumeRequest

variable (svc : Service) (req : CreateVolumeRequest)

def clusterIsiPath : Str :=
  match svc.getIsilonConfig (req.parameters.get "ClusterName") with
  | .ok (_, cfg) => cfg.isiPath
  | .error _ => []

def volumeGroup : Str :=
  volumeGroupName svc req.parameters (req.parameters.get (svc.withRP "volumeGroupPrefix"))
    (req.parameters.get (svc.withRP "rpo"))
    (match svc.getIsilonConfig (req.parameters.get (svc.withRP "remoteSystem")) with
      | .ok (_, remote) => remoteEndpoint remote
      | .error _ => [])

def isiPath : Str := paramOr req.parameters "IsiPath" (req.clusterIsiPath svc)

def clusterName : Option Str :=
  (svc.getIsilonConfig (req.parameters.get "ClusterName")).toOption.map Prod.fst

def accessZone : Str := paramOr req.parameters "AccessZone" svc.accessZone

def root : Str :=
  let isiPath := req.isiPath svc
  if isReplicationEnabled svc req.parameters then isiPath ++ "/" ++ req.volumeGroup svc else isiPath

def base : Str := (req.sharedPath).getD (req.root svc)

def readOnly : Bool :=
  match req.volumeContentSource with
  | some (.snapshot _) => (wantsReadOnly svc req.volumeCapabilities).toOption.getD false
  | _ => false

end CreateVolumeRequest

def Source.request : Source → Option ContentSource
  | .none => Option.none
  | .snapshot src => some (.snapshot src.normalizedID)
  | .volume i => some (.volume i)
  | .unset => some .unset

def Source.readOnly : Source → Bool
  | .snapshot src => src.readOnly
  | _ => false

theorem Plan.isROVolumeFromSnapshot_eq {p : Plan} :
    p.isROVolumeFromSnapshot = p.source.readOnly := by
  unfold isROVolumeFromSnapshot readOnlySource
  cases p.source with
  | snapshot src => cases h : src.readOnly <;> simp [Source.readOnly, h]
  | none => rfl
  | volume i => rfl
  | unset => rfl

theorem Plan.readOnlySource_none {p : Plan} (hro : p.isROVolumeFromSnapshot = false) :
    p.readOnlySource = none := by
  simpa [isROVolumeFromSnapshot] using hro

/-- A plan follows its request. -/
structure Fits (svc : Service) (req : CreateVolumeRequest) (p : Plan) : Prop where
  name : p.name = req.name
  accessZone : p.accessZone = req.accessZone svc
  clusterName : req.clusterName svc = some p.clusterName
  config : svc.getIsilonConfig (req.parameters.get "ClusterName") = .ok (p.clusterName, p.cfg)
  shared : p.shared.map SharedExport.path = req.sharedPath
  writable : p.writableFromSnapshot = wantsWritableSnapshot req.parameters
  source : p.source.request = req.volumeContentSource
  readOnly : p.isROVolumeFromSnapshot = req.readOnly svc
  writableSource : p.writableFromSnapshot = true → p.hasContentSource = true
  writableClone : p.writableFromSnapshot = true → ∀ i, p.source ≠ .volume i
  snapshotID : ∀ src, p.source = .snapshot src →
    ∃ i, parseNormalizedSnapshotID src.normalizedID = .ok i
  accepted : validateCreateVolumeRequest req = .ok p.sizeInBytes
  size : 0 < p.sizeInBytes

structure Resolves (svc : Service) (req : CreateVolumeRequest) (p : Plan) : Prop
    extends Fits svc req p where
  isiPath : p.isiPath = req.root svc

variable {svc : Service} {req : CreateVolumeRequest}

theorem validateSharedExport_yields : yields (fun shared => shared.map SharedExport.path =
      if params.get? "DirectoryBacked" ≠ some ("true" : Str) then none
      else some (params.get "SharedExportPath")) (validateSharedExport params z) := by
  unfold validateSharedExport
  dsimp only
  split
  · rfl
  split
  · trivial
  split
  · trivial
  split
  · trivial
  refine yields_bind_any fun r => ?_
  split
  · trivial
  · trivial
  · rfl

theorem resolveSnapshotSource_yields : yields (fun src => src.normalizedID = normalizedID ∧
      wantsReadOnly svc req.volumeCapabilities = .ok src.readOnly ∧
      ∃ i, parseNormalizedSnapshotID src.normalizedID = .ok i)
      (resolveSnapshotSource svc req clusterName z normalizedID) := by
  unfold resolveSnapshotSource
  split
  · trivial
  rename_i i hi
  split
  · trivial
  refine yields_bind_any fun r => ?_
  split
  · trivial
  refine yields_bind_any fun r => ?_
  split
  · trivial
  · split
    · trivial
    · exact yields_bind (yields_ofExcept _) fun readOnly h => ⟨rfl, h, i, hi⟩

theorem resolveSource_yields : yields (fun source => source.request = req.volumeContentSource ∧
      source.readOnly = req.readOnly svc ∧
      (writable = true → source ≠ .none ∧ ∀ i, source ≠ .volume i) ∧
      ∀ src, source = .snapshot src → ∃ i, parseNormalizedSnapshotID src.normalizedID = .ok i)
      (resolveSource svc req clusterName z writable) := by
  unfold resolveSource CreateVolumeRequest.readOnly
  cases req.volumeContentSource with
  | none =>
    dsimp only
    split
    · trivial
    · rename_i hw
      exact ⟨rfl, rfl, fun h => absurd h hw, nofun⟩
  | some source =>
    cases source with
    | snapshot i =>
      refine yields_bind resolveSnapshotSource_yields fun src h => ?_
      rw [h.2.1]
      refine ⟨by simp [Source.request, h.1], rfl, fun _ => by simp, fun src' hsrc => ?_⟩
      cases hsrc
      exact h.2.2
    | volume i =>
      dsimp only
      split
      · trivial
      · rename_i hw
        exact ⟨rfl, rfl, fun h => absurd h hw, nofun⟩
    | unset => exact ⟨rfl, rfl, fun _ => by simp, nofun⟩

theorem prepareReplication_cases (svc : Service) (req : CreateVolumeRequest) (isiPath : Str) :
    (∃ text, prepareReplication svc req.parameters isiPath = fail (.status .invalidArgument text)) ∨
    ∃ vgPrefix rpo rpoint remoteName remote,
      (req.parameters.get? (svc.withRP "volumeGroupPrefix") = some vgPrefix ∧
        req.parameters.get? (svc.withRP "rpo") = some rpo ∧ rpoToInt rpo = some rpoint ∧
        req.parameters.get? (svc.withRP "remoteSystem") = some remoteName ∧
        svc.getIsilonConfig remoteName = .ok remote) ∧
      prepareReplication svc req.parameters isiPath = do
        let vg ← ensureVolumeGroup isiPath (req.volumeGroup svc)
        ensurePolicy (replaceByte vg.name 46 45) rpoint (isiPath ++ "/" ++ req.volumeGroup svc)
          (remoteEndpoint remote.2) remote.2.replicationCertificateID
        return isiPath ++ "/" ++ req.volumeGroup svc := by
  unfold prepareReplication replicationParam CreateVolumeRequest.volumeGroup Params.get
  cases hpre : req.parameters.get? (svc.withRP "volumeGroupPrefix") with
  | none => exact .inl ⟨_, rfl⟩
  | some vgPrefix =>
    cases hrpo : req.parameters.get? (svc.withRP "rpo") with
    | none => exact .inl ⟨_, rfl⟩
    | some rpo =>
      simp only [ret_bind]
      cases hrpoint : rpoToInt rpo with
      | none => exact .inl ⟨_, rfl⟩
      | some rpoint =>
        cases hremote : req.parameters.get? (svc.withRP "remoteSystem") with
        | none => exact .inl ⟨_, rfl⟩
        | some remoteName =>
          simp only [ret_bind]
          cases hcfg : svc.getIsilonConfig remoteName with
          | error e => exact .inl ⟨_, rfl⟩
          | ok remote =>
            right
            refine ⟨vgPrefix, rpo, rpoint, remoteName, remote, ⟨rfl, rfl, hrpoint, rfl, hcfg⟩, ?_⟩
            simp only [Option.getD_some, hcfg]

theorem prepareReplication_yields :
    yields (fun path => path = isiPath ++ "/" ++ req.volumeGroup svc)
      (prepareReplication svc req.parameters isiPath) := by
  rcases prepareReplication_cases svc req isiPath with ⟨text, h⟩ | ⟨_, _, _, _, _, _, h⟩
  · rw [h]
    trivial
  · rw [h]
    exact yields_bind_any fun vg => yields_bind_any fun _ => rfl

theorem validateCreateVolumeRequest_pos (h : validateCreateVolumeRequest req = .ok size) :
    0 < size := by
  unfold validateCreateVolumeRequest validateVolSize at h
  split at h
  · cases h
  rename_i hneg
  simp only [Bind.bind, Except.bind] at h
  split at h
  · cases h
  split at h
  · cases h
  cases h
  split
  · decide
  · omega

theorem resolvePlan_yields : yields (fun p => Fits svc req p ∧ p.isiPath = req.isiPath svc)
    (resolvePlan svc req) := by
  refine yields_bind_any fun _ => yields_bind (yields_ofExcept _) fun x hx => ?_
  refine yields_bind_any fun r => ?_
  split
  · trivial
  split
  · trivial
  rename_i size hsize
  refine yields_bind validateSharedExport_yields fun shared hshared => ?_
  refine yields_bind_any fun _ => ?_
  refine yields_bind resolveSource_yields fun source hsource => ?_
  have hcluster : req.clusterIsiPath svc = x.2.isiPath := by
    simp [CreateVolumeRequest.clusterIsiPath, hx]
  refine ⟨⟨rfl, rfl, ?_, hx, hshared, rfl, hsource.1,
    Plan.isROVolumeFromSnapshot_eq.trans hsource.2.1,
    fun hw => decide_eq_true (hsource.2.2.1 hw).1, fun hw => (hsource.2.2.1 hw).2,
    hsource.2.2.2, hsize, validateCreateVolumeRequest_pos hsize⟩, ?_⟩
  · rw [CreateVolumeRequest.clusterName, hx]
    rfl
  · simp only [CreateVolumeRequest.isiPath, hcluster]

theorem volumeRoot_yields : yields (fun path => path = req.root svc)
    (volumeRoot svc req.parameters (req.isiPath svc)) := by
  unfold volumeRoot CreateVolumeRequest.root
  dsimp only
  split
  · exact prepareReplication_yields
  · rfl

theorem preparePlan_yields : yields (Resolves svc req) (preparePlan svc req) := by
  refine yields_bind resolvePlan_yields fun p hp => ?_
  rw [hp.2]
  refine yields_bind volumeRoot_yields fun path hpath => ?_
  obtain ⟨name, zone, cluster, config, shared, writable, source, readOnly, writableSource,
    writableClone, snapshotID, accepted, size⟩ := hp.1
  exact ⟨⟨name, zone, cluster, config, shared, writable, source, readOnly, writableSource,
    writableClone, snapshotID, accepted, size⟩, hpath⟩

structure Reads (req : CreateVolumeRequest) (p : Plan) : Prop where
  accepted : validateMutableParamKeys req.mutableParameters = .ok ()
  limits : readQuotaLimitParams req.parameters req.mutableParameters =
    (p.softLimit, p.advisoryLimit, p.softGracePrd)
  transportSecurity : p.nfsTransportSecurity = req.parameters.get "NFSTransportSecurity"

theorem resolvePlan_reads : yields (Reads req) (resolvePlan svc req) := by
  refine yields_bind (yields_ofExcept _) fun _ haccepted => ?_
  refine yields_bind_any fun x => yields_bind_any fun r => ?_
  split
  · trivial
  split
  · trivial
  · refine yields_bind_any fun shared => yields_bind_any fun _ => yields_bind_any fun source => ?_
    exact ⟨haccepted, rfl, rfl⟩

theorem preparePlan_reads : yields (Reads req) (preparePlan svc req) := by
  refine yields_bind resolvePlan_reads fun p hp => yields_bind_any fun path => ?_
  exact ⟨hp.accepted, hp.limits, hp.transportSecurity⟩

end

/-- Nothing that a plan rests on is lost. -/
structure Grows (s t : OneFS) : Prop where
  dirs : ∀ p, s.hasDir p = true → t.hasDir p = true
  snapshots : t.snapshots = s.snapshots
  zones : t.zones = s.zones
  policies : ∀ x ∈ s.policies, x ∈ t.policies
  nfsTLSMode : t.nfsTLSMode = s.nfsTLSMode

namespace Grows

theorem refl (s : OneFS) : Grows s s := ⟨fun _ h => h, rfl, rfl, fun _ h => h, rfl⟩

theorem trans (h : Grows s t) (h' : Grows t u) : Grows s u :=
  ⟨fun p hp => h'.dirs p (h.dirs p hp), h'.snapshots.trans h.snapshots, h'.zones.trans h.zones,
    fun x hx => h'.policies x (h.policies x hx), h'.nfsTLSMode.trans h.nfsTLSMode⟩

theorem mkdir (s : OneFS) (p : Str) : Grows s (s.mkdir p) :=
  ⟨fun _ h => Table.has_add.2 (.inl h), rfl, rfl, fun _ h => h, rfl⟩

theorem mergeDir (s : OneFS) (d : Dir) : Grows s (s.mergeDir d) := by
  unfold OneFS.mergeDir
  split
  · exact ⟨fun p h => by rw [OneFS.hasDir, Table.has_update]; exact h, rfl, rfl, fun _ h => h, rfl⟩
  · exact ⟨fun _ h => Table.has_add.2 (.inl h), rfl, rfl, fun _ h => h, rfl⟩

theorem graft (s : OneFS) (dst : Str) (tree : List Dir) : Grows s (s.graft dst tree) := by
  unfold OneFS.graft
  induction tree generalizing s with
  | nil => exact refl s
  | cons d ds ih => exact (mergeDir s _).trans (ih _)

end Grows

def Call.Grow : Call → Prop
  | deleteVolume .. | createSnapshot .. | removeSnapshot .. => False
  | _ => True

theorem Call.Grow.serve (h : c.Grow) (s : OneFS) : Grows s (array.act c s).2 := by
  have heff := Call.effect c s
  generalize (array.act c s).2 = t at heff ⊢
  cases heff with
  | mkdir => exact .mkdir s _
  | copySnapshot tree | copyVolume tree => exact .graft s _ tree
  | @addWritable dst source tree n =>
    refine (Grows.graft s dst tree).trans ?_
    unfold OneFS.newQuota
    split <;> exact ⟨fun _ h => h, rfl, rfl, fun _ h => h, rfl⟩
  | newQuota =>
    unfold OneFS.newQuota
    split <;> exact ⟨fun _ h => h, rfl, rfl, fun _ h => h, rfl⟩
  | addPolicy => exact ⟨fun _ h => h, rfl, rfl, fun _ h => List.mem_cons_of_mem _ h, rfl⟩
  | rmdir | addSnapshot | dropSnapshot => exact h.elim
  | _ => exact ⟨fun _ h => h, rfl, rfl, fun _ h => h, rfl⟩

theorem read_grow (c : Call) (h : c.IsRead) : c.Grow := by
  cases c <;> trivial

theorem grow_wp (h : uses Call.Grow q) : wp array F q (fun _ t => Grows s t) s :=
  wp_of_uses h (fun _ t hc ht => ht.trans (hc.serve t)) (.refl s)

theorem run_grows (h : uses Call.Grow q) (hrun : run array q s = (r, t)) : Grows s t :=
  wp_run (F := .none) (grow_wp h) hrun

section Replay

variable {svc : Service} {req : CreateVolumeRequest} {s s' t : OneFS} {p : Plan}

/-- The two states show a plan the same. -/
structure SameAnswers (req : CreateVolumeRequest) (s t : OneFS) : Prop where
  snapshots : t.snapshots = s.snapshots
  zones : t.zones = s.zones
  shared : ∀ path z, req.sharedPath = some path → t.exportAt path z = s.exportAt path z

theorem SameAnswers.serve (h : SameAnswers req s t) (hc : c.Consults req.sharedPath) :
    array.act c t = ((array.act c s).1, t) := by
  have hid : ∀ i, t.snapshotByIdentity i = s.snapshotByIdentity i := by
    intro i
    rw [OneFS.snapshotByIdentity, h.snapshots]
    rfl
  have hzone : ∀ z, t.zone z = s.zone z := by
    intro z
    rw [OneFS.zone, h.zones]
    rfl
  have hreply : ∀ {α : Type} (e : Err) (o : Option α), t.reply e o = ((s.reply e o).1, t) := by
    intro α e o
    cases o <;> rfl
  cases c with
  | probe => rfl
  | getSnapshot i => simp only [array_act, OneFS.serve, hid, hreply]
  | getSnapshotIsiPath isiPath i z => simp only [array_act, OneFS.serve, hid, hzone, hreply]
  | getExportWithPath path z =>
    simp only [array_act, OneFS.serve, h.shared path z hc]
  | _ => exact hc.elim

theorem run_resolvePlan_same (h : SameAnswers req s t) :
    run array (resolvePlan svc req) t = ((run array (resolvePlan svc req) s).1, t) :=
  run_congr (resolvePlan_consults req) (fun _ hc => hc.isRead.serve s) fun _ hc => h.serve hc

theorem run_resolvePlan_state (svc : Service) (req : CreateVolumeRequest) (s : OneFS) :
    (run array (resolvePlan svc req) s).2 = s :=
  run_state_of_uses (resolvePlan_consults req) fun _ t hc => hc.isRead.serve t

theorem run_ensureVolumeGroup (h : run array (ensureVolumeGroup isiPath vgName) s = (.ok vg, s')) :
    vg.name = vgName ∧ s'.hasDir (namespacePath isiPath vgName) = true ∧
      (s.hasDir (namespacePath isiPath vgName) = true → s' = s) ∧
      (s.hasDir (namespacePath isiPath vgName) = false →
        s' = s.mkdir (namespacePath isiPath vgName)) := by
  simp only [ensureVolumeGroup, run_bind, run_ask, array_act, OneFS.serve] at h
  by_cases hdir : s.hasDir (namespacePath isiPath vgName) = true
  · simp only [hdir, if_true, OneFS.reply, run_ret, pure_eq, Prod.mk.injEq, Except.ok.injEq] at h
    obtain ⟨rfl, rfl⟩ := h
    exact ⟨rfl, hdir, fun _ => rfl, fun hno => absurd (hdir.symm.trans hno) (by decide)⟩
  simp only [hdir, Bool.false_eq_true, if_false, OneFS.reply, OneFS.notFound, Err.jsonStatus,
    if_true, run_op, array_act, OneFS.serve, OneFS.create] at h
  split at h
  · simp only [Prod.mk.injEq, Except.ok.injEq] at h
    obtain ⟨rfl, rfl⟩ := h
    exact ⟨rfl, Table.has_add.2 (.inr rfl), fun hyes => absurd hyes hdir, fun _ => rfl⟩
  · simp at h

theorem run_ensureVolumeGroup_found (h : t.hasDir (namespacePath isiPath vgName) = true) :
    run array (ensureVolumeGroup isiPath vgName) t =
      (.ok ⟨vgName, t.nlink (namespacePath isiPath vgName)⟩, t) := by
  simp [ensureVolumeGroup, run_bind, array_act, OneFS.serve, OneFS.reply, h]

theorem run_ensurePolicy (h : run array (ensurePolicy name rpo path host cert) s = (.ok (), s')) :
    name ∈ s'.policies ∧ s'.dirs = s.dirs ∧ s'.exports = s.exports ∧ s'.quotas = s.quotas ∧
      s'.writables = s.writables := by
  simp only [ensurePolicy, run_bind, run_ask, array_act, OneFS.serve, OneFS.change] at h
  by_cases hmem : name ∈ s.policies
  · simp only [hmem, decide_true, if_true, run_ret, Prod.mk.injEq] at h
    exact h.2 ▸ ⟨hmem, rfl, rfl, rfl, rfl⟩
  simp only [hmem, decide_false, Bool.false_eq_true, if_false, OneFS.notFound, Err.jsonStatus,
    if_true, run_bind, run_ask, array_act, OneFS.serve, OneFS.change, List.mem_cons, true_or,
    decide_true, run_ret, Prod.mk.injEq] at h
  exact h.2 ▸ ⟨List.mem_cons_self, rfl, rfl, rfl, rfl⟩

theorem run_ensurePolicy_found (h : name ∈ t.policies) :
    run array (ensurePolicy name rpo path host cert) t = (.ok (), t) := by
  simp [ensurePolicy, run_bind, array_act, OneFS.serve, OneFS.change, h]

theorem prepareReplication_eq
    (h : run array (prepareReplication svc req.parameters isiPath) s = (.ok path, s')) :
    ∃ rpo host cert, prepareReplication svc req.parameters isiPath = do
      let vg ← ensureVolumeGroup isiPath (req.volumeGroup svc)
      ensurePolicy (replaceByte vg.name 46 45) rpo (isiPath ++ "/" ++ req.volumeGroup svc) host cert
      return isiPath ++ "/" ++ req.volumeGroup svc := by
  rcases prepareReplication_cases svc req isiPath with ⟨text, heq⟩ | ⟨_, _, _, _, _, _, heq⟩
  · rw [heq] at h
    cases h
  · exact ⟨_, _, _, heq⟩

theorem run_prepareReplication
    (h : run array (prepareReplication svc req.parameters isiPath) s = (.ok path, s')) :
    s'.exports = s.exports ∧ s'.quotas = s.quotas ∧ s'.writables = s.writables ∧
      (∀ q, s'.hasDir q = true ↔ s.hasDir q = true ∨ q = namespacePath isiPath (req.volumeGroup svc)) ∧
      ∀ t, Grows s' t → run array (prepareReplication svc req.parameters isiPath) t = (.ok path, t) := by
  obtain ⟨rpo, host, cert, heq⟩ := prepareReplication_eq h
  rw [heq] at h ⊢
  obtain ⟨vg, u, hvg, h₁⟩ := run_bind_ok.1 h
  obtain ⟨_, v, hpol, h₂⟩ := run_bind_ok.1 h₁
  simp only [pure_eq, run_ret, Prod.mk.injEq, Except.ok.injEq] at h₂
  obtain ⟨rfl, rfl⟩ := h₂
  obtain ⟨hvgname, hdir, hold, hnew⟩ := run_ensureVolumeGroup hvg
  obtain ⟨hmem, hdirs, hexports, hquotas, hwritables⟩ := run_ensurePolicy hpol
  have hu : u.exports = s.exports ∧ u.quotas = s.quotas ∧ u.writables = s.writables ∧
      ∀ q, u.hasDir q = true ↔ s.hasDir q = true ∨
        q = namespacePath isiPath (req.volumeGroup svc) := by
    by_cases hs : s.hasDir (namespacePath isiPath (req.volumeGroup svc)) = true
    · rw [hold hs]
      exact ⟨rfl, rfl, rfl, fun q => ⟨.inl, fun hq => hq.elim id fun he => he ▸ hs⟩⟩
    rw [hnew (by simpa using hs)]
    refine ⟨rfl, rfl, rfl, fun q => ?_⟩
    rw [OneFS.hasDir, OneFS.mkdir, Table.has_add, eq_comm (a := q)]
    rfl
  refine ⟨hexports.trans hu.1, hquotas.trans hu.2.1, hwritables.trans hu.2.2.1, fun q => ?_,
    fun t ht => ?_⟩
  · rw [OneFS.hasDir, hdirs]
    exact hu.2.2.2 q
  have htdir : t.hasDir (namespacePath isiPath (req.volumeGroup svc)) = true := by
    refine ht.dirs _ ?_
    rw [OneFS.hasDir, hdirs]
    exact hdir
  have htpol := ht.policies _ hmem
  rw [hvgname] at htpol
  simp [run_bind, run_ensureVolumeGroup_found htdir, run_ensurePolicy_found htpol]

def CreateVolumeRequest.groupDir (svc : Service) (req : CreateVolumeRequest) : Option Str :=
  if isReplicationEnabled svc req.parameters then
    some (namespacePath (req.isiPath svc) (req.volumeGroup svc)) else none

/-- At most the group directory was made, and the same plan is made again later. -/
structure Replays (svc : Service) (req : CreateVolumeRequest) (s : OneFS) (p : Plan) (s' : OneFS) :
    Prop where
  exports : s'.exports = s.exports
  quotas : s'.quotas = s.quotas
  writables : s'.writables = s.writables
  dirs : ∀ q, s'.hasDir q = true ↔ s.hasDir q = true ∨ req.groupDir svc = some q
  grows : Grows s s'
  again : ∀ t, Grows s' t →
    (∀ path z, req.sharedPath = some path → t.exportAt path z = s.exportAt path z) →
      run array (preparePlan svc req) t = (.ok p, t)

theorem run_preparePlan (h : run array (preparePlan svc req) s = (.ok p, s')) :
    Resolves svc req p ∧ Replays svc req s p s' := by
  refine ⟨run_yields preparePlan_yields h, ?_⟩
  have hgrows : Grows s s' := run_grows (preparePlan_uses read_grow (fun _ _ => trivial)
    (fun _ _ _ _ _ _ => trivial) req) h
  unfold preparePlan at h
  obtain ⟨p₀, s₀, h₀, h₁⟩ := run_bind_ok.1 h
  have hs₀ : s₀ = s := by
    have hs := run_resolvePlan_state svc req s
    rwa [h₀] at hs
  rw [hs₀] at h₀ h₁
  obtain ⟨path, s₁, hroot, h₂⟩ := run_bind_ok.1 h₁
  simp only [pure_eq, run_ret, Prod.mk.injEq, Except.ok.injEq] at h₂
  obtain ⟨rfl, rfl⟩ := h₂
  have hisi : p₀.isiPath = req.isiPath svc := (run_yields resolvePlan_yields h₀).2
  have hfirst : ∀ t, Grows s₁ t →
      (∀ path z, req.sharedPath = some path → t.exportAt path z = s.exportAt path z) →
      run array (resolvePlan svc req) t = (.ok p₀, t) := by
    intro t ht hshared
    have hall := hgrows.trans ht
    rw [run_resolvePlan_same ⟨hall.snapshots, hall.zones, hshared⟩, h₀]
  unfold volumeRoot at hroot
  by_cases hrep : isReplicationEnabled svc req.parameters = true
  · rw [if_pos hrep] at hroot
    obtain ⟨hexports, hquotas, hwritables, hdirs, hagain⟩ := run_prepareReplication hroot
    refine ⟨hexports, hquotas, hwritables, fun q => ?_, hgrows, fun t ht hshared => ?_⟩
    · rw [hdirs, CreateVolumeRequest.groupDir, if_pos hrep, hisi, Option.some.injEq, eq_comm (a := q)]
    · simp [preparePlan, run_bind, hfirst t ht hshared, volumeRoot, hrep, hagain t ht]
  · rw [if_neg hrep] at hroot
    simp only [run_ret, Prod.mk.injEq, Except.ok.injEq] at hroot
    obtain ⟨rfl, rfl⟩ := hroot
    refine ⟨rfl, rfl, rfl, fun q => ?_, hgrows, fun t ht hshared => ?_⟩
    · rw [CreateVolumeRequest.groupDir, if_neg hrep]
      simp
    · simp [preparePlan, run_bind, hfirst t ht hshared, volumeRoot, hrep]

end Replay

end CsiPowerscale
