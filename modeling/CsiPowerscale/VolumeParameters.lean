import CsiPowerscale.CreateVolume

namespace CsiPowerscale
open GoLib Effects Effects.Prog

def replicationKeys (svc : Service) : List Str :=
  [svc.withRP "isReplicationEnabled", svc.withRP "volumeGroupPrefix", svc.withRP "rpo",
    svc.withRP "remoteSystem", svc.withRP "ignoreNamespaces"]

def provisionerKeys : List Str :=
  ["csi.storage.k8s.io/pv/name", "csi.storage.k8s.io/pvc/name", "csi.storage.k8s.io/pvc/namespace"]

def storageClassKeys : List Str :=
  ["NFSTransportSecurity", "RootClientEnabled", "AccessZone", "IsiPath", "ClusterName", "AzServiceIP",
    "AzNetwork", "DirectoryBacked", "SharedExportPath", "IsiVolumePathPermissions",
    "SmartConnectZoneFQDN", "csi-isilon.dellemc.com/writable-from-snapshot"]

def pvcQuotaKeys : List Str := ["pvcSoftLimit", "pvcAdvisoryLimit", "pvcSoftGracePrd"]

def settingKeys (svc : Service) : List Str :=
  storageClassKeys ++ supportedMutableParams ++ replicationKeys svc ++ provisionerKeys

def Params.AgreeOn (keys : List Str) (m m' : Params) : Prop :=
  ∀ key ∈ keys, m.get? key = m'.get? key

theorem Params.AgreeOn.get (h : Params.AgreeOn keys m m') (hmem : key ∈ keys) :
    m.get key = m'.get key :=
  congrArg (Option.getD · []) (h key hmem)

theorem Params.agreeOn_append :
    Params.AgreeOn (keys ++ keys') m m' ↔ Params.AgreeOn keys m m' ∧ Params.AgreeOn keys' m m' :=
  List.forall_mem_append

theorem Params.agreeOn_settingKeys : Params.AgreeOn (settingKeys svc) m m' ↔
      ((Params.AgreeOn storageClassKeys m m' ∧ Params.AgreeOn supportedMutableParams m m') ∧
        Params.AgreeOn (replicationKeys svc) m m') ∧ Params.AgreeOn provisionerKeys m m' := by
  rw [settingKeys, Params.agreeOn_append, Params.agreeOn_append, Params.agreeOn_append]

section Reads

variable {svc : Service} {params params' : Params}

theorem addMetaData_agree (h : params.AgreeOn provisionerKeys params') :
    addMetaData params = addMetaData params' := by
  apply List.filterMap_congr
  rintro ⟨key, header⟩ hmem
  have hkey : key ∈ provisionerKeys := by
    simp only [List.mem_cons, Prod.mk.injEq, List.not_mem_nil, or_false] at hmem
    rcases hmem with hk | hk | hk <;> simp [provisionerKeys, hk.1]
  show (params.get? key).map _ = _
  rw [h key hkey]

theorem volumeRoot_agree (hrep : params.AgreeOn (replicationKeys svc) params')
    (hprov : params.AgreeOn provisionerKeys params') (isiPath : Str) :
    volumeRoot svc params isiPath = volumeRoot svc params' isiPath := by
  have hnames := Params.agreeOn_append.2 ⟨hrep, hprov⟩
  simp only [Params.AgreeOn, replicationKeys, provisionerKeys, List.cons_append, List.nil_append,
    List.forall_mem_cons] at hnames
  obtain ⟨henabled, hvgPre, hrpo, hremote, hignore, -, -, hclaim, -⟩ := hnames
  have hon : isReplicationEnabled svc params = isReplicationEnabled svc params' := by
    rw [isReplicationEnabled, isReplicationEnabled, henabled]
  have hnamespace : volumeGroupNamespace svc params = volumeGroupNamespace svc params' := by
    rw [volumeGroupNamespace, volumeGroupNamespace, hignore, hclaim]
  have hprepare : prepareReplication svc params isiPath = prepareReplication svc params' isiPath := by
    simp only [prepareReplication, replicationParam, volumeGroupName, hvgPre, hrpo, hremote,
      hnamespace]
  rw [volumeRoot, volumeRoot, hon, hprepare]

theorem readQuotaLimitParams_agree (mutableParams : Params)
    (hclass : params.AgreeOn supportedMutableParams params')
    (hpvc : params.AgreeOn pvcQuotaKeys params') :
    readQuotaLimitParams params mutableParams = readQuotaLimitParams params' mutableParams := by
  have hlimit : ∀ key ∈ supportedMutableParams, ∀ pvcKey ∈ pvcQuotaKeys,
      quotaLimitParam params mutableParams key pvcKey =
        quotaLimitParam params' mutableParams key pvcKey := by
    intro key hkey pvcKey hpvcKey
    rw [quotaLimitParam, quotaLimitParam, hclass.get hkey, hpvc.get hpvcKey]
  simp only [supportedMutableParams, pvcQuotaKeys, List.forall_mem_cons] at hlimit
  obtain ⟨⟨-, hadvisory, -⟩, ⟨hsoft, -⟩, ⟨-, -, hgrace, -⟩, -⟩ := hlimit
  rw [readQuotaLimitParams, readQuotaLimitParams, hsoft, hadvisory, hgrace]

theorem validateSharedExport_agree
    (hbacked : params.get? "DirectoryBacked" = params'.get? "DirectoryBacked")
    (hpath : params.get "SharedExportPath" = params'.get "SharedExportPath") (accessZone : Str) :
    validateSharedExport params accessZone = validateSharedExport params' accessZone := by
  rw [validateSharedExport, validateSharedExport, hbacked, hpath]

theorem resolveAzServiceIP_agree (cfg : ClusterConfig)
    (h : params.get "AzServiceIP" = params'.get "AzServiceIP") :
    resolveAzServiceIP svc cfg params = resolveAzServiceIP svc cfg params' := by
  rw [resolveAzServiceIP, resolveAzServiceIP, paramOr, paramOr, h]

theorem resolvePlan_agree (req : CreateVolumeRequest) (h : params.AgreeOn (settingKeys svc) params')
    (hpvc : params.AgreeOn pvcQuotaKeys params') :
    resolvePlan svc { req with parameters := params } =
      resolvePlan svc { req with parameters := params' } := by
  obtain ⟨⟨⟨hclass, hquota⟩, hrep⟩, hprov⟩ := Params.agreeOn_settingKeys.1 h
  have hlimits := readQuotaLimitParams_agree req.mutableParameters hquota hpvc
  have hmeta := addMetaData_agree hprov
  have hon : isReplicationEnabled svc params = isReplicationEnabled svc params' := by
    rw [isReplicationEnabled, isReplicationEnabled, hrep _ (List.mem_cons_self ..)]
  have hget : ∀ key ∈ storageClassKeys, params.get key = params'.get key := fun _ => hclass.get
  have hor : ∀ key ∈ storageClassKeys, ∀ default, paramOr params key default =
      paramOr params' key default := by
    intro key hkey default
    rw [paramOr, paramOr, hget key hkey]
  simp only [Params.AgreeOn, storageClassKeys, List.forall_mem_cons] at hclass hget hor
  obtain ⟨-, hroot, -, -, -, -, -, hbacked, -, hperm, -⟩ := hclass
  obtain ⟨htls, -, -, -, hcluster, hip, hnetwork, -, hpath, -, hfqdn, hsnap, -⟩ := hget
  obtain ⟨-, -, hzone, hisiPath, -, -, -, -, -, hpermissions, -⟩ := hor
  have hshared := validateSharedExport_agree hbacked hpath
  have haddress := fun cfg => @resolveAzServiceIP_agree svc _ _ cfg hip
  have hwritable : wantsWritableSnapshot params = wantsWritableSnapshot params' := by
    rw [wantsWritableSnapshot, wantsWritableSnapshot, hsnap]
  -- the checks of the request and its content source read none of the parameters
  have hvalid : ∀ m : Params, validateCreateVolumeRequest { req with parameters := m } =
      validateCreateVolumeRequest req := fun _ => rfl
  have hsource : ∀ m : Params, resolveSource svc { req with parameters := m } =
      resolveSource svc req := fun _ => rfl
  simp only [resolvePlan, hvalid, hsource, hcluster, hzone, hisiPath, hpermissions, hshared, hlimits,
    hfqdn, htls, hwritable, hperm, haddress, hnetwork, hroot, hmeta, hon]

theorem Controller.createVolume_agree (req : CreateVolumeRequest)
    (h : params.AgreeOn (settingKeys svc) params') (hpvc : params.AgreeOn pvcQuotaKeys params') :
    Controller.createVolume svc { req with parameters := params } =
      Controller.createVolume svc { req with parameters := params' } := by
  obtain ⟨⟨-, hrep⟩, hprov⟩ := Params.agreeOn_settingKeys.1 h
  have hroot := volumeRoot_agree hrep hprov
  simp only [Controller.createVolume, preparePlan, resolvePlan_agree req h hpvc, hroot]

end Reads

def Params.set (m : Params) (key v : Str) : Params := (key, v) :: m.filter fun e => e.1 ≠ key

def Params.overlay (m labels : Params) : Params := labels.foldr (fun e m => m.set e.1 e.2) m

theorem Params.get?_filter (m : Params) (q : Str → Bool) (key : Str) :
    Params.get? (m.filter fun e => q e.1) key = if q key then m.get? key else none := by
  induction m with
  | nil => simp [Params.get?]
  | cons e m ih =>
    obtain ⟨k, v⟩ := e
    unfold Params.get? at ih ⊢
    by_cases hk : key = k
    · subst hk
      cases hq : q key <;> simp [hq, ih]
    · have hbeq : (key == k) = false := beq_false_of_ne hk
      cases hq : q k <;> simp [hq, List.lookup_cons, hbeq, ih]

theorem Params.get?_set (m : Params) (k v key : Str) :
    (m.set k v).get? key = if key = k then some v else m.get? key := by
  by_cases hk : key = k
  · subst hk
    simp [Params.set, Params.get?]
  have hbeq : (key == k) = false := beq_false_of_ne hk
  show ((k, v) :: m.filter fun e => e.1 ≠ k).lookup key = _
  rw [List.lookup_cons, hbeq, if_neg hk]
  exact (Params.get?_filter m (fun key => key ≠ k) key).trans (if_pos (decide_eq_true hk))

theorem Params.get?_overlay (m labels : Params) (key : Str) :
    (m.overlay labels).get? key = (labels.get? key).or (m.get? key) := by
  induction labels with
  | nil => rfl
  | cons e labels ih =>
    obtain ⟨k, v⟩ := e
    show ((m.overlay labels).set k v).get? key = _
    rw [Params.get?_set, ih]
    by_cases hk : key = k
    · subst hk
      simp [Params.get?]
    · have hbeq : (key == k) = false := beq_false_of_ne hk
      simp [Params.get?, List.lookup_cons, hk, hbeq]

namespace Interceptor

def pending : Str := "pending"

inductive Interception
  | handle (req : CreateVolumeRequest)
  | refuse (e : Err)
  | nilMap
  deriving DecidableEq

/-- `createVolume` of the interceptor. The lock of the name is an error, taken or not; the retriever
says nothing without a sidecar and when its call failed. -/
def createVolume (lock : Except Err Bool) (getPVCLabels : Str → Str → Option Params)
    (req : CreateVolumeRequest) : Interception :=
  match lock with
  | .error e => .refuse e
  | .ok false => .refuse (.status .aborted pending)
  | .ok true =>
    match getPVCLabels (req.parameters.get "csi.storage.k8s.io/pvc/name")
        (req.parameters.get "csi.storage.k8s.io/pvc/namespace") with
    | none => .handle req
    | some labels =>
      if labels ≠ [] ∧ req.parameters = [] then .nilMap
      else .handle { req with parameters := req.parameters.overlay labels }

def labels (getPVCLabels : Str → Str → Option Params) (req : CreateVolumeRequest) : Params :=
  (getPVCLabels (req.parameters.get "csi.storage.k8s.io/pvc/name")
    (req.parameters.get "csi.storage.k8s.io/pvc/namespace")).getD []

theorem createVolume_handle (h : createVolume lock getPVCLabels req = .handle req') :
    req' = { req with parameters := req.parameters.overlay (labels getPVCLabels req) } := by
  unfold createVolume at h
  unfold labels
  split at h
  · cases h
  · cases h
  split at h
  · next hnone =>
    rw [hnone]
    exact (Interception.handle.inj h).symm
  next l hsome =>
  rw [hsome]
  split at h
  · cases h
  · exact (Interception.handle.inj h).symm

end Interceptor

def Params.withPVCQuota (m m' : Params) : Params :=
  Params.overlay (m.filter fun e => e.1 ∉ pvcQuotaKeys) (m'.filter fun e => e.1 ∈ pvcQuotaKeys)

theorem Params.get?_withPVCQuota (m m' : Params) (key : Str) :
    (m.withPVCQuota m').get? key = if key ∈ pvcQuotaKeys then m'.get? key else m.get? key := by
  have hquota := Params.get?_filter m' (fun key => key ∈ pvcQuotaKeys) key
  have hother := Params.get?_filter m (fun key => key ∉ pvcQuotaKeys) key
  rw [Params.withPVCQuota, Params.get?_overlay, hquota, hother]
  by_cases hmem : key ∈ pvcQuotaKeys
  · simp [hmem]
  · simp [hmem]

/-- Two requests agree on every setting of the storage class, and the second runs as the first with
other quota limits of the claim. -/
structure SameSettings (svc : Service) (req₁ req₂ : CreateVolumeRequest) : Prop where
  agree : req₁.parameters.AgreeOn (settingKeys svc) req₂.parameters
  handler : Controller.createVolume svc req₂ = Controller.createVolume svc
    { req₁ with parameters := req₁.parameters.withPVCQuota req₂.parameters }

theorem sameSettings_iff {req : CreateVolumeRequest} :
    SameSettings svc { req with parameters := params } { req with parameters := params' } ↔
      params.AgreeOn (settingKeys svc) params' := by
  constructor
  · intro h
    exact h.agree
  · intro h
    refine ⟨h, ?_⟩
    apply Controller.createVolume_agree req
    · intro key hkey
      rw [Params.get?_withPVCQuota]
      split
      · rfl
      · exact (h key hkey).symm
    · intro key hkey
      rw [Params.get?_withPVCQuota, if_pos hkey]

namespace Interceptor

/-- Labels leave the settings alone just when both label maps give every setting the same value,
that of the storage class without a label. -/
theorem createVolume_labels_iff (svc : Service) (req : CreateVolumeRequest)
    (lock₁ lock₂ : Except Err Bool) (getPVCLabels₁ getPVCLabels₂ : Str → Str → Option Params)
    {req₁ req₂ : CreateVolumeRequest} (h₁ : createVolume lock₁ getPVCLabels₁ req = .handle req₁)
    (h₂ : createVolume lock₂ getPVCLabels₂ req = .handle req₂) :
    SameSettings svc req₁ req₂ ↔ ∀ key ∈ settingKeys svc,
      ((labels getPVCLabels₁ req).get? key).or (req.parameters.get? key) =
        ((labels getPVCLabels₂ req).get? key).or (req.parameters.get? key) := by
  rw [createVolume_handle h₁, createVolume_handle h₂, sameSettings_iff]
  apply forall₂_congr
  intro key _
  rw [Params.get?_overlay, Params.get?_overlay]

def rootlessRequest : CreateVolumeRequest :=
  { newVolume "vol1" with parameters := [("RootClientEnabled", "false")] }

theorem createVolume_labels_pvcSoftLimit : SameSettings oneCluster rootlessRequest
      { rootlessRequest with parameters := [("pvcSoftLimit", "80"), ("RootClientEnabled", "false")] } := by
  apply (createVolume_labels_iff oneCluster rootlessRequest (.ok true) (.ok true)
    (fun _ _ => none) (fun _ _ => some [("pvcSoftLimit", "80")]) rfl rfl).2
  decide

/-- A label of the claim turns on root access that the storage class turns off. -/
theorem createVolume_label_enables_root : ∃ req₁ req₂ : CreateVolumeRequest,
    createVolume (.ok true) (fun _ _ => some []) rootlessRequest = .handle req₁ ∧
    createVolume (.ok true) (fun _ _ => some [("RootClientEnabled", "true")]) rootlessRequest =
      .handle req₂ ∧
    req₁.parameters.get? "RootClientEnabled" = some ("false" : Str) ∧
    req₂.parameters.get? "RootClientEnabled" = some ("true" : Str) := by
  refine ⟨_, _, rfl, rfl, ?_, ?_⟩
  · decide
  · decide

end Interceptor

end CsiPowerscale
