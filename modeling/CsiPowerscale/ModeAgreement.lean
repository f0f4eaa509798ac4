import CsiPowerscale.DeleteVolumeRetries
import CsiPowerscale.Node

namespace CsiPowerscale
open GoLib Stores Effects Effects.Prog OneFS

def OneFS.volumeQuota (s : OneFS) (volName : Str) (e : Export) (exportPath : Str)
    (directoryBacked : Bool) : Option Quota :=
  if directoryBacked then s.quotaAt (getPathForVolume exportPath volName)
  else s.quotaById (getQuotaIDFromDescription e)

theorem OneFS.quotaById_some {s : OneFS} : s.quotaById i = some q ↔ q ∈ s.quotas ∧ q.id = i := by
  constructor
  · intro h
    have hsat := Registry.find?_sat h
    exact ⟨Registry.find?_mem h, of_decide_eq_true hsat⟩
  · rintro ⟨hq, rfl⟩
    exact quotaById_of_mem hq

theorem OneFS.volumeQuota_some {s : OneFS} :
    s.volumeQuota volName e exportPath directoryBacked = some q ↔ q ∈ s.quotas ∧
      if directoryBacked then q.path = getPathForVolume exportPath volName
      else q.id = getQuotaIDFromDescription e := by
  unfold volumeQuota
  split
  · exact Catalog.at?_eq_some
  · exact quotaById_some

namespace Controller

variable {svc : Service} {F : Faults Call Err OneFS} {s : OneFS} {v : VolumeID} {e : Export}
  {Q : Except Err α → OneFS → Prop}

theorem readyCluster_wp {f : Str × ClusterConfig → IsiM α}
    (hcfg : svc.getIsilonConfig clusterName = .ok (name, cfg))
    (hready : cfg.isiSvc = true ∨ svc.autoProbeEnabled = true) (herr : ∀ e t, Q (.error e) t) :
    wp array F (readyCluster svc clusterName notReady >>= f) Q s ↔ wp array F (f (name, cfg)) Q s := by
  unfold readyCluster Service.autoProbe Service.autoProbeWith
  by_cases hsvc : cfg.isiSvc = true
  · simp [hcfg, hsvc]
  have hauto := hready.resolve_left hsvc
  simp only [hcfg, ofExcept_ok, ret_bind, hsvc, Bool.false_eq_true, if_false, hauto, Bool.not_true,
    wp_bind, wp_attempt, wp_op, array_act, OneFS.serve, andThen_ok, wp_ret, wp_fail, andThen_error]
  exact and_iff_left fun _ _ => herr _ _

theorem readExportPath_wp {f : Str → IsiM α} (hfound : s.exportById v.exportID v.accessZone = some e)
    (herr : ∀ e t, Q (.error e) t) :
    wp array F (readExportPath v >>= f) Q s ↔ wp array F (f (e.paths.headD [])) Q s := by
  simp only [readExportPath, wp_bind, wp_ask, array_act, OneFS.serve, hfound, Option.map_some,
    OneFS.reply, andThen_ok, wp_ret, wp_fail, andThen_error]
  exact and_iff_left fun _ _ => herr _ _

theorem locateQuota_wp {f : Except Err Quota → IsiM α} {P : Prop}
    (hfound : s.exportById v.exportID v.accessZone = some e)
    (hf : ∀ err, wp array .any (f (.error err)) Q s ↔ P) :
    wp array .any (attempt (locateQuota v exportPath directoryBacked) >>= f) Q s ↔
      P ∧ ∀ q, s.volumeQuota v.volName e exportPath directoryBacked = some q →
        wp array .any (f (.ok q)) Q s := by
  have : Nonempty Err := ⟨.panic⟩
  cases directoryBacked with
  | true =>
    simp only [locateQuota, if_true, IsiService.getQuotaByPath, IsiService.rename, wp_bind,
      wp_attempt, wp_ask, array_act, OneFS.serve, volumeQuota]
    cases s.quotaAt (getPathForVolume exportPath v.volName) <;>
      simp [OneFS.reply, hf, Faults.any, and_comm (a := P)]
  | false =>
    simp only [locateQuota, Bool.false_eq_true, if_false, IsiService.getVolumeQuota, wp_bind,
      wp_attempt, wp_ask, array_act, OneFS.serve, hfound, Option.map_some, OneFS.reply,
      volumeQuota]
    by_cases htag : getQuotaIDFromDescription e = []
    · simp [htag, s.quotaById_nil, hf, Faults.any]
    · cases hq : s.quotaById (getQuotaIDFromDescription e) <;>
        simp [htag, hf, hq, Faults.any, wp_op, array_act, OneFS.serve, OneFS.reply,
          and_comm (a := P)]

/-- The export that the identifier names has `exportPath` as its first path, and the quota is on the
directory of the volume: at that path or, if directory-backed, below it. -/
structure HasQuota (s : OneFS) (volumeID : Str) (v : VolumeID) (e : Export) (exportPath : Str)
    (q : Quota) : Prop where
  parse : parseNormalizedVolumeID volumeID = .ok v
  found : s.exportById v.exportID v.accessZone = some e
  path : e.paths.head? = some exportPath
  quota : q ∈ s.quotas
  own : q.path = exportPath ∨ q.path = getPathForVolume exportPath v.volName

def Expanded (q : Quota) (requiredBytes capacity : Int) (t : OneFS) : Prop :=
  (∃ r ∈ t.quotas, r.num = q.num ∧ r.path = q.path ∧ r.hard = capacity) ∧ requiredBytes ≤ capacity

/-- Whatever size is asked for and whichever requests fail, a successful expansion reports the hard
limit that the quota `q` has afterwards. -/
def ExpandsSoundly (svc : Service) (s : OneFS) (volumeID : Str) (q : Quota) : Prop :=
  ∀ requiredBytes fs c t,
    exec array (controllerExpandVolume svc volumeID requiredBytes) fs s = (.ok c, t) →
      Expanded q requiredBytes c t

section Expand

variable {q r : Quota} {n : Int}

theorem expanded_iff (hq : q ∈ s.quotas) : Expanded q n c s ↔ q.hard = c ∧ n ≤ c := by
  refine and_congr_left fun _ => ⟨?_, fun h => ⟨q, hq, rfl, rfl, h⟩⟩
  rintro ⟨r, hr, hnum, _, hhard⟩
  rwa [← Catalog.eq_of_num hr hq hnum]

theorem expanded_setQuota (hq : q ∈ s.quotas) (hr : r ∈ s.quotas) :
    Expanded q n n (s.setQuota r.id n soft advisory softGrace) ↔ r = q ∨ q.hard = n := by
  rw [Expanded, and_iff_left (Int.le_refl n)]
  constructor
  · rintro ⟨x, hx, hnum, _, hhard⟩
    obtain ⟨y, hy, rfl⟩ := mem_setQuota.1 hx
    split at hnum
    · rename_i hid
      left
      have hyr : y = r := Catalog.eq_of_num hy hr (natToStr_injective hid)
      exact hyr ▸ Catalog.eq_of_num hy hq hnum
    rename_i hid
    right
    rw [if_neg hid] at hhard
    exact Catalog.eq_of_num hy hq hnum ▸ hhard
  · intro h
    refine ⟨_, mem_setQuota.2 ⟨q, hq, rfl⟩, ?_⟩
    split
    · exact ⟨rfl, rfl, rfl⟩
    · rename_i hid
      have hne : r ≠ q := fun h => hid (h ▸ rfl)
      exact ⟨rfl, rfl, h.resolve_left hne⟩

theorem expandQuota_wp_ok (hq : q ∈ s.quotas) (hr : r ∈ s.quotas) :
    wp array F (expandQuota svc volName n (.ok r)) (fun x t => ∀ c, x = .ok c → Expanded q n c t) s ↔
      if n ≤ r.hard then q.hard = r.hard else r.hard = 0 ∨ r = q ∨ q.hard = n := by
  unfold expandQuota
  dsimp only
  split
  · rename_i hle
    simp [expanded_iff hq, hle]
  split
  · rename_i hzero
    simp [hzero]
  · rename_i hzero
    simp [IsiService.updateQuotaSize, wp_bind, wp_attempt, wp_op, array_act, OneFS.serve,
      OneFS.change, quotaById_of_mem hr, expanded_setQuota hq hr, hzero]

theorem expandQuota_wp_error (hq : q ∈ s.quotas) (err : Err) :
    wp array F (expandQuota svc volName n (.error err))
      (fun x t => ∀ c, x = .ok c → Expanded q n c t) s ↔ svc.quotaEnabled = true ∨ q.hard = n := by
  unfold expandQuota
  dsimp only
  split
  · rename_i henabled
    simp [henabled]
  · rename_i henabled
    simp [henabled, expanded_iff hq]

/-- The expansion of a volume is sound exactly when quotas are enabled and no other quota is where
the detected mode makes the driver look; a quota without a hard limit does no harm to another one.
-/
theorem controllerExpandVolume_sound_iff (h : HasQuota s volumeID v e exportPath q)
    (hcfg : svc.getIsilonConfig v.clusterName = .ok (name, cfg))
    (hready : cfg.isiSvc = true ∨ svc.autoProbeEnabled = true) :
    ExpandsSoundly svc s volumeID q ↔ svc.quotaEnabled = true ∧ ∀ r ∈ s.quotas,
      (if isDirectoryBacked volumeID exportPath cfg.isiPath v.volName then
        r.path = getPathForVolume exportPath v.volName
      else r.id = getQuotaIDFromDescription e) → r = q ∨ r.hard = 0 ∧ q.hard = 0 := by
  have hpath : e.paths.headD [] = exportPath := by
    rw [List.headD_eq_head?_getD, h.path]
    rfl
  -- every outcome, for one size
  have hwp : ∀ n, wp array .any (controllerExpandVolume svc volumeID n)
      (fun x t => ∀ c, x = .ok c → Expanded q n c t) s ↔
        (svc.quotaEnabled = true ∨ q.hard = n) ∧ ∀ r, s.volumeQuota v.volName e exportPath
          (isDirectoryBacked volumeID exportPath cfg.isiPath v.volName) = some r →
            if n ≤ r.hard then q.hard = r.hard else r.hard = 0 ∨ r = q ∨ q.hard = n := by
    intro n
    unfold controllerExpandVolume
    rw [h.parse]
    dsimp only
    rw [readyCluster_wp hcfg hready (by simp), readExportPath_wp h.found (by simp), hpath,
      locateQuota_wp h.found (expandQuota_wp_error h.quota)]
    exact and_congr_right fun _ => forall_congr' fun r => forall_congr' fun hr =>
      expandQuota_wp_ok h.quota (volumeQuota_some.1 hr).1
  have hall : ExpandsSoundly svc s volumeID q ↔ ∀ n, wp array .any
      (controllerExpandVolume svc volumeID n) (fun x t => ∀ c, x = .ok c → Expanded q n c t) s := by
    refine forall_congr' fun n => ?_
    rw [wp_any_iff_exec]
    refine forall_congr' fun fs => ⟨fun hx c hc => hx c _ (Prod.ext hc rfl), fun hx c t ht => ?_⟩
    simpa [ht] using hx c
  rw [hall, forall_congr' hwp]
  constructor
  · intro hn
    constructor
    · have := (hn (q.hard + 1)).1
      exact this.resolve_right (by omega)
    · intro r hr hplace
      have hsame := (hn r.hard).2 r (volumeQuota_some.2 ⟨hr, hplace⟩)
      have hmore := (hn (r.hard + 1)).2 r (volumeQuota_some.2 ⟨hr, hplace⟩)
      rw [if_pos (Int.le_refl _)] at hsame
      rw [if_neg (by omega)] at hmore
      rcases hmore with hzero | heq | hlt
      · exact .inr ⟨hzero, hsame.trans hzero⟩
      · exact .inl heq
      · omega
  · rintro ⟨henabled, hplace⟩ n
    refine ⟨.inl henabled, fun r hr => ?_⟩
    have hr' := volumeQuota_some.1 hr
    rcases hplace r hr'.1 hr'.2 with rfl | ⟨hzero, hq⟩
    · split
      · rfl
      · exact .inr (.inl rfl)
    · split
      · exact hq.trans hzero.symm
      · exact .inl hzero

theorem exportedVolume_hasQuota : HasQuota exportedVolume "vol1=_=_=1=_=_=System=_=_=c1"
    ⟨"vol1", 1, "System", "c1"⟩
    ⟨0, ["/ifs/data/vol1"], "System", "CSI_QUOTA_ID:0", [], [], [], [], []⟩ "/ifs/data/vol1"
    ⟨0, "/ifs/data/vol1", 1024, 0, 0, 0⟩ :=
  ⟨by decide, rfl, rfl, List.mem_singleton.2 rfl, .inl rfl⟩

theorem controllerExpandVolume_sound_vol1 : ExpandsSoundly oneCluster exportedVolume
    "vol1=_=_=1=_=_=System=_=_=c1" ⟨0, "/ifs/data/vol1", 1024, 0, 0, 0⟩ := by
  refine (controllerExpandVolume_sound_iff exportedVolume_hasQuota rfl (.inl rfl)).2 ⟨rfl, ?_⟩
  intro r hr _
  exact .inl (List.mem_singleton.1 hr)

/-- With quotas switched off, a failed look-up of the quota is reported as an expansion. -/
theorem controllerExpandVolume_unsound :
    HasQuota exportedVolume "vol1=_=_=1=_=_=System=_=_=c1" ⟨"vol1", 1, "System", "c1"⟩
      ⟨0, ["/ifs/data/vol1"], "System", "CSI_QUOTA_ID:0", [], [], [], [], []⟩ "/ifs/data/vol1"
      ⟨0, "/ifs/data/vol1", 1024, 0, 0, 0⟩ ∧
    ¬ ExpandsSoundly { oneCluster with quotaEnabled := false } exportedVolume
      "vol1=_=_=1=_=_=System=_=_=c1" ⟨0, "/ifs/data/vol1", 1024, 0, 0, 0⟩ := by
  refine ⟨exportedVolume_hasQuota, fun h => ?_⟩
  have hrun : exec array (controllerExpandVolume { oneCluster with quotaEnabled := false }
      "vol1=_=_=1=_=_=System=_=_=c1" 2048) [none, none, some (.plain "timeout")] exportedVolume =
        (.ok 2048, exportedVolume) := by decide
  have hsize := (expanded_iff exportedVolume_hasQuota.quota).1 (h _ _ _ _ hrun)
  exact absurd hsize.1 (by decide)

end Expand

end Controller

/-- The names in a volume ID can be read back from it. -/
structure CreateVolumeRequest.WellNamed (svc : Service) (req : CreateVolumeRequest) (s : OneFS) :
    Prop where
  base : Rooted (req.base svc)
  name : Plain req.name
  nameField : IDField req.name
  zone : IDField (req.accessZone svc)
  cluster : ∀ c, req.clusterName svc = some c → IDField c
  number : ∀ e ∈ s.exports, e.id < 2 ^ 63

namespace Controller

/-- The modes that the calls for a volume decide on: `DeleteVolume`, unless the volume shows a
snapshot, `ControllerExpandVolume` and `ControllerModifyVolume`, `CreateSnapshot`,
`ControllerPublishVolume` and `NodeStageVolume`. -/
structure ModesAre (directoryBacked : Bool) (volumeID : Str) (ctx : Params) (v : VolumeID)
    (exportPath clusterIsiPath : Str) : Prop where
  delete : isROVolumeFromSnapshot exportPath v.accessZone = false → ∀ isiPath,
    getIsiPathFromExportPath exportPath = some isiPath →
      isDirectoryBacked volumeID exportPath isiPath v.volName = directoryBacked
  expand : isDirectoryBacked volumeID exportPath clusterIsiPath v.volName = directoryBacked
  snapshot : isDirectoryBackedSource volumeID = directoryBacked
  publish : NodeService.isDirectoryBackedContext volumeID ctx = directoryBacked
  stage : NodeService.isDirectoryBackedStage volumeID ctx = directoryBacked

/-- A state `u` after `CreateVolume` from `s₀` to `s₁`: the export of the volume has its path and
description, and a quota that was made is still there. -/
structure Later (s₀ s₁ u : OneFS) (vol : Volume) (v : VolumeID) (e : Export) (exportPath : Str) :
    Prop where
  parse : parseNormalizedVolumeID vol.volumeID = .ok v
  found : u.exportById v.exportID v.accessZone = some e
  first : e.paths.head? = some exportPath
  same : ∀ x ∈ s₁.exports, x.id = e.id → x.zone = e.zone → x.description = e.description
  quotas : ∀ q ∈ s₁.quotas, s₀.quotas.next ≤ q.num → ∃ r ∈ u.quotas, r.num = q.num ∧ r.path = q.path

structure Agreement (req : CreateVolumeRequest) (s₀ s₁ u : OneFS) (vol : Volume) (v : VolumeID)
    (exportPath clusterIsiPath : Str) : Prop where
  modes : ModesAre req.sharedPath.isSome vol.volumeID vol.volumeContext v exportPath clusterIsiPath
  quota : ∀ q ∈ s₁.quotas, s₀.quotas.next ≤ q.num → ∃ r, r.num = q.num ∧
    run array (locateQuota v exportPath
      (isDirectoryBacked vol.volumeID exportPath clusterIsiPath v.volName)) u = (.ok r, u)

variable {svc : Service} {req : CreateVolumeRequest} {s₀ s₁ u : OneFS} {vol : Volume} {v : VolumeID}
  {e : Export} {exportPath : Str}

theorem run_locateQuota (hfound : u.exportById v.exportID v.accessZone = some e) :
    run array (locateQuota v exportPath b) u = (.ok q, u) ↔
      u.volumeQuota v.volName e exportPath b = some q := by
  cases b with
  | true =>
    simp only [locateQuota, if_true, IsiService.getQuotaByPath, IsiService.rename, run_bind, run_ask,
      array_act, OneFS.serve, OneFS.volumeQuota]
    cases u.quotaAt (getPathForVolume exportPath v.volName) <;> simp [OneFS.reply]
  | false =>
    simp only [locateQuota, Bool.false_eq_true, if_false, IsiService.getVolumeQuota, run_bind,
      run_ask, array_act, OneFS.serve, hfound, Option.map_some, OneFS.reply, OneFS.volumeQuota]
    by_cases htag : getQuotaIDFromDescription e = []
    · simp [htag, u.quotaById_nil]
    · cases hq : u.quotaById (getQuotaIDFromDescription e) <;>
        simp [htag, hq, array_act, OneFS.serve, OneFS.reply]

theorem getCSIVolume_mode : (getCSIVolume p i name path z).volumeContext.get
    "ProvisioningMode" = if p.directoryBacked then ("directory" : Str) else "export" := by
  unfold getCSIVolume
  cases p.directoryBacked <;> rfl

theorem modesAre_directory
    (hparse : parseVolumeIDWithMode volumeID = .ok (v, provisioningModeDirectory)) :
    ModesAre true volumeID ctx v exportPath isiPath := by
  have hmode : provisioningModeDirectory ≠ [] := by decide
  constructor <;> simp [isDirectoryBacked, isDirectoryBackedSource, hparse, hmode,
    NodeService.isDirectoryBackedContext, NodeService.isDirectoryBackedStage]

theorem modesAre_export_iff (hparse : parseVolumeIDWithMode volumeID = .ok (v, []))
    (hctx : ctx.get "ProvisioningMode" = ("export" : Str)) (hname : Plain v.volName)
    (hroot : Rooted isiPath) :
    ModesAre false volumeID ctx v exportPath isiPath ↔
      exportPath = getPathForVolume isiPath v.volName := by
  have hother : ("export" : Str) ≠ "directory" := by decide
  have hmode : ([] : Str) ≠ provisioningModeDirectory := by decide
  constructor
  · intro h
    simpa [isDirectoryBacked, hparse] using h.expand
  · rintro rfl
    refine ⟨fun _ parent hparent => ?_, ?_, ?_, ?_, ?_⟩
    · obtain rfl := Option.some.inj
        ((getIsiPathFromExportPath_volume hroot hname).symm.trans hparent)
      simp [isDirectoryBacked, hparse, getPathForVolume_base hroot hname]
    · simp [isDirectoryBacked, hparse]
    · simp [isDirectoryBackedSource, hparse, hmode]
    · simp [NodeService.isDirectoryBackedContext, hparse, hctx, hother]
    · simp [NodeService.isDirectoryBackedStage, hparse, hctx, hmode, hother]

theorem createVolume_returns_export
    (hcv : Outcome array .any (createVolume svc req) s₀ (.ok (some vol)) s₁)
    (hshared : req.sharedPath = none) (h : req.WellNamed svc s₁) :
    ∃ x ∈ s₁.exports, ∃ c,
      parseVolumeIDWithMode vol.volumeID = .ok (⟨req.name, x.id, x.zone, c⟩, []) ∧
      vol.volumeContext.get "ProvisioningMode" = ("export" : Str) ∧
      ∀ q ∈ s₁.quotas, s₀.quotas.next ≤ q.num → q.id = getQuotaIDFromDescription x := by
  have hbase : req.base svc = req.root svc := by rw [CreateVolumeRequest.base, hshared]; rfl
  obtain ⟨p, hcreated⟩ := createVolume_createdFor.outcome hcv vol rfl
  have hp := hcreated.resolves
  have hnone := hp.sharedPath_eq_none.2 hshared
  obtain ⟨t, ht, x, hx, -⟩ := hcreated.own hnone
  obtain ⟨path, rfl, -⟩ := hx.volume_eq hp hnone (hbase ▸ h.base) h.name
  have hdir : p.directoryBacked = false := by simp [Plan.directoryBacked, hnone]
  have hlo : -2 ^ 63 ≤ x.id := by unfold Export.id; omega
  refine ⟨x, hx.mem, p.clusterName, ?_, ?_, ht.quotas ▸ hx.quotas⟩
  · rw [getCSIVolume_exportBacked hnone]
    exact parse_getNormalizedVolumeID hlo (h.number x hx.mem) h.nameField
      ((hx.zone.trans hp.accessZone) ▸ h.zone)
      ((h.cluster _ hp.clusterName).not_contains (by decide))
  · rw [getCSIVolume_mode, hdir]
    rfl

theorem createVolume_returns_directory
    (hcv : Outcome array .any (createVolume svc req) s₀ (.ok (some vol)) s₁)
    (hshared : req.sharedPath = some shared) (h : req.WellNamed svc s₁) :
    (∃ x ∈ s₁.exports, ∃ c, parseVolumeIDWithMode vol.volumeID =
      .ok (⟨req.name, x.id, x.zone, c⟩, provisioningModeDirectory)) ∧
    (req.readOnly svc = false → ∀ q ∈ s₁.quotas, s₀.quotas.next ≤ q.num →
      q.path = getPathForVolume shared req.name) := by
  have hroot : Rooted shared := by
    have hbase := h.base
    rwa [CreateVolumeRequest.base, hshared] at hbase
  constructor
  · obtain ⟨x, hx, _, hz, c, hc, hid⟩ := createVolume_directoryBacked hcv hshared
    have hlo : -2 ^ 63 ≤ x.id := by unfold Export.id; omega
    refine ⟨x, hx, c, ?_⟩
    rw [hid]
    exact parse_getDirectoryBackedVolumeID hlo (h.number x hx) h.nameField (hz ▸ h.zone)
      (h.cluster c hc)
  · intro hro
    have hquotas : gives array .any (createVolume svc req) (fun _ t =>
        t.NewQuotas s₀.quotas.next fun _ x => x = getPathForVolume shared req.name) s₀ := by
      refine gives_bind preparePlan_planned ?_
      rintro p t ⟨hp, ht⟩
      have hpath := hp.resolves.shared
      rw [hshared, Option.map_eq_some_iff] at hpath
      obtain ⟨x, hx, rfl⟩ := hpath
      have huses : uses _ (provision svc p) :=
        provision_quotaAt hx (hp.resolves.readOnly.trans hro) hroot
      rw [hp.resolves.name] at huses
      rw [← ht.quotas]
      exact gives_state (quotaAt_wp huses (.start t))
    exact (hquotas.outcome hcv).2

/-- The modes that later calls decide on agree with the one that a volume was created in, and its
quota is found, exactly when its export has the path that the base path gives for its name; a
directory-backed volume only needs it if it shows a snapshot and has its quota elsewhere. -/
theorem provisioningMode_agreement_iff
    (hcv : Outcome array .any (createVolume svc req) s₀ (.ok (some vol)) s₁)
    (h : req.WellNamed svc s₁) (hlater : Later s₀ s₁ u vol v e exportPath)
    (hgiven : req.readOnly svc = false → exportPath = req.exportPath svc)
    (hcfg : svc.getIsilonConfig v.clusterName = .ok (name, cfg)) (hroot : Rooted cfg.isiPath) :
    Agreement req s₀ s₁ u vol v exportPath cfg.isiPath ↔
      (req.sharedPath = none → exportPath = getPathForVolume cfg.isiPath req.name) ∧
      (req.sharedPath ≠ none → req.readOnly svc = true → ∀ q ∈ s₁.quotas,
        s₀.quotas.next ≤ q.num → q.path = getPathForVolume exportPath req.name) := by
  cases hshared : req.sharedPath with
  | none =>
    obtain ⟨x, hx, c, hparse, hctx, hquotas⟩ := createVolume_returns_export hcv hshared h
    obtain rfl : v = ⟨req.name, x.id, x.zone, c⟩ :=
      Except.ok.inj (hlater.parse.symm.trans (parse_of_mode hparse))
    obtain ⟨-, hid, hz⟩ := OneFS.exportById_some hlater.found
    have htag : getQuotaIDFromDescription x = getQuotaIDFromDescription e := by
      unfold getQuotaIDFromDescription
      rw [hlater.same x hx hid.symm hz.symm]
    have hmodes : ModesAre false vol.volumeID vol.volumeContext ⟨req.name, x.id, x.zone, c⟩
        exportPath cfg.isiPath ↔ exportPath = getPathForVolume cfg.isiPath req.name :=
      modesAre_export_iff hparse hctx h.name hroot
    simp only [ne_eq, not_true_eq_false, false_imp_iff, and_true, forall_const]
    constructor
    · intro ha
      have hm := ha.modes
      rw [hshared] at hm
      exact hmodes.1 hm
    · intro hp
      have hm := hmodes.2 hp
      refine ⟨by rw [hshared]; exact hm, fun q hq hle => ?_⟩
      obtain ⟨r, hr, hnum, _⟩ := hlater.quotas q hq hle
      refine ⟨r, hnum, (run_locateQuota hlater.found).2 (OneFS.volumeQuota_some.2 ⟨hr, ?_⟩)⟩
      rw [hm.expand, if_neg (by simp), ← htag, ← hquotas q hq hle, Quota.id, Quota.id, hnum]
  | some shared =>
    obtain ⟨⟨x, hx, c, hparse⟩, hquotas⟩ := createVolume_returns_directory hcv hshared h
    obtain rfl : v = ⟨req.name, x.id, x.zone, c⟩ :=
      Except.ok.inj (hlater.parse.symm.trans (parse_of_mode hparse))
    have hm : ModesAre true vol.volumeID vol.volumeContext ⟨req.name, x.id, x.zone, c⟩ exportPath
      cfg.isiPath := modesAre_directory hparse
    simp only [reduceCtorEq, false_imp_iff, true_and, ne_eq, not_false_eq_true, true_imp_iff]
    constructor
    · intro ha _ q hq hle
      obtain ⟨r, hnum, hrun⟩ := ha.quota q hq hle
      obtain ⟨hr, hpath⟩ := OneFS.volumeQuota_some.1 ((run_locateQuota hlater.found).1 hrun)
      obtain ⟨r', hr', hnum', hpath'⟩ := hlater.quotas q hq hle
      rw [hm.expand, if_pos rfl] at hpath
      rw [← hpath', ← Catalog.eq_of_num hr hr' (hnum.trans hnum'.symm), hpath]
    · intro hro
      refine ⟨by rw [hshared]; exact hm, fun q hq hle => ?_⟩
      obtain ⟨r, hr, hnum, hpath⟩ := hlater.quotas q hq hle
      refine ⟨r, hnum, (run_locateQuota hlater.found).2 (OneFS.volumeQuota_some.2 ⟨hr, ?_⟩)⟩
      rw [hm.expand, if_pos rfl, hpath]
      cases hread : req.readOnly svc with
      | true => exact hro hread q hq hle
      | false =>
        rw [hgiven hread, CreateVolumeRequest.exportPath, hshared]
        exact hquotas hread q hq hle

theorem newVolume_wellNamed : (newVolume "vol1").WellNamed oneCluster withVol1 :=
  ⟨newVolume_readsBack.base, newVolume_readsBack.name, newVolume_readsBack.nameField,
    newVolume_readsBack.zone, newVolume_readsBack.cluster, newVolume_readsBack.number⟩

theorem provisioningMode_agreement_vol1 : ∃ vol : Volume,
    Agreement (newVolume "vol1") .fresh withVol1 withVol1 vol ⟨"vol1", 1, "System", "c1"⟩
      "/ifs/data/vol1" "/ifs/data" := by
  obtain ⟨vol, hcv, hid⟩ := createVolume_vol1
  have hlater : Later .fresh withVol1 withVol1 vol ⟨"vol1", 1, "System", "c1"⟩
      ⟨0, ["/ifs/data/vol1"], "System", "CSI_QUOTA_ID:0", [], ["localhost"], [], [], []⟩
      "/ifs/data/vol1" := by
    refine ⟨by rw [hid]; decide, by decide, rfl, ?_, fun q hq _ => ⟨q, hq, rfl, rfl⟩⟩
    have hall : ∀ x ∈ withVol1.exports.rows, x.description = ("CSI_QUOTA_ID:0" : Str) := by decide
    exact fun x hx _ _ => hall x hx
  obtain ⟨name, cfg, hcfg, hisi⟩ : ∃ name cfg, oneCluster.getIsilonConfig "c1" = .ok (name, cfg) ∧
    cfg.isiPath = ("/ifs/data" : Str) := ⟨_, _, rfl, rfl⟩
  have hroot : Rooted cfg.isiPath := by
    rw [hisi]
    decide
  have hiff := provisioningMode_agreement_iff hcv newVolume_wellNamed hlater (fun _ => by decide)
    hcfg hroot
  rw [hisi] at hiff
  exact ⟨vol, hiff.2 ⟨fun _ => by decide, fun h => absurd (by decide) h⟩⟩

def otherVolume : CreateVolumeRequest :=
  { newVolume "vol1" with parameters := [("IsiPath", "/ifs/other")] }

def withOther : OneFS := OneFS.fresh.mkdir "/ifs/other"

/-- The volume has an export and a quota of its own, but is taken for a directory below its own
export, where there is no quota. -/
theorem provisioningMode_disagreement :
    let t := (run array (createVolume oneCluster otherVolume) withOther).2
    (∃ vol, (run array (createVolume oneCluster otherVolume) withOther).1 = .ok (some vol) ∧
      vol.volumeID = "vol1=_=_=1=_=_=System=_=_=c1") ∧
    isDirectoryBacked "vol1=_=_=1=_=_=System=_=_=c1" "/ifs/other/vol1" "/ifs/data" "vol1" = true ∧
    (t.exportById 1 "System").map Export.paths = some [("/ifs/other/vol1" : Str)] ∧
    (t.quotaAt "/ifs/other/vol1").isSome = true ∧
    (run array (controllerExpandVolume oneCluster "vol1=_=_=1=_=_=System=_=_=c1" 2048) t).1 =
      .error (.status .notFound (sprintf ["quota not found for volume 'vol1': ",
        "failed to get quota for path '/ifs/other/vol1/vol1': ",
        "Quota not found: /ifs/other/vol1/vol1"])) := by
  refine ⟨⟨_, rfl, by decide⟩, by decide, by decide, by decide, by decide⟩

end Controller

structure VolumeSpec where
  storageClassName : Str
  volumeAttributes : Option Params
  deriving DecidableEq

structure VolumeObjects where
  clientset : Bool
  persistentVolume : Str → Except Err VolumeSpec
  storageClass : Str → Except Err Params

namespace Controller

def exportPathParam : Str := "Path"

def isiPathParam : Str := "IsiPath"

def isiPathOfStorageClass (kube : VolumeObjects) (storageClassName : Str) : Except Err Str :=
  match kube.storageClass storageClassName with
  | .error e => .error (.plain (sprintf ["unable to get StorageClass: ", e.text]))
  | .ok parameters => .ok (parameters.get isiPathParam)

def validateIsiPath (kube : VolumeObjects) (volName : Str) : Except Err Str :=
  if !kube.clientset then .error (.plain "no k8s clientset")
  else
    match kube.persistentVolume volName with
    | .error e => .error (.plain (sprintf ["unable to get PersistentVolume: ", e.text]))
    | .ok pv =>
      let exportPath := (pv.volumeAttributes.getD []).get exportPathParam
      -- the path is not empty, so there is no panic
      if exportPath ≠ [] then .ok ((getIsiPathFromExportPath exportPath).getD [])
      else if pv.storageClassName = [] then .ok []
      else isiPathOfStorageClass kube pv.storageClassName

/-- The base path of a volume: the one of the cluster, unless Kubernetes knows another. An error
of Kubernetes is only logged. -/
def volumeIsiPath (kube : VolumeObjects) (cfg : ClusterConfig) (volName : Str) : Str :=
  match validateIsiPath kube volName with
  | .error _ => cfg.isiPath
  | .ok isiPathFromParams =>
    if isiPathFromParams ≠ cfg.isiPath ∧ isiPathFromParams ≠ [] then isiPathFromParams
    else cfg.isiPath

def removeString : List Str → Str → List Str
  | [], _ => []
  | e :: exportList, strToRemove =>
    if e = strToRemove then exportList else e :: removeString exportList strToRemove

structure GetVolumeResponse where
  volumeID : Option Str
  publishedNodeIDs : List Str
  abnormal : Bool
  message : Str
  deriving DecidableEq

def abnormalVolume (message : Str) : GetVolumeResponse := ⟨none, [], true, message⟩

def describeVolume (v : VolumeID) (volume : VolumeInfo) : IsiM GetVolumeResponse := do
  match ← tryRequest (.getExportByID v.exportID v.accessZone) with
  | .error _ => ret ⟨some volume.name, [], true, "unable to fetch export list"⟩
  | .ok none => fail .panic
  | .ok (some e) =>
    ret ⟨some volume.name, removeString e.clients "localhost", false, "Volume is healthy"⟩

def lookUpVolume (v : VolumeID) (isiPath : Str) : IsiM GetVolumeResponse := do
  if !(← IsiService.isVolumeExistent isiPath v.volName) then
    ret (abnormalVolume (sprintf ["volume does not exists at this path ", isiPath]))
  else
    match ← tryRequest (.getVolume isiPath v.volName) with
    | .error e => ret (abnormalVolume (sprintf ["error in getting '", v.volName, "' volume '",
        e.text, "'"]))
    | .ok volume => describeVolume v volume

def controllerGetVolume (svc : Service) (kube : VolumeObjects) (volumeID : Str) :
    IsiM GetVolumeResponse := do
  if volumeID = [] then
    fail (.status .failedPrecondition (getMessageWithReqID svc.runID ["no VolumeID found in request"]))
  else
    match parseNormalizedVolumeID volumeID with
    | .error e => fail (.status .invalidArgument (sprintf [" ReqID=", svc.runID, " error ", e.text]))
    | .ok v =>
      let (_, cfg) ← readyCluster svc v.clusterName fun e =>
        .status .failedPrecondition (sprintf [" ReqID=", svc.runID, " error ", e.text])
      lookUpVolume v (volumeIsiPath kube cfg v.volName)

/-- The volume is still known: its identifier leads to a cluster that answers and to an export, and
the persistent volume of its name carries the context that it was made with. -/
structure StillKnown (svc : Service) (kube : VolumeObjects) (s : OneFS) (vol : Volume) (v : VolumeID)
    (cfg : ClusterConfig) (e : Export) : Prop where
  parse : parseNormalizedVolumeID vol.volumeID = .ok v
  config : ∃ name, svc.getIsilonConfig v.clusterName = .ok (name, cfg)
  ready : cfg.isiSvc = true ∨ svc.autoProbeEnabled = true
  found : s.exportById v.exportID v.accessZone = some e
  clientset : kube.clientset = true
  context : ∃ pv, kube.persistentVolume v.volName = .ok pv ∧
    pv.volumeAttributes = some vol.volumeContext
  path : vol.volumeContext.get exportPathParam ≠ []

def contextBase (cfg : ClusterConfig) (path : Str) : Str :=
  let base := (getIsiPathFromExportPath path).getD []
  if base = [] then cfg.isiPath else base

variable {svc : Service} {kube : VolumeObjects} {s : OneFS} {vol : Volume} {v : VolumeID}
  {cfg : ClusterConfig} {e : Export}

theorem removeString_eq_nil : removeString clients host = [] ↔ clients = [] ∨ clients = [host] := by
  cases clients with
  | nil => simp [removeString]
  | cons c cs =>
    rw [removeString]
    by_cases hc : c = host
    · simp [hc]
    · simp [hc]

theorem parse_volName_ne (h : parseNormalizedVolumeID volID = .ok v) : v.volName ≠ volID := by
  intro heq
  unfold parseNormalizedVolumeID at h
  rw [split_eq (by decide)] at h
  cases hcut : cut volumeIDSeparator volID with
  | none =>
    rw [hcut] at h
    cases h
  | some ab =>
    have hlen := congrArg List.length (cut_eq_append hcut)
    have hsep : 0 < volumeIDSeparator.length := by decide
    have hname : v.volName = ab.1 := by
      rw [hcut] at h
      simp only at h
      split at h
      · rename_i n i z rest hsplit
        injection hsplit with hn
        split at h
        · cases h
          exact hn.symm
        · cases h
      · cases h
    rw [← hname, heq] at hlen
    simp only [List.length_append] at hlen
    omega

theorem StillKnown.volumeIsiPath_eq (h : StillKnown svc kube s vol v cfg e) :
    volumeIsiPath kube cfg v.volName = contextBase cfg (vol.volumeContext.get exportPathParam) := by
  obtain ⟨pv, hpv, hattrs⟩ := h.context
  have hvalid : validateIsiPath kube v.volName =
      .ok ((getIsiPathFromExportPath (vol.volumeContext.get exportPathParam)).getD []) := by
    simp [validateIsiPath, h.clientset, hpv, hattrs, h.path]
  rw [volumeIsiPath, hvalid, contextBase]
  generalize (getIsiPathFromExportPath (vol.volumeContext.get exportPathParam)).getD [] = base
  by_cases hbase : base = []
  · simp [hbase]
  · by_cases hcfg : base = cfg.isiPath
    · simp [hcfg]
    · simp [hbase, hcfg]

theorem run_describeVolume (he : s.exportById v.exportID v.accessZone = some e)
    (volume : VolumeInfo) : run array (describeVolume v volume) s =
      (.ok ⟨some volume.name, removeString e.clients "localhost", false, "Volume is healthy"⟩,
        s) := by
  simp [describeVolume, run_bind, array_act, OneFS.serve, OneFS.reply, he]

theorem run_lookUpVolume (he : s.exportById v.exportID v.accessZone = some e) (isiPath : Str) :
    run array (lookUpVolume v isiPath) s = (.ok (if s.hasDir (namespacePath isiPath v.volName) then
        ⟨some v.volName, removeString e.clients "localhost", false, "Volume is healthy"⟩
      else abnormalVolume (sprintf ["volume does not exists at this path ", isiPath])), s) := by
  rw [lookUpVolume, run_bind, IsiService.run_isVolumeExistent]
  cases hdir : s.hasDir (namespacePath isiPath v.volName) with
  | true => simp [run_bind, array_act, OneFS.serve, OneFS.reply, hdir, run_describeVolume he]
  | false => simp

theorem run_controllerGetVolume (h : StillKnown svc kube s vol v cfg e) :
    run array (controllerGetVolume svc kube vol.volumeID) s =
      run array (lookUpVolume v (contextBase cfg (vol.volumeContext.get exportPathParam))) s := by
  obtain ⟨name, hname⟩ := h.config
  have hne : vol.volumeID ≠ [] := by
    intro hnil
    have hparse := h.parse
    rw [hnil] at hparse
    exact absurd hparse (by simp [show parseNormalizedVolumeID [] = .error _ from rfl])
  rw [controllerGetVolume, if_neg hne]
  simp [h.parse, readyCluster, hname, run_bind, Service.run_autoProbe h.ready, h.volumeIsiPath_eq]

/-- The condition of the volume depends on the directory that the context leads to, an empty list of
nodes on the clients of the export; the identifier of the answer is the name of the volume, never
the identifier. -/
theorem controllerGetVolume_agrees_iff (h : StillKnown svc kube s vol v cfg e) :
    ∃ resp, run array (controllerGetVolume svc kube vol.volumeID) s = (.ok resp, s) ∧
      (resp.abnormal = false ↔ s.hasDir (namespacePath
        (contextBase cfg (vol.volumeContext.get exportPathParam)) v.volName) = true) ∧
      resp.volumeID ≠ some vol.volumeID ∧
      (resp.abnormal = false →
        (resp.publishedNodeIDs = [] ↔ e.clients = [] ∨ e.clients = ["localhost"])) := by
  rw [run_controllerGetVolume h, run_lookUpVolume h.found]
  refine ⟨_, rfl, ?_⟩
  split
  · rename_i hdir
    refine ⟨by simp [hdir], ?_, fun _ => removeString_eq_nil⟩
    simpa using parse_volName_ne h.parse
  · rename_i hdir
    exact ⟨by simp [hdir, abnormalVolume], by simp [abnormalVolume], by simp [abnormalVolume]⟩

def kubeWith (name : Str) (vol : Volume) : VolumeObjects where
  clientset := true
  persistentVolume n :=
    if n = name then .ok ⟨"isilon", some vol.volumeContext⟩ else .error (.plain "not found")
  storageClass _ := .ok []

theorem controllerGetVolume_agrees_vol1 : ∃ vol,
    (run array (createVolume oneCluster (newVolume "vol1")) .fresh).1 = .ok (some vol) ∧
    ∃ resp, run array (controllerGetVolume oneCluster (kubeWith "vol1" vol) vol.volumeID) withVol1 =
      (.ok resp, withVol1) ∧ resp.abnormal = false ∧ resp.volumeID ≠ some vol.volumeID ∧
      resp.publishedNodeIDs = [] := by
  obtain ⟨vol, hrun, hid, hctx⟩ : ∃ vol,
      (run array (createVolume oneCluster (newVolume "vol1")) .fresh).1 = .ok (some vol) ∧
      vol.volumeID = "vol1=_=_=1=_=_=System=_=_=c1" ∧
      vol.volumeContext.get exportPathParam = "/ifs/data/vol1" := ⟨_, rfl, by decide, by decide⟩
  have hknown : StillKnown oneCluster (kubeWith "vol1" vol) withVol1 vol
      ⟨"vol1", 1, "System", "c1"⟩ _ _ :=
    ⟨by rw [hid]; decide, ⟨_, rfl⟩, by decide, rfl, rfl, ⟨_, rfl, rfl⟩, by rw [hctx]; decide⟩
  obtain ⟨resp, hresp, hhealthy, hne, hnodes⟩ := controllerGetVolume_agrees_iff hknown
  have hdir := hhealthy.2 (by rw [hctx]; decide)
  exact ⟨vol, hrun, resp, hresp, hdir, hne, (hnodes hdir).2 (by decide)⟩

def ignoringUnresolvable : Service :=
  { oneCluster with
    isilonClusters := oneCluster.isilonClusters.map ({ · with ignoreUnresolvableHosts := true }) }

def describedAfterCreate (svc : Service) (name : Str) : Option (Str × GetVolumeResponse) :=
  match run array (createVolume svc (newVolume name)) .fresh with
  | (.ok (some vol), t) =>
    match (run array (controllerGetVolume svc (kubeWith name vol) vol.volumeID) t).1 with
    | .ok resp => some (vol.volumeID, resp)
    | .error _ => none
  | _ => none

/-- The answer for a new volume has its name in place of its identifier, and takes the dummy client
of an export with clients that cannot be resolved for a node. -/
theorem controllerGetVolume_disagrees :
    describedAfterCreate oneCluster "vol1" = some (("vol1=_=_=1=_=_=System=_=_=c1" : Str),
      ⟨some ("vol1" : Str), [], false, "Volume is healthy"⟩) ∧
    describedAfterCreate ignoringUnresolvable "vol1" = some (("vol1=_=_=1=_=_=System=_=_=c1" : Str),
      ⟨some ("vol1" : Str), ["127.0.0.1"], false, "Volume is healthy"⟩) := by
  constructor <;> decide

end Controller

end CsiPowerscale
