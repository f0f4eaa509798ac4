import CsiPowerscale.CreateVolumeRuns

namespace CsiPowerscale
open GoLib Stores Effects Effects.Prog IsiService

inductive DirEvent
  | made (dir : Str)
  | copied (src dst : Str)
  | removed (dir : Str)
  deriving DecidableEq

def DirEvent.target : DirEvent → Str
  | made dir => dir
  | copied _ dst => dst
  | removed dir => dir

def Call.dirEvent (s : OneFS) : Call → Option DirEvent
  | createVolume isiPath name _ _ =>
    if s.hasDir (namespacePath isiPath name) then none
    else some (.made (namespacePath isiPath name))
  | copyVolume isiPath srcName dstName =>
    some (.copied (namespacePath isiPath srcName) (namespacePath isiPath dstName))
  | copySnapshot isiPath _ _ dstName _ => some (.made (namespacePath isiPath dstName))
  | createWritableSnapshot dstPath _ => some (.made dstPath)
  | deleteVolume isiPath name => some (.removed (namespacePath isiPath name))
  | _ => none

def Call.Still : Call → Prop
  | createVolume .. | copyVolume .. | copySnapshot .. | createWritableSnapshot ..
  | deleteVolume .. => False
  | _ => True

theorem Call.Still.unseen {c : Call} (h : c.Still) (s : OneFS) : c.dirEvent s = none := by
  cases c <;> first
    | exact h.elim
    | rfl

theorem read_still (c : Call) (h : c.IsRead) : c.Still := by
  cases c <;> trivial

def sourceDirectory (svc : Service) (clusters : Str → OneFS) (volumeID : Str) :
    Option (Str × Str) :=
  match parseVolumeIDWithMode volumeID with
  | .error _ => none
  | .ok (v, mode) =>
    match svc.getIsilonConfig v.clusterName with
    | .error _ => none
    | .ok (cluster, _) =>
      match (clusters cluster).exportById v.exportID v.accessZone with
      | none => none
      | some e => e.paths.head?.map fun path =>
          (cluster, if mode = provisioningModeDirectory then namespacePath path v.volName else path)

def HoldsCopy (t : OneFS) (dst : Str) (s : OneFS) (src : Str) : Prop :=
  s.hasDir src = true ∧ ∀ d ∈ s.subtree src, ∃ e ∈ t.dirs, e.path = below dst d.path ∧
    ∀ f ∈ d.files, f ∈ e.files

/-- No directory other than `path` was touched, and `path` was filled from the directory of the
source on `cluster`, or was left alone and has its content. -/
def ClonePlaced (svc : Service) (clusters : Str → OneFS) (cluster sourceID : Str)
    (events : List DirEvent) (path : Str) : Prop :=
  (∀ ev ∈ events, ev.target = path) ∧ ∃ sourceCluster src,
    sourceDirectory svc clusters sourceID = some (sourceCluster, src) ∧
      (sourceCluster = cluster ∧ .copied src path ∈ events ∨
        events = [] ∧ HoldsCopy (clusters cluster) path (clusters sourceCluster) src)

namespace CreateVolumeRequest

variable (svc : Service) (req : CreateVolumeRequest)

def destination : Str := (req.clusterName svc).getD []

def volumeDir : Str := namespacePath (req.base svc) req.name

def answeredPath : Str :=
  match req.sharedPath with
  | some path => join [path, req.name]
  | none => getPathForVolume (req.root svc) req.name

/-- The directory of the volume exists when it is looked for. -/
def DirFound (s : OneFS) : Prop :=
  s.hasDir (req.volumeDir svc) = true ∨ req.groupDir svc = some (req.volumeDir svc)

def Settled (s : OneFS) : Prop :=
  req.DirFound svc s ∧ (req.sharedPath = none ∨ s.quotaAt (req.answeredPath svc) ≠ none)

def unstale (s : OneFS) : OneFS :=
  if req.sharedPath = none then
    Controller.dropStale s (req.answeredPath svc) (req.accessZone svc) else s

end CreateVolumeRequest

def cloneBase (base : Str) (v : VolumeID) (mode : Str) (s : OneFS) : Str :=
  if mode = provisioningModeDirectory then
    (((s.exportById v.exportID v.accessZone).bind fun e => e.paths.head?).map clean).getD base
  else base

/-- The volume is there and has the content, or it is new and the base path of the copy leads to the
directories of both volumes; the directory of a volume group is not made on the way, unless it is
the volume. -/
inductive CloneFits (svc : Service) (req : CreateVolumeRequest) (clusters : Str → OneFS)
    (cluster sourceID : Str) : Prop
  | settled (h : req.Settled svc (clusters cluster))
      (hgroup : ∀ dir, req.groupDir svc = some dir → (clusters cluster).hasDir dir = true)
      (hsource : sourceDirectory svc clusters sourceID = some (sourceCluster, src))
      (hcopy : HoldsCopy (clusters cluster) (req.answeredPath svc) (clusters sourceCluster) src)
  | copied (h : ¬ req.Settled svc (clusters cluster))
      (hgroup : ∀ dir, req.groupDir svc = some dir → (clusters cluster).hasDir dir = false →
        dir = req.answeredPath svc)
      (hmade : ¬ req.DirFound svc (clusters cluster) → req.volumeDir svc = req.answeredPath svc)
      (hsource : sourceDirectory svc clusters sourceID = some (cluster, src))
      (hparse : parseVolumeIDWithMode sourceID = .ok (v, mode))
      (hsrc : namespacePath (cloneBase (req.base svc) v mode (req.unstale svc (clusters cluster)))
        v.volName = src)
      (hdst : namespacePath (cloneBase (req.base svc) v mode (req.unstale svc (clusters cluster)))
        req.name = req.answeredPath svc)

def dirEvents (p : IsiM α) (s : OneFS) : List DirEvent :=
  observe array (fun s c => c.dirEvent s) p s

section Events

variable {p : IsiM α} {s t : OneFS}

theorem dirEvents_of_still (h : uses Call.Still p) (s : OneFS) : dirEvents p s = [] :=
  observe_of_uses h fun _ s hc => hc.unseen s

@[simp] theorem dirEvents_op (s : OneFS) : dirEvents (op c) s = (c.dirEvent s).toList :=
  observe_op c

@[simp] theorem dirEvents_ask (c : Call) (s : OneFS) :
    dirEvents (ask c) s = (c.dirEvent s).toList :=
  observe_ask c

@[simp] theorem dirEvents_attempt (p : IsiM α) (s : OneFS) :
    dirEvents p.attempt s = dirEvents p s :=
  observe_attempt

@[simp] theorem dirEvents_ret (a : α) (s : OneFS) : dirEvents (ret a) s = [] := rfl

theorem dirEvents_bind (h : run array p s = (.ok a, t)) :
    dirEvents (p >>= f) s = dirEvents p s ++ dirEvents (f a) t :=
  observe_bind h

theorem dirEvents_bind_still {f : α → IsiM β} (h : ∀ a, uses Call.Still (f a)) :
    dirEvents (p >>= f) s = dirEvents p s :=
  observe_bind_of_uses h fun _ s hc => hc.unseen s

theorem dirEvents_still_bind (hp : uses Call.Still p) (h : run array p s = (.ok a, t)) :
    dirEvents (p >>= f) s = dirEvents (f a) t := by
  rw [dirEvents_bind h, dirEvents_of_still hp, List.nil_append]

end Events

section Plan

variable {svc : Service} {req : CreateVolumeRequest} {s t : OneFS} {p : Plan}

def CreateVolumeRequest.groupEvents (svc : Service) (req : CreateVolumeRequest) (s : OneFS) :
    List DirEvent :=
  match req.groupDir svc with
  | some dir => if s.hasDir dir then [] else [.made dir]
  | none => []

theorem mem_groupEvents : ev ∈ req.groupEvents svc s ↔
    ∃ dir, req.groupDir svc = some dir ∧ s.hasDir dir = false ∧ ev = .made dir := by
  unfold CreateVolumeRequest.groupEvents
  cases req.groupDir svc with
  | none => simp
  | some dir => cases hdir : s.hasDir dir <;> simp [hdir]

theorem groupEvents_eq_nil : req.groupEvents svc s = [] ↔
    ∀ dir, req.groupDir svc = some dir → s.hasDir dir = true := by
  unfold CreateVolumeRequest.groupEvents
  cases req.groupDir svc with
  | none => simp
  | some dir => cases hdir : s.hasDir dir <;> simp [hdir]

theorem dirEvents_ensureVolumeGroup (s : OneFS) :
    dirEvents (ensureVolumeGroup isiPath vgName) s =
      if s.hasDir (namespacePath isiPath vgName) then []
      else [.made (namespacePath isiPath vgName)] := by
  unfold ensureVolumeGroup
  rw [dirEvents_bind (run_ask _), dirEvents_ask]
  by_cases hdir : s.hasDir (namespacePath isiPath vgName) = true
  · simp [array_act, OneFS.serve, OneFS.reply, hdir, Call.dirEvent]
  · simp only [array_act, OneFS.serve, OneFS.reply, hdir, Bool.false_eq_true, if_false,
      OneFS.notFound, Err.jsonStatus, if_true]
    exact (dirEvents_op s).trans (by simp [Call.dirEvent, hdir])

theorem dirEvents_volumeRoot
    (h : run array (volumeRoot svc req.parameters (req.isiPath svc)) s = (.ok path, t)) :
    dirEvents (volumeRoot svc req.parameters (req.isiPath svc)) s = req.groupEvents svc s := by
  unfold volumeRoot CreateVolumeRequest.groupEvents CreateVolumeRequest.groupDir at *
  by_cases hrep : isReplicationEnabled svc req.parameters = true
  · rw [if_pos hrep] at h ⊢
    obtain ⟨rpo, host, cert, heq⟩ := prepareReplication_eq h
    rw [heq] at h ⊢
    obtain ⟨vg, u, hvg, _⟩ := run_bind_ok.1 h
    have hpolicy : uses Call.Still (do
        ensurePolicy (replaceByte vg.name 46 45) rpo
          (req.isiPath svc ++ "/" ++ req.volumeGroup svc) host cert
        return req.isiPath svc ++ "/" ++ req.volumeGroup svc) :=
      uses_bind (ensurePolicy_uses read_still trivial) fun _ => trivial
    rw [dirEvents_bind hvg, dirEvents_of_still hpolicy, List.append_nil, if_pos hrep]
    exact dirEvents_ensureVolumeGroup s
  · rw [if_neg hrep, if_neg hrep]
    rfl

theorem dirEvents_preparePlan (h : run array (preparePlan svc req) s = (.ok p, t)) :
    dirEvents (preparePlan svc req) s = req.groupEvents svc s := by
  unfold preparePlan at h ⊢
  obtain ⟨p₀, s₀, h₀, h₁⟩ := run_bind_ok.1 h
  have hs₀ : s₀ = s := by
    have hs := run_resolvePlan_state svc req s
    rwa [h₀] at hs
  rw [hs₀] at h₀ h₁
  obtain ⟨path, s₁, hroot, _⟩ := run_bind_ok.1 h₁
  have hplan : dirEvents (resolvePlan svc req) s = [] :=
    dirEvents_of_still (uses_mono (resolvePlan_consults req) fun c hc => read_still c hc.isRead) s
  rw [dirEvents_bind h₀, hplan, dirEvents_bind hroot]
  rw [(run_yields resolvePlan_yields h₀).2] at hroot ⊢
  simp [dirEvents_volumeRoot hroot]

end Plan

namespace Resolves

variable {svc : Service} {req : CreateVolumeRequest} {p : Plan} (hp : Resolves svc req p)
include hp

theorem volumeDir_eq : Controller.volumeDir p = req.volumeDir svc := by
  rw [Controller.volumeDir, hp.basePath_eq, hp.name, CreateVolumeRequest.volumeDir]

theorem sharedPath_eq (hx : p.shared = some x) :
    req.sharedPath = some x.path := by
  rw [← hp.shared, hx]
  rfl

theorem answeredPath_shared (hx : p.shared = some x) :
    join [x.path, p.name] = req.answeredPath svc := by
  rw [CreateVolumeRequest.answeredPath, hp.sharedPath_eq hx, hp.name]

theorem answeredPath_own (hshared : p.shared = none) :
    getPathForVolume p.isiPath p.name = req.answeredPath svc := by
  rw [CreateVolumeRequest.answeredPath, hp.sharedPath_eq_none.1 hshared, hp.name, hp.isiPath]

theorem unstale_shared (hx : p.shared = some x) (s : OneFS) :
    req.unstale svc s = s := by
  rw [CreateVolumeRequest.unstale, hp.sharedPath_eq hx]
  exact if_neg (by simp)

theorem unstale_own (hshared : p.shared = none) (s : OneFS) :
    req.unstale svc s = Controller.dropStale s (req.answeredPath svc) p.accessZone := by
  rw [CreateVolumeRequest.unstale, if_pos (hp.sharedPath_eq_none.1 hshared), hp.accessZone]

theorem source_volume
    (hsource : req.volumeContentSource = some (.volume i)) : p.source = .volume i := by
  have hs := hp.source.trans hsource
  cases hps : p.source with
  | volume j =>
    rw [hps] at hs
    cases hs
    rfl
  | none | snapshot src | unset => simp [hps, Source.request] at hs

end Resolves

namespace Controller

section Clone

variable {svc : Service} {req : CreateVolumeRequest} {p : Plan} {s u : OneFS} {t : Target} {i : Str}

structure Clones (p : Plan) (i : Str) : Prop where
  source : p.source = .volume i
  writable : p.writableFromSnapshot = false

theorem Clones.readOnlySource (h : Clones p i) : p.readOnlySource = none := by
  rw [Plan.readOnlySource, h.source]

theorem Clones.notReadOnly (h : Clones p i) : p.isROVolumeFromSnapshot = false := by
  rw [Plan.isROVolumeFromSnapshot, h.readOnlySource]
  rfl

theorem Clones.hasContentSource (h : Clones p i) : p.hasContentSource = true := by
  simp [Plan.hasContentSource, h.source]

theorem getCSIVolume_path :
    (getCSIVolume p exportID volName path z).volumeContext.get "Path" = path := rfl

theorem dirEvents_createVolume (metadata : Params) (s : OneFS) :
    dirEvents (createVolumeWithMetaData isiPath name permissions metadata) s =
      if s.hasDir (namespacePath isiPath name) then []
      else [.made (namespacePath isiPath name)] := by
  unfold createVolumeWithMetaData
  rw [dirEvents_bind_still]
  · refine (dirEvents_op s).trans ?_
    simp only [Call.dirEvent]
    split <;> rfl
  · exact fun _ => trivial

theorem dirEvents_createDirectory (h : Clones p i) (s : OneFS) : dirEvents (createDirectory p t) s =
    if t.foundVol || s.hasDir (volumeDir p) then [] else [.made (volumeDir p)] := by
  unfold createDirectory
  cases hfound : t.foundVol with
  | true => simp
  | false =>
    rw [if_pos (by simp [h.notReadOnly, h.writable])]
    dsimp only
    split
    · rw [dirEvents_bind_still, dirEvents_attempt]
      · exact dirEvents_createVolume [] s
      · intro r
        cases r <;> trivial
    rw [dirEvents_bind_still, dirEvents_attempt]
    · exact dirEvents_createVolume _ s
    · intro r
      cases r <;> trivial

theorem run_sourceBasePath (base : Str) (v : VolumeID) (mode : Str) (s : OneFS) :
    run array (sourceBasePath base v mode) s = (.ok (cloneBase base v mode s), s) := by
  unfold sourceBasePath cloneBase
  by_cases hmode : mode = provisioningModeDirectory
  · rw [if_pos hmode, if_pos hmode, run_ask_bind]
    simp only [array_act, OneFS.serve]
    cases s.exportById v.exportID v.accessZone with
    | none => rfl
    | some e => cases hpaths : e.paths <;> simp [OneFS.reply, hpaths]
  · rw [if_neg hmode, if_neg hmode]
    rfl

theorem sourceBasePath_still (v : VolumeID) (mode : Str) :
    uses Call.Still (sourceBasePath base v mode) := by
  unfold sourceBasePath
  split
  · refine uses_ask_bind trivial fun r => ?_
    split
    · split <;> trivial
    · trivial
  · trivial

theorem dirEvents_createVolumeFromVolume
    (h : run array (createVolumeFromVolume base srcName dstName size) s = (.ok (), u)) :
    dirEvents (createVolumeFromVolume base srcName dstName size) s =
      [.copied (namespacePath base srcName) (namespacePath base dstName)] := by
  unfold createVolumeFromVolume at h ⊢
  rw [dirEvents_still_bind (isVolumeExistent_uses read_still _ _)
    (run_isVolumeExistent _ _)]
  simp only [run_bind, run_isVolumeExistent] at h
  split at h
  · next hdir =>
    rw [if_pos hdir]
    obtain ⟨n, v, hsize, h₁⟩ := run_bind_ok.1 h
    rw [dirEvents_still_bind (getVolumeSize_uses read_still _) hsize]
    split at h₁
    · cases h₁
    next hfits =>
    rw [if_neg hfits, dirEvents_bind_still, dirEvents_ask]
    · rfl
    · intro r
      cases r <;> trivial
  · cases h

inductive Copies (p : Plan) (i : Str) (s : OneFS) : List DirEvent → Prop
  | copied (hparse : parseVolumeIDWithMode i = .ok (v, mode)) :
      Copies p i s [.copied (namespacePath (cloneBase p.basePath v mode s) v.volName)
        (namespacePath (cloneBase p.basePath v mode s) p.name)]

theorem Copies.congr (h : Copies p i u events) (hx : u.exports = s.exports) :
    Copies p i s events := by
  cases h with
  | copied hparse =>
    rename_i v mode
    have hbase : cloneBase p.basePath v mode u = cloneBase p.basePath v mode s := by
      rw [cloneBase, cloneBase, OneFS.exportById, hx, OneFS.exportById]
    rw [hbase]
    exact .copied hparse

theorem createVolumeFromSource_copies (hc : Clones p i)
    (h : run array (createVolumeFromSource p p.basePath) s = (.ok (), u)) :
    Copies p i s (dirEvents (createVolumeFromSource p p.basePath) s) := by
  unfold createVolumeFromSource at h ⊢
  rw [hc.source] at h ⊢
  dsimp only at h ⊢
  cases hparse : parseVolumeIDWithMode i with
  | error e =>
    rw [hparse] at h
    dsimp only at h
    split at h <;> cases h
  | ok x =>
    obtain ⟨v, mode⟩ := x
    rw [hparse] at h
    dsimp only at h ⊢
    rw [dirEvents_still_bind (sourceBasePath_still v mode) (run_sourceBasePath _ v mode s)]
    simp only [run_bind, run_sourceBasePath, run_attempt] at h
    have hcopied : ∃ w, run array (createVolumeFromVolume (cloneBase p.basePath v mode s) v.volName
        p.name p.sizeInBytes) s = (.ok (), w) := by
      cases hr : run array (createVolumeFromVolume (cloneBase p.basePath v mode s) v.volName
          p.name p.sizeInBytes) s with
      | mk r w =>
        cases r with
        | ok _ => exact ⟨w, rfl⟩
        | error e => simp [hr] at h
    obtain ⟨w, hw⟩ := hcopied
    rw [dirEvents_bind_still, dirEvents_attempt, dirEvents_createVolumeFromVolume hw]
    · exact .copied hparse
    · intro r
      cases r <;> trivial

theorem populate_copies (hc : Clones p i) (h : run array (populate p) s = (.ok (), u)) :
    Copies p i s (dirEvents (populate p) s) := by
  have hsource := (run_populate_inv h).2.2.1 hc.hasContentSource hc.notReadOnly
  have hrun : run array (attempt (createVolumeFromSource p p.basePath)) s = (.ok (.ok ()), u) := by
    rw [run_attempt, hsource]
  unfold populate
  rw [if_pos (by simp [hc.hasContentSource, hc.notReadOnly]), dirEvents_bind hrun,
    dirEvents_attempt, dirEvents_ret, List.append_nil]
  exact createVolumeFromSource_copies hc hsource

theorem dirEvents_provisionQuota (hc : Clones p i)
    (h : run array (provisionQuota svc p t needsQuota) s = (.ok quotaID, u)) :
    dirEvents (provisionQuota svc p t needsQuota) s = [] := by
  unfold provisionQuota at h ⊢
  split at h
  · next hneeds =>
    rw [if_pos hneeds]
    obtain ⟨r, v, hquota, h₁⟩ := run_bind_ok.1 h
    rw [dirEvents_still_bind (createQuotaWithRetry_uses trivial trivial) hquota]
    cases r with
    | ok _ => rfl
    | error e =>
      obtain ⟨e', he'⟩ := run_rollbackQuota p e v
      rw [h₁] at he'
      cases he'
  · next hneeds =>
    rw [if_neg hneeds, if_neg (by simp [hc.writable])]
    rfl

theorem dirEvents_exportVolume (h : run array (exportVolume svc p t quotaID) s = (.ok r, u)) :
    dirEvents (exportVolume svc p t quotaID) s = [] := by
  obtain ⟨_, _, a, ha⟩ := run_exportVolume_inv h
  have hne : ¬ (s.exports.next : Int) + 1 = 0 := by omega
  unfold exportVolume
  rw [dirEvents_still_bind (uses_attempt.2 (exportVolumeWithZoneAndXprtsec_uses read_still trivial))
    (run_attempt.trans (by rw [run_exportVolumeWithZoneAndXprtsec, ha]))]
  dsimp only
  rw [if_neg hne]
  exact dirEvents_of_still (awaitExport_uses read_still (fun _ _ _ => trivial) _) _

variable (hp : Resolves svc req p)
include hp

theorem exportAndRespond_clone (hc : Clones p i)
    (ht : t.path = req.answeredPath svc)
    (h : run array (exportAndRespond svc p t exportID quotaID) s = (.ok (some vol), u)) :
    dirEvents (exportAndRespond svc p t exportID quotaID) s = [] ∧
      vol.volumeContext.get "Path" = req.answeredPath svc := by
  unfold exportAndRespond at h ⊢
  cases hshared : p.shared with
  | some x =>
    have hback : p.directoryBacked = true := by rw [Plan.directoryBacked, hshared]; rfl
    rw [if_pos hback] at h ⊢
    cases h
    exact ⟨rfl, ht⟩
  | none =>
    have hback : ¬ p.directoryBacked = true := by simp [Plan.directoryBacked, hshared]
    rw [if_neg hback, if_neg (by simp [hc.notReadOnly])] at h ⊢
    obtain ⟨hvol, _⟩ := run_exportVolume_inv h
    cases hvol
    exact ⟨dirEvents_exportVolume h, hp.answeredPath_own hshared⟩

theorem build_clone (hc : Clones p i)
    (ht : t.path = req.answeredPath svc) (hfound : t.foundVol = s.hasDir (volumeDir p))
    (h : run array (build svc p t exportID needsQuota) s = (.ok (some vol), u)) :
    vol.volumeContext.get "Path" = req.answeredPath svc ∧ ∃ copied, Copies p i s copied ∧
      dirEvents (build svc p t exportID needsQuota) s =
        (if s.hasDir (volumeDir p) then [] else [.made (volumeDir p)]) ++ copied := by
  unfold build at h ⊢
  obtain ⟨_, u₁, hmake, h₁⟩ := run_bind_ok.1 h
  obtain ⟨_, u₂, hfill, h₂⟩ := run_bind_ok.1 h₁
  obtain ⟨quotaID, u₃, hquota, h₃⟩ := run_bind_ok.1 h₂
  obtain ⟨hlast, hpath⟩ := exportAndRespond_clone hp hc ht h₃
  refine ⟨hpath, dirEvents (populate p) u₁, ?_, ?_⟩
  · exact (populate_copies hc hfill).congr (run_createDirectory_inv hmake).1.exports
  · rw [dirEvents_bind hmake, dirEvents_bind hfill, dirEvents_bind hquota, hlast,
      dirEvents_provisionQuota hc hquota, dirEvents_createDirectory hc, hfound, Bool.or_self,
      List.append_nil, List.append_nil]

theorem run_findVolume_clone (hc : Clones p i) (s : OneFS) :
    run array (findVolume p) s = (.ok ⟨req.answeredPath svc, s.hasDir (volumeDir p), none⟩, s) := by
  cases hshared : p.shared with
  | none => rw [run_findVolume_exportBacked hshared hc.notReadOnly, hp.answeredPath_own hshared]
  | some x =>
    have hbase : p.basePath = x.path := by rw [Plan.basePath, hshared]
    simp [findVolume, hc.readOnlySource, hshared, run_bind, volumeDir, hbase,
      hp.answeredPath_shared hshared]

def AlreadyMade (p : Plan) (path : Str) (s : OneFS) : Prop :=
  s.hasDir (volumeDir p) = true ∧ (p.shared = none ∨ s.quotaAt path ≠ none)

theorem run_resolveExport_clone (hc : Clones p i)
    (h : run array (resolveExport svc p ⟨req.answeredPath svc, s.hasDir (volumeDir p), none⟩) s =
      (.ok r, u)) :
    (AlreadyMade p (req.answeredPath svc) s ∧ ∃ v, r = .respond v ∧
      v.volumeContext.get "Path" = req.answeredPath svc) ∨
    (¬ AlreadyMade p (req.answeredPath svc) s ∧ u = req.unstale svc s ∧ ∃ exportID needsQuota,
      r = .proceed exportID needsQuota) := by
  unfold resolveExport at h
  cases hshared : p.shared with
  | some x =>
    rw [hshared] at h
    dsimp only at h
    rw [hc.notReadOnly, Bool.or_false] at h
    rw [hp.unstale_shared hshared]
    split at h
    · next hdir =>
      unfold resolveDirectoryBacked at h
      simp only [run_bind, run_attempt, getQuotaByPath, rename, run_ask,
        array_act, OneFS.serve] at h
      cases hq : s.quotaAt (req.answeredPath svc) with
      | some q =>
        simp only [hq, OneFS.reply, run_ret] at h
        split at h
        · cases h
        · cases h
          exact .inl ⟨⟨hdir, .inr (by simp [hq])⟩, _, rfl, getCSIVolume_path⟩
      | none =>
        have hbase : p.basePath = x.path := by rw [Plan.basePath, hshared]
        rw [volumeDir, hbase] at hdir
        simp only [hq, OneFS.reply, run_fail, run_bind, run_attempt,
          run_getSubDirectoryCount hdir] at h
        split at h
        · cases h
        cases h
        refine .inr ⟨?_, rfl, _, _, rfl⟩
        rintro ⟨_, hnone | hquota⟩
        · rw [hshared] at hnone
          cases hnone
        · exact hquota hq
    · next hdir =>
      cases h
      exact .inr ⟨fun hmade => hdir hmade.1, rfl, _, _, rfl⟩
  | none =>
    rw [hshared] at h
    dsimp only at h
    rw [hc.notReadOnly, Bool.or_false] at h
    rw [hp.unstale_own hshared]
    simp only [run_bind, run_op, array_act, OneFS.serve] at h
    unfold dropStale
    cases he : s.exportAt (req.answeredPath svc) p.accessZone with
    | none =>
      simp only [he] at h
      split at h
      · cases h
      · next hdir =>
        cases h
        exact .inr ⟨fun hmade => hdir hmade.1, rfl, _, _, rfl⟩
    | some e =>
      simp only [he] at h
      split at h
      · next hdir =>
        unfold resolveExportBacked at h
        obtain ⟨_, v, _, h₁⟩ := run_bind_ok.1 h
        cases h₁
        exact .inl ⟨⟨hdir, .inl hshared⟩, _, rfl, getCSIVolume_path⟩
      · next hdir =>
        obtain ⟨hmem, _, hz⟩ := OneFS.exportAt_some he
        have hid : s.exportById e.id p.accessZone = some e := hz ▸ OneFS.exportById_of_mem hmem
        simp only [run_bind, run_attempt, unexportByIDWithZone, rename,
          run_ask, array_act, OneFS.serve, OneFS.change, hid, Option.isSome_some, if_true, pure_eq,
          run_ret, Prod.mk.injEq, Except.ok.injEq] at h
        exact .inr ⟨fun hmade => hdir hmade.1, h.2.symm, _, _, h.1.symm⟩

omit hp in
theorem unstale_dirs (svc : Service) (req : CreateVolumeRequest) (s : OneFS) :
    (req.unstale svc s).dirs = s.dirs := by
  unfold CreateVolumeRequest.unstale dropStale
  split
  · split <;> rfl
  · rfl

theorem provision_clone (hc : Clones p i)
    (h : run array (provision svc p) s = (.ok (some vol), u)) :
    vol.volumeContext.get "Path" = req.answeredPath svc ∧
      (AlreadyMade p (req.answeredPath svc) s ∧ dirEvents (provision svc p) s = [] ∨
        ¬ AlreadyMade p (req.answeredPath svc) s ∧ ∃ copied, Copies p i (req.unstale svc s) copied ∧
          dirEvents (provision svc p) s =
            (if s.hasDir (volumeDir p) then [] else [.made (volumeDir p)]) ++ copied) := by
  unfold provision at h ⊢
  have hfind := run_findVolume_clone hp hc s
  rw [dirEvents_still_bind (findVolume_uses read_still) hfind]
  rw [run_bind, hfind] at h
  dsimp only [createTrackingEntry] at h ⊢
  rw [ret_bind] at h ⊢
  obtain ⟨r, v, hresolve, h₁⟩ := run_bind_ok.1 h
  rw [dirEvents_still_bind (resolveExport_uses read_still fun _ _ => trivial) hresolve]
  rcases run_resolveExport_clone hp hc hresolve with ⟨hmade, vol', rfl, hpath⟩ |
    ⟨hmade, rfl, exportID, needsQuota, rfl⟩
  · cases h₁
    exact ⟨hpath, .inl ⟨hmade, rfl⟩⟩
  have hdir : (req.unstale svc s).hasDir (volumeDir p) = s.hasDir (volumeDir p) := by
    rw [OneFS.hasDir, unstale_dirs]
    rfl
  have hbuild := build_clone hp hc rfl hdir.symm h₁
  rw [hdir] at hbuild
  exact ⟨hbuild.1, .inr ⟨hmade, hbuild.2⟩⟩

omit hp in
theorem unstale_exports (h : u.exports = s.exports) :
    (req.unstale svc u).exports = (req.unstale svc s).exports := by
  unfold CreateVolumeRequest.unstale dropStale OneFS.exportAt
  rw [h]
  split
  · split
    · exact h
    · simp only [OneFS.dropExport, h]
  · exact h

theorem alreadyMade_iff (hr : Replays svc req s p u) :
    AlreadyMade p (req.answeredPath svc) u ↔ req.Settled svc s := by
  unfold AlreadyMade CreateVolumeRequest.Settled CreateVolumeRequest.DirFound
  rw [hp.volumeDir_eq, hr.dirs, hp.sharedPath_eq_none, OneFS.quotaAt, hr.quotas, OneFS.quotaAt]

theorem found_iff (hr : Replays svc req s p u) :
    u.hasDir (volumeDir p) = true ↔ req.DirFound svc s := by
  rw [hp.volumeDir_eq, hr.dirs, CreateVolumeRequest.DirFound]

end Clone

section Placement

variable {svc : Service} {req : CreateVolumeRequest} {clusters : Str → OneFS} {cluster i : Str}

theorem placed_settled_iff (h : req.Settled svc (clusters cluster)) :
    ClonePlaced svc clusters cluster i (req.groupEvents svc (clusters cluster))
      (req.answeredPath svc) ↔ CloneFits svc req clusters cluster i := by
  constructor
  · rintro ⟨_, sourceCluster, src, hsource, ⟨_, hmem⟩ | ⟨hnil, hcopy⟩⟩
    · obtain ⟨dir, _, _, hev⟩ := mem_groupEvents.1 hmem
      cases hev
    · exact .settled h (groupEvents_eq_nil.1 hnil) hsource hcopy
  · intro hfits
    cases hfits with
    | settled _ hgroup hsource hcopy =>
      rw [groupEvents_eq_nil.2 hgroup]
      exact ⟨by simp, _, _, hsource, .inr ⟨rfl, hcopy⟩⟩
    | copied hnot => exact absurd h hnot

theorem placed_copied_iff (h : ¬ req.Settled svc (clusters cluster))
    (hmade : made = [] ∧ req.DirFound svc (clusters cluster) ∨ made = [.made (req.volumeDir svc)]
      ∧ ¬ req.DirFound svc (clusters cluster)) (hparse : parseVolumeIDWithMode i = .ok (v, mode))
    (hbase : base = cloneBase (req.base svc) v mode (req.unstale svc (clusters cluster)))
    (hcopied : copied = [.copied (namespacePath base v.volName) (namespacePath base req.name)]) :
    ClonePlaced svc clusters cluster i
      (req.groupEvents svc (clusters cluster) ++ (made ++ copied)) (req.answeredPath svc) ↔
        CloneFits svc req clusters cluster i := by
  subst hbase hcopied
  constructor
  · rintro ⟨htarget, sourceCluster, src, hsource, ⟨rfl, hmem⟩ | ⟨hnil, _⟩⟩
    · refine .copied h (fun dir hdir hno => ?_) (fun hfound => ?_) hsource hparse ?_ ?_
      · exact htarget _ (List.mem_append_left _ (mem_groupEvents.2 ⟨dir, hdir, hno, rfl⟩))
      · obtain ⟨rfl, _⟩ := hmade.resolve_left fun hm => hfound hm.2
        exact htarget (.made (req.volumeDir svc)) (by simp)
      · simp only [List.mem_append, List.mem_singleton, DirEvent.copied.injEq] at hmem
        rcases hmem with hmem | hmem | hmem
        · obtain ⟨dir, _, _, hev⟩ := mem_groupEvents.1 hmem
          cases hev
        · rcases hmade with ⟨rfl, _⟩ | ⟨rfl, _⟩ <;> simp at hmem
        · exact hmem.1.symm
      · exact htarget _
          (List.mem_append_right _ (List.mem_append_right _ (List.mem_singleton.2 rfl)))
    · simp at hnil
  · intro hfits
    cases hfits with
    | settled hnot => exact absurd hnot h
    | copied _ hgroup hnew hsource hparse' hsrc hdst =>
      cases hparse.symm.trans hparse'
      refine ⟨fun ev hev => ?_, _, _, hsource, .inl ⟨rfl, ?_⟩⟩
      · simp only [List.mem_append, List.mem_singleton] at hev
        rcases hev with hev | hev | rfl
        · obtain ⟨dir, hdir, hno, rfl⟩ := mem_groupEvents.1 hev
          exact hgroup dir hdir hno
        · rcases hmade with ⟨rfl, _⟩ | ⟨rfl, hfound⟩
          · cases hev
          · rw [List.mem_singleton.1 hev]
            exact hnew hfound
        · exact hdst
      · rw [← hsrc, ← hdst]
        simp

/-- A successful clone has filled the directory of the volume that it answers with from the
directory of the source, and no other, exactly when the clone fits. -/
theorem createVolume_clone_placed_iff (svc : Service) (req : CreateVolumeRequest)
    (clusters : Str → OneFS) (hsource : req.volumeContentSource = some (.volume i))
    {vol : Volume} {t : OneFS}
    (h : run array (createVolume svc req) (clusters (req.destination svc)) = (.ok (some vol), t)) :
    ClonePlaced svc clusters (req.destination svc) i
      (dirEvents (createVolume svc req) (clusters (req.destination svc)))
      (vol.volumeContext.get "Path") ↔ CloneFits svc req clusters (req.destination svc) i := by
  unfold createVolume at h ⊢
  obtain ⟨p, u, hplan, hprovision⟩ := run_bind_ok.1 h
  obtain ⟨hp, hr⟩ := run_preparePlan hplan
  have hc : Clones p i := by
    refine ⟨hp.source_volume hsource, ?_⟩
    by_contra hw
    exact hp.writableClone (by simpa using hw) i (hp.source_volume hsource)
  rw [dirEvents_bind hplan, dirEvents_preparePlan hplan]
  obtain ⟨hpath, hcase⟩ := provision_clone hp hc hprovision
  rw [hpath]
  rcases hcase with ⟨hmade, hevents⟩ | ⟨hmade, copied, hcopies, hevents⟩
  · rw [hevents, List.append_nil]
    exact placed_settled_iff ((alreadyMade_iff hp hr).1 hmade)
  rw [hevents]
  cases hcopies.congr (unstale_exports hr.exports) with
  | copied hparse =>
    refine placed_copied_iff (fun hs => hmade ((alreadyMade_iff hp hr).2 hs)) ?_ hparse rfl ?_
    · by_cases hfound : u.hasDir (volumeDir p) = true
      · exact .inl ⟨if_pos hfound, (found_iff hp hr).1 hfound⟩
      · exact .inr ⟨by rw [if_neg hfound, hp.volumeDir_eq],
          fun hf => hfound ((found_iff hp hr).2 hf)⟩
    · rw [hp.basePath_eq, hp.name]

def cloneSources : OneFS := { OneFS.fresh with
  dirs := ⟨[⟨"/ifs", []⟩, ⟨"/ifs/data", []⟩, ⟨"/ifs/data/vol1", [⟨"a", "1"⟩]⟩, ⟨"/ifs/shared", []⟩,
    ⟨"/ifs/shared/vol0", [⟨"b", "2"⟩]⟩], by decide⟩
  exports := ⟨⟨[⟨0, ["/ifs/shared"], "System", [], [], [], [], [], []⟩,
    ⟨1, ["/ifs/data/vol1"], "System", [], [], [], [], [], []⟩], by decide⟩, 2, by decide⟩ }

def cloneOf (sourceID : Str) : CreateVolumeRequest where
  name := "vol2"
  requiredBytes := 100
  volumeCapabilities := [some ⟨some .mount, some .multiNodeMultiWriter⟩]
  parameters := []
  mutableParameters := []
  volumeContentSource := some (.volume sourceID)

theorem createVolume_clone_placed_vol1 : ∃ vol t,
    run array (createVolume oneCluster (cloneOf "vol1=_=_=2=_=_=System=_=_=c1")) cloneSources =
      (.ok (some vol), t) ∧
    ClonePlaced oneCluster (fun _ => cloneSources) "c1" "vol1=_=_=2=_=_=System=_=_=c1"
      (dirEvents (createVolume oneCluster (cloneOf "vol1=_=_=2=_=_=System=_=_=c1")) cloneSources)
      (vol.volumeContext.get "Path") := by
  have hok : ∃ vol, (run array (createVolume oneCluster (cloneOf "vol1=_=_=2=_=_=System=_=_=c1"))
      cloneSources).1 = .ok (some vol) := ⟨_, rfl⟩
  obtain ⟨vol, hvol⟩ := hok
  have hparse : parseVolumeIDWithMode "vol1=_=_=2=_=_=System=_=_=c1" =
      .ok (⟨"vol1", 2, "System", "c1"⟩, []) := by rfl
  have hsource : sourceDirectory oneCluster (fun _ => cloneSources) "vol1=_=_=2=_=_=System=_=_=c1" =
      some (("c1" : Str), ("/ifs/data/vol1" : Str)) := by decide +kernel
  refine ⟨vol, _, Prod.ext hvol rfl, ?_⟩
  apply (createVolume_clone_placed_iff oneCluster (cloneOf "vol1=_=_=2=_=_=System=_=_=c1")
    (fun _ => cloneSources) rfl (Prod.ext hvol rfl)).2
  refine .copied ?_ ?_ (fun _ => by decide +kernel) hsource hparse (by decide +kernel)
    (by decide +kernel)
  · rintro ⟨hdir | hgroup, _⟩
    · exact absurd hdir (by decide +kernel)
    · exact absurd hgroup (by decide +kernel)
  · intro dir hdir
    exact absurd (Option.isSome_of_mem hdir) (by decide +kernel)

/-- A directory-backed source is below its shared export: the copy is made beside it, and the volume
of the answer stays empty. -/
theorem createVolume_clone_misplaced : ∃ vol t,
    run array (createVolume oneCluster (cloneOf "vol0=_=_=1=_=_=System=_=_=c1=_=_=directory"))
      cloneSources = (.ok (some vol), t) ∧
    vol.volumeContext.get "Path" = "/ifs/data/vol2" ∧
    ⟨"/ifs/data/vol2", []⟩ ∈ t.dirs.rows ∧ ⟨"/ifs/shared/vol2", [⟨"b", "2"⟩]⟩ ∈ t.dirs.rows ∧
    ¬ ClonePlaced oneCluster (fun _ => cloneSources) "c1" "vol0=_=_=1=_=_=System=_=_=c1=_=_=directory"
      (dirEvents (createVolume oneCluster
        (cloneOf "vol0=_=_=1=_=_=System=_=_=c1=_=_=directory")) cloneSources)
      (vol.volumeContext.get "Path") := by
  refine ⟨_, _, rfl, by decide +kernel, by decide +kernel, by decide +kernel, ?_⟩
  rintro ⟨htarget, _⟩
  revert htarget
  decide +kernel

end Placement

end Controller

end CsiPowerscale
