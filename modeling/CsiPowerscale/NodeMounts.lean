import CsiPowerscale.Transport

namespace CsiPowerscale
open GoLib Effects Effects.Prog

namespace Node

theorem deviceOf_push (s : Node) (path target : Str) (opts : List Str) :
    (s.push ⟨s.deviceOf path, target, opts⟩).deviceOf path = s.deviceOf path := by
  by_cases h : target = path
  · simp [push, deviceOf, h]
  · simp [push, deviceOf, h]

theorem mountedAt_pop_eq_nil {s : Node} :
    (s.pop path).mountedAt path = [] ↔ (s.mountedAt path).length ≤ 1 := by
  obtain ⟨ms⟩ := s
  simp only [pop, mountedAt]
  induction ms with
  | nil => simp
  | cons m ms ih =>
    by_cases h : m.path = path
    · simp [h]
    · simpa [h] using ih

end Node

def NodeCall.Quiet : NodeCall → Prop
  | mount .. => False
  | unmount _ => False
  | removeAll _ => False
  | _ => True

theorem NodeCall.Quiet.serve (env : NodeEnv) (c : NodeCall) (s : Node) (h : c.Quiet) :
    ((node env).act c s).2 = s := by
  cases c <;> first | rfl | exact h.elim

namespace NodeService

variable {svc : Service} {hooks : NodeHooks} {env : NodeEnv} {s : Node}

theorem run_quiet (h : uses NodeCall.Quiet p) (env : NodeEnv) (s : Node) :
    (run (node env) p s).2 = s :=
  run_state_of_uses h fun c t hc => hc.serve env c t

theorem tryNodeRequest_quiet (c : NodeCall) (h : c.Quiet) :
    uses NodeCall.Quiet (tryNodeRequest c) :=
  (uses_ask c).2 h

theorem autoProbeWith_quiet (cfg : ClusterConfig) :
    uses NodeCall.Quiet (svc.autoProbeWith cfg (nodeRequest (.array .probe))) := by
  unfold Service.autoProbeWith
  split
  · trivial
  · split
    · trivial
    · exact (uses_op _).2 trivial

theorem checkVolume_quiet : uses NodeCall.Quiet (checkVolume svc path volName accessZone) := by
  unfold checkVolume
  split
  · refine uses_bind (tryNodeRequest_quiet _ trivial) fun r => ?_
    split <;> trivial
  · split
    · trivial
    · exact uses_bind ((uses_op _).2 trivial) fun _ => trivial

theorem validateMTLSPrerequisites_uses (h : U .tlsCapability) (tls target : Str) (opts : List Str) :
    uses U (validateMTLSPrerequisites svc tls target opts) := by
  unfold validateMTLSPrerequisites
  split
  · trivial
  refine uses_bind ((uses_op _).2 h) fun cap => ?_
  split
  · trivial
  split
  · trivial
  split
  · trivial
  · split <;> trivial

theorem validateMTLSPrerequisites_quiet :
    uses NodeCall.Quiet (validateMTLSPrerequisites svc tls target opts) :=
  validateMTLSPrerequisites_uses trivial tls target opts

theorem prepareVolume_quiet : uses NodeCall.Quiet (prepareVolume svc cfg req ctx cap mnt) := by
  refine uses_bind (uses_ofExcept _) fun x => ?_
  refine uses_bind checkVolume_quiet fun _ => ?_
  exact uses_bind validateMTLSPrerequisites_quiet fun _ => trivial

theorem applyFSGroup_quiet : uses NodeCall.Quiet (applyFSGroup svc stagingPath p) := by
  unfold applyFSGroup
  split
  · refine uses_bind (tryNodeRequest_quiet _ trivial) fun r => ?_
    split
    · trivial
    · split <;> trivial
  · trivial

theorem run_quiet_bind (hp : uses NodeCall.Quiet p) (h : run (node env) (p >>= f) s = (.ok b, s')) :
    ∃ a, run (node env) p s = (.ok a, s) ∧ run (node env) (f a) s = (.ok b, s') := by
  obtain ⟨a, t, ha, hf⟩ := run_bind_ok.1 h
  have ht : t = s := by simpa [ha] using run_quiet hp env s
  subst ht
  exact ⟨a, ha, hf⟩

theorem bind_mem_bindOptions (p : Publication) (readonly : Bool) :
    ("bind" : Str) ∈ bindOptions p readonly := by
  simp [bindOptions]

theorem publishStaged_pushes (h : run (node env) (publishStaged svc req p) s = (.ok (), s')) :
    ∃ opts, s' = s.push ⟨s.deviceOf req.stagingTargetPath, req.targetPath, opts⟩ := by
  obtain ⟨_, _, h⟩ := run_quiet_bind applyFSGroup_quiet h
  obtain ⟨r, _, h⟩ := run_quiet_bind (tryNodeRequest_quiet (.mkdir _) trivial) h
  cases r with
  | error e => simp at h
  | ok _ =>
    rw [run_bind] at h
    simp only [run_ask, node, NodeEnv.serve, bind_mem_bindOptions, if_true, run_ret,
      Prod.mk.injEq, true_and] at h
    exact ⟨_, h.symm⟩

def Persistent (req : NodePublishVolumeRequest) : Prop :=
  ∀ ctx, req.volumeContext = some ctx → ctx.get "csi.storage.k8s.io/ephemeral" ≠ ("true" : Str)

def Serves (svc : Service) (volumeID : Str) : Prop :=
  svc.Reaches (((parseNormalizedVolumeID volumeID).toOption.map VolumeID.clusterName).getD [])

theorem nodePublishVolume_staged (hstaged : req.stagingTargetPath ≠ []) (hp : Persistent req)
    (h : run (node env) (nodePublishVolume svc hooks req) s = (.ok (), s')) :
    Serves svc req.volumeID ∧
      ∃ opts, s' = s.push ⟨s.deviceOf req.stagingTargetPath, req.targetPath, opts⟩ := by
  unfold nodePublishVolume at h
  cases hctx : req.volumeContext with
  | none => simp [hctx] at h
  | some ctx =>
    cases hcap : req.volumeCapability with
    | none => simp [hctx, hcap] at h
    | some cap =>
      cases hmnt : cap.mount with
      | none => simp [hctx, hcap, hmnt] at h
      | some mnt =>
        simp only [hctx, hcap, hmnt, hp ctx hctx, decide_false, Bool.false_eq_true, if_false] at h
        obtain ⟨⟨name, cfg⟩, hcfg, h⟩ := run_quiet_bind (uses_ofExcept _) h
        obtain ⟨_, hprobe, h⟩ := run_quiet_bind (autoProbeWith_quiet cfg) h
        obtain ⟨p, _, h⟩ := run_quiet_bind prepareVolume_quiet h
        rw [if_pos hstaged] at h
        refine ⟨⟨name, cfg, ?_, ?_⟩, publishStaged_pushes h⟩
        · revert hcfg
          cases svc.getIsilonConfig
            (((parseNormalizedVolumeID req.volumeID).toOption.map VolumeID.clusterName).getD []) with
          | error e => simp
          | ok a => simp
        · by_contra hn
          simp only [not_or, Bool.not_eq_true] at hn
          simp [Service.autoProbeWith, hn] at hprobe

def Published (svc : Service) (hooks : NodeHooks) (req : NodePublishVolumeRequest) :
    List NodeEnv → Node → Node → Prop
  | [], s, s' => s' = s
  | env :: envs, s, s' =>
    ∃ t, run (node env) (nodePublishVolume svc hooks req) s = (.ok (), t) ∧
      Published svc hooks req envs t s'

theorem Published.serves (hne : envs ≠ []) (hstaged : req.stagingTargetPath ≠ [])
    (hp : Persistent req) (h : Published svc hooks req envs s s') : Serves svc req.volumeID := by
  cases envs with
  | nil => exact absurd rfl hne
  | cons env envs =>
    obtain ⟨t, ht, _⟩ := h
    exact (nodePublishVolume_staged hstaged hp ht).1

theorem Published.mounts {req : NodePublishVolumeRequest}
    (hstaged : req.stagingTargetPath ≠ []) (hp : Persistent req)
    (h : Published svc hooks req envs s s') :
    ∃ ms : List Mount, ms.length = envs.length ∧ s'.mounts = ms ++ s.mounts ∧
      ∀ m ∈ ms, m.device = s.deviceOf req.stagingTargetPath ∧ m.path = req.targetPath := by
  induction envs generalizing s with
  | nil => exact ⟨[], rfl, by rw [show s' = s from h]; rfl, by simp⟩
  | cons env envs ih =>
    obtain ⟨t, ht, hrest⟩ := h
    obtain ⟨_, opts, rfl⟩ := nodePublishVolume_staged hstaged hp ht
    obtain ⟨ms, hlen, hms, hall⟩ := ih hrest
    refine ⟨ms ++ [⟨s.deviceOf req.stagingTargetPath, req.targetPath, opts⟩], ?_, ?_, ?_⟩
    · simp [hlen]
    · simp [hms, Node.push]
    intro m hm
    rcases List.mem_append.1 hm with hm | hm
    · rw [Node.deviceOf_push] at hall
      exact hall m hm
    · obtain rfl := List.mem_singleton.1 hm
      exact ⟨rfl, rfl⟩

def volumeLabel (volumeID : Str) : Str :=
  match parseNormalizedVolumeID volumeID with
  | .ok v => if v.volName = [] then volumeID else v.volName
  | .error _ => volumeID

def snapshotRoot (accessZone : Str) : Str :=
  if accessZone = ("System" : Str) then "/ifs/.snapshot" else "/.snapshot"

/-- `NodeUnpublishVolume` may take a mount of the device for one of the volume: its name contains
the name of the volume, or the path of a snapshot that the array may report. -/
def Recognised (volumeID device : Str) : Prop :=
  contains device (volumeLabel volumeID) = true ∨
    ∃ v, parseNormalizedVolumeID volumeID = .ok v ∧ ¬(v.exportID = 0 ∧ v.accessZone = []) ∧
      contains device (snapshotRoot v.accessZone) = true

theorem isROVolumeFromSnapshot_snapshotRoot (z : Str) :
    isROVolumeFromSnapshot (snapshotRoot z) z = true := by
  by_cases h : z = ("System" : Str)
  · subst h
    decide
  · simp only [isROVolumeFromSnapshot, snapshotRoot, h, if_false]
    decide

theorem contains_snapshotRoot (h : isROVolumeFromSnapshot path z = true) :
    contains path (snapshotRoot z) = true := by
  unfold isROVolumeFromSnapshot at h
  unfold snapshotRoot
  split at h
  · rename_i hz
    rw [if_pos hz]
    exact contains_of_startsWith h
  · rename_i hz
    rw [if_neg hz]
    exact h

theorem ephemeralID_quiet : uses NodeCall.Quiet (ephemeralID volumeID targetPath) := by
  refine uses_bind (tryNodeRequest_quiet _ trivial) fun r => ?_
  split
  · trivial
  refine uses_bind (tryNodeRequest_quiet _ trivial) fun r => ?_
  split <;> trivial

theorem unpublishFilter_quiet : uses NodeCall.Quiet (unpublishFilter volumeID v) := by
  unfold unpublishFilter
  split
  · trivial
  split
  · trivial
  refine uses_bind (tryNodeRequest_quiet _ trivial) fun r => ?_
  split
  · split <;> trivial
  · trivial

theorem prepareUnpublish_quiet (req : NodeUnpublishVolumeRequest) :
    uses NodeCall.Quiet (prepareUnpublish svc req) := by
  unfold prepareUnpublish
  split
  · trivial
  refine uses_bind (uses_ofExcept _) fun x => ?_
  refine uses_bind (autoProbeWith_quiet _) fun _ => ?_
  refine uses_bind ephemeralID_quiet fun _ => ?_
  exact uses_bind unpublishFilter_quiet fun _ => trivial

theorem unpublishFilter_recognised
    (h : run (node env) (unpublishFilter volumeID (parseNormalizedVolumeID volumeID).toOption) s
      = (.ok f, s')) (hd : contains device f = true) : Recognised volumeID device := by
  unfold unpublishFilter at h
  cases hv : parseNormalizedVolumeID volumeID with
  | error e =>
    simp [hv, Except.toOption] at h
    left
    simpa [volumeLabel, hv, ← h.1] using hd
  | ok v =>
    have hlabel : volumeLabel volumeID = if v.volName = [] then volumeID else v.volName := by
      simp [volumeLabel, hv]
    simp only [hv, Except.toOption, Option.map_some, Option.getD_some, ← hlabel] at h
    split at h
    · simp at h
      left
      rw [h.1]
      exact hd
    rename_i hkey
    obtain ⟨r, _, h⟩ := run_quiet_bind (tryNodeRequest_quiet (.array _) trivial) h
    split at h
    · split at h
      · simp only [pure_eq, run_ret, Prod.mk.injEq, Except.ok.injEq] at h
        split at h
        · rename_i hro
          right
          refine ⟨v, hv, hkey, contains_trans ?_ (contains_snapshotRoot hro)⟩
          rw [h.1]
          exact hd
        · left
          rw [h.1]
          exact hd
      · simp at h
        left
        rw [h.1]
        exact hd
    · simp at h
      left
      rw [h.1]
      exact hd

theorem run_prepareUnpublish (h : run (node env) (prepareUnpublish svc req) s = (.ok x, s')) :
    run (node env) (unpublishFilter req.volumeID (parseNormalizedVolumeID req.volumeID).toOption) s =
      (.ok x.2, s) := by
  unfold prepareUnpublish at h
  split at h
  · simp at h
  obtain ⟨_, _, h⟩ := run_quiet_bind (uses_ofExcept _) h
  obtain ⟨_, _, h⟩ := run_quiet_bind (autoProbeWith_quiet _) h
  obtain ⟨_, _, h⟩ := run_quiet_bind ephemeralID_quiet h
  obtain ⟨f, hf, h⟩ := run_quiet_bind unpublishFilter_quiet h
  cases h
  exact hf

theorem prepareUnpublish_recognised
    (h : run (node env) (prepareUnpublish svc req) s = (.ok (ephemeral, f), s'))
    (hd : contains device f = true) : Recognised req.volumeID device :=
  unpublishFilter_recognised (run_prepareUnpublish h) hd

def calmEnv (array : (c : Call) → Except Err c.Reply) : NodeEnv where
  array := array
  tlsCapability := ⟨true, true⟩
  applyFSGroup := fun _ _ _ _ _ => .ok ()
  setVolumeGroupOwnershipByPath := fun _ _ _ _ => .ok true
  setVolumeGroupOwnershipRecursive := fun _ _ _ => .ok ()
  mkdir := fun _ => .ok ()
  getMounts := .ok ()
  removeAll := fun _ => .ok ()
  stat := fun _ => .error (.plain "no such file or directory")
  readFile := fun _ => .error (.plain "no such file or directory")
  getPowerScaleNodeID := .error (.plain "no node ID")
  controllerUnpublishVolume := fun _ _ => .ok ()
  deleteVolume := fun _ => .ok ()

def arrayWith (e : Option Export) : (c : Call) → Except Err c.Reply
  | .probe => .ok ()
  | .getVolume _ name => .ok ⟨name, 2⟩
  | .getExportByID _ _ => .ok e
  | _ => .error .panic

def exportOf (path zone : Str) : Export := ⟨0, [path], zone, [], [], [], [], [], []⟩

theorem prepareUnpublish_calm (hid : req.volumeID ≠ []) (hserves : Serves svc req.volumeID)
    (array : (c : Call) → Except Err c.Reply) (hprobe : array .probe = .ok ()) (s : Node) :
    ∃ ephemeral f, run (node (calmEnv array)) (prepareUnpublish svc req) s =
      (.ok (ephemeral, f), s) ∧ run (node (calmEnv array)) (unpublishFilter req.volumeID
        (parseNormalizedVolumeID req.volumeID).toOption) s = (.ok f, s) := by
  obtain ⟨name, cfg, hcfg, hready⟩ := hserves
  have hauto : run (node (calmEnv array))
      (svc.autoProbeWith cfg (nodeRequest (.array .probe))) s = (.ok (), s) := by
    unfold Service.autoProbeWith
    split
    · rfl
    · rename_i hsvc
      simp [hready.resolve_left hsvc, node, NodeEnv.serve, calmEnv, hprobe]
  have heph : run (node (calmEnv array)) (ephemeralID req.volumeID req.targetPath) s =
      (.ok none, s) := rfl
  have hfilter : ∃ f, run (node (calmEnv array)) (unpublishFilter req.volumeID
      (parseNormalizedVolumeID req.volumeID).toOption) s = (.ok f, s) := by
    unfold unpublishFilter
    split
    · exact ⟨_, rfl⟩
    split
    · exact ⟨_, rfl⟩
    rw [run_bind, run_ask]
    dsimp only
    split
    · split <;> exact ⟨_, rfl⟩
    · exact ⟨_, rfl⟩
  obtain ⟨f, hf⟩ := hfilter
  refine ⟨none, f, ?_, hf⟩
  unfold prepareUnpublish
  rw [if_neg hid]
  simp only [hcfg, ofExcept_ok, ret_bind, run_bind, hauto, heph, hf, pure_eq, run_ret]

theorem Recognised.exists_env (hid : req.volumeID ≠ []) (hserves : Serves svc req.volumeID)
    (h : Recognised req.volumeID device) (s : Node) :
    ∃ env : NodeEnv, env.getMounts = .ok () ∧ ∃ ephemeral f,
      run (node env) (prepareUnpublish svc req) s = (.ok (ephemeral, f), s) ∧
        contains device f = true := by
  rcases h with h | ⟨v, hv, hkey, h⟩
  · obtain ⟨e, f, hrun, hf⟩ := prepareUnpublish_calm hid hserves (arrayWith none) rfl s
    refine ⟨calmEnv (arrayWith none), rfl, e, f, hrun, ?_⟩
    have hlabel : f = volumeLabel req.volumeID := by
      unfold unpublishFilter at hf
      unfold volumeLabel
      cases hv : parseNormalizedVolumeID req.volumeID with
      | error e => simpa [hv, Except.toOption] using hf.symm
      | ok v =>
        simp only [hv, Except.toOption, Option.map_some, Option.getD_some] at hf
        split at hf <;> simpa [run_bind, node, NodeEnv.serve, calmEnv, arrayWith] using hf.symm
    rw [hlabel]
    exact h
  · let array := arrayWith (some (exportOf (snapshotRoot v.accessZone) v.accessZone))
    obtain ⟨e, f, hrun, hf⟩ := prepareUnpublish_calm hid hserves array rfl s
    refine ⟨calmEnv array, rfl, e, f, hrun, ?_⟩
    have hroot : f = snapshotRoot v.accessZone := by
      unfold unpublishFilter at hf
      simp only [hv, Except.toOption, if_neg hkey] at hf
      simpa [run_bind, node, NodeEnv.serve, calmEnv, array, arrayWith, exportOf,
        isROVolumeFromSnapshot_snapshotRoot] using hf.symm
    rw [hroot]
    exact h

/-- `RemoveAll` of the target path never runs while something is mounted there. -/
def UnpublishSafe (svc : Service) (env : NodeEnv) (req : NodeUnpublishVolumeRequest) (s : Node) :
    Prop :=
  ∀ t, (t, NodeCall.removeAll req.targetPath) ∈ calls (node env) (nodeUnpublishVolume svc req) s →
    t.mountedAt req.targetPath = []

theorem mem_calls_unpublishVolume :
    (t, NodeCall.removeAll target) ∈ calls (node env) (unpublishVolume target f) s ↔
      target ≠ [] ∧ env.getMounts = .ok () ∧ isVolumeMounted f target s.mounts = true ∧
        t = s.pop target := by
  unfold unpublishVolume
  by_cases ht : target = []
  · simp [ht]
  cases hm : env.getMounts with
  | error e => simp [ht, hm, calls_bind, node, NodeEnv.serve, Except.map]
  | ok _ =>
    by_cases hv : isVolumeMounted f target s.mounts = true
    · cases hr : env.removeAll target <;>
        simp [ht, hm, hv, hr, calls_bind, node, NodeEnv.serve, Except.map]
    · simp [ht, hm, hv, calls_bind, node, NodeEnv.serve, Except.map]

theorem ephemeralNodeUnpublish_uses :
    uses (fun c => c ≠ NodeCall.removeAll target) (ephemeralNodeUnpublish svc volumeID target) := by
  unfold ephemeralNodeUnpublish
  split
  · trivial
  refine uses_bind ((uses_op _).2 (by simp)) fun _ => ?_
  refine uses_bind ((uses_op _).2 (by simp)) fun _ => ?_
  refine uses_bind (uses_ofExcept _) fun v => ?_
  refine uses_ask_bind ?_ fun r => ?_
  · intro h
    injection h with h
    simpa using congrArg List.length h
  · split
    · trivial
    · exact (uses_op _).2 (by simp)

theorem ephemeralCleanup_quiet : (t, NodeCall.removeAll targetPath) ∉ calls (node env)
      (match volumeID with
        | some volumeID => ephemeralNodeUnpublish svc volumeID targetPath
        | none => ret ()) s := by
  intro ht
  cases volumeID with
  | none => simp at ht
  | some volumeID => exact calls_of_uses ephemeralNodeUnpublish_uses _ ht rfl

theorem mem_calls_nodeUnpublishVolume {req : NodeUnpublishVolumeRequest} :
    (t, NodeCall.removeAll req.targetPath) ∈ calls (node env) (nodeUnpublishVolume svc req) s ↔
      ∃ x, run (node env) (prepareUnpublish svc req) s = (.ok x, s) ∧
        (t, NodeCall.removeAll req.targetPath) ∈
          calls (node env) (unpublishVolume req.targetPath x.2) s := by
  have hprep : (t, NodeCall.removeAll req.targetPath) ∉
      calls (node env) (prepareUnpublish svc req) s := fun ht =>
    calls_of_uses (prepareUnpublish_quiet req) _ ht
  have hstate : (run (node env) (prepareUnpublish svc req) s).2 = s :=
    run_quiet (prepareUnpublish_quiet req) env s
  rw [nodeUnpublishVolume, calls_bind, List.mem_append, or_iff_right hprep]
  cases hrun : run (node env) (prepareUnpublish svc req) s with
  | mk r u =>
    obtain rfl : u = s := by simpa [hrun] using hstate
    cases r with
    | error e => simp
    | ok x =>
      simp only [calls_bind, List.mem_append, Prod.mk.injEq, Except.ok.injEq, and_true,
        exists_eq_left']
      refine or_iff_left ?_
      split
      · exact ephemeralCleanup_quiet
      · simp

theorem unpublishSafe_iff {req : NodeUnpublishVolumeRequest} : UnpublishSafe svc env req s ↔
    ∀ x, run (node env) (prepareUnpublish svc req) s = (.ok x, s) →
      req.targetPath ≠ [] → env.getMounts = .ok () →
        isVolumeMounted x.2 req.targetPath s.mounts = true →
          (s.mountedAt req.targetPath).length ≤ 1 := by
  simp only [UnpublishSafe, mem_calls_nodeUnpublishVolume, mem_calls_unpublishVolume]
  constructor
  · intro h x hx ht hm hv
    exact Node.mountedAt_pop_eq_nil.1 (h _ ⟨x, hx, ht, hm, hv, rfl⟩)
  · rintro h t ⟨x, hx, ht, hm, hv, rfl⟩
    exact Node.mountedAt_pop_eq_nil.2 (h x hx ht hm hv)

theorem isVolumeMounted_iff : isVolumeMounted f target ms = true ↔
      ∃ m ∈ ms, m.path = target ∧ contains m.device f = true := by
  simp only [isVolumeMounted, List.any_eq_true, Bool.and_eq_true, decide_eq_true_eq]
  exact exists_congr fun m => and_congr_right fun _ => and_comm

def publishVol1 : NodePublishVolumeRequest where
  volumeID := "vol1=_=_=1=_=_=System=_=_=c1"
  targetPath := "/pods/p1/mount"
  stagingTargetPath := "/staging/vol1"
  volumeCapability := some ⟨some ⟨"nfs", [], []⟩, some .multiNodeMultiWriter⟩
  volumeContext := some [("Path", "/ifs/data/vol1"), ("Name", "vol1"), ("AccessZone", "System"),
    ("AzServiceIP", "10.0.0.1")]
  readonly := false

def stagedVol1 : Node := ⟨[⟨"10.0.0.1:/ifs/data/vol1", "/staging/vol1", ["rw"]⟩]⟩

def noHooks : NodeHooks := ⟨fun _ => fail .panic, fun _ _ e => e⟩

def publishedVol1 (n : Nat) : Node :=
  ⟨List.replicate n ⟨"10.0.0.1:/ifs/data/vol1", "/pods/p1/mount", ["rw", "bind"]⟩ ++
    stagedVol1.mounts⟩

end NodeService

namespace NodeService

/-- What an entry of the mount table says about a direct mount, if it matters for it. -/
def mountVerdict (url target rwOption : Str) (mode : AccessMode) (m : Mount) :
    Option (Except Err Bool) :=
  if m.device = url then
    if m.path = target then
      some (if rwOption ∈ m.opts then .ok true else .error (.status .alreadyExists
        "Mount point already in use by device with different options"))
    else if isSingleNode mode then
      some (.error (.status .failedPrecondition "Mount point already in use for same device"))
    else none
  else none

variable {url target rwOption : Str} {mode : AccessMode}

theorem checkMounted_cons (m : Mount) (ms : List Mount) :
    checkMounted url target rwOption mode (m :: ms) =
      (mountVerdict url target rwOption mode m).getD (checkMounted url target rwOption mode ms) := by
  rw [checkMounted, mountVerdict]
  split
  · split
    · split <;> rfl
    · split <;> rfl
  · rfl

theorem checkMounted_eq (mounts : List Mount) : checkMounted url target rwOption mode mounts =
    (mounts.findSome? (mountVerdict url target rwOption mode)).getD (.ok false) := by
  induction mounts with
  | nil => rfl
  | cons m ms ih =>
    rw [checkMounted_cons, List.findSome?_cons, ih]
    cases mountVerdict url target rwOption mode m <;> rfl

theorem mountVerdict_ne : mountVerdict url target rwOption mode m ≠ some (.ok false) := by
  unfold mountVerdict
  split
  · split
    · split <;> simp
    · split <;> simp
  · simp

def Unanimous (url target rwOption : Str) (mode : AccessMode) (mounts : List Mount) : Prop :=
  ∀ m ∈ mounts, ∀ n ∈ mounts, ∀ a b, mountVerdict url target rwOption mode m = some a →
    mountVerdict url target rwOption mode n = some b → a = b

theorem Unanimous.findSome? {mounts : List Mount} (h : Unanimous url target rwOption mode mounts)
    (hm : m ∈ mounts) (ha : mountVerdict url target rwOption mode m = some a) :
    mounts.findSome? (mountVerdict url target rwOption mode) = some a := by
  cases hfind : mounts.findSome? (mountVerdict url target rwOption mode) with
  | none =>
    rw [List.findSome?_eq_none_iff.1 hfind m hm] at ha
    cases ha
  | some b =>
    obtain ⟨n, hn, hb⟩ := List.exists_of_findSome?_eq_some hfind
    rw [h n hn m hm b a hb ha]

theorem Unanimous.checkMounted_perm {others : List Mount}
    (h : Unanimous url target rwOption mode mounts) (hperm : others.Perm mounts) :
    checkMounted url target rwOption mode others = checkMounted url target rwOption mode mounts := by
  have hothers : Unanimous url target rwOption mode others := by
    intro m hm n hn
    exact h m (hperm.subset hm) n (hperm.subset hn)
  rw [checkMounted_eq, checkMounted_eq]
  cases hfind : mounts.findSome? (mountVerdict url target rwOption mode) with
  | none =>
    have hnone : others.findSome? (mountVerdict url target rwOption mode) = none := by
      apply List.findSome?_eq_none_iff.2
      intro m hm
      exact List.findSome?_eq_none_iff.1 hfind m (hperm.subset hm)
    rw [hnone]
  | some a =>
    obtain ⟨m, hm, ha⟩ := List.exists_of_findSome?_eq_some hfind
    rw [hothers.findSome? (hperm.symm.subset hm) ha]

theorem checkMounted_first (hm : m ∈ mounts)
    (ha : mountVerdict url target rwOption mode m = some a) :
    ∃ others : List Mount, others.Perm mounts ∧
      checkMounted url target rwOption mode others = a := by
  refine ⟨m :: mounts.erase m, (List.perm_cons_erase hm).symm, ?_⟩
  rw [checkMounted_eq, List.findSome?_cons, ha]
  rfl

section Publish

variable (env : NodeEnv) (req : NodePublishVolumeRequest) (p : Publication) (url : Str)

def rwOptionOf (req : NodePublishVolumeRequest) : Str := if req.readonly then "ro" else "rw"

def ReadsTable : Prop :=
  p.accessMode ≠ none ∧ req.targetPath ≠ [] ∧ env.mkdir req.targetPath = .ok () ∧
    env.getMounts = .ok ()

/-- The order of the mount table does not matter. -/
def OrderFree (s : Node) : Prop :=
  ∀ t : Node, t.mounts.Perm s.mounts →
    Alike (node env) (publishVolume req p url) t (publishVolume req p url) s

/-- A mount that is in place is not made again. -/
def KeepsMount (s : Node) : Prop :=
  ReadsTable env req p → (∃ m ∈ s.mounts, m.device = url ∧ m.path = req.targetPath ∧
    rwOptionOf req ∈ m.opts) → run (node env) (publishVolume req p url) s = (.ok (), s)

def TableAgrees (s : Node) : Prop :=
  ReadsTable env req p → ∀ mode, p.accessMode = some mode →
    Unanimous url req.targetPath (rwOptionOf req) mode s.mounts

def afterTable (mode : AccessMode) (mounts : List Mount) : NodeM Unit := do
  if !(← ofExcept (checkMounted url req.targetPath (rwOptionOf req) mode mounts)) then
    mountWithRetry url req.targetPath (publishOptions p req.readonly) 5

variable {env req p url}

theorem publishVolume_eq (hmode : p.accessMode = some mode) (htarget : req.targetPath ≠ []) :
    publishVolume req p url = (do
      match ← tryNodeRequest (.mkdir req.targetPath) with
      | .error e => fail (.status .failedPrecondition (sprintf ["Could not create '",
          req.targetPath, "': '", e.text, "'"]))
      | .ok _ =>
        match ← tryNodeRequest .getMounts with
        | .error e => fail (.status .internal (sprintf [
            "could not reliably determine existing mount status: '", e.text, "'"]))
        | .ok mounts => afterTable req p url mode mounts) := by
  unfold publishVolume
  rw [hmode]
  dsimp only
  rw [if_neg htarget]
  rfl

theorem alike_publishVolume
    (h : ReadsTable env req p → ∀ mode, p.accessMode = some mode → Alike (node env) (afterTable
      req p url mode t.mounts) t (afterTable req p url mode s.mounts) s) :
    Alike (node env) (publishVolume req p url) t (publishVolume req p url) s := by
  cases hmode : p.accessMode with
  | none =>
    unfold publishVolume
    rw [hmode]
    exact .fail _ t s
  | some mode =>
    by_cases htarget : req.targetPath = []
    · unfold publishVolume
      rw [hmode]
      dsimp only
      rw [if_pos htarget]
      exact .fail _ t s
    · rw [publishVolume_eq hmode htarget]
      have hmkdir (u : Node) : (node env).act (.mkdir req.targetPath) u =
        (env.mkdir req.targetPath, u) := rfl
      have hmounts (u : Node) : (node env).act .getMounts u =
        (env.getMounts.map fun _ => u.mounts, u) := rfl
      refine .call ?_ fun e => .fail _ t s
      rw [hmkdir, hmkdir]
      cases hmade : env.mkdir req.targetPath with
      | error e => exact .fail _ t s
      | ok _ =>
        refine .call ?_ fun e => .fail _ t s
        rw [hmounts, hmounts]
        cases hread : env.getMounts with
        | error e => exact .fail _ t s
        | ok _ => exact h ⟨by simp [hmode], htarget, hmade, hread⟩ mode hmode

theorem run_publishVolume (h : ReadsTable env req p) (hmode : p.accessMode = some mode) :
    run (node env) (publishVolume req p url) s =
      run (node env) (afterTable req p url mode s.mounts) s := by
  obtain ⟨-, htarget, hmkdir, hmounts⟩ := h
  have hmade : (node env).act (.mkdir req.targetPath) s = (.ok (), s) := by
    rw [← hmkdir]
    rfl
  have hread : (node env).act .getMounts s = (.ok s.mounts, s) := by
    show (env.getMounts.map fun _ => s.mounts, s) = _
    rw [hmounts]
    rfl
  rw [publishVolume_eq hmode htarget, run_ask_bind, hmade]
  dsimp only
  rw [run_ask_bind, hread]

theorem alike_afterTable (s t : Node)
    (h : checkMounted url req.targetPath (rwOptionOf req) mode others = checkMounted url
      req.targetPath (rwOptionOf req) mode mounts) :
    Alike (node env) (afterTable req p url mode others) t (afterTable req p url mode mounts) s := by
  unfold afterTable
  rw [h]
  apply alike_of_uses (U := fun c => ∀ s t, ((node env).act c s).1 = ((node env).act c t).1)
  · refine uses_bind (uses_ofExcept _) fun mounted => ?_
    split
    · exact (mountWithRetry_uses (fun _ _ => rfl) 5).2 fun _ _ => rfl
    · trivial
  · exact fun c s t hc => hc s t

theorem run_afterTable (h : checkMounted url req.targetPath (rwOptionOf req) mode mounts = a)
    (ha : a ≠ .ok false) :
    run (node env) (afterTable req p url mode mounts) s = (a.map fun _ => (), s) := by
  unfold afterTable
  rw [h]
  cases a with
  | error e => rfl
  | ok mounted =>
    cases mounted with
    | true => rfl
    | false => exact absurd rfl ha

/-- The order of the mount table does not matter, and a mount that is in place is kept, exactly if
the entries that matter agree. -/
theorem publishVolume_order_iff (s : Node) :
    OrderFree env req p url s ∧ KeepsMount env req p url s ↔ TableAgrees env req p url s := by
  apply Iff.intro
  · rintro ⟨hfree, -⟩ hreads mode hmode m hm n hn a b ha hb
    -- each of the two entries comes first in some order
    obtain ⟨first, hfirst, hcheck⟩ := checkMounted_first hm ha
    obtain ⟨second, hsecond, hcheck'⟩ := checkMounted_first hn hb
    have hne {x : Except Err Bool} {m : Mount}
        (hx : mountVerdict url req.targetPath (rwOptionOf req) mode m = some x) : x ≠ .ok false := by
      rintro rfl
      exact mountVerdict_ne hx
    have hsame := ((hfree ⟨first⟩ hfirst []).1).trans ((hfree ⟨second⟩ hsecond []).1).symm
    rw [exec_nil, exec_nil, run_publishVolume hreads hmode, run_publishVolume hreads hmode,
      run_afterTable hcheck (hne ha), run_afterTable hcheck' (hne hb)] at hsame
    cases a with
    | error e =>
      cases b with
      | error e' => exact congrArg _ (Except.error.inj hsame)
      | ok y => cases hsame
    | ok x =>
      cases b with
      | error e => cases hsame
      | ok y =>
        cases x with
        | false => exact absurd rfl (hne ha)
        | true =>
          cases y with
          | false => exact absurd rfl (hne hb)
          | true => rfl
  · intro h
    apply And.intro
    · intro t hperm
      apply alike_publishVolume
      intro hreads mode hmode
      exact alike_afterTable s t ((h hreads mode hmode).checkMounted_perm hperm)
    rintro hreads ⟨m, hm, hdevice, hpath, hopts⟩
    obtain ⟨mode, hmode⟩ := Option.ne_none_iff_exists'.1 hreads.1
    have hverdict : mountVerdict url req.targetPath (rwOptionOf req) mode m = some (.ok true) := by
      rw [mountVerdict, if_pos hdevice, if_pos hpath, if_pos hopts]
    have hcheck : checkMounted url req.targetPath (rwOptionOf req) mode s.mounts = .ok true := by
      rw [checkMounted_eq, (h hreads mode hmode).findSome? hm hverdict]
      rfl
    rw [run_publishVolume hreads hmode, run_afterTable hcheck (by simp)]
    rfl

end Publish

def mountedTwice : Node :=
  ⟨[⟨"nfs.example.com:/ifs/data/vol1", "/mnt/other", ["rw"]⟩,
    ⟨"nfs.example.com:/ifs/data/vol1", "/var/lib/kubelet/pods/p1/mount", ["rw"]⟩]⟩

def singlePublication : Publication := { mtlsPublication [] with accessMode := some .singleNodeWriter }

/-- The mount is in place, and whether the call says so depends on the order of the table. -/
theorem publishVolume_order_matters :
    run (node (calmEnv (arrayWith none))) (publishVolume publishRequest singlePublication
        "nfs.example.com:/ifs/data/vol1") mountedTwice =
      (.error (.status .failedPrecondition "Mount point already in use for same device"),
        mountedTwice) ∧
    run (node (calmEnv (arrayWith none))) (publishVolume publishRequest singlePublication
        "nfs.example.com:/ifs/data/vol1") ⟨mountedTwice.mounts.reverse⟩ =
      (.ok (), ⟨mountedTwice.mounts.reverse⟩) ∧
    ¬ (OrderFree (calmEnv (arrayWith none)) publishRequest singlePublication
        "nfs.example.com:/ifs/data/vol1" mountedTwice ∧
      KeepsMount (calmEnv (arrayWith none)) publishRequest singlePublication
        "nfs.example.com:/ifs/data/vol1" mountedTwice) := by
  refine ⟨by decide, by decide, ?_⟩
  rintro ⟨-, hkeeps⟩
  have hrun := hkeeps ⟨by decide, by decide, rfl, rfl⟩ (by decide)
  exact absurd hrun (by decide)

end NodeService

end CsiPowerscale
