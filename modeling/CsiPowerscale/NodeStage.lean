import CsiPowerscale.NodeMounts

namespace CsiPowerscale
open GoLib Effects Effects.Prog

structure NodeStageVolumeRequest where
  volumeID : Str
  stagingTargetPath : Str
  volumeCapability : Option NodeCapability
  volumeContext : Option Params
  deriving DecidableEq

structure NodeUnstageVolumeRequest where
  volumeID : Str
  stagingTargetPath : Str
  deriving DecidableEq

namespace NodeService

def stagedPath (volumeID : Str) (ctx : Params) : Except Err Str :=
  if isDirectoryBackedStage volumeID ctx then
    if ctx.get "SharedExportPath" = [] then
      .error (.status .failedPrecondition
        "SharedExportPath not found in VolumeContext for directory-backed volume")
    else if ctx.get "DirectoryPath" = [] then
      .error (.status .failedPrecondition
        "DirectoryPath not found in VolumeContext for directory-backed volume")
    else .ok (getPathForVolume (ctx.get "SharedExportPath") (ctx.get "DirectoryPath"))
  else if ctx.get "Path" = [] then
    .error (.status .failedPrecondition "Path not found in VolumeContext for export-backed volume")
  else .ok (ctx.get "Path")

def stageError (diagnose : Str → Str → Err → Option Err) (tls target : Str) (e : Err) : Err :=
  let other : Err := .status .internal
    (sprintf ["failed to mount volume at staging path: ", e.text])
  if isMTLSEnabled tls then (diagnose tls target e).getD other else other

def undoStage (req : NodeStageVolumeRequest) (e : Err) : NodeM Unit := do
  let _ ← attempt (unpublishVolume req.stagingTargetPath (volumeLabel req.volumeID))
  fail e

variable (svc : Service)

def applyStagedGroup (req : NodeStageVolumeRequest) (p : Publication) : NodeM Unit := do
  let fsGroup := p.mnt.volumeMountGroup
  if fsGroup ≠ [] then
    match parseInt64 fsGroup with
    | none => undoStage req (.status .invalidArgument
        (sprintf ["invalid fsGroup value '", fsGroup, "': ", atoiError fsGroup]))
    | some gid =>
      if p.directoryBacked then
        let shared := p.ctx.get "SharedExportPath"
        let directory := p.ctx.get "DirectoryPath"
        let isClone : Bool := p.ctx.get "NeedsRecursiveOwnership" = ("true" : Str)
        match ← tryNodeRequest (.setVolumeGroupOwnershipByPath shared directory gid isClone) with
        | .error e => undoStage req (.status .internal
            (sprintf ["failed to apply fsGroup ownership: ", e.text]))
        | .ok changed =>
          -- an error of the recursive change is only logged
          if isClone && changed then
            let _ ← tryNodeRequest (.setVolumeGroupOwnershipRecursive shared directory gid)
      else applyFSGroup svc req.stagingTargetPath p

def nodeStageVolume (diagnose : Str → Str → Err → Option Err) (req : NodeStageVolumeRequest) :
    NodeM Unit := do
  if req.volumeID = [] then fail (.status .invalidArgument "VolumeID is required")
  else if req.stagingTargetPath = [] then
    fail (.status .invalidArgument "StagingTargetPath is required")
  else
    match req.volumeCapability with
    | none => fail (.status .invalidArgument "VolumeCapability is required")
    | some cap =>
      match cap.mount with
      | none => fail (.status .invalidArgument "Invalid access type: mount capability required")
      | some mnt =>
        match req.volumeContext with
        | none => fail (.status .invalidArgument "VolumeContext is required")
        | some ctx =>
          let path ← ofExcept (stagedPath req.volumeID ctx)
          match svc.getIsilonConfig (ctx.get "ClusterName") with
          | .error e => fail (.status .internal (sprintf ["failed to get cluster config: ", e.text]))
          | .ok (_, cfg) =>
            let target := resolveMountTarget svc cfg ctx
            let tls := ctx.get "NFSTransportSecurity"
            validateMTLSPrerequisites svc tls target mnt.mountFlags
            let p : Publication := ⟨ctx, mnt, cap.accessMode, path,
              isDirectoryBackedStage req.volumeID ctx, target, tls⟩
            match ← attempt (publishVolume ⟨req.volumeID, req.stagingTargetPath, [],
                req.volumeCapability, req.volumeContext, false⟩ p (sprintf [target, ":", path])) with
            | .error e => fail (stageError diagnose tls target e)
            | .ok _ => applyStagedGroup svc req p

def nodeUnstageVolume (req : NodeUnstageVolumeRequest) : NodeM Unit := do
  if req.volumeID = [] then fail (.status .invalidArgument "VolumeID is required")
  else if req.stagingTargetPath = [] then
    fail (.status .invalidArgument "StagingTargetPath is required")
  else
    match ← attempt (unpublishVolume req.stagingTargetPath (volumeLabel req.volumeID)) with
    | .error e => fail (.status .internal (sprintf ["failed to unmount staging path: ", e.text]))
    | .ok _ => ret ()

end NodeService

theorem Node.mem_mountedAt {s : Node} :
    m ∈ s.mountedAt path ↔ m ∈ s.mounts ∧ m.path = path := by
  simp [mountedAt]

namespace NodeService

/-- A failed request mounts nothing. After a success a mount with `P` is at the path, which was there
before or is new. -/
def MountSpec (s : Node) (path : Str) (P : Mount → Prop) : Except Err Unit → Node → Prop
  | .ok _, t => ∃ m ∈ t.mountedAt path, P m ∧ (t = s ∨ t = s.push m)
  | .error _, t => t = s

theorem MountSpec.mono {P Q : Mount → Prop} (h : MountSpec s path P r t) (hP : ∀ m, P m → Q m) :
    MountSpec s path Q r t := by
  cases r with
  | error e => exact h
  | ok _ =>
    obtain ⟨m, hm, hp, ht⟩ := h
    exact ⟨m, hm, hP m hp, ht⟩

section Mounting

variable {svc : Service} {hooks : NodeHooks} {diagnose : Str → Str → Err → Option Err}
  {env : NodeEnv} {s : Node}

theorem wp_quiet_bind_of {Q : Except Err β → Node → Prop} (hp : uses NodeCall.Quiet p)
    (hv : yields V p) (herr : ∀ e, Q (.error e) s) (hf : ∀ a, V a → wp (node env) .any (f a) Q s) :
    wp (node env) .any (p >>= f) Q s := by
  have hkeep : wp (node env) .any p (fun _ t => t = s) s :=
    wp_of_uses hp (fun c t hc ht => (hc.serve env c t).trans ht) rfl
  rw [wp_bind]
  apply wp_mono (wp_and hkeep (wp_of_yields hv))
  rintro r t ⟨rfl, hr⟩
  cases r with
  | ok a => exact hf a (hr a rfl)
  | error e => exact herr e

theorem wp_quiet_bind {Q : Except Err β → Node → Prop} (hp : uses NodeCall.Quiet p)
    (herr : ∀ e, Q (.error e) s) (hf : ∀ a, wp (node env) .any (f a) Q s) :
    wp (node env) .any (p >>= f) Q s :=
  wp_bind_quiet hp (fun c t hc => hc.serve env c t) hf herr

theorem mountWithRetry_spec (url target : Str) (n : Nat) :
    wp (node env) .any (mountWithRetry url target opts n)
      (MountSpec s target fun m => ("bind" : Str) ∉ opts → m.device = url) s := by
  have hserved : MountSpec s target (fun m => ("bind" : Str) ∉ opts → m.device = url) (.ok ())
      ((node env).act (.mount url target "nfs" opts) s).2 := by
    refine ⟨_, Node.mem_mountedAt.2 ⟨List.mem_cons_self, rfl⟩, ?_, .inr rfl⟩
    intro hbind
    exact if_neg hbind
  induction n with
  | zero => exact (wp_op _ _).2 ⟨hserved, fun e _ => rfl⟩
  | succ n ih =>
    rw [mountWithRetry, wp_bind, wp_ask]
    refine ⟨hserved, fun e _ => ?_⟩
    rw [andThen_ok]
    dsimp only
    split
    · apply wp_quiet_bind ((uses_op NodeCall.sleep).2 trivial) (fun _ => rfl)
      intro _
      exact ih
    · exact rfl

theorem checkMounted_has (h : checkMounted url target rw mode ms = .ok true) :
    ∃ m ∈ ms, m.path = target ∧ m.device = url := by
  induction ms with
  | nil => cases h
  | cons m ms ih =>
    have hrest : checkMounted url target rw mode ms = .ok true →
        ∃ m' ∈ m :: ms, m'.path = target ∧ m'.device = url := by
      intro h
      obtain ⟨m', hm', hm⟩ := ih h
      exact ⟨m', List.mem_cons_of_mem _ hm', hm⟩
    rw [checkMounted] at h
    split at h
    · rename_i hdev
      split at h
      · rename_i hpath
        exact ⟨m, List.mem_cons_self, hpath, hdev⟩
      · split at h
        · cases h
        · exact hrest h
    · exact hrest h

theorem getMounts_answer (h : ((node env).act .getMounts s).1 = .ok mounts) :
    mounts = s.mounts := by
  cases hread : env.getMounts with
  | error e => simp [node, NodeEnv.serve, hread, Except.map] at h
  | ok _ =>
    simp only [node, NodeEnv.serve, hread, Except.map, Except.ok.injEq] at h
    exact h.symm

theorem publishVolume_spec (req : NodePublishVolumeRequest) (p : Publication) :
    wp (node env) .any (publishVolume req p url) (MountSpec s req.targetPath fun m =>
      ("bind" : Str) ∉ p.mnt.mountFlags → m.device = url) s := by
  unfold publishVolume
  split
  · exact rfl
  rename_i mode _
  extract_lets opts rwOption
  have hopts : ("bind" : Str) ∉ p.mnt.mountFlags → ("bind" : Str) ∉ opts ++ [rwOption] := by
    intro hbind
    simp only [opts, rwOption]
    split <;> split <;> simp [hbind] <;> decide
  split
  · exact rfl
  apply wp_quiet_bind (tryNodeRequest_quiet (.mkdir _) trivial) (fun _ => rfl)
  intro r
  split
  · exact rfl
  rw [wp_bind, wp_ask]
  refine ⟨?_, fun e _ => rfl⟩
  simp only [andThen_ok, NodeCall.Quiet.serve env .getMounts s trivial]
  split
  · exact rfl
  rename_i mounts hmounts
  obtain rfl := getMounts_answer hmounts
  cases hc : checkMounted url req.targetPath rwOption mode s.mounts with
  | error e => exact rfl
  | ok inPlace =>
    cases inPlace with
    | true =>
      obtain ⟨m, hm, hpath, hdev⟩ := checkMounted_has hc
      exact ⟨m, Node.mem_mountedAt.2 ⟨hm, hpath⟩, fun _ => hdev, .inl rfl⟩
    | false =>
      apply wp_mono (mountWithRetry_spec url req.targetPath 5)
      intro r t ht
      exact ht.mono fun m hdev hbind => hdev (hopts hbind)

def NoBind (cap : Option NodeCapability) : Prop :=
  ∀ c mnt, cap = some c → c.mount = some mnt → ("bind" : Str) ∉ mnt.mountFlags

def StageDevice (svc : Service) (req : NodeStageVolumeRequest) (device : Str) : Prop :=
  ∃ ctx name cfg path, req.volumeContext = some ctx ∧
    svc.getIsilonConfig (ctx.get "ClusterName") = .ok (name, cfg) ∧
    stagedPath req.volumeID ctx = .ok path ∧
    device = sprintf [resolveMountTarget svc cfg ctx, ":", path]

def PublishDevice (svc : Service) (req : NodePublishVolumeRequest) (s : Node) (device : Str) : Prop :=
  if req.stagingTargetPath ≠ [] then device = s.deviceOf req.stagingTargetPath
  else ∃ ctx name cfg path volName, req.volumeContext = some ctx ∧ svc.getIsilonConfig
      (((parseNormalizedVolumeID req.volumeID).toOption.map VolumeID.clusterName).getD []) =
        .ok (name, cfg) ∧
    locateVolume svc req ctx = .ok (path, volName) ∧
    device = sprintf [resolveMountTarget svc cfg ctx, ":", path]

theorem publishStaged_spec (req : NodePublishVolumeRequest) (p : Publication) :
    wp (node env) .any (publishStaged svc req p)
      (MountSpec s req.targetPath fun m => m.device = s.deviceOf req.stagingTargetPath) s := by
  apply wp_quiet_bind applyFSGroup_quiet (fun _ => rfl)
  intro _
  apply wp_quiet_bind (tryNodeRequest_quiet (.mkdir _) trivial) (fun _ => rfl)
  intro r
  split
  · exact rfl
  rw [wp_bind, wp_ask]
  refine ⟨?_, fun e _ => rfl⟩
  simp only [node, NodeEnv.serve, bind_mem_bindOptions, if_true, andThen_ok, wp_ret]
  exact ⟨_, Node.mem_mountedAt.2 ⟨List.mem_cons_self, rfl⟩, rfl, .inr rfl⟩

theorem prepareVolume_yields : yields (fun p =>
      (∃ volName, locateVolume svc req ctx = .ok (p.path, volName)) ∧ p.mnt = mnt ∧
        p.mountTarget = resolveMountTarget svc cfg ctx) (prepareVolume svc cfg req ctx cap mnt) := by
  apply yields_bind (yields_ofExcept _)
  intro x hx
  apply yields_bind_any
  intro _
  apply yields_bind_any
  intro _
  exact ⟨⟨x.2, hx⟩, rfl, rfl⟩

theorem nodePublishVolume_spec {req : NodePublishVolumeRequest} (hp : Persistent req) :
    wp (node env) .any (nodePublishVolume svc hooks req) (MountSpec s req.targetPath fun m =>
      ∀ device, PublishDevice svc req s device → NoBind req.volumeCapability →
        m.device = device) s := by
  unfold nodePublishVolume
  split
  · exact rfl
  rename_i ctx hctx
  split
  · exact rfl
  rename_i cap hcap
  split
  · exact rfl
  rename_i mnt hmnt
  simp only [hp ctx hctx, decide_false, Bool.false_eq_true, if_false]
  apply wp_quiet_bind_of (uses_ofExcept _) (yields_ofExcept _) (fun _ => rfl)
  rintro ⟨name, cfg⟩ hcfg
  apply wp_quiet_bind (autoProbeWith_quiet cfg) (fun _ => rfl)
  intro _
  apply wp_quiet_bind_of prepareVolume_quiet prepareVolume_yields (fun _ => rfl)
  rintro p ⟨⟨volName, hlocate⟩, hpmnt, hptarget⟩
  split
  · rename_i hstaged
    apply wp_mono (publishStaged_spec req p)
    intro r t ht
    refine ht.mono fun m hdev device hd _ => ?_
    rw [PublishDevice, if_pos hstaged] at hd
    rw [hdev, hd]
  · rename_i hdirect
    rw [wp_bind, wp_attempt]
    apply wp_mono (publishVolume_spec req p)
    intro r t ht
    cases r with
    | error e => exact ht
    | ok _ =>
      refine ht.mono fun m hdev device hd hbind => ?_
      rw [PublishDevice, if_neg hdirect] at hd
      obtain ⟨ctx', name', cfg', path, volName', hctx', hcfg', hlocate', rfl⟩ := hd
      cases hctx.symm.trans hctx'
      cases hcfg.symm.trans hcfg'
      cases hlocate.symm.trans hlocate'
      rw [← hptarget]
      apply hdev
      rw [hpmnt]
      exact hbind cap mnt hcap hmnt

theorem applyStagedGroup_gives (req : NodeStageVolumeRequest) (p : Publication) :
    gives (node env) .any (applyStagedGroup svc req p) (fun _ t => t = s) s := by
  have hundo (e : Err) : gives (node env) .any (undoStage req e) (fun _ t => t = s) s :=
    gives_bind_any fun _ _ => trivial
  have hquiet {α : Type} {q : NodeM α} (hq : uses NodeCall.Quiet q) :
      gives (node env) .any q (fun _ t => t = s) s :=
    gives_state (wp_of_uses hq (fun c t hc ht => (hc.serve env c t).trans ht) rfl)
  unfold applyStagedGroup
  dsimp only
  split
  · split
    · exact hundo _
    split
    · refine gives_bind (hquiet (tryNodeRequest_quiet _ trivial)) ?_
      rintro r t rfl
      split
      · exact hundo _
      · split
        · exact gives_bind (hquiet (tryNodeRequest_quiet _ trivial)) fun _ _ ht => ht
        · exact rfl
    · exact hquiet applyFSGroup_quiet
  · exact rfl

/-- Which device a successful request to stage a volume has mounted. -/
theorem nodeStageVolume_gives {req : NodeStageVolumeRequest} (hd : StageDevice svc req device)
    (hbind : NoBind req.volumeCapability) :
    gives (node env) .any (nodeStageVolume svc diagnose req)
      (fun r t => MountSpec s req.stagingTargetPath (fun m => m.device = device) (.ok r) t) s := by
  obtain ⟨ctx, name, cfg, path, hctx, hcfg, hpath, rfl⟩ := hd
  unfold nodeStageVolume
  split
  · trivial
  split
  · trivial
  split
  · trivial
  rename_i cap hcap
  split
  · trivial
  rename_i mnt hmnt
  simp only [hctx, hpath, hcfg, ofExcept_ok, ret_bind]
  apply gives_bind_quiet validateMTLSPrerequisites_quiet fun c t hc => hc.serve env c t
  intro _
  apply gives_attempt_bind (publishVolume_spec _ _)
  intro r t ht
  cases r with
  | error e => trivial
  | ok _ =>
    apply gives_mono (applyStagedGroup_gives req _)
    rintro _ u rfl
    exact ht.mono fun m hdev => hdev (hbind cap mnt hcap hmnt)

end Mounting

end NodeService

namespace Node

theorem mountedAt_pop (s : Node) (path : Str) :
    (s.pop path).mountedAt path = (s.mountedAt path).tail := by
  obtain ⟨ms⟩ := s
  simp only [pop, mountedAt]
  induction ms with
  | nil => rfl
  | cons m ms ih =>
    by_cases h : m.path = path
    · simp [h]
    · simpa [h] using ih

def Has (s : Node) (path device : Str) : Prop := ∃ m ∈ s.mountedAt path, m.device = device

instance (s : Node) (path device : Str) : Decidable (s.Has path device) :=
  inferInstanceAs (Decidable (∃ m ∈ s.mountedAt path, m.device = device))

end Node

def NodeCall.KeepsMounts : NodeCall → Prop
  | mount .. => False
  | unmount _ => False
  | _ => True

theorem NodeCall.KeepsMounts.serve (env : NodeEnv) (c : NodeCall) (s : Node) (h : c.KeepsMounts) :
    ((node env).act c s).2 = s := by
  cases c <;> first | rfl | exact h.elim

inductive NodeCommand
  | stage (req : NodeStageVolumeRequest)
  | publish (req : NodePublishVolumeRequest)
  | unstage (req : NodeUnstageVolumeRequest)
  | unpublish (req : NodeUnpublishVolumeRequest)

inductive Removal
  | unstage
  | unpublish
  deriving DecidableEq

namespace NodeService

def perform (svc : Service) (hooks : NodeHooks) (diagnose : Str → Str → Err → Option Err) :
    NodeCommand → NodeM Unit
  | .stage req => nodeStageVolume svc diagnose req
  | .publish req => nodePublishVolume svc hooks req
  | .unstage req => nodeUnstageVolume req
  | .unpublish req => nodeUnpublishVolume svc req

variable (svc : Service) (hooks : NodeHooks) (diagnose : Str → Str → Err → Option Err)
  (volumeID path device : Str) in
/-- A history to `s` in which the device was mounted at the path for the volume; afterwards the
service may have served any requests, and anything may have happened at other paths. -/
inductive Attached : Node → Prop
  | staged {req : NodeStageVolumeRequest} : req.volumeID = volumeID →
      req.stagingTargetPath = path → StageDevice svc req device →
      Outcome (node env) .any (nodeStageVolume svc diagnose req) s (.ok ()) s' →
      Attached s'
  | published {req : NodePublishVolumeRequest} : req.volumeID = volumeID →
      req.targetPath = path → Persistent req → PublishDevice svc req s device →
      Outcome (node env) .any (nodePublishVolume svc hooks req) s (.ok ()) s' →
      Attached s'
  | served (c : NodeCommand) : Attached s →
      Outcome (node env) .any (perform svc hooks diagnose c) s r s' →
      Attached s'
  | elsewhere : Attached s →
      s'.mountedAt path = s.mountedAt path → Attached s'

def remove (svc : Service) (volumeID path : Str) : Removal → NodeM Unit
  | .unstage => nodeUnstageVolume ⟨volumeID, path⟩
  | .unpublish => nodeUnpublishVolume svc ⟨volumeID, path⟩

def exportFilter (accessZone label : Str) : Except Err (Option Export) → Str
  | .ok (some e) =>
    match e.paths with
    | path :: _ => if isROVolumeFromSnapshot path accessZone then path else label
    | [] => label
  | _ => label

def removalFilter (env : NodeEnv) (volumeID : Str) : Removal → Str
  | .unstage => volumeLabel volumeID
  | .unpublish =>
    match parseNormalizedVolumeID volumeID with
    | .ok v =>
      if v.exportID = 0 ∧ v.accessZone = [] then volumeLabel volumeID
      else exportFilter v.accessZone (volumeLabel volumeID)
        (env.array (.getExportByID v.exportID v.accessZone))
    | .error _ => volumeLabel volumeID

variable {svc : Service} {hooks : NodeHooks} {diagnose : Str → Str → Err → Option Err}
  {env : NodeEnv} {s s' : Node} {volumeID path device : Str}

theorem run_unpublishFilter (volumeID : Str) (s : Node) :
    run (node env) (unpublishFilter volumeID (parseNormalizedVolumeID volumeID).toOption) s =
      (.ok (removalFilter env volumeID .unpublish), s) := by
  unfold unpublishFilter removalFilter volumeLabel
  cases parseNormalizedVolumeID volumeID with
  | error e => rfl
  | ok v =>
    simp only [Except.toOption, Option.map_some, Option.getD_some]
    split
    · rfl
    rw [run_ask_bind]
    simp only [node, NodeEnv.serve]
    cases env.array (.getExportByID v.exportID v.accessZone) with
    | error e => rfl
    | ok found =>
      cases found with
      | none => rfl
      | some e =>
        cases hpaths : e.paths <;> simp only [exportFilter, hpaths] <;> rfl

theorem prepareUnpublish_filter (h : run (node env) (prepareUnpublish svc req) s = (.ok x, s')) :
    x.2 = removalFilter env req.volumeID .unpublish := by
  have hf := run_prepareUnpublish h
  rw [run_unpublishFilter] at hf
  exact (Except.ok.inj (Prod.mk.inj hf).1).symm

def unpublished (s : Node) (path f : Str) : Node :=
  if isVolumeMounted f path s.mounts then s.pop path else s

theorem run_unpublishVolume (h : run (node env) (unpublishVolume path f) s = (.ok (), s')) :
    s' = unpublished s path f := by
  unfold unpublishVolume at h
  unfold unpublished
  split at h
  · simp at h
  rw [run_ask_bind] at h
  cases hread : env.getMounts with
  | error e => simp [node, NodeEnv.serve, hread, Except.map] at h
  | ok _ =>
    simp only [node, NodeEnv.serve, hread, Except.map] at h
    split at h
    · rename_i hmounted
      rw [if_pos hmounted]
      rw [run_ask_bind] at h
      simp only [NodeEnv.serve] at h
      rw [run_ask_bind] at h
      simp only [NodeEnv.serve] at h
      split at h
      · simp at h
      · cases h
        rfl
    · rename_i hmounted
      rw [if_neg hmounted]
      cases h
      rfl

theorem ephemeralNodeUnpublish_keepsMounts :
    uses NodeCall.KeepsMounts (ephemeralNodeUnpublish svc volumeID target) := by
  unfold ephemeralNodeUnpublish
  split
  · trivial
  apply uses_bind ((uses_op _).2 trivial)
  intro _
  apply uses_bind ((uses_op _).2 trivial)
  intro _
  apply uses_bind (uses_ofExcept _)
  intro v
  refine uses_ask_bind trivial fun r => ?_
  split
  · trivial
  · exact (uses_op _).2 trivial

theorem run_remove (r : Removal)
    (h : run (node env) (remove svc volumeID path r) s = (.ok (), s')) :
    s' = unpublished s path (removalFilter env volumeID r) := by
  cases r with
  | unstage =>
    rw [remove, nodeUnstageVolume] at h
    split at h
    · simp at h
    split at h
    · simp at h
    rw [run_bind, run_attempt] at h
    cases hrun : run (node env) (unpublishVolume path (volumeLabel volumeID)) s with
    | mk r t =>
      cases r with
      | error e => simp [hrun] at h
      | ok _ =>
        simp only [hrun, run_ret, Prod.mk.injEq, true_and] at h
        rw [← h]
        exact run_unpublishVolume hrun
  | unpublish =>
    rw [remove, nodeUnpublishVolume] at h
    obtain ⟨x, hx, h⟩ := run_quiet_bind (prepareUnpublish_quiet _) h
    obtain ⟨_, t, ht, h⟩ := run_bind_ok.1 h
    rw [prepareUnpublish_filter hx] at ht
    rw [← run_unpublishVolume ht]
    split at h
    · rename_i id _
      have hkeep : (run (node env) (ephemeralNodeUnpublish svc id path) t).2 = t :=
        run_state_of_uses ephemeralNodeUnpublish_keepsMounts fun c u hc => hc.serve env c u
      rw [h] at hkeep
      exact hkeep
    · cases h
      rfl

/-- The volume has just been staged, with this device, at a path where nothing was mounted. -/
def JustStaged (svc : Service) (diagnose : Str → Str → Err → Option Err) (volumeID path device : Str)
    (s : Node) : Prop :=
  ∃ req env before, req.volumeID = volumeID ∧ req.stagingTargetPath = path ∧
    StageDevice svc req device ∧ NoBind req.volumeCapability ∧ before.mountedAt path = [] ∧
    Outcome (node env) .any (nodeStageVolume svc diagnose req) before (.ok ()) s

theorem JustStaged.mountedAt (h : JustStaged svc diagnose volumeID path device s) :
    ∃ m, s.mountedAt path = [m] ∧ m.device = device := by
  obtain ⟨req, env, before, -, rfl, hd, hbind, hfree, hstage⟩ := h
  obtain ⟨m, hm, hdev, rfl | rfl⟩ := (nodeStageVolume_gives hd hbind).outcome hstage
  · rw [hfree] at hm
    cases hm
  · refine ⟨m, ?_, hdev⟩
    have hpath := (Node.mem_mountedAt.1 hm).2
    rw [Node.mountedAt] at hfree
    rw [Node.mountedAt, Node.push, List.filter_cons_of_pos (by simpa using hpath), hfree]

/-- The device is not at the path, or it is only on top there and some mount at the path has a device
with the text `f`. -/
def Detachable (s : Node) (path device f : Str) : Prop :=
  ¬ s.Has path device ∨ (∃ m ∈ s.mountedAt path, contains m.device f = true) ∧
    ∀ m ∈ (s.mountedAt path).tail, m.device ≠ device

theorem isVolumeMounted_iff_mountedAt : isVolumeMounted f path s.mounts = true ↔
    ∃ m ∈ s.mountedAt path, contains m.device f = true := by
  rw [isVolumeMounted_iff]
  simp only [Node.mem_mountedAt, and_assoc]

theorem unpublished_has_iff :
    ¬ (unpublished s path f).Has path device ↔ Detachable s path device f := by
  unfold unpublished Detachable
  split
  · rename_i hmounted
    have htail : (∀ m ∈ (s.mountedAt path).tail, m.device ≠ device) ↔
        ¬ (s.pop path).Has path device := by
      simp only [Node.Has, Node.mountedAt_pop, not_exists, not_and, ne_eq]
    rw [htail, and_iff_right (isVolumeMounted_iff_mountedAt.1 hmounted)]
    constructor
    · exact Or.inr
    · rintro (hnone | h)
      · rintro ⟨m, hm, hdev⟩
        rw [Node.mountedAt_pop] at hm
        exact hnone ⟨m, List.mem_of_mem_tail hm, hdev⟩
      · exact h
  · rename_i hmounted
    rw [isVolumeMounted_iff_mountedAt] at hmounted
    constructor
    · exact Or.inl
    · rintro (hnone | ⟨hsome, _⟩)
      · exact hnone
      · exact absurd hsome hmounted

/-- After a successful removal no mount of the volume is left at the path exactly when, for every
device with which it was mounted there, a mount at the path was recognised and the device was only
on top (or gone before). What was just staged at a free path is left unless its device has the text
that the removal looks for; a path that ends with that text, as those of export-backed and of
directory-backed volumes do, has it. -/
theorem remove_leaves_none_iff (r : Removal)
    (h : run (node env) (remove svc volumeID path r) s = (.ok (), s')) :
    ((∀ device, Attached svc hooks diagnose volumeID path device s → ¬ s'.Has path device) ↔
      ∀ device, Attached svc hooks diagnose volumeID path device s →
        Detachable s path device (removalFilter env volumeID r)) ∧
    ∀ device, JustStaged svc diagnose volumeID path device s →
      (s'.mountedAt path = [] ↔ contains device (removalFilter env volumeID r) = true) ∧
      ∀ host base name, device = sprintf [host, ":", getPathForVolume base name] → Rooted base →
        Plain name → removalFilter env volumeID r = name → s'.mountedAt path = [] := by
  rw [run_remove r h]
  refine ⟨forall₂_congr fun device _ => unpublished_has_iff, fun device hstaged => ?_⟩
  obtain ⟨m, hm, rfl⟩ := hstaged.mountedAt
  have hiff (f : Str) : (unpublished s path f).mountedAt path = [] ↔ contains m.device f = true := by
    have hmounted : isVolumeMounted f path s.mounts = true ↔ contains m.device f = true := by
      rw [isVolumeMounted_iff_mountedAt, hm]
      simp
    unfold unpublished
    split
    · next h => exact iff_of_true (by rw [Node.mountedAt_pop, hm]; rfl) (hmounted.1 h)
    · next h => exact iff_of_false (by simp [hm]) (mt hmounted.2 h)
  refine ⟨hiff _, fun host base name hdev hbase hname hfilter => (hiff _).2 ?_⟩
  rw [hfilter, hdev, getPathForVolume_plain hbase hname]
  exact contains_iff.2 ⟨host ++ ":" ++ absBase (resolve true [] (segments base)), [], by simp [sprintf]⟩

def stageVol1 : NodeStageVolumeRequest :=
  ⟨publishVol1.volumeID, "/staging/vol1", publishVol1.volumeCapability, publishVol1.volumeContext⟩

def noDiagnosis : Str → Str → Err → Option Err := fun _ _ _ => none

theorem remove_leaves_none_vol1 :
    Attached oneCluster noHooks noDiagnosis stageVol1.volumeID "/staging/vol1"
        "10.0.0.1:/ifs/data/vol1" stagedVol1 ∧
      run (node (calmEnv (arrayWith none)))
        (remove oneCluster stageVol1.volumeID "/staging/vol1" .unstage) stagedVol1 = (.ok (), ⟨[]⟩) ∧
      ∀ device, Attached oneCluster noHooks noDiagnosis stageVol1.volumeID "/staging/vol1" device
        stagedVol1 → ¬ (⟨[]⟩ : Node).Has "/staging/vol1" device := by
  have hstage : run (node (calmEnv (arrayWith none)))
      (nodeStageVolume oneCluster noDiagnosis stageVol1) ⟨[]⟩ = (.ok (), stagedVol1) := by
    decide
  have hremove : run (node (calmEnv (arrayWith none)))
      (remove oneCluster stageVol1.volumeID "/staging/vol1" .unstage) stagedVol1 =
        (.ok (), ⟨[]⟩) := by
    decide
  refine ⟨.staged rfl rfl ⟨_, _, _, _, rfl, rfl, rfl, by decide⟩ (.of_run hstage), hremove, ?_⟩
  apply (remove_leaves_none_iff .unstage hremove).1.2
  intro device _
  exact .inr ⟨by decide, by simp [stagedVol1, Node.mountedAt]⟩

def stageRO : NodeStageVolumeRequest where
  volumeID := "ro1=_=_=7=_=_=System=_=_=c1"
  stagingTargetPath := "/staging/ro1"
  volumeCapability := publishVol1.volumeCapability
  volumeContext := some [("Path", "/ifs/.snapshot/snap1/data/vol0"), ("Name", "ro1"),
    ("AccessZone", "System"), ("AzServiceIP", "10.0.0.1")]

def stagedRO : Node := ⟨[⟨"10.0.0.1:/ifs/.snapshot/snap1/data/vol0", "/staging/ro1", ["rw"]⟩]⟩

/-- The device of such a volume does not have the volume's name: `NodeUnstageVolume`, and
`NodeUnpublishVolume` when the array reports no export, succeed and unmount nothing. -/
theorem remove_leaves_snapshot :
    Attached oneCluster noHooks noDiagnosis stageRO.volumeID "/staging/ro1"
        "10.0.0.1:/ifs/.snapshot/snap1/data/vol0" stagedRO ∧
      (∀ r, run (node (calmEnv (arrayWith none))) (remove oneCluster stageRO.volumeID "/staging/ro1" r)
        stagedRO = (.ok (), stagedRO)) ∧
      stagedRO.Has "/staging/ro1" "10.0.0.1:/ifs/.snapshot/snap1/data/vol0" := by
  have hstage : run (node (calmEnv (arrayWith none)))
      (nodeStageVolume oneCluster noDiagnosis stageRO) ⟨[]⟩ = (.ok (), stagedRO) := by
    decide
  refine ⟨.staged rfl rfl ⟨_, _, _, _, rfl, rfl, rfl, by decide⟩ (.of_run hstage), ?_, by decide⟩
  intro r
  cases r <;> decide

end NodeService

end CsiPowerscale
