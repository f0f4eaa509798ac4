import CsiPowerscale.EphemeralVolumes
import CsiPowerscale.NodeStage

namespace CsiPowerscale
open GoLib Effects Effects.Prog

structure HostFile where
  device : Str
  path : List Str
  content : Option Str
  deriving DecidableEq

structure Host where
  node : Node
  files : List HostFile
  volumes : List Str
  grants : List (Str × Str)
  deriving DecidableEq

def pathParts (p : Str) : List Str := resolve true [] (segments p)

namespace Host

def locate (s : Host) (p : Str) : Str × List Str :=
  match s.node.mounts.find? fun m => (pathParts m.path).isPrefixOf (pathParts p) with
  | some m => (m.device, (pathParts p).drop (pathParts m.path).length)
  | none => ([], pathParts p)

def find (s : Host) (p : Str) : Option HostFile :=
  s.files.find? fun f => (f.device, f.path) = s.locate p

def contentAt (s : Host) (p : Str) : Option Str := (s.find p).bind HostFile.content

def write (s : Host) (p : Str) (content : Option Str) : Host :=
  let l := s.locate p
  { s with files := ⟨l.1, l.2, content⟩ :: s.files.filter fun f => (f.device, f.path) ≠ l }

def removeAll (s : Host) (p : Str) : Host :=
  let l := s.locate p
  { s with files := s.files.filter fun f => !(f.device == l.1 && l.2.isPrefixOf f.path) }

def deleteVolume (s : Host) (volumeID : Str) : Host :=
  { s with volumes := s.volumes.filter fun v => v ≠ volumeID }

def revoke (s : Host) (volumeID nodeID : Str) : Host :=
  { s with grants := s.grants.filter fun g => g ≠ (volumeID, nodeID) }

end Host

def Host.serve (env : NodeEnv) : (c : NodeCall) → Host → Except Err c.Reply × Host
  | .stat p, s =>
    match env.stat p with
    | .error e => (.error e, s)
    | .ok _ =>
      if (s.find p).isSome then (.ok (), s) else (.error (.plain "no such file or directory"), s)
  | .readFile p, s =>
    match env.readFile p with
    | .error e => (.error e, s)
    | .ok _ =>
      match s.contentAt p with
      | some text => (.ok text, s)
      | none => (.error (.plain "no such file or directory"), s)
  | .removeAll p, s =>
    match env.removeAll p with
    | .error e => (.error e, s)
    | .ok _ => (.ok (), s.removeAll p)
  | .controllerUnpublishVolume v n, s =>
    match env.controllerUnpublishVolume v n with
    | .error e => (.error e, s)
    | .ok _ => (.ok (), s.revoke v n)
  | .deleteVolume v, s =>
    match env.deleteVolume v with
    | .error e => (.error e, s)
    | .ok _ => (.ok (), s.deleteVolume v)
  | c, s => ((env.serve c s.node).1, { s with node := (env.serve c s.node).2 })

def nodeHost (env : NodeEnv) : World NodeCall NodeCall.Reply Err Host := ⟨Host.serve env⟩

structure EphemeralEnv where
  node : NodeEnv
  faults : List (Option Err)
  createVolume : CreateVolumeRequest → Except Err (Option Volume)
  controllerPublishVolume : ControllerPublishVolumeRequest → Except Err Unit
  mkDirAll : Str → Except Err Unit
  createFile : Str → Except Err Unit
  writeString : Str → Str → Except Err Unit

def EphemeralEnv.serve (svc : Service) (hooks : NodeHooks) (env : EphemeralEnv) :
    (c : EphemeralCall) → Host → Except Err c.Reply × Host
  | .createVolume req, s =>
    match env.createVolume req with
    | .ok (some vol) => (.ok (some vol), { s with volumes := vol.volumeID :: s.volumes })
    | r => (r, s)
  | .getPowerScaleNodeID, s => (env.node.getPowerScaleNodeID, s)
  | .controllerPublishVolume req, s =>
    match env.controllerPublishVolume req with
    | .error e => (.error e, s)
    | .ok _ => (.ok (), { s with grants := (req.volumeID, req.nodeID) :: s.grants })
  | .nodePublishVolume req, s =>
    let r := exec (CsiPowerscale.node env.node) (NodeService.nodePublishVolume svc hooks req)
      env.faults s.node
    (r.1, { s with node := r.2 })
  | .ephemeralNodeUnpublish req, s =>
    run (nodeHost env.node) (NodeService.ephemeralNodeUnpublish svc req.volumeID req.targetPath) s
  | .isNotExist p, s => (.ok (s.find p).isNone, s)
  | .mkDirAll p, s =>
    match env.mkDirAll p with
    | .error e => (.error e, s)
    | .ok _ => (.ok (), s.write p none)
  | .createFile p, s =>
    match env.createFile p with
    | .error e => (.error e, s)
    | .ok _ => (.ok (), s.write p (some []))
  | .writeString p text, s =>
    match env.writeString p text with
    | .error e => (.error e, s)
    | .ok _ => (.ok (), s.write p (some text))

def ephemeralHost (svc : Service) (hooks : NodeHooks) (env : EphemeralEnv) :
    World EphemeralCall EphemeralCall.Reply Err Host := ⟨env.serve svc hooks⟩

namespace NodeService

theorem ephemeralPublication_persistent (req : NodePublishVolumeRequest) (vol : Volume) :
    Persistent (ephemeralPublication req vol) := by
  rintro ctx ⟨⟩
  have hget := Params.get?_filter vol.volumeContext
    (fun key => key ≠ "csi.storage.k8s.io/ephemeral") "csi.storage.k8s.io/ephemeral"
  rw [if_neg (by simp)] at hget
  rw [Params.get, hget]
  decide

structure RollbackWorks (env : NodeEnv) (volumeID : Str) : Prop where
  parses : (parseNormalizedVolumeID volumeID).isOk = true
  unpublishes : ∀ n, env.controllerUnpublishVolume volumeID n = .ok ()
  cleans : ∀ p, env.removeAll p = .ok ()
  deletes : env.deleteVolume volumeID = .ok ()

section Publication

variable {svc : Service} {hooks : NodeHooks} {env : EphemeralEnv} {s t : Host}

theorem keepsMounts_host {env : NodeEnv} (c : NodeCall) (s : Host) (h : c.KeepsMounts) :
    ((nodeHost env).act c s).2.node = s.node := by
  cases c <;> first
    | exact h.elim
    | rfl
    | (simp only [nodeHost, Host.serve]; split <;> first | rfl | (split <;> rfl))

theorem ephemeralNodeUnpublish_node {env : NodeEnv} :
    (run (nodeHost env) (ephemeralNodeUnpublish svc volumeID target) s).2.node = s.node :=
  run_of_uses (I := fun t => t.node = s.node) ephemeralNodeUnpublish_keepsMounts
    (fun c t hc ht => (keepsMounts_host c t hc).trans ht) rfl

theorem ephemeralNodeUnpublish_undoes {env : NodeEnv} (hback : RollbackWorks env volumeID)
    (hid : env.getPowerScaleNodeID = .ok nodeID) (svc : Service) (target : Str) (s : Host) :
    volumeID ∉ (run (nodeHost env) (ephemeralNodeUnpublish svc volumeID target) s).2.volumes ∧
      (volumeID, nodeID) ∉
        (run (nodeHost env) (ephemeralNodeUnpublish svc volumeID target) s).2.grants := by
  obtain ⟨v, hv⟩ : ∃ v, parseNormalizedVolumeID volumeID = .ok v := by
    cases hv : parseNormalizedVolumeID volumeID with
    | ok v => exact ⟨v, rfl⟩
    | error e =>
      have hok := hback.parses
      rw [hv] at hok
      cases hok
  have hne : volumeID ≠ [] := by
    rintro rfl
    exact absurd hback.parses (by decide)
  have hrun : run (nodeHost env) (ephemeralNodeUnpublish svc volumeID target) s =
      (.ok (), ((s.revoke volumeID nodeID).removeAll
        (target ++ "/" ++ v.volName)).deleteVolume volumeID) := by
    unfold ephemeralNodeUnpublish
    rw [if_neg hne]
    simp only [run_bind, run_op, run_ask, nodeHost, Host.serve, NodeEnv.serve, hid, hv,
      hback.unpublishes, hback.cleans, hback.deletes, ofExcept_ok, ret_bind]
  rw [hrun]
  simp [Host.deleteVolume, Host.removeAll, Host.revoke]

theorem act_getPowerScaleNodeID : (ephemeralHost svc hooks env).act .getPowerScaleNodeID s =
    (env.node.getPowerScaleNodeID, s) := rfl

theorem act_controllerPublishVolume (req : ControllerPublishVolumeRequest) :
    (ephemeralHost svc hooks env).act (.controllerPublishVolume req) s =
      match env.controllerPublishVolume req with
      | .error e => (.error e, s)
      | .ok _ => (.ok (), { s with grants := (req.volumeID, req.nodeID) :: s.grants }) := rfl

def mountResult (svc : Service) (hooks : NodeHooks) (env : EphemeralEnv)
    (req : NodePublishVolumeRequest) (n : Node) : Except Err Unit × Node :=
  exec (node env.node) (nodePublishVolume svc hooks req) env.faults n

theorem act_nodePublishVolume (req : NodePublishVolumeRequest) :
    (ephemeralHost svc hooks env).act (.nodePublishVolume req) s =
      ((mountResult svc hooks env req s.node).1,
        { s with node := (mountResult svc hooks env req s.node).2 }) := rfl

def KeepsNode : EphemeralCall → Prop
  | .nodePublishVolume _ => False
  | _ => True

theorem KeepsNode.serve (c : EphemeralCall) (s : Host) (h : KeepsNode c) :
    ((ephemeralHost svc hooks env).act c s).2.node = s.node := by
  cases c with
  | nodePublishVolume req => exact h.elim
  | ephemeralNodeUnpublish req => exact ephemeralNodeUnpublish_node
  | getPowerScaleNodeID | isNotExist => rfl
  | _ =>
    simp only [ephemeralHost, EphemeralEnv.serve]
    split <;> rfl

theorem orUnpublish_uses {step : EphemeralM Unit} (hundo : U (.ephemeralNodeUnpublish undo))
    (hstep : uses U step) :
    uses U (orUnpublish undo step) := by
  apply uses_attempt_bind hstep
  intro r
  split
  · trivial
  · exact uses_ask_bind hundo fun _ => trivial

def OrUndone (w : World EphemeralCall EphemeralCall.Reply Err Host)
    (undo : NodeUnpublishVolumeRequest) (Q : Except Err Unit → Host → Prop) :
    Except Err Unit → Host → Prop
  | .ok _, t => Q (.ok ()) t
  | .error e, t => Q (.error e) (w.act (.ephemeralNodeUnpublish undo) t).2

theorem wp_orUnpublish {step : EphemeralM Unit} :
    wp w .none (orUnpublish undo step) Q s ↔ wp w .none step (OrUndone w undo Q) s := by
  unfold orUnpublish
  rw [wp_bind, wp_attempt]
  constructor <;> intro h <;> apply wp_mono h <;> intro r t ht <;> cases r with
  | ok _ => exact ht
  | error e => first | exact ht.1 | exact ⟨ht, fun _ he => he.elim⟩

/-- No mount, no volume and no grant. -/
def NothingLeft (env : NodeEnv) (target volumeID : Str) (s : Host) : Prop :=
  s.node.mountedAt target = [] ∧ volumeID ∉ s.volumes ∧
    ∀ nodeID, env.getPowerScaleNodeID = .ok nodeID → (volumeID, nodeID) ∉ s.grants

theorem undone_nothingLeft_iff (hback : RollbackWorks env.node volumeID)
    (hid : env.node.getPowerScaleNodeID = .ok nodeID) :
    NothingLeft env.node target volumeID
        ((ephemeralHost svc hooks env).act (.ephemeralNodeUnpublish ⟨volumeID, target⟩) s).2 ↔
      s.node.mountedAt target = [] := by
  obtain ⟨hgone, hrevoked⟩ := ephemeralNodeUnpublish_undoes hback hid svc target s
  unfold NothingLeft
  rw [KeepsNode.serve (.ephemeralNodeUnpublish ⟨volumeID, target⟩) s trivial]
  constructor
  · rintro ⟨hbare, _⟩
    exact hbare
  · intro hbare
    refine ⟨hbare, hgone, ?_⟩
    intro n hn
    cases hid.symm.trans hn
    exact hrevoked

/-- When a publication that fails leaves nothing: the node has an ID, nothing was mounted at the
target, and the step that failed is the authorisation of the node or the mount. -/
def Undoable (svc : Service) (hooks : NodeHooks) (env : EphemeralEnv) (cap : Option VolumeCapability)
    (req : NodePublishVolumeRequest) (vol : Volume) (s : Host) : Prop :=
  ∃ nodeID, env.node.getPowerScaleNodeID = .ok nodeID ∧ s.node.mountedAt req.targetPath = [] ∧
    ((env.controllerPublishVolume ⟨vol.volumeID, nodeID, cap, vol.volumeContext⟩).isOk = false ∨
      (mountResult svc hooks env (ephemeralPublication req vol) s.node).1.isOk = false)

theorem markEphemeral_uses (undo : NodeUnpublishVolumeRequest) (filePath idFile text : Str) :
    uses KeepsNode (do
      if ← issue (.isNotExist filePath) then orUnpublish undo (issue (.mkDirAll filePath))
      orUnpublish undo (issue (.createFile idFile))
      orUnpublish undo (issue (.writeString idFile text))) := by
  apply uses_bind ((uses_op _).2 trivial)
  intro missing
  have hrest : uses KeepsNode (do
      orUnpublish undo (issue (.createFile idFile))
      orUnpublish undo (issue (.writeString idFile text))) :=
    uses_bind (orUnpublish_uses trivial ((uses_op _).2 trivial)) fun _ =>
      orUnpublish_uses trivial ((uses_op _).2 trivial)
  split
  · exact uses_bind (orUnpublish_uses trivial ((uses_op _).2 trivial)) fun _ => hrest
  · exact hrest

theorem ephemeralPublication_mounts (svc : Service) (hooks : NodeHooks) (env : EphemeralEnv)
    (req : NodePublishVolumeRequest) (vol : Volume) (n : Node) :
    MountSpec n req.targetPath (fun _ => True)
      (mountResult svc hooks env (ephemeralPublication req vol) n).1
      (mountResult svc hooks env (ephemeralPublication req vol) n).2 := by
  have hspec : wp (node env.node) .any (nodePublishVolume svc hooks (ephemeralPublication req vol))
      (MountSpec n req.targetPath fun _ => True) n := by
    apply wp_mono (nodePublishVolume_spec (ephemeralPublication_persistent req vol))
    intro r t ht
    exact ht.mono fun _ _ => trivial
  exact wp_any_iff_exec.1 hspec env.faults

theorem publishEphemeral_failure (hback : RollbackWorks env.node vol.volumeID)
    (hvol : vol.volumeID ∈ s.volumes) :
    wp (ephemeralHost svc hooks env) .none (publishEphemeral cap req vol) (fun r t =>
      r.isOk = false → (NothingLeft env.node req.targetPath vol.volumeID t ↔
        Undoable svc hooks env cap req vol s)) s := by
  unfold publishEphemeral
  extract_lets filePath undo idFile
  rw [wp_bind, wp_op]
  refine ⟨?_, fun _ he => he.elim⟩
  cases hid : env.node.getPowerScaleNodeID with
  | error e =>
    rw [act_getPowerScaleNodeID, hid, andThen_error]
    intro _
    apply iff_of_false
    · rintro ⟨_, hgone, _⟩
      exact hgone hvol
    · rintro ⟨n, hn, _⟩
      cases hid.symm.trans hn
  | ok nodeID =>
    -- an error that is undone leaves nothing exactly when the target is bare
    have hundone : ∀ t : Host, t.node = s.node →
        ((env.controllerPublishVolume ⟨vol.volumeID, nodeID, cap, vol.volumeContext⟩).isOk = false ∨
          (mountResult svc hooks env (ephemeralPublication req vol) s.node).1.isOk = false) →
        (NothingLeft env.node req.targetPath vol.volumeID
          ((ephemeralHost svc hooks env).act (.ephemeralNodeUnpublish undo) t).2 ↔
            Undoable svc hooks env cap req vol s) := by
      intro t ht hfailed
      rw [undone_nothingLeft_iff hback hid, ht]
      constructor
      · intro hbare
        exact ⟨nodeID, hid, hbare, hfailed⟩
      · rintro ⟨_, _, hbare, _⟩
        exact hbare
    rw [act_getPowerScaleNodeID, hid, andThen_ok, wp_bind, wp_orUnpublish, wp_op]
    refine ⟨?_, fun _ he => he.elim⟩
    rw [act_controllerPublishVolume]
    cases hauth : env.controllerPublishVolume ⟨vol.volumeID, nodeID, cap, vol.volumeContext⟩ with
    | error e =>
      intro _
      exact hundone s rfl (.inl (by rw [hauth]; rfl))
    | ok _ =>
      dsimp only [OrUndone]
      rw [andThen_ok, wp_bind, wp_orUnpublish, wp_op]
      refine ⟨?_, fun _ he => he.elim⟩
      have hmount := ephemeralPublication_mounts svc hooks env req vol s.node
      rw [act_nodePublishVolume]
      cases hrun : mountResult svc hooks env (ephemeralPublication req vol) s.node with
      | mk r n =>
        rw [hrun] at hmount
        cases r with
        | error e =>
          intro _
          exact hundone _ hmount (.inr (by rw [hrun]; rfl))
        | ok _ =>
          obtain ⟨m, hm, _⟩ := hmount
          dsimp only [OrUndone]
          rw [andThen_ok]
          -- from here on the mount is at the target
          apply wp_mono (wp_of_uses (I := fun t => t.node = n)
            (markEphemeral_uses undo filePath idFile vol.volumeID)
            (fun c t hc ht => (KeepsNode.serve c t hc).trans ht) rfl)
          intro r t ht _
          apply iff_of_false
          · rintro ⟨hbare, _⟩
            rw [ht] at hbare
            rw [hbare] at hm
            cases hm
          rintro ⟨n', hn', _, hfailed⟩
          cases hid.symm.trans hn'
          rw [hauth, hrun] at hfailed
          rcases hfailed with hfailed | hfailed <;> cases hfailed

theorem run_ephemeralNodePublish
    (hcreated : env.createVolume (ephemeralVolume cap req) = .ok (some vol)) :
    run (ephemeralHost svc hooks env) (ephemeralNodePublish cap req) s =
      run (ephemeralHost svc hooks env) (publishEphemeral cap req vol)
        { s with volumes := vol.volumeID :: s.volumes } := by
  have hact : (ephemeralHost svc hooks env).act (.createVolume (ephemeralVolume cap req)) s =
      (.ok (some vol), { s with volumes := vol.volumeID :: s.volumes }) := by
    simp only [ephemeralHost, EphemeralEnv.serve, hcreated]
  unfold ephemeralNodePublish
  rw [run_bind, run_op, hact]

/-- After the volume was created, a publication that fails, with a working rollback, leaves nothing
exactly under `Undoable`. -/
theorem ephemeralNodePublish_failure_iff {cap : Option VolumeCapability}
    {req : NodePublishVolumeRequest} {vol : Volume} {e : Err}
    (hcreated : env.createVolume (ephemeralVolume cap req) = .ok (some vol))
    (hback : RollbackWorks env.node vol.volumeID)
    (h : run (ephemeralHost svc hooks env) (ephemeralNodePublish cap req) s = (.error e, t)) :
    NothingLeft env.node req.targetPath vol.volumeID t ↔ Undoable svc hooks env cap req vol s := by
  rw [run_ephemeralNodePublish hcreated] at h
  have hvol : vol.volumeID ∈ ({ s with volumes := vol.volumeID :: s.volumes } : Host).volumes :=
    List.mem_cons_self
  exact wp_run (publishEphemeral_failure hback hvol) h rfl

end Publication

def podVolume : NodePublishVolumeRequest where
  volumeID := "csi-1"
  targetPath := "/pods/p1/mount"
  stagingTargetPath := []
  volumeCapability := some ⟨some ⟨"nfs", [], []⟩, some .multiNodeMultiWriter⟩
  volumeContext := some [("csi.storage.k8s.io/ephemeral", "true")]
  readonly := false

def inlineVolume : Volume where
  volumeID := "ephemeral-csi-1=_=_=1=_=_=System=_=_=c1"
  capacityBytes := 3 * (1024 * 1024 * 1024)
  volumeContext := [("Path", "/ifs/data/ephemeral-csi-1"), ("Name", "ephemeral-csi-1"),
    ("AccessZone", "System"), ("AzServiceIP", "10.0.0.1")]
  contentSource := none

def emptyHost : Host := ⟨⟨[]⟩, [], [], []⟩

def thisNode : Str := "n1=#=#=n1.lab=#=#=10.0.0.5"

def inlineEnv (nodeID : Except Err Str) (authorize createFile : Except Err Unit) : EphemeralEnv where
  node := { calmEnv (arrayWith none) with getPowerScaleNodeID := nodeID }
  faults := []
  createVolume := fun _ => .ok (some inlineVolume)
  controllerPublishVolume := fun _ => authorize
  mkDirAll := fun _ => .ok ()
  createFile := fun _ => createFile
  writeString := fun _ _ => .ok ()

theorem inlineEnv_rollbackWorks :
    RollbackWorks (inlineEnv nodeID authorize createFile).node inlineVolume.volumeID where
  parses := by decide
  unpublishes := fun _ => rfl
  cleans := fun _ => rfl
  deletes := rfl

theorem ephemeralNodePublish_unauthorised :
    let env := inlineEnv (.ok thisNode) (.error (.plain "denied")) (.ok ())
    run (ephemeralHost oneCluster noHooks env) (ephemeralNodePublish none podVolume) emptyHost =
        (.error (.plain "denied"), emptyHost) ∧
      NothingLeft env.node podVolume.targetPath inlineVolume.volumeID emptyHost := by
  intro env
  have hrun : run (ephemeralHost oneCluster noHooks env) (ephemeralNodePublish none podVolume)
      emptyHost = (.error (.plain "denied"), emptyHost) := by
    decide +kernel
  refine ⟨hrun, (ephemeralNodePublish_failure_iff rfl inlineEnv_rollbackWorks hrun).2 ?_⟩
  exact ⟨thisNode, rfl, rfl, .inl rfl⟩

/-- Without a node ID the volume is left; when the file cannot be created, the mount is. -/
theorem ephemeralNodePublish_leaves :
    (let env := inlineEnv (.error (.plain "no node ID")) (.ok ()) (.ok ())
      let t := run (ephemeralHost oneCluster noHooks env) (ephemeralNodePublish none podVolume) emptyHost
      t.1 = .error (.plain "no node ID") ∧ inlineVolume.volumeID ∈ t.2.volumes ∧
        ¬ NothingLeft env.node podVolume.targetPath inlineVolume.volumeID t.2) ∧
      (let env := inlineEnv (.ok thisNode) (.ok ()) (.error (.plain "read-only file system"))
        let t := run (ephemeralHost oneCluster noHooks env) (ephemeralNodePublish none podVolume)
          emptyHost
        t.1 = .error (.plain "read-only file system") ∧
          (t.2.node.mountedAt podVolume.targetPath).map Mount.device =
            ["10.0.0.1:/ifs/data/ephemeral-csi-1"] ∧
          ¬ NothingLeft env.node podVolume.targetPath inlineVolume.volumeID t.2) := by
  refine ⟨⟨by decide +kernel, by decide +kernel, ?_⟩, by decide +kernel, by decide +kernel, ?_⟩
  · rintro ⟨_, hgone, _⟩
    exact hgone (by decide +kernel)
  · rintro ⟨hbare, _⟩
    exact absurd hbare (by decide +kernel)

end NodeService

def NodeCall.KeepsVolumes : NodeCall → Prop
  | deleteVolume _ => False
  | _ => True

theorem NodeCall.KeepsVolumes.serve {env : NodeEnv} (c : NodeCall) (s : Host)
    (h : c.KeepsVolumes) : ((nodeHost env).act c s).2.volumes = s.volumes := by
  cases c <;> first
    | exact h.elim
    | rfl
    | (simp only [nodeHost, Host.serve]; split <;> first | rfl | (split <;> rfl))

def NodeCall.AsksArray : NodeCall → Prop
  | array _ => True
  | _ => False

theorem NodeCall.AsksArray.serve {env : NodeEnv} (c : NodeCall) (s : Host) (h : c.AsksArray) :
    ((nodeHost env).act c s).2 = s := by
  cases c <;> first | rfl | exact h.elim

namespace NodeService

def anyButStat : Faults NodeCall Err Host := fun _ c _ => ∀ p, c ≠ .stat p

def lockFile (req : NodeUnpublishVolumeRequest) : Str :=
  req.targetPath ++ "/" ++ "ephemeral-" ++ req.volumeID ++ "/id"

/-- The volume ID that an attempt finds in the lock file; without one, or when `stat` fails, the
volume is not an ephemeral one. -/
def seenID (env : NodeEnv) (s : Host) (req : NodeUnpublishVolumeRequest) : Option Str :=
  if (env.stat (lockFile req)).isOk ∧ (s.find (lockFile req)).isSome then
    s.contentAt (clean (lockFile req))
  else none

section Attempt

variable {svc : Service} {env : NodeEnv} {s : Host} {req : NodeUnpublishVolumeRequest}

theorem ephemeralID_spec : wp (nodeHost env) anyButStat (ephemeralID req.volumeID req.targetPath)
    (fun r t => t = s ∧ ∀ x, r = .ok x → x = seenID env s req) s := by
  unfold ephemeralID
  extract_lets file
  have hfile : lockFile req = file := rfl
  clear_value file
  unfold seenID
  rw [hfile, wp_bind, wp_ask]
  refine ⟨?_, fun e he => absurd rfl (he _)⟩
  rw [andThen_ok]
  simp only [nodeHost, Host.serve]
  cases env.stat file with
  | error e => exact ⟨rfl, by rintro x ⟨⟩; rfl⟩
  | ok _ =>
    by_cases hfound : (s.find file).isSome = true
    · simp only [hfound, if_true]
      rw [wp_bind, wp_ask]
      refine ⟨?_, fun e _ => ⟨rfl, by rintro x ⟨⟩⟩⟩
      rw [andThen_ok]
      simp only [Host.serve]
      cases env.readFile (clean file) with
      | error e => exact ⟨rfl, by rintro x ⟨⟩⟩
      | ok _ =>
        cases s.contentAt (clean file) with
        | none => exact ⟨rfl, by rintro x ⟨⟩⟩
        | some text => exact ⟨rfl, by rintro x ⟨⟩; rfl⟩
    · simp only [hfound, Bool.false_eq_true, if_false, and_false]
      exact ⟨rfl, by rintro x ⟨⟩; rfl⟩

theorem autoProbeWith_asks (cfg : ClusterConfig) :
    uses NodeCall.AsksArray (svc.autoProbeWith cfg (nodeRequest (.array .probe))) := by
  unfold Service.autoProbeWith
  split
  · trivial
  · split
    · trivial
    · exact (uses_op _).2 trivial

theorem unpublishFilter_asks : uses NodeCall.AsksArray (unpublishFilter volumeID v) := by
  unfold unpublishFilter
  split
  · trivial
  split
  · trivial
  refine uses_ask_bind trivial fun r => ?_
  split
  · split <;> trivial
  · trivial

theorem prepareUnpublish_spec : wp (nodeHost env) anyButStat (prepareUnpublish svc req)
    (fun r t => t = s ∧ ∀ x, r = .ok x → x.1 = seenID env s req) s := by
  have hfail : ∀ e, s = s ∧ ∀ x, (.error e : Except Err (Option Str × Str)) = .ok x →
      x.1 = seenID env s req := by
    intro e
    refine ⟨rfl, fun x h => ?_⟩
    cases h
  unfold prepareUnpublish
  split
  · exact hfail _
  apply wp_bind_quiet (uses_ofExcept _) NodeCall.AsksArray.serve _ hfail
  intro x
  apply wp_bind_quiet (autoProbeWith_asks x.2) NodeCall.AsksArray.serve _ hfail
  intro _
  apply wp_seq ephemeralID_spec
  · rintro e t ⟨rfl, _⟩
    exact hfail e
  rintro id t ⟨rfl, hid⟩
  apply wp_bind_quiet unpublishFilter_asks NodeCall.AsksArray.serve _ hfail
  intro f
  refine ⟨rfl, ?_⟩
  rintro x ⟨⟩
  exact hid id rfl

theorem unpublishVolume_keepsVolumes : uses NodeCall.KeepsVolumes (unpublishVolume target f) := by
  unfold unpublishVolume
  split
  · trivial
  refine uses_ask_bind trivial fun r => ?_
  split
  · trivial
  split
  · refine uses_ask_bind trivial fun r => ?_
    split
    · trivial
    refine uses_ask_bind trivial fun r => ?_
    split <;> trivial
  · trivial

def without (volumes : List Str) : Option Str → List Str
  | some id => volumes.filter fun v => v ≠ id
  | none => volumes

def AttemptSpec (volumes : List Str) (seen : Option Str) : Except Err Unit → Host → Prop
  | .ok _, t => t.volumes = without volumes seen
  | .error _, t => t.volumes = volumes

theorem ephemeralNodeUnpublish_spec :
    wp (nodeHost env) anyButStat (ephemeralNodeUnpublish svc volumeID target)
      (AttemptSpec s.volumes (some volumeID)) s := by
  have hstep : ∀ {α : Type} {p : NodeM α} {f : α → NodeM Unit} {t : Host},
      t.volumes = s.volumes → uses NodeCall.KeepsVolumes p →
      (∀ a u, u.volumes = s.volumes →
        wp (nodeHost env) anyButStat (f a) (AttemptSpec s.volumes (some volumeID)) u) →
      wp (nodeHost env) anyButStat (p >>= f) (AttemptSpec s.volumes (some volumeID)) t := by
    intro α p f t ht hp hf
    exact wp_seq (wp_of_uses hp (fun c u hc hu => (hc.serve c u).trans hu) ht) (fun _ _ hu => hu) hf
  unfold ephemeralNodeUnpublish
  split
  · exact rfl
  refine hstep rfl ((uses_op _).2 trivial) fun _ t₁ h₁ => ?_
  refine hstep h₁ ((uses_op _).2 trivial) fun _ t₂ h₂ => ?_
  refine hstep h₂ (uses_ofExcept _) fun v t₃ h₃ => ?_
  refine hstep h₃ ((uses_ask _).2 trivial) fun r t h => ?_
  split
  · exact h
  rw [wp_op]
  refine ⟨?_, fun e _ => h⟩
  simp only [nodeHost, Host.serve]
  cases env.deleteVolume volumeID with
  | error e => exact h
  | ok _ =>
    rw [← h]
    rfl

theorem nodeUnpublishVolume_spec : wp (nodeHost env) anyButStat (nodeUnpublishVolume svc req)
    (AttemptSpec s.volumes (seenID env s req)) s := by
  unfold nodeUnpublishVolume
  apply wp_seq prepareUnpublish_spec
  · rintro e t ⟨rfl, _⟩
    exact rfl
  rintro x t ⟨rfl, hx⟩
  have hkeep : wp (nodeHost env) anyButStat (unpublishVolume req.targetPath x.2)
      (fun _ u => u.volumes = t.volumes) t :=
    wp_of_uses unpublishVolume_keepsVolumes (fun c u hc hu => (hc.serve c u).trans hu) rfl
  apply wp_seq hkeep
  · intro e u hu
    exact hu
  intro _ u hu
  rw [← hx x rfl, ← hu]
  split
  · rename_i id hid
    rw [hid]
    exact ephemeralNodeUnpublish_spec
  · rename_i hnone
    rw [hnone]
    exact rfl

end Attempt

section Published

variable {svc : Service} {hooks : NodeHooks} {env : EphemeralEnv} {s t : Host}
  {cap : Option VolumeCapability} {req : NodePublishVolumeRequest} {vol : Volume}

def StepKeepsVolumes : EphemeralCall → Prop
  | .createVolume _ => False
  | .ephemeralNodeUnpublish _ => False
  | _ => True

theorem StepKeepsVolumes.serve (c : EphemeralCall) (s : Host) (h : StepKeepsVolumes c) :
    ((ephemeralHost svc hooks env).act c s).2.volumes = s.volumes := by
  cases c <;> first
    | exact h.elim
    | rfl
    | (simp only [ephemeralHost, EphemeralEnv.serve]; split <;> rfl)

theorem wp_step {step : EphemeralM Unit} (hstep : uses StepKeepsVolumes step)
    (hs : s.volumes = volumes) :
    wp (ephemeralHost svc hooks env) .none (orUnpublish undo step)
      (fun r t => r = .ok () → t.volumes = volumes) s := by
  rw [wp_orUnpublish]
  apply wp_mono (wp_of_uses hstep (fun c t hc ht => (hc.serve c t).trans ht) hs)
  intro r t ht
  cases r with
  | ok _ => exact fun _ => ht
  | error e =>
    intro h
    cases h

theorem wp_step_bind {step : EphemeralM Unit} {P : Host → Prop}
    (hstep : uses StepKeepsVolumes step) (hs : s.volumes = volumes)
    (hf : ∀ t : Host, t.volumes = volumes → wp (ephemeralHost svc hooks env) .none (f ()) (fun r
      t => r = .ok () → P t) t) :
    wp (ephemeralHost svc hooks env) .none (orUnpublish undo step >>= f)
      (fun r t => r = .ok () → P t) s := by
  apply wp_seq (wp_step hstep hs)
  · intro e t _ h
    cases h
  · intro _ t ht
    exact hf t (ht rfl)

theorem publishEphemeral_writes {volumes : List Str} (hs : s.volumes = volumes) :
    wp (ephemeralHost svc hooks env) .none (publishEphemeral cap req vol) (fun r t => r = .ok () →
      ∃ u : Host, u.volumes = volumes ∧ t = u.write
        (clean (clean (req.targetPath ++ "/" ++ ephemeralName req.volumeID) ++ "/id"))
        (some vol.volumeID)) s := by
  unfold publishEphemeral
  extract_lets filePath undo idFile
  have hwrite : ∀ t : Host, t.volumes = volumes → wp (ephemeralHost svc hooks env) .none (do
      orUnpublish undo (issue (.createFile idFile))
      orUnpublish undo (issue (.writeString idFile vol.volumeID))) (fun r t => r = .ok () →
        ∃ u : Host, u.volumes = volumes ∧ t = u.write idFile (some vol.volumeID)) t := by
    intro t ht
    apply wp_step_bind ((uses_op _).2 trivial) ht
    intro u hu
    rw [wp_orUnpublish, wp_op]
    refine ⟨?_, fun _ he => he.elim⟩
    simp only [ephemeralHost, EphemeralEnv.serve]
    cases env.writeString idFile vol.volumeID with
    | error e =>
      intro h
      cases h
    | ok _ => exact fun _ => ⟨u, hu, rfl⟩
  rw [wp_bind, wp_op]
  refine ⟨?_, fun _ he => he.elim⟩
  rw [act_getPowerScaleNodeID]
  cases env.node.getPowerScaleNodeID with
  | error e =>
    intro h
    cases h
  | ok nodeID =>
    rw [andThen_ok]
    refine wp_step_bind ((uses_op _).2 trivial) hs fun t ht => ?_
    refine wp_step_bind ((uses_op _).2 trivial) ht fun t ht => ?_
    rw [wp_bind, wp_op]
    refine ⟨?_, fun _ he => he.elim⟩
    simp only [ephemeralHost, EphemeralEnv.serve, andThen_ok]
    split
    · exact wp_step_bind ((uses_op _).2 trivial) ht hwrite
    · exact hwrite t ht

def EphemeralPublished (svc : Service) (hooks : NodeHooks) (cap : Option VolumeCapability)
    (req : NodePublishVolumeRequest) (vol : Volume) (s : Host) : Prop :=
  ∃ env s₀, env.createVolume (ephemeralVolume cap req) = .ok (some vol) ∧
    run (ephemeralHost svc hooks env) (ephemeralNodePublish cap req) s₀ = (.ok (), s)

theorem EphemeralPublished.writes (h : EphemeralPublished svc hooks cap req vol s) :
    ∃ u : Host, vol.volumeID ∈ u.volumes ∧ s = u.write
      (clean (clean (req.targetPath ++ "/" ++ ephemeralName req.volumeID) ++ "/id"))
      (some vol.volumeID) := by
  obtain ⟨env, s₀, hcreated, hrun⟩ := h
  rw [run_ephemeralNodePublish hcreated] at hrun
  obtain ⟨u, hu, hwrite⟩ := wp_run (publishEphemeral_writes rfl) hrun rfl
  exact ⟨u, by rw [hu]; exact List.mem_cons_self, hwrite⟩

/-- Failed attempts in which `stat` answers. -/
def FailedAttempts (svc : Service) (req : NodeUnpublishVolumeRequest) : Host → Host → Prop :=
  Relation.ReflTransGen fun s t => ∃ env e,
    Outcome (nodeHost env) anyButStat (nodeUnpublishVolume svc req) s (.error e) t

theorem FailedAttempts.volumes {req : NodeUnpublishVolumeRequest} (h : FailedAttempts svc req s t) :
    t.volumes = s.volumes := by
  induction h with
  | refl => rfl
  | tail _ hlast ih =>
    obtain ⟨env, e, ho⟩ := hlast
    exact (wp_iff_outcome.1 nodeUnpublishVolume_spec _ _ ho : AttemptSpec _ _ _ _).trans ih

theorem not_mem_without {id : Str} (h : id ∈ volumes) :
    id ∉ without volumes seen ↔ seen = some id := by
  cases seen with
  | none => simp [without, h]
  | some x =>
    simp only [without, List.mem_filter, h, true_and, decide_eq_true_eq, not_not, ne_eq,
      Option.some.injEq]
    exact eq_comm

/-- After a publication and any failed attempts, an attempt that succeeds has deleted the volume
exactly when it saw its ID in the lock file. -/
theorem ephemeral_retry_deletes_iff {env : NodeEnv} {published t : Host}
    (hpub : EphemeralPublished svc hooks cap req vol published)
    (hfailed : FailedAttempts svc ⟨req.volumeID, req.targetPath⟩ published s)
    (hlast : Outcome (nodeHost env) anyButStat
      (nodeUnpublishVolume svc ⟨req.volumeID, req.targetPath⟩) s (.ok ()) t) :
    vol.volumeID ∉ t.volumes ↔ seenID env s ⟨req.volumeID, req.targetPath⟩ = some vol.volumeID := by
  obtain ⟨u, hu, rfl⟩ := hpub.writes
  have hmem : vol.volumeID ∈ s.volumes := by
    rw [hfailed.volumes]
    exact hu
  have hleft : t.volumes = without s.volumes (seenID env s ⟨req.volumeID, req.targetPath⟩) :=
    wp_iff_outcome.1 nodeUnpublishVolume_spec _ _ hlast
  rw [hleft]
  exact not_mem_without hmem

end Published

def publishedHost : Host where
  node := ⟨[⟨"10.0.0.1:/ifs/data/ephemeral-csi-1", "/pods/p1/mount", ["rw"]⟩]⟩
  files := [⟨"10.0.0.1:/ifs/data/ephemeral-csi-1", ["ephemeral-csi-1", "id"],
      some "ephemeral-csi-1=_=_=1=_=_=System=_=_=c1"⟩,
    ⟨"10.0.0.1:/ifs/data/ephemeral-csi-1", ["ephemeral-csi-1"], none⟩]
  volumes := ["ephemeral-csi-1=_=_=1=_=_=System=_=_=c1"]
  grants := [("ephemeral-csi-1=_=_=1=_=_=System=_=_=c1", thisNode)]

theorem publishedHost_published :
    EphemeralPublished oneCluster noHooks none podVolume inlineVolume publishedHost :=
  ⟨inlineEnv (.ok thisNode) (.ok ()) (.ok ()), emptyHost, rfl, by decide +kernel⟩

def unpublishEnv (revoke : Except Err Unit) : NodeEnv :=
  { calmEnv (arrayWith none) with
    getPowerScaleNodeID := .ok thisNode
    stat := fun _ => .ok ()
    readFile := fun _ => .ok []
    controllerUnpublishVolume := fun _ _ => revoke }

def unpublishPod : NodeUnpublishVolumeRequest := ⟨podVolume.volumeID, podVolume.targetPath⟩

/-- An attempt that cannot read the mounts changes nothing, and the next one deletes the volume. -/
theorem ephemeral_unpublish_deletes :
    let env := { unpublishEnv (.ok ()) with getMounts := .error (.plain "busy") }
    let s := (run (nodeHost env) (nodeUnpublishVolume oneCluster unpublishPod) publishedHost).2
    let t := (run (nodeHost (unpublishEnv (.ok ()))) (nodeUnpublishVolume oneCluster unpublishPod) s).2
    (run (nodeHost env) (nodeUnpublishVolume oneCluster unpublishPod) publishedHost).1.isOk = false ∧
    run (nodeHost (unpublishEnv (.ok ()))) (nodeUnpublishVolume oneCluster unpublishPod) s =
      (.ok (), t) ∧ inlineVolume.volumeID ∉ t.volumes := by
  intro env s t
  obtain ⟨e, hfirst⟩ : ∃ e, run (nodeHost env) (nodeUnpublishVolume oneCluster unpublishPod)
      publishedHost = (.error e, s) := ⟨_, rfl⟩
  have hrun : run (nodeHost (unpublishEnv (.ok ()))) (nodeUnpublishVolume oneCluster unpublishPod)
      s = (.ok (), t) := by
    decide +kernel
  refine ⟨by rw [hfirst]; rfl, hrun, (ephemeral_retry_deletes_iff publishedHost_published
    (.single ⟨env, e, .of_run hfirst⟩) (.of_run hrun)).2 ?_⟩
  decide +kernel

def strandedHost : Host := { publishedHost with node := ⟨[]⟩ }

/-- An attempt that fails to revoke the node has unmounted the target: the next one sees no lock
file, succeeds, and the volume stays. -/
theorem ephemeral_retry_strands :
    EphemeralPublished oneCluster noHooks none podVolume inlineVolume publishedHost ∧
      run (nodeHost (unpublishEnv (.error (.plain "unavailable"))))
        (nodeUnpublishVolume oneCluster unpublishPod) publishedHost =
          (.error (.plain "unavailable"), strandedHost) ∧
      run (nodeHost (unpublishEnv (.ok ()))) (nodeUnpublishVolume oneCluster unpublishPod)
        strandedHost = (.ok (), strandedHost) ∧
      inlineVolume.volumeID ∈ strandedHost.volumes :=
  ⟨publishedHost_published, by decide +kernel, by decide +kernel, by decide⟩

end NodeService

end CsiPowerscale
