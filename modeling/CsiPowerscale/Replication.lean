import CsiPowerscale.RemoteVolume

namespace CsiPowerscale
open GoLib Effects Effects.Prog

def policySchedulingManual : Str := ""

def policySchedulingAutomatic : Str := "when-source-modified"

structure Policy where
  enabled : Bool
  schedule : Str
  jobDelay : Int
  sourcePath : Str
  targetPath : Str
  targetHost : Str
  targetCert : Str
  deriving DecidableEq

inductive FailoverFailbackState
  | writesDisabled
  | enablingWrites
  | writesEnabled
  | disablingWrites
  | creatingResyncPolicy
  | resyncPolicyCreated
  deriving DecidableEq

inductive JobState
  | scheduled
  | running
  | paused
  | finished
  | failed
  | canceled
  | needsAttention
  | skipped
  | pending
  | unknown
  deriving DecidableEq

structure TargetPolicy where
  failoverFailbackState : FailoverFailbackState
  lastJobState : JobState
  deriving DecidableEq

inductive JobAction
  | sync
  | resyncPrep
  | allowWrite
  | allowWriteRevert
  deriving DecidableEq

structure Report where
  startTime : Int
  endTime : Int
  bytesTransferred : Int
  deriving DecidableEq

structure SyncIQ where
  policies : Str → Option Policy
  targets : Str → Option TargetPolicy
  jobs : Str → List JobAction
  reports : Str → List Report

inductive SyncCall
  | probe
  | getPolicyByName (name : Str)
  | getTargetPolicyByName (name : Str)
  | getJobsByPolicyName (name : Str)
  | getReportsByPolicyName (name : Str)
  | createPolicy (name : Str) (rpo : Int) (sourcePath targetPath targetHost targetCert : Str)
    (enabled : Bool)
  | deletePolicy (name : Str)
  | enablePolicy (name : Str)
  | disablePolicy (name : Str)
  | modifyPolicy (name schedule : Str) (rpo : Int)
  | syncPolicy (name : Str)
  | allowWrites (name : Str)
  | disallowWrites (name : Str)
  | resyncPrep (name : Str)
  | waitForPolicyEnabledFieldCondition (name : Str) (enabled : Bool)
  | waitForPolicyLastJobState (name : Str) (states : List JobState)
  | waitForTargetPolicyCondition (name : Str) (condition : FailoverFailbackState)
  | waitForNoActiveJobs (name : Str)
  deriving DecidableEq

@[reducible] def SyncCall.Reply : SyncCall → Type
  | getPolicyByName .. => Option Policy
  | getTargetPolicyByName .. => Option TargetPolicy
  | getJobsByPolicyName .. => List JobAction
  | getReportsByPolicyName .. => List Report
  | _ => Unit

structure SiteCall where
  cluster : Str
  call : SyncCall
  deriving DecidableEq

@[reducible] def SiteCall.Reply (c : SiteCall) : Type := c.call.Reply

abbrev SiteM := Prog SiteCall SiteCall.Reply Err

abbrev askAt (cluster : Str) (c : SyncCall) : SiteM (Except Err c.Reply) :=
  ask (⟨cluster, c⟩ : SiteCall)

abbrev Sites := Str → SyncIQ

def mirrorOf (name : Str) : Str := name ++ "_mirror"

namespace Sites

variable (s : Sites)

def setPolicy (cluster name : Str) (p : Option Policy) : Sites :=
  Function.update s cluster
    { s cluster with policies := Function.update (s cluster).policies name p }

def setTarget (cluster name : Str) (p : Option TargetPolicy) : Sites :=
  Function.update s cluster { s cluster with targets := Function.update (s cluster).targets name p }

def changePolicy (cluster name : Str) (f : Policy → Policy) : Sites :=
  s.setPolicy cluster name (((s cluster).policies name).map f)

def changeTarget (cluster name : Str) (state : FailoverFailbackState) : Sites :=
  s.setTarget cluster name
    (((s cluster).targets name).map fun t => { t with failoverFailbackState := state })

def answer (found : Bool) (s' : Sites) : Except Err Unit × Sites :=
  if found then (.ok (), s') else (.error OneFS.notFound, s)

def look : Option α → Except Err (Option α) × Sites
  | some a => (.ok (some a), s)
  | none => (.error OneFS.notFound, s)

def await (holds : Bool) : Except Err Unit × Sites :=
  if holds then (.ok (), s) else (.error .deadline, s)

def newPolicy (peer : Str → Str) (s : Sites) (cluster name : Str) (p : Policy) :
    Except Err Unit × Sites :=
  if ((s cluster).policies name).isSome then (.error OneFS.conflict, s)
  else (.ok (), (s.setPolicy cluster name (some p)).setTarget (peer cluster) name
    (some ⟨.writesDisabled, .finished⟩))

/-- Resync-prep disables a policy and prepares the way back: it makes the mirror policy of a policy
on the other side, and enables the policy that a mirror policy was made of. -/
def prepare (peer : Str → Str) (s : Sites) (cluster name : Str) (p : Policy) : Sites :=
  let other := peer cluster
  let s := (s.setPolicy cluster name (some { p with enabled := false })).changeTarget other name
    .resyncPolicyCreated
  if endsWith name "_mirror" then
    let original := trimSuffix name "_mirror"
    (s.changePolicy other original fun q => { q with enabled := true }).changeTarget cluster original
      .writesDisabled
  else
    (s.setPolicy other (mirrorOf name) (some ⟨true, policySchedulingManual, 0, p.targetPath,
      p.sourcePath, [], []⟩)).setTarget cluster (mirrorOf name) (some ⟨.writesDisabled, .finished⟩)

def serve (peer : Str → Str) (cluster : Str) : (c : SyncCall) → Sites → Except Err c.Reply × Sites
  | .probe, s => (.ok (), s)
  | .getPolicyByName name, s => s.look ((s cluster).policies name)
  | .getTargetPolicyByName name, s => s.look ((s cluster).targets name)
  | .getJobsByPolicyName name, s => (.ok ((s cluster).jobs name), s)
  | .getReportsByPolicyName name, s =>
    if (s cluster).reports name = [] then (.error (.plain "no reports found"), s)
    else (.ok ((s cluster).reports name), s)
  | .createPolicy name rpo sourcePath targetPath targetHost targetCert enabled, s =>
    newPolicy peer s cluster name
      ⟨enabled, policySchedulingAutomatic, rpo, sourcePath, targetPath, targetHost, targetCert⟩
  | .deletePolicy name, s =>
    s.answer ((s cluster).policies name).isSome
      ((s.setPolicy cluster name none).setTarget (peer cluster) name none)
  | .enablePolicy name, s =>
    s.answer ((s cluster).policies name).isSome
      (s.changePolicy cluster name fun p => { p with enabled := true })
  | .disablePolicy name, s =>
    s.answer ((s cluster).policies name).isSome
      (s.changePolicy cluster name fun p => { p with enabled := false })
  | .modifyPolicy name schedule rpo, s =>
    s.answer ((s cluster).policies name).isSome
      (s.changePolicy cluster name fun p => { p with schedule := schedule, jobDelay := rpo })
  | .syncPolicy name, s => s.answer ((s cluster).policies name).isSome s
  | .allowWrites name, s =>
    s.answer ((s cluster).targets name).isSome (s.changeTarget cluster name .writesEnabled)
  | .disallowWrites name, s =>
    s.answer ((s cluster).targets name).isSome (s.changeTarget cluster name .writesDisabled)
  | .resyncPrep name, s =>
    match (s cluster).policies name with
    | none => (.error OneFS.notFound, s)
    | some p => (.ok (), prepare peer s cluster name p)
  | .waitForPolicyEnabledFieldCondition name enabled, s =>
    s.await (((s cluster).policies name).any fun p => p.enabled == enabled)
  | .waitForPolicyLastJobState name _, s => s.await ((s cluster).policies name).isSome
  | .waitForTargetPolicyCondition name condition, s =>
    s.await (((s cluster).targets name).any fun t => t.failoverFailbackState == condition)
  | .waitForNoActiveJobs name, s => s.await ((s cluster).jobs name).isEmpty

end Sites

def sites (peer : Str → Str) : World SiteCall SiteCall.Reply Err Sites :=
  ⟨fun c => Sites.serve peer c.cluster c.call⟩

inductive ActionType
  | failoverRemote
  | unplannedFailoverLocal
  | failbackLocal
  | failbackDiscardChangesLocal
  | reprotectLocal
  | sync
  | suspend
  | resume
  | unsupported
  deriving DecidableEq

structure ExecuteActionRequest where
  protectionGroupAttributes : Params
  action : ActionType
  deriving DecidableEq

inductive LinkState
  | synchronized
  | suspended
  | failedover
  | syncInProgress
  | invalid
  | unknown
  deriving DecidableEq

structure StorageProtectionGroupStatus where
  state : LinkState
  isSource : Bool
  lagSeconds : Int
  bandwidthBytesPerSec : Int
  lastSyncTimestamp : Int
  deriving DecidableEq

namespace Replication

def step (cluster : Str) (c : SyncCall) (what : Str) : SiteM Unit := do
  match ← askAt cluster c with
  | .ok _ => ret ()
  | .error e => fail (.status .internal (sprintf [what, e.text]))

def failover (cluster remote vgName : Str) : SiteM Unit := do
  let ppName := groupPolicy vgName
  step cluster (.syncPolicy ppName) "failover: encountered error when trying to sync policy "
  step cluster (.disablePolicy ppName) "failover: can't disable local policy "
  step cluster (.waitForPolicyEnabledFieldCondition ppName false)
    "failover: policy couldn't reach disabled condition "
  step remote (.allowWrites ppName) "failover: can't allow writes on target site "

def failoverUnplanned (cluster vgName : Str) : SiteM Unit :=
  step cluster (.allowWrites (groupPolicy vgName))
    "unplanned failover: allow writes on target site failed "

def reprotect (cluster remote : Str) (remoteCfg : ClusterConfig) (vgName : Str) : SiteM Unit := do
  let ppName := groupPolicy vgName
  match ← askAt cluster (.getTargetPolicyByName ppName) with
  | .error e => fail (.status .internal (sprintf ["reprotect: can't find target policy on the local site, ",
      "perform reprotect on another side. ", e.text]))
  | .ok none => fail .panic
  | .ok (some localTP) =>
    if localTP.failoverFailbackState ≠ .writesEnabled then
      fail (.status .invalidArgument (sprintf ["reprotect: unable to perform reprotect with writes ",
        "disabled, should perform failover first."]))
    else
      match ← askAt remote (.getPolicyByName ppName) with
      | .error e => fail (.status .internal
          (sprintf ["reprotect: can't find remote replication policy, unexpected error ", e.text]))
      | .ok none => fail .panic
      | .ok (some remotePolicy) =>
        step remote (.deletePolicy ppName) "reprotect: delete policy on remote site failed "
        step cluster (.createPolicy ppName remotePolicy.jobDelay remotePolicy.targetPath
            remotePolicy.sourcePath (remoteEndpoint remoteCfg) remoteCfg.replicationCertificateID true)
          "reprotect: create protection policy on the local site failed "
        step cluster (.waitForPolicyLastJobState ppName [.running, .finished])
          "reprotect: policy job did not return one of RUNNING or FINISHED state "

def failbackDiscardLocal (cluster remote vgName : Str) : SiteM Unit := do
  let ppName := groupPolicy vgName
  let ppNameMirror := mirrorOf ppName
  let rpoInt := getRpoInt vgName
  if rpoInt = -1 then fail (.status .invalidArgument "unable to parse RPO seconds")
  else
    step cluster (.disablePolicy ppName) "failback (discard local): can't disable local policy "
    step cluster (.modifyPolicy ppName policySchedulingManual 0)
      "failback (discard local): can't set local policy to manual "
    step cluster (.enablePolicy ppName) "failback (discard local): can't enable local policy "
    step cluster (.resyncPrep ppName)
      "failback (discard local): can't run resync-prep on local policy "
    step remote (.waitForTargetPolicyCondition ppName .resyncPolicyCreated)
      "failback (discard local): error waiting for condition on the remote target policy. "
    step remote (.waitForPolicyEnabledFieldCondition ppNameMirror true)
      "failback (discard local): TGT mirror policy couldn't reach enabled condition "
    step remote (.syncPolicy ppNameMirror) "failback (discard local): policy sync failed "
    step cluster (.allowWrites ppNameMirror)
      "failback (discard local): allow writes on local site failed "
    step remote (.resyncPrep ppNameMirror)
      "failback (discard local): can't run resync-prep on remote mirror policy "
    step cluster (.waitForTargetPolicyCondition ppNameMirror .resyncPolicyCreated)
      "failback (discard local): error waiting for condition on the local target policy. "
    step remote (.waitForNoActiveJobs ppNameMirror)
      "failback (discard local): error waiting for active jobs to finish. "
    step remote (.deletePolicy ppNameMirror)
      "failback (discard local): delete mirror policy on target site failed "
    step cluster (.modifyPolicy ppName policySchedulingAutomatic rpoInt)
      "failback (discard local): can't set local policy to automatic "

def failbackDiscardRemote (cluster remote vgName : Str) : SiteM Unit := do
  let ppName := groupPolicy vgName
  let rpoInt := getRpoInt vgName
  if rpoInt = -1 then fail (.status .invalidArgument "unable to parse RPO seconds")
  else
    step cluster (.disablePolicy ppName) "failback (discard remote): can't disable local policy "
    step cluster (.modifyPolicy ppName policySchedulingManual 0)
      "failback (discard remote): can't set local policy to manual "
    step remote (.disallowWrites ppName)
      "failback (discard remote): disallow writes on target site failed "
    step cluster (.modifyPolicy ppName policySchedulingAutomatic rpoInt)
      "failback (discard remote): can't set local policy to automatic "
    step cluster (.enablePolicy ppName) "failback (discard remote): can't enable local policy "

def synchronize (cluster vgName : Str) : SiteM Unit :=
  step cluster (.syncPolicy (groupPolicy vgName)) "sync: policy sync failed "

def suspend (cluster vgName : Str) : SiteM Unit := do
  let ppName := groupPolicy vgName
  step cluster (.disablePolicy ppName) "suspend: can't disable local policy "
  step cluster (.waitForPolicyEnabledFieldCondition ppName false)
    "suspend: policy couldn't reach disabled condition "

def resume (cluster vgName : Str) : SiteM Unit := do
  let ppName := groupPolicy vgName
  step cluster (.enablePolicy ppName) "resume: can't enable local policy "
  step cluster (.waitForPolicyEnabledFieldCondition ppName true)
    "resume: policy couldn't reach enabled condition "

def actionFunc (cluster remote : Str) (remoteCfg : ClusterConfig) (vgName : Str) :
    ActionType → Option (SiteM Unit)
  | .failoverRemote => some (failover cluster remote vgName)
  | .unplannedFailoverLocal => some (failoverUnplanned cluster vgName)
  | .failbackLocal => some (failbackDiscardLocal cluster remote vgName)
  | .failbackDiscardChangesLocal => some (failbackDiscardRemote cluster remote vgName)
  | .reprotectLocal => some (reprotect cluster remote remoteCfg vgName)
  | .sync => some (synchronize cluster vgName)
  | .suspend => some (suspend cluster vgName)
  | .resume => some (resume cluster vgName)
  | .unsupported => none

def getGroupLinkState (localP : Option Policy) (localTP : Option TargetPolicy)
    (remoteP : Option Policy) (remoteTP : Option TargetPolicy) (isSyncInProgress : Bool) : LinkState :=
  -- one side has the policy and the other has it as a target
  let sided (enabled : Bool) (state : FailoverFailbackState) : Bool :=
    (localP.any (fun p => p.enabled == enabled) && remoteP.isNone && localTP.isNone &&
      remoteTP.any fun t => t.failoverFailbackState == state) ||
    (localP.isNone && remoteP.any (fun p => p.enabled == enabled) &&
      localTP.any (fun t => t.failoverFailbackState == state) && remoteTP.isNone)
  if isSyncInProgress then .syncInProgress
  else if sided true .writesDisabled then .synchronized
  else if sided false .writesDisabled then .suspended
  else if sided false .writesEnabled then .failedover
  else if localP.isNone && remoteP.isNone && localTP.isNone &&
      remoteTP.any fun t => t.failoverFailbackState == .writesEnabled then .unknown
  else if localP.isNone && remoteP.isNone &&
      localTP.any (fun t => t.failoverFailbackState == .writesEnabled) && remoteTP.isNone then .failedover
  else if sided true .writesEnabled then .failedover
  else if remoteTP.any (fun t => t.lastJobState == .failed) ||
      localTP.any fun t => t.lastJobState == .failed then .invalid
  else .unknown

def orNil : Except Err (Option α) → Option α
  | .ok o => o
  | .error _ => none

def readJobs (cluster ppName : Str) : SiteM (Bool × Bool) := do
  match ← askAt cluster (.getJobsByPolicyName ppName) with
  | .ok jobs => return (jobs.any fun j => j == .sync, false)
  | .error e => return (false, e.jsonStatus.any fun n => n != 404)

def reportMetrics (now : Int) (latest : Report) : Int × Int × Int :=
  let duration := latest.endTime - latest.startTime
  (if 0 < latest.endTime then max (now - latest.endTime) 0 else 0,
    if 0 < duration ∧ 0 < latest.bytesTransferred then latest.bytesTransferred.tdiv duration else 0,
    if 0 < latest.endTime then latest.endTime else 0)

def concludeStatus (cluster remote pp : Str) (state : LinkState) (isSyncCheckFailed source : Bool) :
    SiteM (LinkState × Bool × Option Report) := do
  if state = .unknown ∨ isSyncCheckFailed then
    fail (.status .internal (if isSyncCheckFailed then
      "unexpected error while querying active jobs for local or remote policy"
      else "unexpected error while getting link state"))
  else
    match ← askAt (if source then cluster else remote) (.getReportsByPolicyName pp) with
    | .error _ => return (state, source, none)
    | .ok [] => fail .panic
    | .ok (latest :: _) => return (state, source, some latest)

def readStatus (cluster remote vgName : Str) : SiteM (LinkState × Bool × Option Report) := do
  let ppName := groupPolicy vgName
  let localP ← askAt cluster (.getPolicyByName ppName)
  let localTP ← askAt cluster (.getTargetPolicyByName ppName)
  let remoteP ← askAt remote (.getPolicyByName ppName)
  let remoteTP ← askAt remote (.getTargetPolicyByName ppName)
  let localJobs ← readJobs cluster ppName
  let remoteJobs ← readJobs remote ppName
  let isSyncCheckFailed := localJobs.2 || remoteJobs.2
  let state := getGroupLinkState (orNil localP) (orNil localTP) (orNil remoteP) (orNil remoteTP)
    (localJobs.1 || remoteJobs.1)
  concludeStatus cluster remote ppName state isSyncCheckFailed (orNil localP).isSome

def groupStatus (now : Int) (cluster remote vgName : Str) : SiteM StorageProtectionGroupStatus := do
  let (state, source, latest) ← readStatus cluster remote vgName
  let (lag, bandwidth, last) := latest.elim (0, 0, 0) (reportMetrics now)
  return ⟨state, source, lag, bandwidth, last⟩

def groupCluster (svc : Service) (name : Str) : SiteM (Str × ClusterConfig) :=
  match svc.getIsilonConfig name with
  | .ok c => ret c
  | .error e => fail (.status .invalidArgument (sprintf ["can't find cluster with name ",
      if name = [] then svc.defaultIsiClusterName else name, " in driver config: ", e.text]))

def groupAttribute (contextPre : Str) (attributes : Params) (key message : Str) : SiteM Str :=
  match attributes.get? (contextPre ++ key) with
  | some v => ret v
  | none => fail (.status .invalidArgument message)

def getStorageProtectionGroupStatus (contextPre : Str) (now : Int) (svc : Service) (attributes : Params) :
    SiteM StorageProtectionGroupStatus := do
  let name ← groupAttribute contextPre attributes "systemName"
    "Error: can't find `systemName` in replication group"
  let (cluster, cfg) ← groupCluster svc name
  let remoteName ← groupAttribute contextPre attributes "remoteSystemName"
    "can't find `remoteSystemName` parameter in replication group"
  let (remote, remoteCfg) ← groupCluster svc remoteName
  let vgName ← groupAttribute contextPre attributes "VolumeGroupName"
    "can't find `VolumeGroupName` parameter in replication group"
  if cfg.isiSvc && remoteCfg.isiSvc then groupStatus now cluster remote vgName else fail .panic

def probeFirst (svc : Service) (cluster : Str) (cfg : ClusterConfig) : SiteM Unit := do
  match ← attempt (svc.autoProbeWith cfg (op (⟨cluster, .probe⟩ : SiteCall))) with
  | .error e => fail (.status .failedPrecondition e.text)
  | .ok _ => ret ()

/-- The part of `ExecuteAction` before the action: the clusters, the configuration of the remote
one, and the name of the group. -/
def resolveGroup (contextPre : Str) (svc : Service) (attributes : Params) :
    SiteM (Str × Str × ClusterConfig × Str) := do
  let name ← groupAttribute contextPre attributes "systemName"
    "can't find `systemName` parameter in replication group"
  let (cluster, cfg) ← groupCluster svc name
  let remoteName ← groupAttribute contextPre attributes "remoteSystemName"
    "can't find `remoteSystemName` parameter in replication group"
  let (remote, remoteCfg) ← groupCluster svc remoteName
  probeFirst svc cluster cfg
  probeFirst svc remote remoteCfg
  let vgName ← groupAttribute contextPre attributes "VolumeGroupName"
    "can't find `VolumeGroupName` parameter in replication group"
  return (cluster, remote, remoteCfg, vgName)

def runAction (func : SiteM Unit) : SiteM Unit := do
  match ← attempt func with
  | .error e => fail (.status .unknown e.text)
  | .ok _ => ret ()

def reportStatus (now : Int) (cluster remote vgName : Str) : SiteM StorageProtectionGroupStatus := do
  match ← attempt (groupStatus now cluster remote vgName) with
  | .error e => fail (.status .internal
      (sprintf ["can't get storage protection group status: ", e.text]))
  | .ok r => ret r

def perform (now : Int) (cluster remote : Str) (remoteCfg : ClusterConfig) (vgName : Str)
    (action : ActionType) : SiteM StorageProtectionGroupStatus := do
  match actionFunc cluster remote remoteCfg vgName action with
  | none => fail (.status .unknown "The requested action does not match with supported actions")
  | some func =>
    runAction func
    reportStatus now cluster remote vgName

def executeAction (contextPre : Str) (now : Int) (svc : Service) (req : ExecuteActionRequest) :
    SiteM StorageProtectionGroupStatus := do
  let (cluster, remote, remoteCfg, vgName) ← resolveGroup contextPre svc req.protectionGroupAttributes
  perform now cluster remote remoteCfg vgName req.action

end Replication

def SyncCall.IsRead : SyncCall → Prop
  | createPolicy .. | deletePolicy .. | enablePolicy .. | disablePolicy .. | modifyPolicy ..
  | allowWrites .. | disallowWrites .. | resyncPrep .. => False
  | _ => True

namespace Sites

variable {s : Sites} {cluster name site n : Str}

@[simp] theorem setPolicy_targets (p : Option Policy) :
    (s.setPolicy cluster name p site).targets = (s site).targets := by
  by_cases h : site = cluster
  · subst h
    simp [setPolicy]
  · simp [setPolicy, Function.update_of_ne h]

@[simp] theorem setTarget_policies (p : Option TargetPolicy) :
    (s.setTarget cluster name p site).policies = (s site).policies := by
  by_cases h : site = cluster
  · subst h
    simp [setTarget]
  · simp [setTarget, Function.update_of_ne h]

theorem setPolicy_policies (p : Option Policy) : (s.setPolicy cluster name p site).policies n =
    if site = cluster ∧ n = name then p else (s site).policies n := by
  by_cases h : site = cluster
  · subst h
    simp [setPolicy, Function.update_apply]
  · simp [setPolicy, h]

theorem setTarget_targets (p : Option TargetPolicy) : (s.setTarget cluster name p site).targets n =
    if site = cluster ∧ n = name then p else (s site).targets n := by
  by_cases h : site = cluster
  · subst h
    simp [setTarget, Function.update_apply]
  · simp [setTarget, h]

theorem look_state (s : Sites) : (s.look o).2 = s := by
  cases o <;> rfl

theorem answer_self (s : Sites) : (s.answer found s).2 = s := by
  cases found <;> rfl

theorem await_state (s : Sites) : (s.await holds).2 = s := by
  cases holds <;> rfl

end Sites

theorem Sites.answer_error {s : Sites} (h : (s.answer found s').1 = .error e) :
    (s.answer found s').2 = s := by
  cases found with
  | false => rfl
  | true => cases h

theorem sites_act (peer : Str → Str) (c : SiteCall) (s : Sites) :
    (sites peer).act c s = Sites.serve peer c.cluster c.call s := rfl

theorem SyncCall.IsRead.serve (h : c.IsRead) (peer : Str → Str) (cluster : Str) (s : Sites) :
    ((sites peer).act ⟨cluster, c⟩ s).2 = s := by
  cases c with
  | getReportsByPolicyName name =>
    simp only [sites_act, Sites.serve]
    split <;> rfl
  | _ => first
    | exact h.elim
    | rfl
    | exact Sites.look_state s
    | exact Sites.answer_self s
    | exact Sites.await_state s

namespace Replication

structure Group (contextPre : Str) (svc : Service) (attributes : Params) (cluster remote : Str)
    (remoteCfg : ClusterConfig) (vgName : Str) : Prop where
  hasLocal : ∃ name cfg, attributes.get? (contextPre ++ "systemName") = some name ∧
    svc.getIsilonConfig name = .ok (cluster, cfg)
  hasRemote : ∃ name, attributes.get? (contextPre ++ "remoteSystemName") = some name ∧
    svc.getIsilonConfig name = .ok (remote, remoteCfg)
  volumeGroup : attributes.get? (contextPre ++ "VolumeGroupName") = some vgName

structure Paired (peer : Str → Str) (cluster remote : Str) : Prop where
  forth : peer cluster = remote
  back : peer remote = cluster
  ne : cluster ≠ remote

variable {contextPre cluster remote vgName : Str} {svc : Service} {req : ExecuteActionRequest}
  {cfg remoteCfg : ClusterConfig} {now : Int} {func : SiteM Unit}

theorem probeFirst_halts : halts (probeFirst svc cluster cfg) := by
  apply halts_settle
  · rw [Service.autoProbeWith]
    split
    · trivial
    split
    · trivial
    · refine ⟨fun e => ⟨e, rfl⟩, fun r => ?_⟩
      cases r <;> trivial
  · intro e
    exact ⟨_, rfl⟩
  · intro a
    trivial

theorem probeFirst_uses : uses (fun c => c.call = .probe) (probeFirst svc cluster cfg) := by
  refine uses_attempt_bind ?_ fun r => ?_
  · rw [Service.autoProbeWith]
    split
    · trivial
    · split
      · trivial
      · exact (uses_op _).2 rfl
  · split <;> trivial

theorem step_halts : halts (step cluster c what) := by
  apply halts_ask_bind
  · intro e
    exact ⟨_, rfl⟩
  · intro a
    trivial

theorem step_uses (h : U ⟨cluster, c⟩) : uses U (step cluster c what) := by
  refine uses_ask_bind h fun r => ?_
  split <;> trivial

theorem runAction_halts (h : halts func) : halts (runAction func) := by
  apply halts_settle h
  · intro e
    exact ⟨_, rfl⟩
  · intro a
    trivial

theorem runAction_uses (h : uses U func) : uses U (runAction func) := by
  refine uses_attempt_bind h fun r => ?_
  split <;> trivial

theorem readJobs_uses : uses (fun c => c.call.IsRead) (readJobs cluster ppName) := by
  refine uses_ask_bind trivial fun r => ?_
  split <;> trivial

theorem readStatus_uses : uses (fun c => c.call.IsRead) (readStatus cluster remote vgName) := by
  refine uses_ask_bind trivial fun localP => ?_
  refine uses_ask_bind trivial fun localTP => ?_
  refine uses_ask_bind trivial fun remoteP => ?_
  refine uses_ask_bind trivial fun remoteTP => ?_
  refine uses_bind readJobs_uses fun localJobs => ?_
  refine uses_bind readJobs_uses fun remoteJobs => ?_
  dsimp only
  unfold concludeStatus
  split
  · trivial
  refine uses_ask_bind trivial fun reports => ?_
  split <;> trivial

theorem reportStatus_uses : uses (fun c => c.call.IsRead) (reportStatus now cluster remote vgName) := by
  refine uses_attempt_bind (uses_bind readStatus_uses fun _ => trivial) fun r => ?_
  split <;> trivial

theorem perform_eq (h : actionFunc cluster remote remoteCfg vgName action = some func) :
    perform now cluster remote remoteCfg vgName action =
      (runAction func >>= fun _ => reportStatus now cluster remote vgName) := by
  rw [perform, h]

theorem Group.executeAction_eq
    (h : Group contextPre svc attributes cluster remote remoteCfg vgName) :
    ∃ pre : SiteM Unit, halts pre ∧ uses (fun c => c.call = .probe) pre ∧
      ∀ now req, req.protectionGroupAttributes = attributes → executeAction contextPre now svc req =
          (pre >>= fun _ => perform now cluster remote remoteCfg vgName req.action) := by
  obtain ⟨name, cfg, hname, hcfg⟩ := h.hasLocal
  obtain ⟨remoteName, hremote, hremoteCfg⟩ := h.hasRemote
  refine ⟨probeFirst svc cluster cfg >>= fun _ => probeFirst svc remote remoteCfg, ?_, ?_, ?_⟩
  · exact halts_bind probeFirst_halts fun _ => probeFirst_halts
  · exact uses_bind probeFirst_uses fun _ => probeFirst_uses
  · intro now req hreq
    simp only [executeAction, resolveGroup, groupAttribute, groupCluster, hreq, hname, hcfg, hremote,
      hremoteCfg, h.volumeGroup, ret_bind, bind_assoc, pure_eq]

variable {peer : Str → Str} {s t : Sites}

theorem probe_state (u : Sites) (h : c.call = .probe) : ((sites peer).act c u).2 = u := by
  obtain ⟨site, call⟩ := c
  obtain rfl : call = .probe := h
  rfl

theorem act_error (h : ((sites peer).act c s).1 = .error e) :
    ((sites peer).act c s).2 = s := by
  obtain ⟨site, call⟩ := c
  cases call with
  | createPolicy name rpo source target host cert enabled =>
    simp only [sites_act, Sites.serve, Sites.newPolicy] at h ⊢
    split at h
    · next hfound => rw [if_pos hfound]
    · cases h
  | resyncPrep name =>
    simp only [sites_act, Sites.serve] at h ⊢
    split at h
    · rfl
    · cases h
  | deletePolicy | enablePolicy | disablePolicy | modifyPolicy | allowWrites | disallowWrites =>
    exact Sites.answer_error h
  | _ =>
    apply SyncCall.IsRead.serve
    trivial

theorem wp_step
    (hok : ∀ a, ((sites peer).act ⟨cluster, c⟩ s).1 = .ok a → Q (.ok ()) ((sites peer).act
      ⟨cluster, c⟩ s).2) (herr : ∀ e, Q (.error e) s) :
    wp (sites peer) F (step cluster c what) Q s := by
  rw [step, wp_bind, wp_ask]
  refine ⟨?_, fun e _ => herr _⟩
  rw [andThen_ok]
  cases h : ((sites peer).act ⟨cluster, c⟩ s).1 with
  | ok a => exact hok a h
  | error e =>
    rw [act_error h]
    exact herr _

end Replication

end CsiPowerscale
