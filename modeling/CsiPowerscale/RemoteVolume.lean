import CsiPowerscale.CreateVolumeRuns
import CsiPowerscale.PublishClients

namespace CsiPowerscale
open GoLib Effects Effects.Prog Controller

section

def getRpoInt (vgName : Str) : Int := (rpoToInt ((split vgName "-").getLastD [])).getD (-1)

def groupPolicy (vgName : Str) : Str := replaceByte vgName 46 45

def namespaceKey : Str := "csi.storage.k8s.io/pvc/namespace"

structure GroupNaming (svc : Service) (req : CreateVolumeRequest) (vgPrefix rpo endpoint ns : Str)
    (seconds : Int) : Prop where
  hasPre : req.parameters.get? (svc.withRP "volumeGroupPrefix") = some vgPrefix
  hasRpo : req.parameters.get? (svc.withRP "rpo") = some rpo
  valid : rpoToInt rpo = some seconds
  remote : ∃ remoteName name remote,
    req.parameters.get? (svc.withRP "remoteSystem") = some remoteName ∧
      svc.getIsilonConfig remoteName = .ok (name, remote) ∧ endpoint = remoteEndpoint remote
  namespaced : req.parameters.get? (svc.withRP "ignoreNamespaces") = some ("false" : Str)
  hasNs : req.parameters.get? namespaceKey = some ns

def wholeName (vgPrefix rpo endpoint ns : Str) : Str :=
  vgPrefix ++ "-" ++ (ns ++ "-") ++ endpoint ++ "-" ++ rpo

variable {svc : Service} {req req' : CreateVolumeRequest} {vgPrefix rpo endpoint ns ns' : Str}
  {seconds : Int}

theorem GroupNaming.volumeGroup_eq (h : GroupNaming svc req vgPrefix rpo endpoint ns seconds) :
    req.volumeGroup svc = (wholeName vgPrefix rpo endpoint ns).take 128 := by
  obtain ⟨remoteName, name, remote, hname, hcfg, rfl⟩ := h.remote
  have hns : req.parameters.get? "csi.storage.k8s.io/pvc/namespace" = some ns := h.hasNs
  simp only [CreateVolumeRequest.volumeGroup, volumeGroupName, Params.get, h.hasPre, h.hasRpo, hname,
    Option.getD_some, hcfg, volumeGroupNamespace, h.namespaced, if_true, hns, wholeName]

theorem withRP_ne_namespaceKey (svc : Service) (hslash : slash ∉ key)
    (hkey : key ≠ ("namespace" : Str)) : svc.withRP key ≠ namespaceKey := by
  intro h
  have hlast := congrArg afterLastSlash h
  have hown : afterLastSlash (svc.withRP key) = key := by
    have hparts : svc.withRP key = svc.replicationPrefix ++ slash :: key := by
      simp [Service.withRP, slash]
      rfl
    rw [hparts, afterLastSlash_append hslash]
  rw [hown] at hlast
  exact hkey (hlast.trans (by decide))

def Call.policyOf : Call → Option Str
  | .getPolicy name | .createPolicy name .. | .waitForPolicy name | .syncPolicy name => some name
  | _ => none

theorem wp_ensureVolumeGroup_name (isiPath vgName : Str) :
    wp array F (ensureVolumeGroup isiPath vgName) (fun r _ => ∀ vg, r = .ok vg → vg.name = vgName) s := by
  have hfail : ∀ e vg, (.error e : Except Err VolumeInfo) = .ok vg → vg.name = vgName := by
    intro e vg h
    cases h
  have hcreate : ∀ u : OneFS, wp array F (request (.createVolume isiPath vgName "0777" []))
      (fun r _ => ∀ vg, r = .ok vg → vg.name = vgName) u := by
    intro u
    rw [wp_op]
    refine ⟨?_, fun e _ => hfail e⟩
    simp only [array_act, OneFS.serve, OneFS.create]
    split
    · intro vg h
      cases h
      rfl
    split
    · intro vg h
      cases h
      rfl
    · exact hfail _
  have hrefused : ∀ (e : Err) (u : OneFS), wp array F
      (if e.jsonStatus = some 404 then request (.createVolume isiPath vgName "0777" []) else fail e)
      (fun r _ => ∀ vg, r = .ok vg → vg.name = vgName) u := by
    intro e u
    split
    · exact hcreate u
    · exact hfail e
  unfold ensureVolumeGroup
  rw [wp_bind, wp_ask]
  refine ⟨?_, fun e _ => hrefused e s⟩
  rw [array_act, OneFS.serve]
  by_cases hdir : s.hasDir (namespacePath isiPath vgName) = true
  · rw [if_pos hdir]
    intro vg hvg
    cases hvg
    rfl
  · rw [if_neg hdir]
    exact hrefused _ s

theorem ensurePolicy_policy :
    uses (fun c => c.policyOf = some name) (ensurePolicy name seconds path host cert) := by
  refine uses_ask_bind rfl fun r => ?_
  split
  · trivial
  split
  · refine uses_ask_bind rfl fun r => ?_
    split
    · trivial
    refine uses_ask_bind rfl fun r => ?_
    split <;> trivial
  · trivial

theorem prepareReplication_sends (isiPath : Str) (hother : ∀ c t, c.policyOf = none → U t c)
    (hpolicy : ∀ seconds path host cert t, rpoToInt (req.parameters.get (svc.withRP "rpo")) =
      some seconds → sends array F U (ensurePolicy (groupPolicy (req.volumeGroup svc)) seconds
      path host cert) t) :
    sends array F U (prepareReplication svc req.parameters isiPath) s := by
  have hfree : uses (fun c => c.policyOf = none) (ensureVolumeGroup isiPath (req.volumeGroup svc)) := by
    refine uses_ask_bind rfl fun r => ?_
    split
    · trivial
    · split
      · exact (uses_op _).2 rfl
      · trivial
  rcases prepareReplication_cases svc req isiPath with
    ⟨text, h⟩ | ⟨_, rpo, seconds, _, _, ⟨-, hrpo, hseconds, -⟩, h⟩
  · rw [h]
    trivial
  rw [h]
  apply sends_bind
  · exact sends_of_uses hfree hother
  apply wp_mono (wp_ensureVolumeGroup_name isiPath (req.volumeGroup svc))
  intro r u hr vg hvg
  rw [hr vg hvg]
  apply sends_bind_any
  · apply hpolicy
    rw [Params.get, hrpo]
    exact hseconds
  · intro _ _
    trivial

theorem prepareReplication_policy : sends array F (fun _ c => ∀ name, c.policyOf = some name →
      name = groupPolicy (req.volumeGroup svc)) (prepareReplication svc req.parameters isiPath) s := by
  apply prepareReplication_sends
  · intro c _ hc n hn
    rw [hc] at hn
    cases hn
  intro seconds path host cert t _
  apply sends_of_uses ensurePolicy_policy
  intro c _ hc n hn
  rw [hc] at hn
  cases hn
  rfl

def rpoTable : List (Str × Int) :=
  [("Five_Minutes", 300), ("Fifteen_Minutes", 900), ("Thirty_Minutes", 1800), ("One_Hour", 3600),
    ("Six_Hours", 21600), ("Twelve_Hours", 43200), ("One_Day", 86400)]

theorem mem_rpoTable (h : rpoToInt rpo = some seconds) : (rpo, seconds) ∈ rpoTable := by
  have hlookup : rpoTable.lookup rpo = some seconds := h
  obtain ⟨l, r, htable, -⟩ := List.lookup_eq_some_iff.1 hlookup
  rw [htable]
  simp

theorem rpo_short : ∀ x ∈ rpoTable, (45 : UInt8) ∉ x.1 ∧ x.1.length < 128 ∧ x.2 ≠ -1 := by decide

theorem rpo_injective : ∀ x ∈ rpoTable, ∀ y ∈ rpoTable, x.2 = y.2 → x.1 = y.1 := by decide +kernel

/-- The RPO is at the end of the name after the cut: nothing was cut off, or what was left happens to
end with it. -/
def KeepsRpo (vgPrefix rpo endpoint ns : Str) : Prop :=
  (wholeName vgPrefix rpo endpoint ns).length ≤ 128 ∨
    ("-" : Str) ++ rpo <:+ (wholeName vgPrefix rpo endpoint ns).take 128

theorem getRpoInt_eq_iff (h : rpoToInt rpo = some seconds) (vgName : Str) :
    getRpoInt vgName = seconds ↔ vgName = rpo ∨ ("-" : Str) ++ rpo <:+ vgName := by
  obtain ⟨hdash, -, hpos⟩ := rpo_short _ (mem_rpoTable h)
  have hlast : (split vgName "-").getLastD [] = rpo ↔ vgName = rpo ∨ ("-" : Str) ++ rpo <:+ vgName :=
    (split_getLastD_eq_iff 45 vgName rpo).trans (and_iff_right hdash)
  rw [← hlast, getRpoInt]
  constructor
  · intro heq
    cases hother : rpoToInt ((split vgName "-").getLastD []) with
    | none =>
      rw [hother] at heq
      exact absurd heq.symm hpos
    | some n =>
      rw [hother] at heq
      exact rpo_injective _ (mem_rpoTable hother) _ (mem_rpoTable h) heq
  · intro heq
    rw [heq, h]
    rfl

theorem getRpoInt_take_iff (h : rpoToInt rpo = some seconds) :
    getRpoInt ((wholeName vgPrefix rpo endpoint ns).take 128) = seconds ↔
      KeepsRpo vgPrefix rpo endpoint ns := by
  obtain ⟨-, hshort, -⟩ := rpo_short _ (mem_rpoTable h)
  have hends : ("-" : Str) ++ rpo <:+ wholeName vgPrefix rpo endpoint ns :=
    ⟨vgPrefix ++ "-" ++ (ns ++ "-") ++ endpoint, by simp [wholeName]⟩
  rw [getRpoInt_eq_iff h, KeepsRpo]
  by_cases hlen : (wholeName vgPrefix rpo endpoint ns).length ≤ 128
  · rw [List.take_of_length_le hlen]
    exact iff_of_true (.inr hends) (.inl hlen)
  refine or_congr_left' fun _ => iff_of_false ?_ hlen
  intro heq
  have hcount := congrArg List.length heq
  rw [List.length_take] at hcount
  simp only at hshort
  omega

/-- The length of the longest common start of two texts. -/
def sharedLength : Str → Str → Nat
  | a :: x, b :: y => if a = b then sharedLength x y + 1 else 0
  | _, _ => 0

theorem sharedLength_append (p x y : Str) :
    sharedLength (p ++ x) (p ++ y) = p.length + sharedLength x y := by
  induction p with
  | nil => simp
  | cons a p ih =>
    rw [List.cons_append, List.cons_append, sharedLength, if_pos rfl, ih, List.length_cons]
    omega

theorem take_ne_take_iff (x y : Str) (n : Nat) :
    x.take n ≠ y.take n ↔ x ≠ y ∧ sharedLength x y < n := by
  induction x generalizing y n with
  | nil =>
    cases n with
    | zero => simp
    | succ n => cases y <;> simp [sharedLength]
  | cons a x ih =>
    cases n with
    | zero => simp
    | succ n =>
      cases y with
      | nil => simp [sharedLength]
      | cons b y =>
        by_cases hab : a = b
        · subst hab
          rw [List.take_succ_cons, List.take_succ_cons, sharedLength, if_pos rfl, ne_eq, ne_eq,
            List.cons_inj_right, List.cons_inj_right, Nat.succ_lt_succ_iff]
          exact ih y n
        · simp [sharedLength, hab]

/-- What follows the namespace in the name of the policy. -/
def policyTail (rpo endpoint : Str) : Str := "-" ++ groupPolicy endpoint ++ "-" ++ groupPolicy rpo

theorem groupPolicy_take (s : Str) (n : Nat) : groupPolicy (s.take n) = (groupPolicy s).take n := by
  rw [groupPolicy, groupPolicy, replaceByte, replaceByte, List.map_take]

theorem groupPolicy_append (x y : Str) : groupPolicy (x ++ y) = groupPolicy x ++ groupPolicy y :=
  List.map_append

theorem groupPolicy_of_no_dot (h : (46 : UInt8) ∉ x) : groupPolicy x = x := by
  have hsame : ∀ b ∈ x, (if b = 46 then 45 else b : UInt8) = id b := by
    intro b hb
    refine if_neg ?_
    rintro rfl
    exact h hb
  exact (List.map_congr_left hsame).trans (List.map_id x)

theorem groupPolicy_wholeName (hdots : (46 : UInt8) ∉ ns) :
    groupPolicy (wholeName vgPrefix rpo endpoint ns) =
      groupPolicy vgPrefix ++ "-" ++ (ns ++ policyTail rpo endpoint) := by
  have hdash : groupPolicy "-" = "-" := by decide
  simp only [wholeName, policyTail, groupPolicy_append, groupPolicy_of_no_dot hdots, hdash,
    List.append_assoc]

/-- The names of the policies differ when the namespaces do and the first difference is not cut
off. -/
theorem groupPolicy_ne_iff (hdots : (46 : UInt8) ∉ ns) (hdots' : (46 : UInt8) ∉ ns') :
    groupPolicy ((wholeName vgPrefix rpo endpoint ns).take 128) ≠
        groupPolicy ((wholeName vgPrefix rpo endpoint ns').take 128) ↔
      ns ≠ ns' ∧ vgPrefix.length + 1 +
        sharedLength (ns ++ policyTail rpo endpoint) (ns' ++ policyTail rpo endpoint) < 128 := by
  have hlen : (groupPolicy vgPrefix ++ ("-" : Str)).length = vgPrefix.length + 1 := by
    simp only [groupPolicy, replaceByte, List.length_append, List.length_map]
    rfl
  rw [groupPolicy_take, groupPolicy_take, take_ne_take_iff, groupPolicy_wholeName hdots,
    groupPolicy_wholeName hdots', sharedLength_append, hlen, ne_eq, List.append_cancel_left_eq,
    List.append_cancel_right_eq]

def SameButNamespace (params params' : Params) : Prop :=
  ∀ key, key ≠ namespaceKey → params'.get? key = params.get? key

theorem SameButNamespace.withRP {params params' : Params} (h : SameButNamespace params params')
    (svc : Service) {key : Str} (hslash : slash ∉ key) (hne : key ≠ ("namespace" : Str)) :
    params'.get? (svc.withRP key) = params.get? (svc.withRP key) :=
  h _ (withRP_ne_namespaceKey svc hslash hne)

theorem GroupNaming.other (h : GroupNaming svc req vgPrefix rpo endpoint ns seconds)
    (hsame : SameButNamespace req.parameters req'.parameters)
    (hns : req'.parameters.get? namespaceKey = some ns') :
    GroupNaming svc req' vgPrefix rpo endpoint ns' seconds := by
  obtain ⟨remoteName, name, remote, hname, hcfg⟩ := h.remote
  refine ⟨?_, ?_, h.valid, ⟨remoteName, name, remote, ?_, hcfg⟩, ?_, hns⟩
  · exact (hsame.withRP svc (by decide) (by decide)).trans h.hasPre
  · exact (hsame.withRP svc (by decide) (by decide)).trans h.hasRpo
  · exact (hsame.withRP svc (by decide) (by decide)).trans hname
  · exact (hsame.withRP svc (by decide) (by decide)).trans h.namespaced

/-- Different group directories, different policies, and both names give the RPO back. -/
structure ToldApart (svc : Service) (req req' : CreateVolumeRequest) (seconds : Int) : Prop where
  directory : req.root svc ≠ req'.root svc
  policy : groupPolicy (req.volumeGroup svc) ≠ groupPolicy (req'.volumeGroup svc)
  rpo : getRpoInt (req.volumeGroup svc) = seconds
  rpo' : getRpoInt (req'.volumeGroup svc) = seconds

theorem toldApart_iff : ToldApart svc req req' seconds ↔ req.root svc ≠ req'.root svc ∧
    groupPolicy (req.volumeGroup svc) ≠ groupPolicy (req'.volumeGroup svc) ∧
    getRpoInt (req.volumeGroup svc) = seconds ∧ getRpoInt (req'.volumeGroup svc) = seconds :=
  ⟨fun h => ⟨h.directory, h.policy, h.rpo, h.rpo'⟩, fun h => ⟨h.1, h.2.1, h.2.2.1, h.2.2.2⟩⟩

/-- Requests of two namespaces are told apart if and only if the namespaces differ, the first
difference of the names is within the 128 bytes that are kept, and so is the RPO of both. Names that
are not cut are told apart by their namespaces alone. -/
theorem volumeGroup_distinct_iff (svc : Service) (req req' : CreateVolumeRequest)
    (vgPrefix rpo endpoint ns ns' : Str) (seconds : Int)
    (h : GroupNaming svc req vgPrefix rpo endpoint ns seconds)
    (hsame : SameButNamespace req.parameters req'.parameters)
    (hns : req'.parameters.get? namespaceKey = some ns')
    (hon : isReplicationEnabled svc req.parameters = true)
    (hdots : (46 : UInt8) ∉ ns) (hdots' : (46 : UInt8) ∉ ns') :
    (ToldApart svc req req' seconds ↔ ns ≠ ns' ∧ vgPrefix.length + 1 +
        sharedLength (ns ++ policyTail rpo endpoint) (ns' ++ policyTail rpo endpoint) < 128 ∧
      KeepsRpo vgPrefix rpo endpoint ns ∧ KeepsRpo vgPrefix rpo endpoint ns') ∧
    ((wholeName vgPrefix rpo endpoint ns).length ≤ 128 →
      (wholeName vgPrefix rpo endpoint ns').length ≤ 128 →
        (ToldApart svc req req' seconds ↔ ns ≠ ns')) := by
  have h' := h.other hsame hns
  have hon' : isReplicationEnabled svc req'.parameters = true := by
    rw [← hon, isReplicationEnabled, isReplicationEnabled,
      hsame.withRP svc (by decide) (by decide)]
  have hpath : req'.isiPath svc = req.isiPath svc := by
    have hcluster : req'.parameters.get "ClusterName" = req.parameters.get "ClusterName" :=
      congrArg (Option.getD · []) (hsame _ (by decide))
    have hisi : req'.parameters.get "IsiPath" = req.parameters.get "IsiPath" :=
      congrArg (Option.getD · []) (hsame _ (by decide))
    rw [CreateVolumeRequest.isiPath, CreateVolumeRequest.isiPath, CreateVolumeRequest.clusterIsiPath,
      CreateVolumeRequest.clusterIsiPath, paramOr, paramOr, hcluster, hisi]
  have hroot : req.root svc ≠ req'.root svc ↔ req.volumeGroup svc ≠ req'.volumeGroup svc := by
    simp only [CreateVolumeRequest.root, hon, hon', hpath, if_true, ne_eq, List.append_cancel_left_eq]
  have hweaker (hpolicy : groupPolicy (req.volumeGroup svc) ≠ groupPolicy (req'.volumeGroup svc)) :
      req.volumeGroup svc ≠ req'.volumeGroup svc :=
    fun heq => hpolicy (congrArg groupPolicy heq)
  have hapart : ToldApart svc req req' seconds ↔
      groupPolicy ((wholeName vgPrefix rpo endpoint ns).take 128) ≠
          groupPolicy ((wholeName vgPrefix rpo endpoint ns').take 128) ∧
        KeepsRpo vgPrefix rpo endpoint ns ∧ KeepsRpo vgPrefix rpo endpoint ns' := by
    rw [toldApart_iff, hroot, ← and_assoc, and_iff_right_of_imp hweaker, h.volumeGroup_eq,
      h'.volumeGroup_eq, getRpoInt_take_iff h.valid, getRpoInt_take_iff h.valid]
  constructor
  · rw [hapart, groupPolicy_ne_iff hdots hdots', and_assoc]
  · intro hlen hlen'
    rw [hapart, List.take_of_length_le hlen, List.take_of_length_le hlen',
      and_iff_left ⟨.inl hlen, .inl hlen'⟩, groupPolicy_wholeName hdots, groupPolicy_wholeName hdots',
      ne_eq, List.append_cancel_left_eq, List.append_cancel_right_eq]

def replicated (vgPrefix ns : Str) : CreateVolumeRequest :=
  { newVolume "vol1" with
    parameters := [(oneCluster.withRP "isReplicationEnabled", "true"),
      (oneCluster.withRP "volumeGroupPrefix", vgPrefix), (oneCluster.withRP "rpo", "One_Hour"),
      (oneCluster.withRP "remoteSystem", "c1"), (oneCluster.withRP "ignoreNamespaces", "false"),
      (namespaceKey, ns)] }

theorem replicated_naming :
    GroupNaming oneCluster (replicated vgPrefix ns) vgPrefix "One_Hour" "10.0.0.1" ns 3600 := by
  refine ⟨rfl, rfl, by decide, ⟨"c1", "c1", _, rfl, rfl, by decide⟩, rfl, rfl⟩

theorem replicated_same :
    SameButNamespace (replicated vgPrefix ns).parameters (replicated vgPrefix ns').parameters := by
  intro key hkey
  have hother : (key == namespaceKey) = false := beq_false_of_ne hkey
  simp [replicated, Params.get?, List.lookup_cons, hother]

theorem volumeGroup_distinct_dev_prod :
    ToldApart oneCluster (replicated "csi" "dev") (replicated "csi" "prod") 3600 :=
  ((volumeGroup_distinct_iff oneCluster (replicated "csi" "dev") (replicated "csi" "prod") "csi"
    "One_Hour" "10.0.0.1" "dev" "prod" 3600 replicated_naming replicated_same rfl (by decide)
    (by decide) (by decide)).2 (by decide) (by decide)).2 (by decide)

/-- With a group name of 127 bytes nothing of the namespace is left, nor of the RPO. -/
theorem volumeGroup_cut : (replicated (List.replicate 127 97) "dev").root oneCluster =
        (replicated (List.replicate 127 97) "prod").root oneCluster ∧
      getRpoInt ((replicated (List.replicate 127 97) "dev").volumeGroup oneCluster) = -1 := by
  decide +kernel

end

def Call.recorded (answered : Bool) : Call → Option Str
  | addExportClients _ _ _ [client] false => if answered then some client else none
  | _ => none

def recordClients (cluster : Str) : IsiM α → DriverM α
  | ret a => ret a
  | fail e => fail e
  | .call c k => .call (.array cluster c) fun r =>
    match c.recorded r.isOk with
    | some client => .call (.storeClient cluster dummyHostNodeID client) fun _ =>
        recordClients cluster (k r)
    | none => recordClients cluster (k r)

variable (svc : Service)

def Service.withClient (cluster : Str) (client : Option Str) : Service :=
  { svc with
    isilonClusters := svc.isilonClusters.map fun cfg =>
      if cfg.clusterName = cluster then { cfg with currentClient := client } else cfg }

namespace Controller

/-- `CreateVolume`. It looks the dummy host up once, and nothing in it changes the node map before. -/
def createVolumeRecorded (req : CreateVolumeRequest) : DriverM (Option Volume) := do
  let cluster := (req.clusterName svc).getD []
  let client ← step (.loadClient cluster dummyHostNodeID)
  recordClients cluster (createVolume (svc.withClient cluster client) req)

structure CreateRemoteVolumeRequest where
  volumeHandle : Str
  parameters : Params
  deriving DecidableEq

/-- `strings.ReplaceAll(strings.ReplaceAll(strings.TrimPrefix(isiPath, strip), "/", ""), ".",
"-")`. -/
def policyName (isiPath strip : Str) : Str :=
  let rest := if startsWith isiPath strip then isiPath.drop strip.length else isiPath
  replaceByte (rest.filter fun c => c ≠ slash) 46 45

def readRemoteSource (cfg : ClusterConfig) (v : VolumeID) (params : Params) :
    IsiM (Str × Str × Int) := do
  match ← tryRequest (.getExportByID v.exportID v.accessZone) with
  | .error e => fail (.status .notFound e.text)
  | .ok none => fail .panic
  | .ok (some e) =>
    match e.paths with
    | [] => fail (.status .notFound (sprintf ["can't find paths for export with id ",
        itoa v.exportID]))
    | exportPath :: _ =>
      match getIsiPathFromExportPath exportPath with
      | none => fail .panic
      | some isiPath =>
        let strip := (params.get? "IsiPath").getD cfg.isiPath
        match ← tryRequest (.syncPolicy (policyName isiPath strip)) with
        | .error e => fail (.status .internal (sprintf ["failed to sync data ", e.text]))
        | .ok _ =>
          match ← tryRequest (.getQuotaWithPath exportPath) with
          | .ok quota => return (exportPath, isiPath, quota.hard)
          | .error e =>
            if contains e.text "not found:" then return (exportPath, isiPath, 0)
            else fail (.status .internal (sprintf ["Error while retrieving quota ", e.text]))

def remoteQuota (exportPath : Str) (volumeSize : Int) : IsiM Str := do
  match ← tryRequest (.getQuotaWithPath exportPath) with
  | .ok quota => return quota.id
  | .error e =>
    if contains e.text "not found:" then
      match ← attempt (IsiService.createQuota exportPath "0" "0" "0" volumeSize svc.quotaEnabled) with
      | .ok quotaID => return quotaID
      | .error e => fail (.status .internal (sprintf ["can't create remote quota ", e.text]))
    else fail (.status .internal (sprintf ["Error while retrieving remote quota ", e.text]))

def allowDummyHost (remote : Str) (cfg : ClusterConfig) (exportID : Int) (accessZone : Str) :
    Nat → DriverM Unit
  | 0 => ret ()
  | n + 1 => do
    match ← attempt (onCluster remote (request (.getExportByID exportID accessZone))) with
    | .ok (some _) =>
      if !(← onCluster remote
        (IsiService.isHostAlreadyAdded exportID accessZone dummyHostNodeID)) then
        let _ ← attempt (addExportClientNetworkIdentifier remote exportID accessZone dummyHostNodeID
          cfg.ignoreUnresolvableHosts IsiService.addExportClientByIDWithZone)
    | _ => allowDummyHost remote cfg exportID accessZone n

def remoteExport (remote : Str) (cfg : ClusterConfig) (volName isiPath exportPath : Str)
    (accessZone : Str) (volumeSize : Int) : DriverM Int := do
  match ← attempt (onCluster remote (request (.getExportWithPath exportPath accessZone))) with
  | .error e => fail (.status .notFound e.text)
  | .ok (some e) => ret e.id
  | .ok none =>
    let quotaID ← onCluster remote (remoteQuota svc exportPath volumeSize)
    match ← attempt (onCluster remote (IsiService.exportVolumeWithZoneAndXprtsec isiPath volName
      accessZone (getQuotaIDWithCSITag quotaID) [])) with
    | .error e => fail (.status .internal (sprintf ["failed to create export: ", e.text]))
    | .ok exportID =>
      if exportID = 0 then fail .panic
      else
        allowDummyHost remote cfg exportID accessZone maxRetries
        ret exportID

def getRemoteCSIVolume (remote : Str) (cfg : ClusterConfig) (params : Params)
    (volName exportPath accessZone : Str) (exportID volumeSize : Int) : Volume :=
  let azServiceIP := (params.get? (svc.withRP "remoteAzServiceIP")).getD cfg.endpoint
  let rootClientEnabled := (params.get? (svc.withRP "remoteRootClientEnabled")).getD "false"
  let attributes : Params := [("Path", exportPath), ("AccessZone", accessZone),
    ("ID", itoa exportID), ("Name", volName), ("ClusterName", remote),
    ("AzServiceIP", if contains azServiceIP "localhost" then cfg.mountEndpoint else azServiceIP),
    ("RootClientEnabled", rootClientEnabled)]
  let azNetwork : Params := match params.get? (svc.withRP "remoteAzNetwork") with
    | some network => [("AzNetwork", network)]
    | none => []
  { volumeID := getNormalizedVolumeID volName exportID accessZone remote
    capacityBytes := volumeSize
    volumeContext := attributes ++ azNetwork
    contentSource := none }

/-- What `CreateRemoteVolume` and `CreateStorageProtectionGroup` start with: the volume of the
request, its cluster and the remote one, when both can be reached. -/
def remoteSites (req : CreateRemoteVolumeRequest) :
    DriverM (VolumeID × (Str × ClusterConfig) × (Str × ClusterConfig)) := do
  if req.volumeHandle = [] then fail (.status .invalidArgument "volume ID is required")
  else
    match parseNormalizedVolumeID req.volumeHandle with
    | .error e => fail (.status .notFound e.text)
    | .ok v =>
      let (clusterName, cfg) ← ofExcept (svc.getIsilonConfig v.clusterName)
      match req.parameters.get? (svc.withRP "remoteSystem") with
      | none => fail (.status .invalidArgument
          "replication enabled but no remote system specified in storage class")
      | some remoteSystem =>
        match svc.getIsilonConfig remoteSystem with
        | .error _ => fail (.status .invalidArgument (sprintf ["can't find cluster with name ",
            if remoteSystem = [] then svc.defaultIsiClusterName else remoteSystem,
            " in driver config"]))
        | .ok (remote, remoteCfg) =>
          match ← attempt (onCluster clusterName (svc.autoProbe cfg)) with
          | .error e => fail (.status .failedPrecondition e.text)
          | .ok _ =>
            match ← attempt (onCluster remote (svc.autoProbe remoteCfg)) with
            | .error e => fail (.status .failedPrecondition e.text)
            | .ok _ => ret (v, (clusterName, cfg), remote, remoteCfg)

def createRemoteVolume (req : CreateRemoteVolumeRequest) : DriverM Volume := do
  let (v, (clusterName, cfg), remote, remoteCfg) ← remoteSites svc req
  let (exportPath, isiPath, volumeSize) ←
    onCluster clusterName (readRemoteSource cfg v req.parameters)
  let accessZone := (req.parameters.get? (svc.withRP "remoteAccessZone")).getD v.accessZone
  let exportID ←
    remoteExport svc remote remoteCfg v.volName isiPath exportPath accessZone volumeSize
  ret (getRemoteCSIVolume svc remote remoteCfg req.parameters v.volName exportPath accessZone
    exportID volumeSize)

end Controller

structure StorageProtectionGroup where
  localProtectionGroupId : Str
  remoteProtectionGroupId : Str
  localProtectionGroupAttributes : Params
  remoteProtectionGroupAttributes : Params
  deriving DecidableEq

def groupAttributes (contextPre system remoteSystem address remoteAddress vgName : Str) : Params :=
  [(contextPre ++ "systemName", system), (contextPre ++ "remoteSystemName", remoteSystem),
    (contextPre ++ "managementAddress", address), (contextPre ++ "remoteManagementAddress", remoteAddress),
    (contextPre ++ "VolumeGroupName", vgName)]

namespace Controller

def readGroupPath (exportID : Int) (accessZone : Str) : IsiM (Str × Str) := do
  match ← tryRequest (.getExportByID exportID accessZone) with
  | .error e => fail (.status .notFound e.text)
  | .ok none => fail .panic
  | .ok (some e) =>
    match e.paths with
    | [] => fail (.status .notFound (sprintf ["can't find paths for export with id ", itoa exportID]))
    | exportPath :: _ =>
      match getIsiPathFromExportPath exportPath with
      | none => fail .panic
      | some isiPath =>
        -- `GetVolumeNameFromExportPath` panics on an empty path
        if isiPath = [] then fail .panic
        else return (isiPath, getVolumeNameFromExportPath isiPath)

def createStorageProtectionGroup (contextPre : Str) (svc : Service) (req : CreateRemoteVolumeRequest) :
    DriverM StorageProtectionGroup := do
  let (v, (clusterName, cfg), remote, remoteCfg) ← remoteSites svc req
  let (isiPath, vgName) ← onCluster clusterName (readGroupPath v.exportID v.accessZone)
  let address := remoteEndpoint cfg
  let remoteAddress := remoteEndpoint remoteCfg
  ret {
    localProtectionGroupId := sprintf [clusterName, "::", isiPath]
    remoteProtectionGroupId := sprintf [remote, "::", isiPath]
    localProtectionGroupAttributes :=
      groupAttributes contextPre clusterName remote address remoteAddress vgName
    remoteProtectionGroupAttributes :=
      groupAttributes contextPre remote clusterName remoteAddress address vgName }

def deleteLocalExport (volName : Str) (exportID : Int) (accessZone : Str) : IsiM Unit := do
  match ← tryRequest (.getExportByID exportID accessZone) with
  | .error e => if e.jsonStatus = some 404 then ret () else fail e
  | .ok none => fail .panic
  | .ok (some e) =>
    match e.paths with
    | [] => fail .panic
    | exportPath :: _ =>
      match getIsiPathFromExportPath exportPath with
      | none => fail .panic
      | some isiPath =>
        let _ ← IsiService.isVolumeExistent isiPath volName
        if e.clients = [("localhost" : Str)] then IsiService.unexportByIDWithZone exportID accessZone
        else fail (.plain (sprintf ["export for volume ", volName, " has other clients in AccessZone ",
          accessZone, ". It is not safe to delete the export"]))

def deleteLocalVolume (volumeHandle : Str) : DriverM Unit := do
  match parseNormalizedVolumeID volumeHandle with
  | .error e => fail (.status .invalidArgument
      (sprintf ["failed to parse volume ID '", volumeHandle, "', error: '", e.text, "'"]))
  | .ok v =>
    let (clusterName, cfg) ← ofExcept (svc.getIsilonConfig v.clusterName)
    -- without a probe before, a client that is not set up is a nil pointer
    if !cfg.isiSvc then fail .panic
    else onCluster clusterName (deleteLocalExport v.volName v.exportID v.accessZone)

end Controller

def noSlashes (s : Str) : Str := s.filter fun c => c ≠ slash

def Strips (strip above g : Str) : Prop :=
  if startsWith (above ++ g ++ [slash]) strip then noSlashes strip = noSlashes above
  else noSlashes above = []

instance (strip above g : Str) : Decidable (Strips strip above g) :=
  inferInstanceAs (Decidable (ite _ _ _))

/-- The volume of the export lies in a directory `g` called as the volume group, and what is
stripped from its path is what stands above that directory. -/
def Agrees (exportPath strip vgName : Str) : Prop :=
  ∃ above g, getIsiPathFromExportPath exportPath = some (above ++ g ++ [slash]) ∧ slash ∉ g ∧
    (above = [] ∨ above.getLast? = some slash) ∧ groupPolicy g = groupPolicy vgName ∧
    Strips strip above g

def remotePolicy (cfg : ClusterConfig) (params : Params) (exportPath : Str) : Option Str :=
  (getIsiPathFromExportPath exportPath).map fun isiPath =>
    policyName isiPath ((params.get? "IsiPath").getD cfg.isiPath)

def attributePolicy (exportPath : Str) : Option Str :=
  (getIsiPathFromExportPath exportPath).bind fun isiPath =>
    if isiPath = [] then none else some (groupPolicy (getVolumeNameFromExportPath isiPath))

theorem groupPolicy_length (s : Str) : (groupPolicy s).length = s.length := List.length_map ..

theorem noSlashes_append (s t : Str) : noSlashes (s ++ t) = noSlashes s ++ noSlashes t :=
  List.filter_append ..

theorem noSlashes_eq_self (h : slash ∉ g) : noSlashes g = g := by
  apply List.filter_eq_self.2
  intro c hc
  simp only [ne_eq, decide_eq_true_eq]
  rintro rfl
  exact h hc

theorem noSlashes_group (h : slash ∉ g) (above : Str) :
    noSlashes (above ++ g ++ [slash]) = noSlashes above ++ g := by
  rw [noSlashes_append, noSlashes_append, noSlashes_eq_self h]
  simp [noSlashes]

theorem policyName_eq_iff (h : slash ∉ g) (strip above : Str) :
    policyName (above ++ g ++ [slash]) strip = groupPolicy g ↔ Strips strip above g := by
  have hname : policyName (above ++ g ++ [slash]) strip = groupPolicy (noSlashes
      (if startsWith (above ++ g ++ [slash]) strip then (above ++ g ++ [slash]).drop strip.length
        else above ++ g ++ [slash])) := rfl
  rw [hname, Strips]
  split
  · next hstart =>
    -- what is left has the length of the name of the group only if all above it was stripped
    obtain ⟨rest, hrest⟩ := List.isPrefixOf_iff_prefix.1 hstart
    have hparts : noSlashes strip ++ noSlashes rest = noSlashes above ++ g := by
      rw [← noSlashes_append, hrest, noSlashes_group h]
    rw [← hrest, List.drop_left]
    constructor
    · intro heq
      have hlen := congrArg List.length heq
      rw [groupPolicy_length, groupPolicy_length] at hlen
      exact (List.append_inj' hparts hlen).1
    · intro heq
      rw [heq, List.append_cancel_left_eq] at hparts
      rw [hparts]
  · rw [noSlashes_group h]
    constructor
    · intro heq
      have hlen := congrArg List.length heq
      rw [groupPolicy_length, groupPolicy_length, List.length_append] at hlen
      exact List.eq_nil_of_length_eq_zero (by omega)
    · intro heq
      rw [heq, List.nil_append]

theorem getIsiPathFromExportPath_end (h : getIsiPathFromExportPath exportPath = some isiPath) :
    isiPath = [] ∨ isiPath.getLast? = some slash := by
  rw [getIsiPathFromExportPath] at h
  split at h
  · cases h
  · split at h <;> cases h <;> exact upToLastSlash_end _

theorem getVolumeNameFromExportPath_slash (u : Str) :
    getVolumeNameFromExportPath (u ++ [slash]) = afterLastSlash u := by
  rw [getVolumeNameFromExportPath, if_pos (by simp), List.dropLast_concat]

theorem names_agree_iff (cfg : ClusterConfig) (params : Params) (exportPath vgName : Str) :
    (remotePolicy cfg params exportPath = some (groupPolicy vgName) ∧
        attributePolicy exportPath = some (groupPolicy vgName)) ↔
      Agrees exportPath ((params.get? "IsiPath").getD cfg.isiPath) vgName := by
  rw [remotePolicy, attributePolicy, Agrees]
  constructor
  · rintro ⟨hremote, hattribute⟩
    cases hpath : getIsiPathFromExportPath exportPath with
    | none =>
      rw [hpath] at hremote
      cases hremote
    | some isiPath =>
      rw [hpath, Option.map_some, Option.some.injEq] at hremote
      rw [hpath, Option.bind_some] at hattribute
      split at hattribute
      · cases hattribute
      next hne =>
      have hend := (getIsiPathFromExportPath_end hpath).resolve_left hne
      obtain ⟨u, rfl⟩ := List.getLast?_eq_some_iff.1 hend
      have hu := upToLastSlash_afterLastSlash u
      have hname : groupPolicy (afterLastSlash u) = groupPolicy vgName := by
        rw [getVolumeNameFromExportPath_slash, Option.some.injEq] at hattribute
        exact hattribute
      refine ⟨upToLastSlash u, afterLastSlash u, by rw [hu], slash_not_mem_afterLastSlash u,
        upToLastSlash_end u, hname, ?_⟩
      rw [← policyName_eq_iff (slash_not_mem_afterLastSlash u), hu, hremote, hname]
  · rintro ⟨above, g, hpath, hslash, hend, hname, hstrips⟩
    have hlast : afterLastSlash (above ++ g) = g := by
      rcases hend with rfl | hend
      · rw [List.nil_append, afterLastSlash, List.takeWhile_eq_self_iff.2]
        · exact List.reverse_reverse g
        intro c hc
        rw [bne_iff_ne]
        rintro rfl
        exact hslash (List.mem_reverse.1 hc)
      · obtain ⟨w, rfl⟩ := List.getLast?_eq_some_iff.1 hend
        rw [List.append_assoc, List.singleton_append, afterLastSlash_append hslash]
    rw [hpath, Option.map_some, Option.bind_some, if_neg (by simp),
      getVolumeNameFromExportPath_slash, hlast, (policyName_eq_iff hslash _ _).2 hstrips, hname]
    exact ⟨rfl, rfl⟩

section Derived

variable {svc : Service} {cfg : ClusterConfig} {v : VolumeID} {params : Params} {e : Export}
  {exportPath : Str} {more : List Str}

theorem readRemoteSource_policy (hexport : s.exportById v.exportID v.accessZone = some e)
    (hpath : e.paths = exportPath :: more) :
    sends array F (fun _ c => ∀ name, c.policyOf = some name →
      remotePolicy cfg params exportPath = some name) (readRemoteSource cfg v params) s := by
  unfold readRemoteSource
  apply sends_bind
  · apply sends_ask
    intro name h
    cases h
  rw [wp_ask]
  constructor
  · rw [array_act, OneFS.serve, hexport]
    intro r hr
    cases hr
    simp only [OneFS.reply, Option.map_some, hpath]
    cases hisi : getIsiPathFromExportPath exportPath with
    | none => trivial
    | some isiPath =>
      apply sends_bind_any
      · apply sends_ask
        intro name h
        cases h
        rw [remotePolicy, hisi]
        rfl
      · intro r t
        cases r with
        | error e => trivial
        | ok _ =>
          apply sends_bind_any
          · apply sends_ask
            intro name h
            cases h
          intro r t
          cases r with
          | ok q => trivial
          | error e =>
            dsimp only
            split <;> trivial
  · intro err _ r hr
    cases hr
    trivial

def IsGroupPath (exportPath : Str) (x : Str × Str) : Prop :=
  getIsiPathFromExportPath exportPath = some x.1 ∧ x.1 ≠ [] ∧ x.2 = getVolumeNameFromExportPath x.1

theorem IsGroupPath.policy (h : IsGroupPath exportPath x) :
    attributePolicy exportPath = some (groupPolicy x.2) := by
  rw [attributePolicy, h.1, Option.bind_some, if_neg h.2.1, h.2.2]

theorem readGroupPath_names (hexport : s.exportById v.exportID v.accessZone = some e)
    (hpath : e.paths = exportPath :: more) :
    wp array F (readGroupPath v.exportID v.accessZone)
      (fun r _ => ∀ x, r = .ok x → IsGroupPath exportPath x) s := by
  have hfail (err : Err) : ∀ x, (.error err : Except Err (Str × Str)) = .ok x →
      IsGroupPath exportPath x := by
    intro x h
    cases h
  unfold readGroupPath
  rw [wp_bind, wp_ask]
  constructor
  · rw [array_act, OneFS.serve, hexport]
    simp only [OneFS.reply, Option.map_some, andThen_ok, hpath]
    cases hisi : getIsiPathFromExportPath exportPath with
    | none => exact hfail _
    | some isiPath =>
      dsimp only
      split
      · exact hfail _
      next hne =>
      intro x h
      cases h
      exact ⟨hisi, hne, rfl⟩
  · intro err _
    exact hfail _

theorem groupAttributes_group (contextPre system remoteSystem address remoteAddress vgName : Str) :
    (groupAttributes contextPre system remoteSystem address remoteAddress vgName).get?
      (contextPre ++ "VolumeGroupName") = some vgName := by
  have hother {key : Str} (hkey : key ≠ ("VolumeGroupName" : Str)) :
      (contextPre ++ "VolumeGroupName" == contextPre ++ key) = false := by
    apply beq_false_of_ne
    intro h
    exact hkey (List.append_cancel_left h).symm
  simp only [groupAttributes, Params.get?, List.lookup_cons]
  rw [hother (by decide), hother (by decide), hother (by decide), hother (by decide)]
  simp

def groupOf (contextPre cluster remote : Str) (cfg remoteCfg : ClusterConfig) (x : Str × Str) :
    StorageProtectionGroup where
  localProtectionGroupId := sprintf [cluster, "::", x.1]
  remoteProtectionGroupId := sprintf [remote, "::", x.1]
  localProtectionGroupAttributes :=
    groupAttributes contextPre cluster remote (remoteEndpoint cfg) (remoteEndpoint remoteCfg) x.2
  remoteProtectionGroupAttributes :=
    groupAttributes contextPre remote cluster (remoteEndpoint remoteCfg) (remoteEndpoint cfg) x.2

def NamesGroup (contextPre : Str) (svc : Service) (params : Params) (exportPath cluster : Str)
    (cfg : ClusterConfig) (g : StorageProtectionGroup) : Prop :=
  ∃ system remote x, IsGroupPath exportPath x ∧
    params.get? (svc.withRP "remoteSystem") = some system ∧ svc.getIsilonConfig system = .ok remote ∧
    g = groupOf contextPre cluster remote.1 cfg remote.2 x

/-- The start of a request keeps what a probe keeps, and answers with what the request names. -/
theorem remoteSites_wp {I : Driver → Prop} {req : CreateRemoteVolumeRequest}
    (hprobe : ∀ cluster c {t}, I t →
      wp (driver i) F (onCluster cluster (svc.autoProbe c)) (fun _ u => I u) t) (hd : I d) :
    wp (driver i) F (remoteSites svc req) (fun r t => I t ∧ ∀ x, r = .ok x →
      parseNormalizedVolumeID req.volumeHandle = .ok x.1 ∧
      svc.getIsilonConfig x.1.clusterName = .ok x.2.1 ∧
      ∃ system, req.parameters.get? (svc.withRP "remoteSystem") = some system ∧
        svc.getIsilonConfig system = .ok x.2.2) d := by
  have hfail {P : VolumeID × (Str × ClusterConfig) × (Str × ClusterConfig) → Prop} {t : Driver}
      (err : Err) (ht : I t) : I t ∧ ∀ x, Except.error err = Except.ok x → P x := by
    refine ⟨ht, fun x h => ?_⟩
    cases h
  unfold remoteSites
  split
  · exact hfail _ hd
  split
  · exact hfail _ hd
  next v hv =>
  cases hcluster : svc.getIsilonConfig v.clusterName with
  | error e => exact hfail _ hd
  | ok c =>
    rw [ofExcept_ok, ret_bind]
    dsimp only
    split
    · exact hfail _ hd
    next system hsystem =>
    split
    · exact hfail _ hd
    next remote remoteCfg hremote =>
    refine wp_seq (M := fun _ t => I t) ((wp_attempt _).2 (hprobe _ _ hd)) (fun _ _ => hfail _)
      fun r t ht => ?_
    cases r with
    | error e => exact hfail _ ht
    | ok _ =>
      refine wp_seq (M := fun _ t => I t) ((wp_attempt _).2 (hprobe _ _ ht)) (fun _ _ => hfail _)
        fun r u hu => ?_
      cases r with
      | error e => exact hfail _ hu
      | ok _ =>
        refine ⟨hu, fun x hx => ?_⟩
        cases hx
        exact ⟨hv, hcluster, system, hsystem, hremote⟩

theorem createStorageProtectionGroup_names {handle : Str}
    (hhandle : parseNormalizedVolumeID handle = .ok v)
    (hcluster : svc.getIsilonConfig v.clusterName = .ok (cluster, cfg))
    (hexport : (d.arrays cluster).exportById v.exportID v.accessZone = some e)
    (hpath : e.paths = exportPath :: more) :
    wp (driver i) F (createStorageProtectionGroup contextPre svc ⟨handle, params⟩)
      (fun r _ => ∀ g, r = .ok g → NamesGroup contextPre svc params exportPath cluster cfg g) d := by
  have hfail (err : Err) : ∀ g, (.error err : Except Err StorageProtectionGroup) = .ok g →
      NamesGroup contextPre svc params exportPath cluster cfg g := by
    intro g h
    cases h
  have hprobe (name : Str) (c : ClusterConfig) {t : Driver} (ht : t = d) :
      wp (driver i) F (onCluster name (svc.autoProbe c)) (fun _ u => u = d) t := by
    have huses : uses DriverCall.IsRead (onCluster name (svc.autoProbe c)) :=
      onCluster_uses (autoProbe_uses trivial c)
    refine wp_of_uses (I := fun u => u = d) huses (fun c u hc hu => ?_) ht
    exact (DriverCall.IsRead.serve hc i u).trans hu
  refine wp_seq (remoteSites_wp hprobe rfl) (fun err _ _ => hfail err) fun x t ht => ?_
  obtain ⟨rfl, hx⟩ := ht
  obtain ⟨v', site, remote⟩ := x
  obtain ⟨hv, hc, system, hsystem, hremote⟩ := hx _ rfl
  cases hhandle.symm.trans hv
  cases hcluster.symm.trans hc
  dsimp only
  rw [wp_bind, wp_onCluster]
  apply wp_mono (readGroupPath_names hexport hpath)
  intro r u hr
  cases r with
  | error err => exact hfail _
  | ok y =>
    intro g hg
    cases hg
    exact ⟨system, remote, y, hr y rfl, hsystem, hremote, rfl⟩

end Derived

def replicatedPath (svc : Service) (req : CreateVolumeRequest) : Str :=
  join [req.isiPath svc, req.volumeGroup svc, req.name]

/-- The policies that `CreateVolume`, `CreateRemoteVolume` and `ExecuteAction` work with, of the
group, of the export path and of the group's attribute, are the same if and only if the export path
has the group's directory above the volume, and above that the `IsiPath` of the storage class, or
else of the cluster. -/
theorem policyNames_agree_iff (contextPre handle cluster : Str) (svc : Service)
    (req : CreateVolumeRequest) (cfg : ClusterConfig) (v : VolumeID) (e : Export) (more : List Str)
    (i : Nat) (d : Driver) (s : OneFS) (F : Faults DriverCall Err Driver) (G : Faults Call Err OneFS)
    (hhandle : parseNormalizedVolumeID handle = .ok v)
    (hcluster : svc.getIsilonConfig v.clusterName = .ok (cluster, cfg))
    (hexport : (d.arrays cluster).exportById v.exportID v.accessZone = some e)
    (hpath : e.paths = replicatedPath svc req :: more) :
    sends array G (fun _ c => ∀ name, c.policyOf = some name →
        name = groupPolicy (req.volumeGroup svc))
      (prepareReplication svc req.parameters (req.isiPath svc)) s ∧
    sends array G (fun _ c => ∀ name, c.policyOf = some name →
        remotePolicy cfg req.parameters (replicatedPath svc req) = some name)
      (readRemoteSource cfg v req.parameters) (d.arrays cluster) ∧
    wp (driver i) F (createStorageProtectionGroup contextPre svc ⟨handle, req.parameters⟩)
      (fun r _ => ∀ g, r = .ok g → ∃ vgName,
        attributePolicy (replicatedPath svc req) = some (groupPolicy vgName) ∧
        g.localProtectionGroupAttributes.get? (contextPre ++ "VolumeGroupName") = some vgName ∧
        g.remoteProtectionGroupAttributes.get? (contextPre ++ "VolumeGroupName") = some vgName) d ∧
    ((remotePolicy cfg req.parameters (replicatedPath svc req) =
          some (groupPolicy (req.volumeGroup svc)) ∧
        attributePolicy (replicatedPath svc req) = some (groupPolicy (req.volumeGroup svc))) ↔
      Agrees (replicatedPath svc req) ((req.parameters.get? "IsiPath").getD cfg.isiPath)
        (req.volumeGroup svc)) := by
  refine ⟨prepareReplication_policy, readRemoteSource_policy hexport hpath, ?_, names_agree_iff ..⟩
  refine wp_mono (createStorageProtectionGroup_names hhandle hcluster hexport hpath) ?_
  intro r _ h g hg
  obtain ⟨_, _, x, hx, _, _, rfl⟩ := h g hg
  exact ⟨x.2, hx.policy, groupAttributes_group .., groupAttributes_group ..⟩

def replicatedDriver (req : CreateVolumeRequest) : Driver where
  arrays := fun _ => OneFS.fresh.addExport (replicatedPath oneCluster req) "System" [] []
  kube := ⟨[], [], []⟩
  clients := fun _ _ => none
  locks := fun _ => ⟨none, []⟩

theorem policyNames_agree_dev : remotePolicy cluster1 (replicated "csi" "dev").parameters
    (replicatedPath oneCluster (replicated "csi" "dev")) =
      some ("csi-dev-10-0-0-1-One_Hour" : Str) := by
  have hgroup : groupPolicy ((replicated "csi" "dev").volumeGroup oneCluster) =
      "csi-dev-10-0-0-1-One_Hour" := by decide +kernel
  have hiff := policyNames_agree_iff [] "vol1=_=_=1=_=_=System=_=_=c1" "c1" oneCluster
    (replicated "csi" "dev") cluster1 ⟨"vol1", 1, "System", "c1"⟩ _ [] 0
    (replicatedDriver (replicated "csi" "dev")) OneFS.fresh .any .any (by decide +kernel) rfl rfl rfl
  rw [← hgroup]
  apply (hiff.2.2.2.2 _).1
  refine ⟨"/ifs/data/", "csi-dev-10.0.0.1-One_Hour", ?_, ?_, ?_, ?_, ?_⟩ <;> decide +kernel

/-- An empty path in the storage class stands for that of the cluster in `CreateVolume`, and for
nothing in `CreateRemoteVolume`. -/
theorem policyNames_differ_empty : let req := { replicated "csi" "dev" with
      parameters := ("IsiPath", []) :: (replicated "csi" "dev").parameters }
    groupPolicy (req.volumeGroup oneCluster) = "csi-dev-10-0-0-1-One_Hour" ∧
      remotePolicy cluster1 req.parameters (replicatedPath oneCluster req) =
        some ("ifsdatacsi-dev-10-0-0-1-One_Hour" : Str) := by
  decide +kernel

end CsiPowerscale
